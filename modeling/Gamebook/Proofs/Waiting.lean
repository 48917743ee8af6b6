import Gamebook.Proofs.Recovered

set_option autoImplicit false

namespace Gamebook

/-- A coordinate that can be come back to without running conditionals of the preamble. -/
def Story.Rests (story : Story) (place : Coordinate) : Prop :=
  0 < place.index ∨ ∀ entry ∈ Script.preamble story.script, Script.isConditional entry = false

namespace Walk

variable {σ : Type} {story : Story} {keeper : Keeper σ}

theorem opened_of_rests {walk : Walk σ} (rests : story.Rests walk.place) :
    walk.exit? story keeper = none ∧ (walk.opened story keeper).state = walk.state ∧
      (walk.opened story keeper).prelude = walk.prelude := by
  rcases rests with inner | plain
  next =>
    have later : walk.index ≠ 0 := by
      simp only [place] at inner
      omega
    have noted : walk.opened story keeper = walk.note := opened_eq_note fun first => absurd first later
    rw [noted]
    exact ⟨by simp [exit?, later], rfl, rfl⟩
  next =>
    refine ⟨?_, opened_plain plain⟩
    rw [exit?, Script.runPreamble_plain keeper walk.state plain]
    exact ite_self _

theorem playPosition_of_waits {walk : Walk σ} {positions : List Position}
    (position : positions[walk.index]? = none ∧ walk.scene ≠ endLabel ∨
      ∃ offers, positions[walk.index]? = some (.wait offers)) :
    walk.playPosition story keeper positions = walk.stop (.wait walk.place walk.prelude) := by
  unfold playPosition
  rcases position with ⟨past, other⟩ | ⟨offers, met⟩
  next =>
    rw [past]
    exact if_neg (by simpa using other)
  next => rw [met]

theorem again_of_move {walk : Walk σ} {stepped : Stepped σ} {shownAt : Coordinate} {prelude : List String}
    (stops : walk.move story keeper = .inr stepped) (waits : stepped.outcome = .ok (.wait shownAt prelude))
    (rests : story.Rests shownAt) :
    step story keeper stepped.state shownAt = ⟨.ok (.wait shownAt []), stepped.state⟩ := by
  obtain ⟨begins, positions, index, place, known, laid, position⟩ := waitsAt_of_move stops waits
  obtain ⟨rfl, _, _, waiting⟩ := waits_of_move stops waits
  cases known.symm.trans waiting.known
  obtain rfl : walk.index = index := Int.ofNat.inj place
  -- The step is taken from where the last walk of the one before has stopped.
  generalize begun : start stepped.state walk.place = again
  have same : again.scene = walk.scene ∧ again.index = walk.index ∧ again.state = stepped.state ∧
      again.visited = [] ∧ again.prelude = [] := by
    subst begun
    exact ⟨rfl, rfl, rfl, rfl, rfl⟩
  obtain ⟨scene, index, state, visited, told⟩ := same
  have here : again.place = walk.place := by rw [Walk.place, scene, index, Walk.place]
  obtain ⟨quiet, kept, silent⟩ := @opened_of_rests _ story keeper again (here ▸ rests)
  have stays : again.Stays story keeper begins := by
    refine ⟨⟨?_, scene ▸ waiting.lasts, scene ▸ waiting.known⟩, scene ▸ waiting.settled, .inl quiet⟩
    rw [visited]
    exact List.not_mem_nil
  have move := stays.move
  rw [playScene, kept, state, laid] at move
  dsimp only at move
  rw [playPosition_of_waits (by rw [opened_index, opened_scene, index, scene]; exact position), opened_place, here,
    silent, told] at move
  rw [step_eq_run, begun, run_of_inr move, kept, state]

end Walk

theorem step_again {σ : Type} {story : Story} {keeper : Keeper σ} {state left : σ} {place shownAt : Coordinate}
    {prelude : List String} (waits : step story keeper state place = ⟨.ok (.wait shownAt prelude), left⟩)
    (rests : story.Rests shownAt) : step story keeper left shownAt = ⟨.ok (.wait shownAt []), left⟩ := by
  obtain ⟨last, stops⟩ := Walk.exists_last story keeper (Walk.start state place)
  rw [← Walk.step_eq_run, waits] at stops
  exact Walk.again_of_move stops rfl rests

namespace Playthrough

def LeftWaiting (play : Playthrough) : Prop :=
  play.status = .waiting →
    ∃ counters place prelude, step play.story Counters.keeper counters place =
      ⟨.ok (.wait play.place prelude), play.counters⟩

theorem status_recordLine (play : Playthrough) (line : Line) : (play.recordLine line).2.status = play.status := by
  unfold recordLine
  split <;> rfl

theorem leftWaiting_of_busy {play : Playthrough} (busy : play.status ≠ .waiting) : LeftWaiting play :=
  fun waits => absurd waits busy

theorem leftWaiting_playSteps (count : Nat) {play : Playthrough} (busy : play.status ≠ .waiting) :
    LeftWaiting (playSteps count play).2 := by
  have stopped : Status.error ≠ .waiting := by decide
  have finished : Status.ended ≠ .waiting := by decide
  induction count generalizing play with
  | zero => exact leftWaiting_of_busy stopped
  | succ count ih =>
    rw [playSteps]
    cases came : (step play.story Counters.keeper play.counters play.place).outcome with
    | error => exact leftWaiting_of_busy busy
    | ok outcome =>
      have notes := notes_sayAll
        { play with counters := (step play.story Counters.keeper play.counters play.place).state } outcome.prelude
      cases outcome with
      | line line shownAt prelude =>
        have status := ne_of_eq_of_ne ((status_recordLine _ line).trans notes.status) busy
        dsimp only
        split
        next after shown =>
          rw [shown] at status
          exact ih status
        next => exact leftWaiting_of_busy status
      | wait shownAt prelude =>
        intro _
        refine ⟨play.counters, play.place, prelude, ?_⟩
        dsimp only
        rw [notes.story, notes.counters]
        exact congrArg (Stepped.mk · _) came
      | finished => exact leftWaiting_of_busy finished
      | failed => exact leftWaiting_of_busy stopped

theorem leftWaiting_advance (play : Playthrough) : LeftWaiting play.advance.2 := by
  refine advance_elim (P := LeftWaiting) (fun finished => ?_) (leftWaiting_of_busy nofun) fun count => ?_
  next => exact leftWaiting_of_busy fun waits => by simp [waits] at finished
  next => exact @leftWaiting_playSteps count { play with status := .running } nofun

theorem leftWaiting_apply {play : Playthrough} (busy : play.status ≠ .waiting) (input : String)
    (resolution : Matching.Resolution) : LeftWaiting (play.apply input resolution).2 := by
  have told := (tells_reply play input resolution).status
  rcases replied : play.reply input resolution with ⟨_ | _, after⟩ <;> rw [replied] at told
  next =>
    rw [snd_apply_error replied]
    exact leftWaiting_of_busy (ne_of_eq_of_ne told busy)
  next =>
    rw [snd_apply_ok replied]
    exact leftWaiting_advance _

theorem LeftWaiting.submit {σ : Type} {play : Playthrough} (left : LeftWaiting play)
    (matcher : Option (Matching.Matcher σ)) (state : σ) (text : String) :
    LeftWaiting ((play.submit matcher text).run state).1.2 := by
  by_cases waits : play.status = .waiting
  next =>
    rw [run_submit waits]
    split
    next => exact leftWaiting_of_busy nofun
    next =>
      split
      next => exact leftWaiting_of_busy nofun
      next => exact fun _ => left waits
      next resolution _ _ => exact @leftWaiting_apply (play.asked text) nofun (heard text) resolution
  next =>
    unfold Playthrough.submit
    rw [if_pos waits]
    exact left

theorem LeftWaiting.jumpTo {play : Playthrough} (left : LeftWaiting play) (index : Int) :
    LeftWaiting (play.jumpTo index).2 := by
  unfold Playthrough.jumpTo
  split
  next => exact left
  next =>
    dsimp only
    split
    next => exact left
    next => exact leftWaiting_advance _

theorem LeftWaiting.jumpBack {play : Playthrough} (left : LeftWaiting play) : LeftWaiting play.jumpBack.2 := by
  unfold Playthrough.jumpBack
  split
  next => exact left
  next => exact leftWaiting_advance _
  next index _ => exact left.jumpTo index

/-- A playthrough whose script has not been replaced by its author; it may have learnt words of the player. -/
inductive Undisturbed : Playthrough → Prop where
  | start {config : Config} {counters : Counters} {lines : List String} {play : Playthrough}
      (begun : Playthrough.start config counters lines = .ok play) : Undisturbed play
  | advance {play : Playthrough} (undisturbed : Undisturbed play) : Undisturbed play.advance.2
  | submit {σ : Type} {play : Playthrough} (undisturbed : Undisturbed play) (matcher : Option (Matching.Matcher σ))
      (state : σ) (text : String) : Undisturbed ((play.submit matcher text).run state).1.2
  | restart {play : Playthrough} (undisturbed : Undisturbed play) : Undisturbed play.restart.2
  | jumpTo {play : Playthrough} (undisturbed : Undisturbed play) (index : Int) : Undisturbed (play.jumpTo index).2
  | jumpBack {play : Playthrough} (undisturbed : Undisturbed play) : Undisturbed play.jumpBack.2

theorem Undisturbed.reached {play : Playthrough} (undisturbed : Undisturbed play) : Reached play := by
  induction undisturbed with
  | start begun => exact .start begun
  | advance _ ih => exact .act ih (.advance _)
  | submit _ matcher state text ih => exact .act ih (.submit _ matcher state text)
  | restart _ ih => exact .act ih (.restart _)
  | jumpTo _ index ih => exact .act ih (.jumpTo _ index)
  | jumpBack _ ih => exact .act ih (.jumpBack _)

theorem Undisturbed.leftWaiting {play : Playthrough} (undisturbed : Undisturbed play) : LeftWaiting play := by
  induction undisturbed with
  | start begun =>
    unfold Playthrough.start at begun
    split at begun
    next =>
      cases begun
      exact leftWaiting_of_busy nofun
    next => cases begun
  | advance _ _ => exact leftWaiting_advance _
  | submit _ matcher state text ih => exact ih.submit matcher state text
  | restart _ _ => exact leftWaiting_advance _
  | jumpTo _ index ih => exact ih.jumpTo index
  | jumpBack _ ih => exact ih.jumpBack

theorem advance_of_leftWaiting {play : Playthrough} (reached : Reached play) (waits : play.status = .waiting)
    (left : LeftWaiting play) (rests : play.story.Rests play.place) : play.advance = (.ok [], play) := by
  obtain ⟨counters, place, prelude, waited⟩ := left waits
  have again := step_again waited rests
  have stays := advance_of_wait (canStep_of_reached reached waits) again
  obtain ⟨config, lines, story, counters, history, place, status, numbered⟩ := play
  cases waits
  exact stays

end Playthrough

/-- Waiting is stable. A step from where another waits waits there at once, tells nothing and leaves the counters as
they are, and a playthrough that waits where a step has left it goes on to itself. Any playthrough whose script has not
been replaced waits so. -/
theorem wait_is_stable (story : Story) :
    (∀ {σ : Type} (keeper : Keeper σ) (state left : σ) (place shownAt : Coordinate) (prelude : List String),
      step story keeper state place = ⟨.ok (.wait shownAt prelude), left⟩ → story.Rests shownAt →
        step story keeper left shownAt = ⟨.ok (.wait shownAt []), left⟩) ∧
    (∀ (play : Playthrough) (counters : Counters) (place : Coordinate) (prelude : List String),
      play.Reached → play.story = story → play.status = .waiting → story.Rests play.place →
        step story Counters.keeper counters place = ⟨.ok (.wait play.place prelude), play.counters⟩ →
          play.advance = (.ok [], play)) ∧
    ∀ play : Playthrough, play.Undisturbed → play.story = story → play.status = .waiting → story.Rests play.place →
      play.advance = (.ok [], play) := by
  refine ⟨?_, ?_, ?_⟩
  next =>
    intro σ keeper state left place shownAt prelude waits rests
    exact step_again waits rests
  next =>
    rintro play counters place prelude reached rfl waits rests waited
    exact Playthrough.advance_of_leftWaiting reached waits (fun _ => ⟨counters, place, prelude, waited⟩) rests
  next =>
    rintro play undisturbed rfl waits rests
    exact Playthrough.advance_of_leftWaiting undisturbed.reached waits undisturbed.leftWaiting rests

-- On its way to the wait the first step runs the preamble and counts, the second one does neither.
theorem wait_is_stable_in_hall :
    let lines := ["when !key", "  You find a key.", "  +key", "@HALL", "+seen", "if rest"]
    let begun : Playthrough :=
      { config := {}, lines
        story := .ofScript [.when "!key" [.narrative "You find a key.", .metadata "sets" "key"], .scene "HALL" none,
          .metadata "sets" "seen", .option ⟨"rest", none, none⟩ []] }
    let left : Counters := ⟨[("key", 1), ("seen", 1)]⟩
    let play := begun.advance.2
    Playthrough.start {} {} lines = .ok begun ∧
      step begun.story Counters.keeper {} ⟨"START", 0⟩ = ⟨.ok (.wait ⟨"HALL", 1⟩ ["You find a key."]), left⟩ ∧
      step begun.story Counters.keeper left ⟨"HALL", 1⟩ = ⟨.ok (.wait ⟨"HALL", 1⟩ []), left⟩ ∧
      play.place = ⟨"HALL", 1⟩ ∧ play.advance = (.ok [], play) := by
  intro lines begun left play
  have started : Playthrough.start {} {} lines = .ok begun := rfl
  have outcome : (step begun.story Counters.keeper {} ⟨"START", 0⟩).outcome =
      .ok (.wait ⟨"HALL", 1⟩ ["You find a key."]) := by decide +kernel
  have counted : (step begun.story Counters.keeper {} ⟨"START", 0⟩).state = left := by decide +kernel
  have stopped : step begun.story Counters.keeper {} ⟨"START", 0⟩ =
      ⟨.ok (.wait ⟨"HALL", 1⟩ ["You find a key."]), left⟩ := congr (congrArg Stepped.mk outcome) counted
  have waits : play.status = .waiting := by decide +kernel
  have here : play.place = ⟨"HALL", 1⟩ := by decide +kernel
  have again := (wait_is_stable begun.story).1 _ _ _ _ _ _ stopped (.inl (by decide))
  have stays := (wait_is_stable play.story).2.2 play (.advance (.start started)) rfl waits (.inl (by rw [here]; decide))
  exact ⟨started, stopped, again, here, stays⟩

end Gamebook
