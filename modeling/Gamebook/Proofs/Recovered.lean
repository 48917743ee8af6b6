import Gamebook.Proofs.ToldLines

set_option autoImplicit false

namespace Gamebook

def Position.isSkip : Position → Bool
  | .skip => true
  | _ => false

def Position.acts : Position → Bool
  | .beat (.change _) => true
  | .beat (.jump _) => true
  | _ => false

def firstSite (positions : List Position) (index : Nat) : Nat :=
  index + (positions.drop index).findIdx fun position => !position.isSkip

theorem getElem?_of_lt_firstSite {positions : List Position} {index between : Nat} (after : index ≤ between)
    (before : between < firstSite positions index) : positions[between]? = some .skip := by
  obtain ⟨offset, rfl⟩ := Nat.exists_eq_add_of_le after
  have earlier : offset < (positions.drop index).findIdx fun position => !position.isSkip := by
    unfold firstSite at before
    omega
  have inside := Nat.lt_of_lt_of_le earlier List.findIdx_le_length
  have gap := List.not_of_lt_findIdx earlier
  rw [← List.getElem?_drop, List.getElem?_eq_getElem inside]
  cases position : (positions.drop index)[offset] with
  | skip => rfl
  | wait | beat => simp [position, Position.isSkip] at gap

theorem isSkip_firstSite {positions : List Position} {index : Nat} {position : Position}
    (met : positions[firstSite positions index]? = some position) : position.isSkip = false := by
  rw [firstSite, ← List.getElem?_drop] at met
  obtain ⟨inside, rfl⟩ := List.getElem?_eq_some_iff.mp met
  have site := List.findIdx_getElem (w := inside)
  simpa using site

namespace Walk

variable {σ : Type} {story : Story} {keeper : Keeper σ}

theorem Inside.move_of_inner {label : String} {walk : Walk σ} {begins : Int} (inside : walk.Inside story label)
    (inner : 0 < walk.index) (known : story.scenes.get? label = some begins) :
    walk.move story keeper = walk.note.playScene story keeper begins := by
  obtain ⟨_, comes, settled⟩ := inside.comes
  cases (inside.scene ▸ known).symm.trans comes.known
  have later : ¬(walk.index == 0 && walk.pending) = true := by
    rw [Bool.and_eq_true, beq_iff_eq]
    omega
  have stays : walk.Stays story keeper begins := ⟨comes, settled, .inl (if_neg later)⟩
  rw [stays.move, opened_eq_note fun first => by omega]

theorem Inside.gap {label : String} {walk : Walk σ} {begins : Int} {positions : List Position}
    (inside : walk.Inside story label) (inner : 0 < walk.index) (known : story.scenes.get? label = some begins)
    (laid : layout? (keeper.answer walk.state) (story.body begins) = .ok positions)
    (skips : positions[walk.index]? = some .skip) :
    walk.move story keeper = .inl { walk.note with index := walk.index + 1 } ∧
      ({ walk.note with index := walk.index + 1 } : Walk σ).Inside story label := by
  constructor
  next =>
    rw [inside.move_of_inner inner known]
    simp only [playScene, note, laid, playPosition, skips]
  next =>
    refine ⟨inside.stands, inside.scene, fun index seen => ?_⟩
    rcases List.mem_cons.mp seen with here | before
    next =>
      cases here
      exact Nat.lt_succ_self _
    next => exact Nat.lt_succ_of_lt (inside.ahead index before)

theorem Inside.run_of_gaps {label : String} {walk : Walk σ} {begins : Int} {positions : List Position} {count : Nat}
    (inside : walk.Inside story label) (inner : 0 < walk.index) (known : story.scenes.get? label = some begins)
    (laid : layout? (keeper.answer walk.state) (story.body begins) = .ok positions)
    (gaps : ∀ between, walk.index ≤ between → between < walk.index + count → positions[between]? = some .skip) :
    ∃ last : Walk σ, walk.run story keeper = last.run story keeper ∧ last.Inside story label ∧
      last.index = walk.index + count ∧ last.state = walk.state ∧ last.prelude = walk.prelude := by
  induction count generalizing walk with
  | zero => exact ⟨walk, rfl, inside, rfl, rfl, rfl⟩
  | succ count ih =>
    obtain ⟨moves, onward⟩ := inside.gap inner known laid (gaps walk.index (by omega) (by omega))
    have further : ∀ between, walk.index + 1 ≤ between → between < walk.index + 1 + count →
        positions[between]? = some .skip := fun between after before => gaps between (by omega) (by omega)
    obtain ⟨last, runs, there, index, state, prelude⟩ := ih onward (Nat.succ_pos _) laid further
    have reached : last.index = walk.index + 1 + count := index
    exact ⟨last, (run_of_inl moves).trans runs, there, by omega, state, prelude⟩

end Walk

structure Story.Within (story : Story) (ask : Oracle) (place : Coordinate) (positions : List Position) : Prop where
  stands : story.Stands place.scene
  inner : 0 < place.index
  laid : ∃ begins, story.scenes.get? place.scene = some begins ∧ layout? ask (story.body begins) = .ok positions

namespace Story.Within

variable {σ : Type} {story : Story} {keeper : Keeper σ} {state : σ} {place shownAt : Coordinate}
  {positions : List Position}

theorem step_to_firstSite (within : story.Within (keeper.answer state) place positions) :
    ∃ last : Walk σ, step story keeper state place = last.run story keeper ∧ last.scene = place.scene ∧
      last.index = firstSite positions place.index.toNat ∧ last.state = state ∧ last.prelude = [] ∧
      last.move story keeper = last.note.playPosition story keeper positions := by
  obtain ⟨begins, known, laid⟩ := within.laid
  have inside : (Walk.start state place).Inside story place.scene := ⟨within.stands, rfl, nofun⟩
  have later : 0 < (Walk.start state place).index := Int.lt_toNat.mpr within.inner
  obtain ⟨last, runs, there, index, same, prelude⟩ := inside.run_of_gaps later known laid
    fun between after before => getElem?_of_lt_firstSite after before
  have unchanged : layout? (keeper.answer last.state) (story.body begins) = .ok positions := same ▸ laid
  refine ⟨last, (Walk.step_eq_run _ _ _ _).trans runs, there.scene, index, same, prelude, ?_⟩
  rw [there.move_of_inner (by omega) known]
  simp only [Walk.playScene, Walk.note, unchanged]

theorem place_of_step_waits {prelude : List String} (within : story.Within (keeper.answer state) place positions)
    (quiet : ∀ position, positions[firstSite positions place.index.toNat]? = some position → position.acts = false)
    (waits : (step story keeper state place).outcome = .ok (.wait shownAt prelude)) :
    shownAt = ⟨place.scene, firstSite positions place.index.toNat⟩ := by
  obtain ⟨last, runs, scene, index, -, -, moves⟩ := within.step_to_firstSite
  -- What is met is no gap and does not act, so it is told or waited at, and the step ends with it.
  have stops : ∃ stepped, last.move story keeper = .inr stepped := by
    have here : last.note.index = firstSite positions place.index.toNat := index
    rw [moves, Walk.playPosition, here]
    cases met : positions[firstSite positions place.index.toNat]? with
    | none =>
      dsimp only
      split <;> exact ⟨_, rfl⟩
    | some position =>
      have gap := isSkip_firstSite met
      have calm := quiet position met
      cases position with
      | skip => cases gap
      | wait => exact ⟨_, rfl⟩
      | beat beat =>
        cases beat with
        | narrative | image => exact ⟨_, rfl⟩
        | change | jump => cases calm
  obtain ⟨stepped, stops⟩ := stops
  rw [runs, Walk.run_of_inr stops] at waits
  rw [(Walk.wait_of_move stops waits).1, Walk.place, scene, index]

theorem step_of_waitsAt (within : story.Within (keeper.answer state) place positions)
    (waits : story.WaitsAt (keeper.answer state) ⟨place.scene, firstSite positions place.index.toNat⟩) :
    step story keeper state place = ⟨.ok (.wait ⟨place.scene, firstSite positions place.index.toNat⟩ []), state⟩ := by
  obtain ⟨last, runs, scene, index, same, silent, moves⟩ := within.step_to_firstSite
  obtain ⟨begins, known, laid⟩ := within.laid
  obtain ⟨_, _, site, named, known_again, laid_again, position⟩ := waits
  cases known.symm.trans known_again
  cases laid.symm.trans laid_again
  cases Int.ofNat.inj named
  have stops : last.note.playPosition story keeper positions = last.stop (.wait last.place last.prelude) := by
    have here : last.note.index = firstSite positions place.index.toNat := index
    rw [Walk.playPosition, here]
    rcases position with ⟨past, lasts⟩ | ⟨offers, met⟩
    next =>
      have goes : ¬(last.note.scene == endLabel) = true := by
        rw [beq_iff_eq]
        exact ne_of_eq_of_ne scene lasts
      rw [past]
      exact if_neg goes
    next =>
      rw [met]
      rfl
  rw [runs, Walk.run_of_inr (moves.trans stops), same, silent, Walk.place, scene, index]

end Story.Within

namespace Playthrough

theorem stands_of_placeAfter {story : Story} {lines : List Line} {place : Coordinate}
    (traced : ∀ line ∈ lines, line.StandsIn story) (found : placeAfter lines = .ok place) (inner : 0 < place.index) :
    story.Stands place.scene := by
  induction lines with
  | nil =>
    cases found
    cases inner
  | cons line lines ih =>
    rw [placeAfter] at found
    have further : Coordinate.ofId line.id = .ok none → story.Stands place.scene := by
      intro unplaced
      rw [unplaced] at found
      exact ih (fun other member => traced other (List.mem_cons_of_mem _ member)) found
    rcases traced line List.mem_cons_self with unplaced | ⟨scene, index, named, stands⟩
    next => exact further unplaced
    next =>
      have read := Coordinate.ofId_id scene index
      rw [← named] at read
      split at read
      next =>
        split at read
        next =>
          rw [read] at found
          cases found
          exact stands
        next =>
          rw [read] at found
          cases found
      next => exact further read

theorem jumpTo_last {play : Playthrough} (told : play.history ≠ []) :
    play.jumpTo (play.history.length - 1) =
      match placeAfter play.history.reverse with
      | .error fault => (.error fault, play)
      | .ok place => { play with place, status := .running }.advance := by
  have some_told := List.length_pos_of_ne_nil told
  have inside : ¬((play.history.length : Int) - 1 < 0 ∨ (play.history.length : Int) ≤ play.history.length - 1) := by
    omega
  have whole : ((play.history.length : Int) - 1).toNat + 1 = play.history.length := by omega
  have kept : { play with history := play.history.take (((play.history.length : Int) - 1).toNat + 1) } = play := by
    rw [whole, List.take_length]
  have jumps : play.jumpTo (play.history.length - 1) = _ := if_neg inside
  rw [kept] at jumps
  exact jumps

theorem length_sayAll (play : Playthrough) (texts : List String) :
    (play.sayAll texts).history.length = play.history.length + texts.length := by
  induction texts generalizing play with
  | nil => rfl
  | cons text texts ih =>
    have said : (play.say .narrator text .text).history.length = play.history.length + 1 := List.length_append
    have rest := ih (play.say .narrator text .text)
    rw [List.length_cons, sayAll, List.foldl_cons]
    rw [sayAll] at rest
    omega

theorem step_waits_of_playSteps {play after : Playthrough} {count : Nat}
    (played : playSteps (count + 1) play = (.ok (), after)) (status : after.status = .waiting)
    (history : after.history = play.history) :
    (step play.story Counters.keeper play.counters play.place).outcome = .ok (.wait after.place []) := by
  cases came : (step play.story Counters.keeper play.counters play.place).outcome with
  | error =>
    rw [playSteps, came] at played
    cases played
  | ok outcome =>
    cases outcome with
    | line line shownAt prelude =>
      have longer := length_lt_of_line count came
      rw [played, history] at longer
      exact absurd longer (Nat.lt_irrefl _)
    | wait shownAt prelude =>
      rw [playSteps, came] at played
      cases played
      have same := congrArg List.length history
      have said := length_sayAll
        { play with counters := (step play.story Counters.keeper play.counters play.place).state } prelude
      have silent : prelude.length = 0 := by
        dsimp only [Outcome.prelude] at same said
        omega
      rw [List.length_eq_zero_iff.mp silent]
    | finished | failed =>
      rw [playSteps, came] at played
      cases played
      cases status

theorem advance_of_wait {play : Playthrough} {place shownAt : Coordinate} {counters : Counters}
    (can : CanStep play.config)
    (stops : step play.story Counters.keeper play.counters place = ⟨.ok (.wait shownAt []), counters⟩) :
    { play with place, status := .running }.advance =
      (.ok [], { play with counters, place := shownAt, status := .waiting }) := by
  obtain ⟨count, limit, positive⟩ := can
  obtain ⟨steps, counted⟩ : ∃ steps, count.toNat = steps + 1 := ⟨count.toNat - 1, by omega⟩
  have goes := advance_running { play with place }
  rw [limit] at goes
  dsimp only at goes
  rw [goes, counted, playSteps, stops]
  simp [sayAll, Outcome.prelude]

/-- Going back to the last line tells nothing, and leads back to the same wait. -/
def Recovers (play : Playthrough) : Prop :=
  ∃ after, play.jumpTo (play.history.length - 1) = (.ok [], after) ∧ play.StaysAt after

theorem recovers_iff {play : Playthrough} (can : CanStep play.config) (told : play.history ≠ []) :
    play.Recovers ↔ ∃ place, placeAfter play.history.reverse = .ok place ∧
      (step play.story Counters.keeper play.counters place).outcome = .ok (.wait play.place []) := by
  rw [Recovers, jumpTo_last told]
  cases placeAfter play.history.reverse with
  | error => simp
  | ok place =>
    constructor
    next =>
      rintro ⟨after, gone, status, here, history⟩
      obtain ⟨count, limit, positive⟩ := can
      obtain ⟨steps, counted⟩ : ∃ steps, count.toNat = steps + 1 := ⟨count.toNat - 1, by omega⟩
      have goes := advance_running { play with place }
      rw [limit] at goes
      dsimp only at goes gone
      rw [goes, counted] at gone
      split at gone
      next played =>
        obtain ⟨-, rfl⟩ := Prod.mk.inj gone
        have waits := step_waits_of_playSteps played status history
        rw [here] at waits
        exact ⟨place, rfl, waits⟩
      next => cases gone
    next =>
      rintro ⟨other, same, waits⟩
      cases same
      have stops : step play.story Counters.keeper play.counters place = ⟨.ok (.wait play.place []), _⟩ :=
        congrArg (Stepped.mk · _) waits
      exact ⟨_, advance_of_wait can stops, rfl, rfl, rfl⟩

/-- The wait that a history leads back to is the first one after its last coordinate, if nothing acts before it. -/
theorem place_recovered_iff (play : Playthrough) (driven : Driven play) (waits : play.status = .waiting)
    (told : play.history ≠ []) :
    play.history <+: (play.jumpTo (play.history.length - 1)).2.history ∧
    (play.Recovers ↔ ∃ place, placeAfter play.history.reverse = .ok place ∧
      (step play.story Counters.keeper play.counters place).outcome = .ok (.wait play.place [])) ∧
    ∀ place begins positions, placeAfter play.history.reverse = .ok place → 0 < place.index →
      play.story.scenes.get? place.scene = some begins →
      layout? play.counters.answer (play.story.body begins) = .ok positions →
      (play.place = ⟨place.scene, firstSite positions place.index.toNat⟩ →
        play.jumpTo (play.history.length - 1) = (.ok [], play)) ∧
      ((∀ position, positions[firstSite positions place.index.toNat]? = some position → position.acts = false) →
        play.Recovers → play.place = ⟨place.scene, firstSite positions place.index.toNat⟩) := by
  have can := canStep_of_reached driven.reached waits
  refine ⟨?_, recovers_iff can told, ?_⟩
  next =>
    rw [jumpTo_last told]
    split
    next => exact List.prefix_refl _
    next place _ => exact (grows_advance { play with place, status := .running }).history
  next =>
    intro place begins positions found inner known laid
    have traced : ∀ line ∈ play.history.reverse, line.StandsIn play.story := fun line member =>
      driven.sound.traced line (List.mem_reverse.mp member)
    have within : play.story.Within (Counters.keeper.answer play.counters) place positions :=
      ⟨stands_of_placeAfter traced found inner, inner, begins, known, laid⟩
    constructor
    next =>
      intro here
      have waiting := driven.sound.waits waits
      rw [here] at waiting
      rw [jumpTo_last told, found]
      dsimp only
      rw [advance_of_wait can (within.step_of_waitsAt waiting), ← here, ← waits]
    next =>
      intro quiet recovers
      obtain ⟨other, same, stops⟩ := (recovers_iff can told).mp recovers
      cases found.symm.trans same
      exact within.place_of_step_waits quiet stops

theorem place_recovered_in_hall :
    let lines := ["@HALL", "Hello.", "when lit", "  It is light.", "if rest"]
    let begun : Playthrough :=
      { config := {}, lines
        story := .ofScript [.scene "HALL" none, .narrative "Hello.", .when "lit" [.narrative "It is light."],
          .option ⟨"rest", none, none⟩ []] }
    let play := ((begun.advance.2.submit (none : Option (Matching.Matcher Unit)) "rest").run ()).1.2
    Playthrough.start {} {} lines = .ok begun ∧ play.place = ⟨"HALL", 2⟩ ∧
      play.jumpTo (play.history.length - 1) = (.ok [], play) := by
  intro lines begun play
  have started : Playthrough.start {} {} lines = .ok begun := rfl
  have driven : Driven play := .submit (.advance (.start started)) "rest"
  have waits : play.status = .waiting := by decide +kernel
  have here : play.place = ⟨"HALL", 2⟩ := by decide +kernel
  have told : play.history ≠ [] := by decide +kernel
  have found : placeAfter play.history.reverse = .ok ⟨"HALL", 1⟩ := by decide +kernel
  have known : play.story.scenes.get? "HALL" = some 0 := by decide +kernel
  have laid : layout? play.counters.answer (play.story.body 0) =
      .ok (layout play.counters.answer (play.story.body 0)) := if_pos (by decide +kernel)
  have recovered := (place_recovered_iff play driven waits told).2.2 _ _ _ found (by decide) known laid
  exact ⟨started, here, recovered.1 (by rw [here]; decide +kernel)⟩

theorem place_lost_after_jump :
    let lines := ["@A", "Hello.", "if go", "  goto @B", "@B", "if stay"]
    let begun : Playthrough :=
      { config := {}, lines
        story := .ofScript [.scene "A" none, .narrative "Hello.", .option ⟨"go", none, none⟩ [.goto "B"],
          .scene "B" none, .option ⟨"stay", none, none⟩ []] }
    let play := ((begun.advance.2.submit (none : Option (Matching.Matcher Unit)) "go").run ()).1.2
    Playthrough.start {} {} lines = .ok begun ∧ play.status = .waiting ∧ play.place = ⟨"B", 0⟩ ∧
      (play.jumpTo (play.history.length - 1)).2.status = .waiting ∧
      (play.jumpTo (play.history.length - 1)).2.place = ⟨"A", 1⟩ := by
  intro lines begun play
  have started : Playthrough.start {} {} lines = .ok begun := rfl
  have played : play.status = .waiting ∧ play.place = ⟨"B", 0⟩ ∧
      (play.jumpTo (play.history.length - 1)).2.status = .waiting ∧
      (play.jumpTo (play.history.length - 1)).2.place = ⟨"A", 1⟩ := by decide +kernel
  exact ⟨started, played⟩

end Playthrough

end Gamebook
