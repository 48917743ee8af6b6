import Gamebook.Proofs.LoopBack
import Gamebook.Proofs.OpenOptions
import Gamebook.Proofs.Resuming

set_option autoImplicit false

namespace Gamebook

def Line.StandsIn (story : Story) (line : Line) : Prop :=
  Coordinate.ofId line.id = .ok none ∨
    ∃ (scene : String) (index : Nat), line.id = Coordinate.id ⟨scene, index⟩ ∧ story.Stands scene

def Story.WaitsAt (story : Story) (ask : Oracle) (place : Coordinate) : Prop :=
  ∃ (begins : Int) (positions : List Position) (index : Nat), place.index = index ∧
    story.scenes.get? place.scene = some begins ∧ layout? ask (story.body begins) = .ok positions ∧
    (positions[index]? = none ∧ place.scene ≠ endLabel ∨ ∃ offers, positions[index]? = some (.wait offers))

namespace Walk

variable {σ : Type} {story : Story} {keeper : Keeper σ}

theorem stands_of_line {walk : Walk σ} {line : Line} {shownAt : Coordinate} {prelude : List String} {state : σ}
    (shows : walk.move story keeper = .inr ⟨.ok (.line line shownAt prelude), state⟩) :
    line.id = walk.place.id ∧ story.Stands walk.scene := by
  obtain ⟨place, beat, plays⟩ := plays_of_line shows
  obtain ⟨body, arrives, -⟩ := plays.found
  constructor
  next => exact (plays.shown shows).2.1
  next =>
    obtain ⟨begins, known, -⟩ := arrives.known
    refine ⟨⟨begins, known⟩, ?_, arrives.settled⟩
    rw [Bool.eq_false_iff]
    intro finished
    have unseen : ¬walk.visited.contains (walk.scene, walk.index) = true := by simpa using arrives.fresh
    have ends : walk.move story keeper = _ := (if_neg unseen).trans (if_pos finished)
    cases ends.symm.trans shows

theorem waitsAt_of_move {walk : Walk σ} {stepped : Stepped σ} {shownAt : Coordinate} {prelude : List String}
    (stops : walk.move story keeper = .inr stepped) (waits : stepped.outcome = .ok (.wait shownAt prelude)) :
    story.WaitsAt (keeper.answer stepped.state) shownAt := by
  obtain ⟨rfl, begins, positions, waiting⟩ := waits_of_move stops waits
  rw [waiting.toStays.move, playScene] at stops
  split at stops
  next =>
    cases stops
    cases waits
  next positions laid =>
    obtain ⟨-, state, position⟩ := wait_of_playPosition stops waits
    refine ⟨begins, positions, walk.index, rfl, waiting.known, state ▸ laid, ?_⟩
    rwa [opened_index, opened_scene] at position

end Walk

theorem standsIn_of_step {σ : Type} {story : Story} {keeper : Keeper σ} {state : σ} {place shownAt : Coordinate}
    {line : Line} {prelude : List String}
    (told : (step story keeper state place).outcome = .ok (.line line shownAt prelude)) : line.StandsIn story := by
  obtain ⟨last, stops⟩ := Walk.exists_last story keeper (Walk.start state place)
  rw [← Walk.step_eq_run] at stops
  generalize step story keeper state place = stepped at told stops
  obtain ⟨outcome, after⟩ := stepped
  cases told
  obtain ⟨same, stands⟩ := Walk.stands_of_line stops
  exact .inr ⟨last.scene, last.index, same, stands⟩

theorem waitsAt_of_step {σ : Type} {story : Story} {keeper : Keeper σ} {state : σ} {place shownAt : Coordinate}
    {prelude : List String} (waits : (step story keeper state place).outcome = .ok (.wait shownAt prelude)) :
    story.WaitsAt (keeper.answer (step story keeper state place).state) shownAt := by
  obtain ⟨last, stops⟩ := Walk.exists_last story keeper (Walk.start state place)
  exact Walk.waitsAt_of_move stops waits

namespace Playthrough

/-- A playthrough that has been started, has gone on and has been given inputs. -/
inductive Driven : Playthrough → Prop where
  | start {config : Config} {counters : Counters} {lines : List String} {play : Playthrough}
      (begun : Playthrough.start config counters lines = .ok play) : Driven play
  | advance {play : Playthrough} (driven : Driven play) : Driven play.advance.2
  | submit {play : Playthrough} (driven : Driven play) (text : String) :
      Driven ((play.submit (none : Option (Matching.Matcher Unit)) text).run ()).1.2

theorem Driven.reached {play : Playthrough} (driven : Driven play) : Reached play := by
  induction driven with
  | start begun => exact .start begun
  | advance _ ih => exact .act ih (.advance _)
  | submit _ text ih => exact .act ih (.submit _ none () text)

structure Notes (play after : Playthrough) : Prop extends Tells play after where
  story : after.story = play.story
  lines : ∀ line ∈ after.history, line ∈ play.history ∨ Coordinate.ofId line.id = .ok none

theorem Notes.refl (play : Playthrough) : Notes play play := ⟨Tells.refl play, rfl, fun _ => .inl⟩

theorem Notes.trans {play middle after : Playthrough} (first : Notes play middle) (second : Notes middle after) :
    Notes play after := by
  refine ⟨first.toTells.trans second.toTells, second.story.trans first.story, fun line member => ?_⟩
  rcases second.lines line member with earlier | other
  next => exact first.lines line earlier
  next => exact .inr other

theorem notes_record {play : Playthrough} {line : Line} (other : Coordinate.ofId line.id = .ok none) :
    Notes play (play.record line) := by
  refine ⟨tells_record play line, rfl, fun old member => ?_⟩
  rcases List.mem_append.mp member with earlier | last
  next => exact .inl earlier
  next => exact .inr (List.mem_singleton.mp last ▸ other)

-- The identifier of a numbered line has no dash.
theorem ofId_numbered (sender : Sender) (count : Nat) :
    Coordinate.ofId (sender.name ++ ":" ++ toString count) = .ok none := by
  apply Coordinate.ofId_eq_none
  have digits : '-' ∉ (toString count).toList := by
    have number : (toString count).toList = Nat.toDigits 10 count := Nat.toList_repr
    rw [number]
    exact Text.not_mem_toDigits (by decide) count
  cases sender <;> simpa [Sender.name] using digits

theorem notes_say (play : Playthrough) (sender : Sender) (text : String) (kind : LineKind) :
    Notes play (play.say sender text kind) := by
  have noted := @notes_record play ⟨_, sender, text, kind⟩ (ofId_numbered sender play.numbered)
  exact ⟨tells_say play sender text kind, noted.story, noted.lines⟩

theorem notes_sayAll (play : Playthrough) (texts : List String) : Notes play (play.sayAll texts) := by
  induction texts generalizing play with
  | nil => exact Notes.refl play
  | cons text texts ih => exact (notes_say play .narrator text .text).trans (ih _)

theorem notes_display (play : Playthrough) (shown : List Shown) : Notes play (play.display shown) := by
  induction shown generalizing play with
  | nil => exact Notes.refl play
  | cons first shown ih =>
    cases first with
    | text text => exact (notes_say play .narrator text .text).trans (ih _)
    | image url => exact (notes_say play .narrator url .image).trans (ih _)

def Traced (play : Playthrough) : Prop := ∀ line ∈ play.history, line.StandsIn play.story

structure Sound (play : Playthrough) : Prop where
  traced : play.Traced
  waits : play.status = .waiting → play.story.WaitsAt play.counters.answer play.place

theorem Notes.traced {play after : Playthrough} (notes : Notes play after) (traced : play.Traced) : after.Traced := by
  intro line member
  rw [notes.story]
  rcases notes.lines line member with earlier | other
  next => exact traced line earlier
  next => exact .inl other

-- Nothing more is to be shown of a playthrough that does not wait.
theorem Traced.sound {play : Playthrough} (traced : play.Traced) (busy : play.status ≠ .waiting) : Sound play :=
  ⟨traced, fun waits => absurd waits busy⟩

theorem ofId_error (error : StepError) : Coordinate.ofId error.line.id = .ok none := by
  have loop : Coordinate.ofId "error-loop" = .ok none := by decide
  have scene : Coordinate.ofId "error-scene" = .ok none := by decide
  cases error with
  | loop => exact loop
  | noScene => exact scene

theorem Traced.recordLine {play : Playthrough} {line : Line} (traced : play.Traced)
    (stands : line.StandsIn play.story) :
    (play.recordLine line).2.Traced ∧ (play.recordLine line).2.status = play.status := by
  have both : ∀ other ∈ play.history ++ [line], other.StandsIn play.story := by
    intro other member
    rcases List.mem_append.mp member with earlier | last
    next => exact traced other earlier
    next => exact List.mem_singleton.mp last ▸ stands
  unfold Playthrough.recordLine
  dsimp only
  split <;> exact ⟨both, rfl⟩

theorem Traced.playSteps (count : Nat) {play : Playthrough} (traced : play.Traced) (busy : play.status ≠ .waiting) :
    Sound (playSteps count play).2 := by
  have stopped : Status.error ≠ .waiting := by decide
  have finished : Status.ended ≠ .waiting := by decide
  induction count generalizing play with
  | zero =>
    have told := (notes_say play .system "Stopped: too many lines without a choice" .text).traced traced
    exact Traced.sound told stopped
  | succ count ih =>
    rw [Playthrough.playSteps]
    cases came : (step play.story Counters.keeper play.counters play.place).outcome with
    | error => exact Traced.sound traced busy
    | ok outcome =>
      have notes := notes_sayAll
        { play with counters := (step play.story Counters.keeper play.counters play.place).state } outcome.prelude
      have told := notes.traced traced
      cases outcome with
      | line line shownAt prelude =>
        have stands := standsIn_of_step came
        rw [← notes.story] at stands
        obtain ⟨recorded, status⟩ := told.recordLine stands
        have busy := ne_of_eq_of_ne (status.trans notes.status) busy
        dsimp only
        split
        next after shown =>
          rw [shown] at recorded busy
          exact ih recorded busy
        next failed _ => exact recorded.sound busy
      | wait shownAt prelude =>
        refine ⟨told, fun _ => ?_⟩
        have waits := waitsAt_of_step came
        dsimp only
        rw [notes.story, notes.counters]
        exact waits
      | finished => exact Traced.sound told finished
      | failed error =>
        have noted := (notes_record (ofId_error error)).traced told
        exact Traced.sound noted stopped

theorem Traced.advance {play : Playthrough} (traced : play.Traced) : Sound play.advance.2 := by
  refine advance_elim (P := Sound) (fun finished => ?_) (Traced.sound traced nofun) fun count => ?_
  next => exact traced.sound fun waits => by simp [waits] at finished
  next => exact @Traced.playSteps count { play with status := .running } traced nofun

-- Without a matcher of meaning a choice is found by its words.
theorem means_of_resolve {σ : Type} {story : Story} {ask : Oracle} {thresholds : Matching.Thresholds}
    {place : Coordinate} {input : String} {state : σ} {found : Matching.Resolution}
    (matched : ((Matching.resolve story ask (none : Option (Matching.Matcher σ)) thresholds place input).run state).1 =
      .ok (some found)) (confidence : Float) : found.means ≠ .semantic confidence := by
  obtain ⟨offers, chosen, offer, -, picked, -, answered⟩ := Matching.offer_of_resolve matched
  have words : chosen.means ≠ .semantic confidence := by
    have named : Matching.byWords? input (offers.map Offer.choice) thresholds.score = some chosen := by
      unfold Matching.choose at picked
      split at picked
      next => cases picked
      next =>
        split at picked
        next found =>
          cases picked
          exact found
        next => cases picked
    unfold Matching.byWords? at named
    split at named
    next =>
      cases named
      exact nofun
    next =>
      obtain ⟨hit, -, rfl⟩ := Option.map_eq_some_iff.mp named
      exact nofun
  have same : found.means = chosen.means := by
    unfold Matching.resolution at answered
    cases response : Response.ofBlock ask offer.response with
    | error =>
      rw [response] at answered
      cases answered
    | ok shown =>
      rw [response] at answered
      cases answered
      rfl
  rw [same]
  exact words

theorem Sound.submit {play : Playthrough} (sound : Sound play) (text : String) :
    Sound ((play.submit (none : Option (Matching.Matcher Unit)) text).run ()).1.2 := by
  by_cases waits : play.status = .waiting
  next =>
    have asked : Traced (play.asked text) := (notes_say play .player (heard text) .text).traced sound.traced
    rw [run_submit waits]
    split
    next => exact asked.sound nofun
    next thresholds _ =>
      split
      next => exact asked.sound nofun
      next => exact ⟨asked, fun _ => sound.waits waits⟩
      next resolution after came =>
        have words := @means_of_resolve _ _ _ _ _ _ () resolution (by rw [came])
        let counted : Playthrough :=
          { play.asked text with counters := (play.asked text).counters.applyAll resolution.changes }
        have shown : Traced (counted.display resolution.shown) := (notes_display counted resolution.shown).traced asked
        have played := @Traced.advance
          { counted.display resolution.shown with place := resolution.place, status := .running } shown
        dsimp only
        rw [snd_apply_ok (reply_eq_of_words _ _ words)]
        exact played
  next =>
    unfold Playthrough.submit
    rw [if_pos waits]
    exact sound

theorem Driven.sound {play : Playthrough} (driven : Driven play) : Sound play := by
  induction driven with
  | start begun =>
    unfold Playthrough.start at begun
    split at begun
    next =>
      cases begun
      exact Traced.sound nofun nofun
    next => cases begun
  | advance _ ih => exact ih.traced.advance
  | submit _ text ih => exact ih.submit text

end Playthrough

end Gamebook
