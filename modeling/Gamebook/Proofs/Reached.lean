import Gamebook.Playthrough

set_option autoImplicit false

namespace Gamebook.Playthrough

structure Grows (play after : Playthrough) : Prop where
  config : after.config = play.config
  history : play.history <+: after.history

structure Tells (play after : Playthrough) : Prop extends Grows play after where
  counters : after.counters = play.counters
  place : after.place = play.place
  status : after.status = play.status

theorem Grows.trans {play middle after : Playthrough} (first : Grows play middle) (second : Grows middle after) :
    Grows play after :=
  ⟨second.config.trans first.config, first.history.trans second.history⟩

theorem Tells.refl (play : Playthrough) : Tells play play := ⟨⟨rfl, List.prefix_refl _⟩, rfl, rfl, rfl⟩

theorem Tells.trans {play middle after : Playthrough} (first : Tells play middle) (second : Tells middle after) :
    Tells play after :=
  ⟨first.toGrows.trans second.toGrows, second.counters.trans first.counters, second.place.trans first.place,
    second.status.trans first.status⟩

theorem tells_record (play : Playthrough) (line : Line) : Tells play (play.record line) :=
  ⟨⟨rfl, List.prefix_append _ _⟩, rfl, rfl, rfl⟩

theorem tells_say (play : Playthrough) (sender : Sender) (text : String) (kind : LineKind) :
    Tells play (play.say sender text kind) :=
  ⟨⟨rfl, List.prefix_append _ _⟩, rfl, rfl, rfl⟩

theorem tells_sayAll (play : Playthrough) (texts : List String) : Tells play (play.sayAll texts) := by
  induction texts generalizing play with
  | nil => exact Tells.refl play
  | cons text texts ih => exact (tells_say play .narrator text .text).trans (ih _)

theorem tells_display (play : Playthrough) (shown : List Shown) : Tells play (play.display shown) := by
  induction shown generalizing play with
  | nil => exact Tells.refl play
  | cons first shown ih =>
    cases first with
    | text text => exact (tells_say play .narrator text .text).trans (ih _)
    | image url => exact (tells_say play .narrator url .image).trans (ih _)

theorem tells_updateScript (play : Playthrough) (lines : List String) : Tells play (play.updateScript lines).2 := by
  unfold updateScript
  split <;> exact ⟨⟨rfl, List.prefix_refl _⟩, rfl, rfl, rfl⟩

theorem tells_learn (play : Playthrough) (input : String) (resolution : Matching.Resolution) :
    Tells play (play.learn input resolution).2 := by
  unfold learn
  split
  next confidence words _ _ =>
    have read := tells_updateScript play (Alias.add resolution.optionText words play.lines)
    split
    next => exact Tells.refl play
    next =>
      split
      next failed =>
        rw [failed] at read
        exact read
      next learnt =>
        rw [learnt] at read
        exact read.trans (tells_say _ _ _ _)
  next => exact Tells.refl play

theorem grows_recordLine (play : Playthrough) (line : Line) : Grows play (play.recordLine line).2 := by
  have recorded := (tells_record play line).toGrows
  unfold recordLine
  split
  next => exact recorded
  next => exact recorded
  next => exact ⟨recorded.config, recorded.history⟩

theorem grows_playSteps (count : Nat) (play : Playthrough) : Grows play (playSteps count play).2 := by
  induction count generalizing play with
  | zero =>
    have said := tells_say play .system "Stopped: too many lines without a choice" .text
    exact ⟨said.config, said.history⟩
  | succ count ih =>
    rw [playSteps]
    generalize step play.story Counters.keeper play.counters play.place = stepped
    have counted : Grows play { play with counters := stepped.state } := ⟨rfl, List.prefix_refl _⟩
    cases stepped.outcome with
    | error => exact counted
    | ok outcome =>
      have told := counted.trans (tells_sayAll _ outcome.prelude).toGrows
      cases outcome with
      | line line place prelude =>
        have recorded := told.trans (grows_recordLine _ line)
        dsimp only at recorded ⊢
        split
        next after shown =>
          rw [shown] at recorded
          exact recorded.trans (ih after)
        next => exact recorded
      | wait | finished => exact ⟨told.config, told.history⟩
      | failed error =>
        have noted := told.trans (tells_record _ error.line).toGrows
        exact ⟨noted.config, noted.history⟩

theorem advance_elim {P : Playthrough → Prop} {play : Playthrough}
    (done : play.status = .ended ∨ play.status = .error → P play) (stuck : P { play with status := .running })
    (played : ∀ count, P (playSteps count { play with status := .running }).2) : P play.advance.2 := by
  unfold advance
  split
  next finished => exact done finished
  next =>
    dsimp only
    split
    next => exact stuck
    next count _ =>
      have steps := played count.toNat
      split
      next went =>
        rw [went] at steps
        exact steps
      next failed =>
        rw [failed] at steps
        exact steps

theorem grows_advance (play : Playthrough) : Grows play play.advance.2 := by
  refine advance_elim (P := Grows play) (fun _ => (Tells.refl play).toGrows) ⟨rfl, List.prefix_refl _⟩ fun count => ?_
  have played := grows_playSteps count { play with status := .running }
  exact ⟨played.config, played.history⟩

structure SameScript (play after : Playthrough) : Prop where
  lines : after.lines = play.lines
  story : after.story = play.story

theorem SameScript.trans {play middle after : Playthrough} (first : SameScript play middle)
    (second : SameScript middle after) : SameScript play after :=
  ⟨second.lines.trans first.lines, second.story.trans first.story⟩

theorem sameScript_sayAll (play : Playthrough) (texts : List String) : SameScript play (play.sayAll texts) := by
  induction texts generalizing play with
  | nil => exact ⟨rfl, rfl⟩
  | cons text texts ih => exact ⟨(ih _).lines, (ih _).story⟩

theorem sameScript_display (play : Playthrough) (shown : List Shown) : SameScript play (play.display shown) := by
  induction shown generalizing play with
  | nil => exact ⟨rfl, rfl⟩
  | cons first shown ih => cases first <;> exact ⟨(ih _).lines, (ih _).story⟩

theorem sameScript_recordLine (play : Playthrough) (line : Line) : SameScript play (play.recordLine line).2 := by
  unfold recordLine
  split <;> exact ⟨rfl, rfl⟩

theorem sameScript_playSteps (count : Nat) (play : Playthrough) : SameScript play (playSteps count play).2 := by
  induction count generalizing play with
  | zero => exact ⟨rfl, rfl⟩
  | succ count ih =>
    rw [playSteps]
    generalize step play.story Counters.keeper play.counters play.place = stepped
    have counted : SameScript play { play with counters := stepped.state } := ⟨rfl, rfl⟩
    cases stepped.outcome with
    | error => exact counted
    | ok outcome =>
      have told := counted.trans (sameScript_sayAll _ outcome.prelude)
      cases outcome with
      | line line place prelude =>
        have recorded := told.trans (sameScript_recordLine _ line)
        dsimp only at recorded ⊢
        split
        next after shown =>
          rw [shown] at recorded
          exact recorded.trans (ih after)
        next => exact recorded
      | wait | finished | failed => exact ⟨told.lines, told.story⟩

theorem sameScript_advance (play : Playthrough) : SameScript play play.advance.2 := by
  refine advance_elim (P := SameScript play) (fun _ => ⟨rfl, rfl⟩) ⟨rfl, rfl⟩ fun count => ?_
  have played := sameScript_playSteps count { play with status := .running }
  exact ⟨played.lines, played.story⟩

/-- The story of a playthrough is the one that its lines tell. -/
def Current (play : Playthrough) : Prop :=
  ∃ script, Script.read play.lines = .ok script ∧ play.story = .ofScript script

def CanStep (config : Config) : Prop := ∃ count, config.maxSteps.toInt = .ok count ∧ 0 < count

theorem canStep_of_advance {play : Playthrough} (waits : play.advance.2.status = .waiting) :
    CanStep play.config := by
  unfold advance at waits
  split at waits
  next finished =>
    dsimp only at waits
    simp [waits] at finished
  next =>
    dsimp only at waits
    split at waits
    next => cases waits
    next count limit =>
      refine ⟨count, limit, ?_⟩
      cases steps : count.toNat with
      | zero =>
        rw [steps, playSteps] at waits
        cases waits
      | succ => omega

def heard (text : String) : String :=
  if (Text.trim text).isEmpty then silence else Text.trim text

def asked (play : Playthrough) (text : String) : Playthrough :=
  { play.say .player (heard text) .text with status := .matching }

def reply (play : Playthrough) (input : String) (resolution : Matching.Resolution) : Played Unit :=
  ({ play with counters := play.counters.applyAll resolution.changes }.display resolution.shown).learn input
    resolution

theorem apply_eq (play : Playthrough) (input : String) (resolution : Matching.Resolution) :
    play.apply input resolution =
      match play.reply input resolution with
      | (.error fault, after) => (.error fault, after)
      | (.ok (), after) =>
        match { after with place := resolution.place, status := .running }.advance with
        | (.error fault, after) => (.error fault, after)
        | (.ok _, after) => (.ok (), after) := rfl

theorem snd_apply_error {play after : Playthrough} {input : String} {resolution : Matching.Resolution} {fault : Fault}
    (replied : play.reply input resolution = (.error fault, after)) : (play.apply input resolution).2 = after := by
  rw [apply_eq, replied]

theorem snd_apply_ok {play after : Playthrough} {input : String} {resolution : Matching.Resolution}
    (replied : play.reply input resolution = (.ok (), after)) :
    (play.apply input resolution).2 = { after with place := resolution.place, status := .running }.advance.2 := by
  rw [apply_eq, replied]
  dsimp only
  split <;>
    · next went => rw [went]

theorem run_submit {σ : Type} {matcher : Option (Matching.Matcher σ)} {play : Playthrough} {text : String} {state : σ}
    (waits : play.status = .waiting) :
    (play.submit matcher text).run state =
      match play.config.thresholds with
      | .error fault => ((.error (.badSetting fault), play.asked text), state)
      | .ok thresholds =>
        match (Matching.resolve play.story play.counters.answer matcher thresholds play.place (heard text)).run
          state with
        | (.error _, state) => ((.error .numeralTooLong, play.asked text), state)
        | (.ok none, state) => ((.ok none, { play.asked text with status := .waiting }), state)
        | (.ok (some resolution), state) =>
          let applied := (play.asked text).apply (heard text) resolution
          ((applied.1.map fun () => some resolution, applied.2), state) := by
  have quiet : ¬play.status ≠ .waiting := by simp [waits]
  unfold submit
  rw [if_neg quiet]
  dsimp only [say, record, asked, heard]
  cases play.config.thresholds with
  | error fault => rfl
  | ok thresholds =>
    dsimp only
    rw [StateT.run_bind]
    rcases (Matching.resolve play.story play.counters.answer matcher thresholds play.place
      (if (Text.trim text).isEmpty then silence else Text.trim text)).run state with ⟨_ | _ | resolution, after⟩ <;> rfl

theorem tells_reply (play : Playthrough) (input : String) (resolution : Matching.Resolution) :
    Tells { play with counters := play.counters.applyAll resolution.changes } (play.reply input resolution).2 :=
  (tells_display _ _).trans (tells_learn _ _ _)

theorem config_apply (play : Playthrough) (input : String) (resolution : Matching.Resolution) :
    (play.apply input resolution).2.config = play.config := by
  have told := (tells_reply play input resolution).config
  rcases replied : play.reply input resolution with ⟨_ | _, after⟩ <;> rw [replied] at told
  next =>
    rw [snd_apply_error replied]
    exact told
  next =>
    rw [snd_apply_ok replied]
    exact (grows_advance { after with place := resolution.place, status := .running }).config.trans told

inductive Acts : Playthrough → Playthrough → Prop where
  | advance (play : Playthrough) : Acts play play.advance.2
  | submit {σ : Type} (play : Playthrough) (matcher : Option (Matching.Matcher σ)) (state : σ) (text : String) :
      Acts play ((play.submit matcher text).run state).1.2
  | restart (play : Playthrough) : Acts play play.restart.2
  | jumpTo (play : Playthrough) (index : Int) : Acts play (play.jumpTo index).2
  | jumpBack (play : Playthrough) : Acts play play.jumpBack.2
  | updateScript (play : Playthrough) (lines : List String) : Acts play (play.updateScript lines).2

inductive Reached : Playthrough → Prop where
  | start {config : Config} {counters : Counters} {lines : List String} {play : Playthrough}
      (begun : Playthrough.start config counters lines = .ok play) : Reached play
  | act {play after : Playthrough} (reached : Reached play) (acts : Acts play after) : Reached after

structure Steady (play after : Playthrough) : Prop where
  config : after.config = play.config
  waits : after.status = .waiting → play.status = .waiting ∨ CanStep play.config

theorem steady_advance (play : Playthrough) : Steady play play.advance.2 :=
  ⟨(grows_advance play).config, fun waits => .inr (canStep_of_advance waits)⟩

theorem steady_restart (play : Playthrough) : Steady play play.restart.2 := by
  obtain ⟨config, waits⟩ := steady_advance
    { play with counters := {}, history := [], place := ⟨startLabel, 0⟩, status := .running }
  exact ⟨config, fun after => .inr ((waits after).resolve_left nofun)⟩

theorem steady_jumpTo (play : Playthrough) (index : Int) : Steady play (play.jumpTo index).2 := by
  unfold jumpTo
  split
  next => exact ⟨rfl, .inl⟩
  next =>
    dsimp only
    split
    next => exact ⟨rfl, .inl⟩
    next place _ =>
      obtain ⟨config, waits⟩ := steady_advance
        { play with history := play.history.take (index.toNat + 1), place, status := .running }
      exact ⟨config, fun after => .inr ((waits after).resolve_left nofun)⟩

theorem steady_jumpBack (play : Playthrough) : Steady play play.jumpBack.2 := by
  unfold jumpBack
  split
  next => exact ⟨rfl, .inl⟩
  next => exact steady_restart play
  next index _ => exact steady_jumpTo play index

theorem steady_submit {σ : Type} (play : Playthrough) (matcher : Option (Matching.Matcher σ)) (state : σ)
    (text : String) : Steady play ((play.submit matcher text).run state).1.2 := by
  -- Only a playthrough that waits takes an input, so there is nothing to show about waiting.
  by_cases waits : play.status = .waiting
  next =>
    refine ⟨?_, fun _ => .inl waits⟩
    rw [run_submit waits]
    split
    next => rfl
    next =>
      split
      next => rfl
      next => rfl
      next => exact config_apply (play.asked text) _ _
  next =>
    unfold submit
    rw [if_pos waits]
    exact ⟨rfl, .inl⟩

theorem steady_of_acts {play after : Playthrough} (acts : Acts play after) : Steady play after := by
  cases acts with
  | advance => exact steady_advance play
  | submit _ matcher state text => exact steady_submit play matcher state text
  | restart => exact steady_restart play
  | jumpTo _ index => exact steady_jumpTo play index
  | jumpBack => exact steady_jumpBack play
  | updateScript _ lines =>
    have read := tells_updateScript play lines
    exact ⟨read.config, fun waits => .inl (read.status.symm.trans waits)⟩

theorem canStep_of_reached {play : Playthrough} (reached : Reached play) (waits : play.status = .waiting) :
    CanStep play.config := by
  induction reached with
  | start begun =>
    unfold Playthrough.start at begun
    split at begun
    next =>
      cases begun
      cases waits
    next => cases begun
  | act _ acts ih =>
    have steady := steady_of_acts acts
    rw [steady.config]
    exact (steady.waits waits).elim ih id

end Gamebook.Playthrough
