import Gamebook.Proofs.Reached
import Mathlib.Data.List.Forall2

set_option autoImplicit false

namespace Gamebook

/-- A line as it is when all numbers are higher by one amount. Lines without a number stay as they are. -/
inductive Line.Renumbered (shift : Nat) : Line → Line → Prop where
  | same (line : Line) : Renumbered shift line line
  | numbered (sender : Sender) (number : Nat) (text : String) (kind : LineKind) :
      Renumbered shift { id := sender.name ++ ":" ++ toString number, sender, text, kind }
        { id := sender.name ++ ":" ++ toString (shift + number), sender, text, kind }

namespace Playthrough

/-- A playthrough as it is when all numbers are higher by one amount: the same but for its numbered lines. -/
inductive Renumbered (shift : Nat) (fresh : Playthrough) : Playthrough → Prop where
  | mk {history : List Line} (told : List.Forall₂ (Line.Renumbered shift) fresh.history history) :
      Renumbered shift fresh { fresh with history, numbered := shift + fresh.numbered }

inductive Results (shift : Nat) : Except Fault (List Line) → Except Fault (List Line) → Prop where
  | ok {lines others : List Line} (told : List.Forall₂ (Line.Renumbered shift) lines others) :
      Results shift (.ok lines) (.ok others)
  | error (fault : Fault) : Results shift (.error fault) (.error fault)

namespace Renumbered

variable {shift : Nat} {fresh play : Playthrough}

theorem told (alike : Renumbered shift fresh play) :
    List.Forall₂ (Line.Renumbered shift) fresh.history play.history := by
  cases alike with
  | mk told => exact told

theorem record (alike : Renumbered shift fresh play) (line : Line) :
    Renumbered shift (fresh.record line) (play.record line) := by
  cases alike with
  | mk told => exact .mk (List.rel_append told (.cons (.same line) .nil))

theorem say (alike : Renumbered shift fresh play) (sender : Sender) (text : String) (kind : LineKind) :
    Renumbered shift (fresh.say sender text kind) (play.say sender text kind) := by
  cases alike with
  | mk told => exact .mk (List.rel_append told (.cons (.numbered sender fresh.numbered text kind) .nil))

theorem sayAll (alike : Renumbered shift fresh play) (texts : List String) :
    Renumbered shift (fresh.sayAll texts) (play.sayAll texts) := by
  induction texts generalizing fresh play with
  | nil => exact alike
  | cons text texts ih => exact ih (alike.say .narrator text .text)

theorem count (alike : Renumbered shift fresh play) (counters : Counters) :
    Renumbered shift { fresh with counters } { play with counters } := by
  cases alike with
  | mk told => exact .mk told

theorem move (alike : Renumbered shift fresh play) (place : Coordinate) :
    Renumbered shift { fresh with place } { play with place } := by
  cases alike with
  | mk told => exact .mk told

theorem turn (alike : Renumbered shift fresh play) (status : Status) :
    Renumbered shift { fresh with status } { play with status } := by
  cases alike with
  | mk told => exact .mk told

theorem recordLine (alike : Renumbered shift fresh play) (line : Line) :
    (play.recordLine line).1 = (fresh.recordLine line).1 ∧
      Renumbered shift (fresh.recordLine line).2 (play.recordLine line).2 := by
  have recorded := alike.record line
  unfold Playthrough.recordLine
  split
  next => exact ⟨rfl, recorded⟩
  next => exact ⟨rfl, recorded⟩
  next place _ => exact ⟨rfl, recorded.move place.next⟩

theorem playSteps (alike : Renumbered shift fresh play) (count : Nat) :
    (Playthrough.playSteps count play).1 = (Playthrough.playSteps count fresh).1 ∧
      Renumbered shift (Playthrough.playSteps count fresh).2 (Playthrough.playSteps count play).2 := by
  induction count generalizing fresh play with
  | zero => exact ⟨rfl, (alike.say .system "Stopped: too many lines without a choice" .text).turn .error⟩
  | succ count ih =>
    -- A step looks at the story, the counters and the place, which are the same.
    have same : step play.story Counters.keeper play.counters play.place =
        step fresh.story Counters.keeper fresh.counters fresh.place := by
      cases alike
      rfl
    rw [Playthrough.playSteps, Playthrough.playSteps, same]
    generalize step fresh.story Counters.keeper fresh.counters fresh.place = stepped
    have counted := alike.count stepped.state
    cases stepped.outcome with
    | error => exact ⟨rfl, counted⟩
    | ok outcome =>
      have told := counted.sayAll outcome.prelude
      cases outcome with
      | line line place prelude =>
        have recorded := told.recordLine line
        dsimp only at recorded ⊢
        generalize Playthrough.recordLine _ line = here at recorded ⊢
        generalize Playthrough.recordLine _ line = there at recorded ⊢
        obtain ⟨result, after⟩ := here
        obtain ⟨_, afresh⟩ := there
        obtain ⟨rfl, left⟩ := recorded
        cases result with
        | error => exact ⟨rfl, left⟩
        | ok => exact ih left
      | wait place prelude => exact ⟨rfl, (told.move place).turn .waiting⟩
      | finished => exact ⟨rfl, told.turn .ended⟩
      | failed error => exact ⟨rfl, (told.record error.line).turn .error⟩

theorem advance (alike : Renumbered shift fresh play) :
    Results shift fresh.advance.1 play.advance.1 ∧ Renumbered shift fresh.advance.2 play.advance.2 := by
  have running := alike.turn .running
  have limit : play.config.maxSteps.toInt = fresh.config.maxSteps.toInt := by
    cases alike
    rfl
  have status : play.status = fresh.status := by
    cases alike
    rfl
  have long : play.history.length = fresh.history.length := alike.told.length_eq.symm
  unfold Playthrough.advance
  rw [status]
  split
  next => exact ⟨.ok .nil, alike⟩
  next =>
    dsimp only
    rw [limit, long]
    cases fresh.config.maxSteps.toInt with
    | error fault => exact ⟨.error (.badSetting fault), running⟩
    | ok count =>
      have played := running.playSteps count.toNat
      dsimp only at played ⊢
      generalize Playthrough.playSteps count.toNat _ = here at played ⊢
      generalize Playthrough.playSteps count.toNat _ = there at played ⊢
      obtain ⟨result, after⟩ := here
      obtain ⟨_, afresh⟩ := there
      obtain ⟨rfl, left⟩ := played
      cases result with
      | error fault => exact ⟨.error fault, left⟩
      | ok => exact ⟨.ok (List.forall₂_drop _ left.told), left⟩

end Renumbered

theorem SameScript.current {play after : Playthrough} (same : SameScript play after) (current : Current play) :
    Current after := by
  unfold Current
  rw [same.lines, same.story]
  exact current

theorem current_updateScript {play : Playthrough} {lines : List String} (succeeds : (play.updateScript lines).1.isOk) :
    Current (play.updateScript lines).2 := by
  revert succeeds
  unfold updateScript
  split
  next script readable => exact fun _ => ⟨script, readable, rfl⟩
  next => exact fun failed => absurd failed Bool.false_ne_true

theorem current_learn {play : Playthrough} {input : String} {resolution : Matching.Resolution} (current : Current play)
    (succeeds : (play.learn input resolution).1.isOk) : Current (play.learn input resolution).2 := by
  revert succeeds
  unfold learn
  split
  next confidence words _ _ =>
    have anew := @current_updateScript play (Alias.add resolution.optionText words play.lines)
    split
    next => exact fun _ => current
    next =>
      split
      next => exact fun failed => absurd failed Bool.false_ne_true
      next read =>
        rw [read] at anew
        exact fun _ => anew rfl
  next => exact fun _ => current

theorem current_apply {play : Playthrough} {input : String} {resolution : Matching.Resolution} (current : Current play)
    (succeeds : (play.apply input resolution).1.isOk) : Current (play.apply input resolution).2 := by
  let counted : Playthrough := { play with counters := play.counters.applyAll resolution.changes }
  have shown : Current (counted.display resolution.shown) := (sameScript_display counted _).current current
  have told : (play.reply input resolution).1.isOk → Current (play.reply input resolution).2 := current_learn shown
  rcases replied : play.reply input resolution with ⟨_ | _, after⟩ <;> rw [replied] at told
  next =>
    rw [apply_eq, replied] at succeeds
    cases succeeds
  next =>
    rw [snd_apply_ok replied]
    exact (sameScript_advance { after with place := resolution.place, status := .running }).current (told rfl)

theorem current_submit {σ : Type} {play : Playthrough} {matcher : Option (Matching.Matcher σ)} {state : σ} {text : String}
    (current : Current play) (succeeds : ((play.submit matcher text).run state).1.1.isOk) :
    Current ((play.submit matcher text).run state).1.2 := by
  revert succeeds
  by_cases waits : play.status = .waiting
  next =>
    rw [run_submit waits]
    split
    next => exact fun failed => absurd failed Bool.false_ne_true
    next =>
      split
      next => exact fun failed => absurd failed Bool.false_ne_true
      next => exact fun _ => current
      next resolution _ _ =>
        have applied := @current_apply (play.asked text) (heard text) resolution current
        dsimp only
        rcases came : (play.asked text).apply (heard text) resolution with ⟨_ | _, after⟩ <;> rw [came] at applied
        next => exact fun failed => absurd failed Bool.false_ne_true
        next => exact fun _ => applied rfl
  next =>
    unfold submit
    rw [if_pos waits]
    exact fun failed => absurd failed Bool.false_ne_true

theorem sameScript_restart (play : Playthrough) : SameScript play play.restart.2 := by
  have played := sameScript_advance
    { play with counters := {}, history := [], place := ⟨startLabel, 0⟩, status := .running }
  exact ⟨played.lines, played.story⟩

theorem sameScript_jumpTo (play : Playthrough) (index : Int) : SameScript play (play.jumpTo index).2 := by
  unfold jumpTo
  split
  next => exact ⟨rfl, rfl⟩
  next =>
    dsimp only
    split
    next => exact ⟨rfl, rfl⟩
    next place _ =>
      have played := sameScript_advance
        { play with history := play.history.take (index.toNat + 1), place, status := .running }
      exact ⟨played.lines, played.story⟩

theorem sameScript_jumpBack (play : Playthrough) : SameScript play play.jumpBack.2 := by
  unfold jumpBack
  split
  next => exact ⟨rfl, rfl⟩
  next => exact sameScript_restart play
  next index _ => exact sameScript_jumpTo play index

inductive Succeeds : Playthrough → Playthrough → Prop where
  | advance (play : Playthrough) (succeeds : play.advance.1.isOk) : Succeeds play play.advance.2
  | submit {σ : Type} (play : Playthrough) (matcher : Option (Matching.Matcher σ)) (state : σ) (text : String)
      (succeeds : ((play.submit matcher text).run state).1.1.isOk) :
      Succeeds play ((play.submit matcher text).run state).1.2
  | restart (play : Playthrough) (succeeds : play.restart.1.isOk) : Succeeds play play.restart.2
  | jumpTo (play : Playthrough) (index : Int) (succeeds : (play.jumpTo index).1.isOk) :
      Succeeds play (play.jumpTo index).2
  | jumpBack (play : Playthrough) (succeeds : play.jumpBack.1.isOk) : Succeeds play play.jumpBack.2
  | updateScript (play : Playthrough) (lines : List String) (succeeds : (play.updateScript lines).1.isOk) :
      Succeeds play (play.updateScript lines).2

/-- A playthrough in which nothing has failed. -/
inductive Smooth : Playthrough → Prop where
  | start {config : Config} {counters : Counters} {lines : List String} {play : Playthrough}
      (begun : Playthrough.start config counters lines = .ok play) : Smooth play
  | act {play after : Playthrough} (smooth : Smooth play) (succeeds : Succeeds play after) : Smooth after

theorem Succeeds.current {play after : Playthrough} (succeeds : Succeeds play after) (current : Current play) :
    Current after := by
  cases succeeds with
  | advance => exact (sameScript_advance play).current current
  | submit _ _ _ _ succeeds => exact current_submit current succeeds
  | restart => exact (sameScript_restart play).current current
  | jumpTo _ index => exact (sameScript_jumpTo play index).current current
  | jumpBack => exact (sameScript_jumpBack play).current current
  | updateScript _ _ succeeds => exact current_updateScript succeeds

theorem Smooth.current {play : Playthrough} (smooth : Smooth play) : Current play := by
  induction smooth with
  | start begun =>
    unfold Playthrough.start at begun
    split at begun
    next script readable =>
      cases begun
      exact ⟨script, readable, rfl⟩
    next => cases begun
  | act _ succeeds ih => exact succeeds.current ih

/-- Restarting forgets all but the settings and the script: a new playthrough of the lines as they are now, with nothing
counted, can be begun, and its first lines, its history, place, status and counters are those of the restarted one, but
for the numbers of numbered lines. -/
theorem restart_is_fresh (play : Playthrough) (smooth : play.Smooth) :
    ∃ fresh, Playthrough.start play.config {} play.lines = .ok fresh ∧
      Results play.numbered fresh.advance.1 play.restart.1 ∧
      Renumbered play.numbered fresh.advance.2 play.restart.2 := by
  obtain ⟨script, readable, told⟩ := smooth.current
  let fresh : Playthrough := { config := play.config, lines := play.lines, story := play.story }
  have begun : Playthrough.start play.config {} play.lines = .ok fresh := by
    rw [Playthrough.start, readable]
    simp only [fresh, told]
  have alike : Renumbered play.numbered fresh
      { play with counters := {}, history := [], place := ⟨startLabel, 0⟩, status := .running } := .mk .nil
  exact ⟨fresh, begun, alike.advance⟩

-- The playthrough has counted, told numbered lines and been given another script before it restarts.
theorem restart_is_fresh_in_hall :
    let lines := ["when !key", "  You find a key.", "@HALL", "if take", "  +coin", "  You take a coin."]
    let edited := ["when !key", "  A key lies here.", "  +key", "@HALL", "if rest"]
    let begun : Playthrough :=
      { config := {}, lines
        story := .ofScript [.when "!key" [.narrative "You find a key."], .scene "HALL" none,
          .option ⟨"take", none, none⟩ [.metadata "sets" "coin", .narrative "You take a coin."]] }
    let played := ((begun.advance.2.submit (none : Option (Matching.Matcher Unit)) "take").run ()).1.2
    let play := (played.updateScript edited).2
    Playthrough.start {} {} lines = .ok begun ∧ play.numbered = 4 ∧ play.counters = ⟨[("coin", 1)]⟩ ∧
      play.restart.1.toOption = some [⟨"narrator:4", .narrator, "A key lies here.", .text⟩] ∧
      ∃ fresh, Playthrough.start {} {} edited = .ok fresh ∧ Results 4 fresh.advance.1 play.restart.1 ∧
        Renumbered 4 fresh.advance.2 play.restart.2 := by
  intro lines edited begun played play
  have started : Playthrough.start {} {} lines = .ok begun := rfl
  have advanced : Smooth begun.advance.2 := .act (.start started) (.advance begun (by decide +kernel))
  have submitted : Smooth played := .act advanced (.submit _ none () "take" (by decide +kernel))
  have smooth : Smooth play := .act submitted (.updateScript played edited (by decide +kernel))
  have numbered : play.numbered = 4 := by decide +kernel
  have counted : play.counters = ⟨[("coin", 1)]⟩ := by decide +kernel
  have told : play.restart.1.toOption = some [⟨"narrator:4", .narrator, "A key lies here.", .text⟩] := by
    decide +kernel
  have config : play.config = {} :=
    ((tells_updateScript played edited).config.trans (steady_submit _ none () "take").config).trans
      (steady_advance begun).config
  have current : play.lines = edited := by decide +kernel
  have restarted := restart_is_fresh play smooth
  rw [numbered, config, current] at restarted
  exact ⟨started, numbered, counted, told, restarted⟩

end Playthrough

end Gamebook
