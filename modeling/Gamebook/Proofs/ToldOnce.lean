import Gamebook.Proofs.StepEnds

set_option autoImplicit false

namespace Gamebook

/-- An outcome hands on what has been told: a text carries it in front, and all else that is no error beside it. -/
def Outcome.Delivers (story : Story) (ask : Oracle) (told : List String) : Outcome → Prop
  | .line shown place prelude =>
    ∃ begins positions, story.scenes.get? place.scene = some begins ∧
      layout? ask (story.body begins) = .ok positions ∧ shown.id = place.id ∧
      ((∃ text, positions[place.index.toNat]? = some (.beat (.narrative text)) ∧ shown.kind = .text ∧
        shown.text = "\n".intercalate (told ++ [text]) ∧ prelude = []) ∨
      ∃ url, positions[place.index.toNat]? = some (.beat (.image url)) ∧ shown.kind = .image ∧
        shown.text = url ∧ prelude = told)
  | .wait _ prelude => prelude = told
  | .finished prelude => prelude = told
  | .failed _ => True

namespace Walk

variable {σ : Type} {story : Story} {keeper : Keeper σ}

def enters (story : Story) (walk : Walk σ) : Bool :=
  !walk.visited.contains (walk.scene, walk.index) && !(walk.scene == endLabel && !story.hasScene endLabel) &&
    (story.scenes.get? walk.scene).isSome && walk.index == 0

-- What the preamble comes to, if the next move runs it.
def telling? (story : Story) (keeper : Keeper σ) (walk : Walk σ) : Option (Telling σ × Option Exit) :=
  if walk.enters story && walk.pending then some (Script.runPreamble keeper walk.state story.script) else none

def moveOn (story : Story) (keeper : Keeper σ) (walk : Walk σ) : Walk σ ⊕ Stepped σ :=
  if walk.visited.contains (walk.scene, walk.index) then walk.stopHere (.failed (.loop walk.place))
  else if walk.scene == endLabel && !story.hasScene endLabel then walk.stop (.finished walk.prelude)
  else
    match story.scenes.get? walk.scene with
    | none => walk.stop (.failed (.noScene walk.scene))
    | some begins => walk.note.enter story keeper begins

def heard (walk : Walk σ) (telling : Telling σ) : Walk σ :=
  { walk with prelude := walk.prelude ++ telling.told, pending := false, state := telling.state }

def moveAfter (story : Story) (keeper : Keeper σ) (walk : Walk σ) (preamble : Telling σ × Option Exit) :
    Walk σ ⊕ Stepped σ :=
  match preamble.2 with
  | some .unreadable => (walk.heard preamble.1).giveUp
  | some (.jump target) =>
    if target == walk.scene then (walk.heard preamble.1).moveOn story keeper
    else .inl { (walk.heard preamble.1).note with scene := target, index := 0 }
  | none => (walk.heard preamble.1).moveOn story keeper

theorem enters_iff {walk : Walk σ} :
    walk.enters story = true ↔ walk.index = 0 ∧ ∃ begins, walk.Comes story begins := by
  constructor
  next =>
    intro enters
    unfold Walk.enters at enters
    simp only [Bool.and_eq_true, Bool.not_eq_true', beq_iff_eq] at enters
    obtain ⟨⟨⟨unseen, lasts⟩, known⟩, first⟩ := enters
    obtain ⟨begins, known⟩ := Option.isSome_iff_exists.mp known
    exact ⟨first, begins, by simpa using unseen, lasts, known⟩
  next =>
    rintro ⟨first, begins, fresh, lasts, known⟩
    have unseen : walk.visited.contains (walk.scene, walk.index) = false := by simpa using fresh
    unfold Walk.enters
    rw [unseen, lasts, known, first]
    rfl

theorem Comes.moveOn {walk : Walk σ} {begins : Int} (comes : walk.Comes story begins) :
    walk.moveOn story keeper = walk.note.enter story keeper begins := by
  have unseen : ¬walk.visited.contains (walk.scene, walk.index) = true := by simpa using comes.fresh
  have lasts : ¬(walk.scene == endLabel && !story.hasScene endLabel) = true := by simp [comes.lasts]
  unfold Walk.moveOn
  rw [if_neg unseen, if_neg lasts, comes.known]

theorem Comes.heard {walk : Walk σ} {begins : Int} (comes : walk.Comes story begins) (telling : Telling σ) :
    (walk.heard telling).Comes story begins := ⟨comes.fresh, comes.lasts, comes.known⟩

theorem moveOn_of_not_comes {walk : Walk σ} (lost : ∀ begins, ¬walk.Comes story begins) :
    walk.moveOn story keeper = walk.move story keeper := by
  unfold moveOn move
  split
  next => rfl
  next unseen =>
    split
    next => rfl
    next lasts =>
      cases known : story.scenes.get? walk.scene with
      | none => rfl
      | some begins => exact absurd ⟨by simpa using unseen, by simpa using lasts, known⟩ (lost begins)

theorem telling?_eq_none {walk : Walk σ} (passes : walk.enters story = true → walk.pending = false) :
    walk.telling? story keeper = none := by
  refine if_neg fun runs => ?_
  rw [Bool.and_eq_true] at runs
  exact Bool.false_ne_true ((passes runs.1).symm.trans runs.2)

theorem telling?_eq_some {walk : Walk σ} (enters : walk.enters story = true) (pending : walk.pending = true) :
    walk.telling? story keeper = some (Script.runPreamble keeper walk.state story.script) :=
  if_pos (by rw [enters, pending]; rfl)

theorem move_eq_moveOn_or_moveAfter (walk : Walk σ) :
    walk.move story keeper =
      (walk.telling? story keeper).elim (walk.moveOn story keeper) (walk.moveAfter story keeper) := by
  by_cases comes : ∃ begins, walk.Comes story begins
  next =>
    obtain ⟨begins, comes⟩ := comes
    by_cases first : (walk.index == 0 && walk.pending) = true
    next =>
      obtain ⟨enters, pending⟩ : walk.index = 0 ∧ walk.pending = true := by simpa using first
      have told := @telling?_eq_some _ _ keeper _ (enters_iff.mpr ⟨enters, begins, comes⟩) pending
      have opened : walk.opened story keeper =
          (walk.heard (Script.runPreamble keeper walk.state story.script).1).note := if_pos first
      rw [comes.move, exit?, if_pos first, opened, told, Option.elim_some, moveAfter, (comes.heard _).moveOn]
      rcases Script.runPreamble keeper walk.state story.script with ⟨telling, _ | (target | _)⟩ <;> rfl
    next =>
      have opened : walk.opened story keeper = walk.note := if_neg first
      have silent : walk.telling? story keeper = none := by
        refine telling?_eq_none fun enters => ?_
        simpa [(enters_iff.mp enters).1] using first
      rw [comes.move, exit?, if_neg first, opened, silent, Option.elim_none, comes.moveOn]
  next =>
    have silent : walk.telling? story keeper = none :=
      telling?_eq_none fun enters => absurd (enters_iff.mp enters).2 comes
    rw [silent, Option.elim_none, moveOn_of_not_comes (not_exists.mp comes)]

theorem kept_of_playPosition {walk next : Walk σ} {positions : List Position}
    (moves : walk.playPosition story keeper positions = .inl next) :
    next.prelude = walk.prelude ∧ next.pending = walk.pending := by
  cases passes_of_playPosition moves <;> exact ⟨rfl, rfl⟩

theorem kept_of_moveOn {walk next : Walk σ} (moves : walk.moveOn story keeper = .inl next) :
    next.prelude = walk.prelude ∧ next.pending = walk.pending := by
  unfold moveOn at moves
  split at moves
  next => cases moves
  next =>
    split at moves
    next => cases moves
    next =>
      split at moves
      next => cases moves
      next begins _ =>
        rw [enter_eq] at moves
        split at moves
        next =>
          cases moves
          exact ⟨rfl, rfl⟩
        next =>
          unfold playScene at moves
          split at moves
          next => cases moves
          next =>
            have kept := kept_of_playPosition moves
            exact kept

theorem kept_of_move {walk next : Walk σ} (moves : walk.move story keeper = .inl next) :
    next.prelude = walk.prelude ++ (walk.telling? story keeper).toList.flatMap (·.1.told) ∧
      next.pending = (walk.pending && !walk.enters story) := by
  rw [move_eq_moveOn_or_moveAfter] at moves
  by_cases runs : walk.enters story = true ∧ walk.pending = true
  next =>
    rw [telling?_eq_some runs.1 runs.2, Option.elim_some, moveAfter] at moves
    rw [telling?_eq_some runs.1 runs.2, runs.1, runs.2]
    have kept : next.prelude = walk.prelude ++ (Script.runPreamble keeper walk.state story.script).1.told ∧
        next.pending = false := by
      split at moves
      next => cases moves
      next =>
        split at moves
        next => exact kept_of_moveOn moves
        next =>
          cases moves
          exact ⟨rfl, rfl⟩
      next => exact kept_of_moveOn moves
    simpa using kept
  next =>
    have passes : walk.enters story = true → walk.pending = false := fun enters => by simpa [enters] using runs
    rw [telling?_eq_none passes, Option.elim_none] at moves
    rw [telling?_eq_none passes]
    obtain ⟨prelude, pending⟩ := kept_of_moveOn moves
    refine ⟨by simpa using prelude, pending.trans ?_⟩
    cases enters : walk.enters story with
    | false => simp
    | true => simp [passes enters]

theorem delivers_of_moveOn {walk : Walk σ} {outcome : Outcome} {state : σ}
    (stops : walk.moveOn story keeper = .inr ⟨.ok outcome, state⟩) :
    outcome.Delivers story (keeper.answer state) walk.prelude := by
  by_cases comes : ∃ begins, walk.Comes story begins
  next =>
    obtain ⟨begins, comes⟩ := comes
    rw [comes.moveOn, enter_eq] at stops
    split at stops
    next => cases stops
    next =>
      unfold playScene at stops
      split at stops
      next => cases stops
      next positions laid =>
        obtain ⟨result, same, ends⟩ := stops_of_playPosition stops
        obtain ⟨told, rfl⟩ := Stepped.mk.inj same
        cases ends with
        | tells text met =>
          cases (naming_eq_ok_iff.mp told.symm).2
          exact ⟨begins, positions, comes.known, laid, rfl, .inl ⟨text, met, rfl, rfl, rfl⟩⟩
        | shows url met =>
          cases (naming_eq_ok_iff.mp told.symm).2
          exact ⟨begins, positions, comes.known, laid, rfl, .inr ⟨url, met, rfl, rfl, rfl⟩⟩
        | waits | finishes =>
          cases told
          rfl
  next =>
    obtain ⟨result, move, lost⟩ := move_of_not_comes keeper (not_exists.mp comes)
    rw [moveOn_of_not_comes (not_exists.mp comes)] at stops
    obtain ⟨told, -⟩ := Stepped.mk.inj (Sum.inr.inj (move.symm.trans stops))
    cases lost with
    | loops =>
      cases (naming_eq_ok_iff.mp told).2
      trivial
    | strays =>
      cases told
      trivial
    | finishes =>
      cases told
      rfl

theorem delivers_of_move {walk : Walk σ} {outcome : Outcome} {state : σ}
    (stops : walk.move story keeper = .inr ⟨.ok outcome, state⟩) :
    outcome.Delivers story (keeper.answer state)
      (walk.prelude ++ (walk.telling? story keeper).toList.flatMap (·.1.told)) := by
  rw [move_eq_moveOn_or_moveAfter] at stops
  cases told : walk.telling? story keeper with
  | none =>
    rw [told, Option.elim_none] at stops
    simpa using delivers_of_moveOn stops
  | some preamble =>
    rw [told, Option.elim_some, moveAfter] at stops
    have delivers : outcome.Delivers story (keeper.answer state) (walk.heard preamble.1).prelude := by
      split at stops
      next => cases stops
      next =>
        split at stops
        next => exact delivers_of_moveOn stops
        next => cases stops
      next => exact delivers_of_moveOn stops
    simpa [heard] using delivers

theorem length_telling? (walk : Walk σ) :
    (if walk.pending then 0 else 1) + (walk.telling? story keeper).toList.length =
      if walk.pending && !walk.enters story then 0 else 1 := by
  unfold telling?
  cases walk.pending <;> cases walk.enters story <;> rfl

-- All that the preamble came to on the first moves of a walk.
def tellings (story : Story) (keeper : Keeper σ) (count : Nat) (walk : Walk σ) : List (Telling σ × Option Exit) :=
  (List.range count).filterMap fun i => (moved? story keeper i walk).bind (telling? story keeper)

theorem tellings_succ {count : Nat} {first walk : Walk σ} (reached : moved? story keeper count first = some walk) :
    tellings story keeper (count + 1) first =
      tellings story keeper count first ++ (walk.telling? story keeper).toList := by
  unfold tellings
  rw [List.range_succ, List.filterMap_append]
  cases told : walk.telling? story keeper <;> simp [reached, told]

structure Heard (story : Story) (keeper : Keeper σ) (first : Walk σ) (count : Nat) (walk : Walk σ) : Prop where
  prelude : walk.prelude = (tellings story keeper count first).flatMap (·.1.told)
  once : (tellings story keeper count first).length = if walk.pending then 0 else 1
  pending : walk.pending = true ↔
    ∀ i < count, ∀ before, moved? story keeper i first = some before → before.enters story = false

theorem heard_of_moved? {count : Nat} {walk : Walk σ} {state : σ} {place : Coordinate}
    (reached : moved? story keeper count (start state place) = some walk) :
    Heard story keeper (start state place) count walk := by
  induction count generalizing walk with
  | zero =>
    cases reached
    exact ⟨rfl, rfl, by simp [start]⟩
  | succ count ih =>
    obtain ⟨before, came, moves⟩ := Option.bind_eq_some_iff.mp reached
    obtain ⟨prelude, pending⟩ := kept_of_move (Sum.getLeft?_eq_some_iff.mp moves)
    have heard := ih came
    refine ⟨?_, ?_, ?_⟩
    next => rw [prelude, heard.prelude, tellings_succ came, List.flatMap_append]
    next => rw [tellings_succ came, List.length_append, heard.once, length_telling?, pending]
    next =>
      rw [pending, Nat.forall_lt_succ_right, ← heard.pending, Bool.and_eq_true, Bool.not_eq_true']
      simp [came]

end Walk

/-- A step runs the preamble at most once, namely where it first enters a scene of the story at its beginning; its other
moves take no notice of the preamble. What the preamble told comes with the outcome, once. -/
theorem preamble_told_once {σ : Type} (story : Story) (keeper : Keeper σ) (state : σ) (place : Coordinate) :
    let first := Walk.start state place
    let stepped := step story keeper state place
    ∃ (count : Nat) (last : Walk σ),
      Walk.moved? story keeper count first = some last ∧ last.move story keeper = .inr stepped ∧
      (∀ i walk, Walk.moved? story keeper i first = some walk →
        walk.move story keeper =
          (walk.telling? story keeper).elim (walk.moveOn story keeper) (walk.moveAfter story keeper) ∧
        ∀ preamble, walk.telling? story keeper = some preamble ↔
          preamble = Script.runPreamble keeper walk.state story.script ∧ walk.enters story = true ∧
            ∀ j < i, ∀ before, Walk.moved? story keeper j first = some before → before.enters story = false) ∧
      (Walk.tellings story keeper (count + 1) first).length ≤ 1 ∧
      ∀ outcome, stepped.outcome = .ok outcome →
        outcome.Delivers story (keeper.answer stepped.state)
          ((Walk.tellings story keeper (count + 1) first).flatMap (·.1.told)) := by
  intro first stepped
  obtain ⟨count, last, reached, stops⟩ := Walk.exists_last_moved? story keeper first
  have heard := Walk.heard_of_moved? reached
  refine ⟨count, last, reached, stops,
    fun i walk came => ⟨walk.move_eq_moveOn_or_moveAfter, fun preamble => ?_⟩, ?_, ?_⟩
  next =>
    rw [← (Walk.heard_of_moved? came).pending, Walk.telling?, Option.ite_none_right_eq_some, Bool.and_eq_true,
      Option.some.injEq]
    tauto
  next =>
    rw [Walk.tellings_succ reached, List.length_append, heard.once, Walk.length_telling?]
    split <;> omega
  next =>
    intro outcome ends
    have move : last.move story keeper = .inr ⟨.ok outcome, stepped.state⟩ := by
      rw [stops, ← ends]
      rfl
    rw [Walk.tellings_succ reached, List.flatMap_append, ← heard.prelude]
    exact Walk.delivers_of_move move

end Gamebook
