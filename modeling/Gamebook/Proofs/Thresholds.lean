import Gamebook.Counters

set_option autoImplicit false

namespace Gamebook

-- A threshold of one is left unsaid, and nothing is asked about zero.
def Query.Plain (query : Query) : Prop := 1 ≤ query.threshold ∧ (query.threshold = 1 → query = .present query.name)

structure Faithful {m : Type → Type} [Monad m] (gives : m Bool → Bool → Prop) (ask : Query → m Bool)
    (count : String → Nat) : Prop where
  pure (value : Bool) : gives (pure value) value
  bind {run : m Bool} {next : Bool → m Bool} {value result : Bool} (first : gives run value)
    (second : gives (next value) result) : gives (run >>= next) result
  ask {query : Query} (plain : query.Plain) : gives (ask query) (query.threshold ≤ count query.name)

namespace Faithful

variable {m : Type → Type} [Monad m] {gives : m Bool → Bool → Prop} {ask : Query → m Bool} {count : String → Nat}

theorem not (faithful : Faithful gives ask count) {run : m Bool} {value : Bool} (first : gives run value) :
    gives (do return !(← run)) (!value) :=
  faithful.bind first (faithful.pure _)

theorem askReaches (faithful : Faithful gives ask count) (name : String) (threshold : Nat) :
    gives (Gamebook.askReaches ask name threshold) (threshold ≤ count name) := by
  match threshold with
  | 0 => simpa [Gamebook.askReaches, Query.ofThreshold?] using faithful.pure true
  | 1 => exact faithful.ask ⟨Nat.le_refl 1, fun _ => rfl⟩
  | threshold + 2 =>
    have plain : (Query.reaches name (threshold + 2)).Plain := ⟨by simp [Query.threshold], by simp [Query.threshold]⟩
    exact faithful.ask plain

theorem askEqual (faithful : Faithful gives ask count) (name : String) (value : Nat) :
    gives (Clause.askEqual ask name value) (count name == value) := by
  have first := faithful.askReaches name value
  have second := faithful.not (faithful.askReaches name (value + 1))
  unfold Clause.askEqual
  refine faithful.bind first ?_
  by_cases reached : value ≤ count name
  next =>
    have same : (count name == value) = !decide (value + 1 ≤ count name) := by
      rw [Bool.eq_iff_iff]
      simp only [beq_iff_eq, Bool.not_eq_true', decide_eq_false_iff_not]
      omega
    rw [same]
    simpa [reached] using second
  next =>
    have other : (count name == value) = false := by
      rw [beq_eq_false_iff_ne]
      omega
    rw [other]
    simpa [reached] using faithful.pure false

theorem decideClause (faithful : Faithful gives ask count) (clause : Clause) :
    gives (clause.decideBy ask) (clause.comparison.compare (count clause.name) clause.value) := by
  obtain ⟨name, comparison, value⟩ := clause
  cases comparison with
  | atLeast => exact faithful.askReaches name value
  | above => exact faithful.askReaches name (value + 1)
  | equal => exact faithful.askEqual name value
  | unequal => exact faithful.not (faithful.askEqual name value)
  | below =>
    have less : (!decide (value ≤ count name)) = decide (count name < value) := by
      rw [← decide_not, decide_eq_decide, Nat.not_le]
    rw [Comparison.compare, ← less]
    exact faithful.not (faithful.askReaches name value)
  | atMost =>
    have most : (!decide (value + 1 ≤ count name)) = decide (count name ≤ value) := by
      rw [← decide_not, decide_eq_decide, Nat.not_le, Nat.lt_succ_iff]
    rw [Comparison.compare, ← most]
    exact faithful.not (faithful.askReaches name (value + 1))

theorem decideBy (faithful : Faithful gives ask count) (clauses : List Clause) :
    gives (Condition.decideBy ask clauses)
      (clauses.all fun clause => clause.comparison.compare (count clause.name) clause.value) := by
  induction clauses with
  | nil => exact faithful.pure true
  | cons clause clauses ih =>
    have first := faithful.decideClause clause
    refine faithful.bind first ?_
    rw [List.all_cons]
    cases clause.comparison.compare (count clause.name) clause.value with
    | false => exact faithful.pure false
    | true => exact ih

end Faithful

-- The result of a computation that notes its questions, all of them plain.
def NotesPlain (run : StateM (List Query) Bool) (result : Bool) : Prop :=
  ∀ notes, ∃ more, run.run notes = (result, notes ++ more) ∧ ∀ query ∈ more, query.Plain

namespace Counters

theorem faithful_answer (counters : Counters) :
    Faithful (fun run result => Id.run run = result) (fun query => pure (counters.answer query)) counters.get where
  pure _ := rfl
  bind := by
    rintro run next value result rfl rfl
    rfl
  ask _ := rfl

theorem faithful_noting (counters : Counters) :
    Faithful NotesPlain (Condition.askNoting counters.answer) counters.get where
  pure value notes := ⟨[], by rw [List.append_nil]; rfl, nofun⟩
  bind := by
    intro run next value result first second notes
    obtain ⟨early, ran, plain⟩ := first notes
    obtain ⟨late, went, all⟩ := second (notes ++ early)
    refine ⟨early ++ late, ?_, List.forall_mem_append.mpr ⟨plain, all⟩⟩
    rw [StateT.run_bind, ran, ← List.append_assoc]
    exact went
  ask {query} plain notes := ⟨[query], rfl, by simpa using plain⟩

end Counters

/-- A condition holds for counters exactly when every comparison in it does, whatever its numbers. On the way it asks
only plain questions. -/
theorem holds_iff_compares (counters : Counters) {text : String} {clauses : List Clause}
    (reads : Condition.read (Text.trim text) = .ok (some clauses)) :
    (Condition.holds counters.answer text = true ↔
      ∀ clause ∈ clauses, clause.comparison.compare (counters.get clause.name) clause.value = true) ∧
    (Condition.decideBy (Condition.askNoting counters.answer) clauses).run [] =
      (Condition.holds counters.answer text, Condition.asked counters.answer text) ∧
    ∀ query ∈ Condition.asked counters.answer text,
      1 ≤ query.threshold ∧ (query.threshold = 1 → query = .present query.name) := by
  have found : Condition.clauses? text = some clauses := by rw [Condition.clauses?, reads]
  have decided : Condition.holds counters.answer text =
      clauses.all fun clause => clause.comparison.compare (counters.get clause.name) clause.value := by
    rw [Condition.holds, found]
    exact counters.faithful_answer.decideBy clauses
  obtain ⟨queries, noted, plain⟩ := counters.faithful_noting.decideBy clauses []
  rw [List.nil_append] at noted
  have asked : Condition.asked counters.answer text = queries := by
    rw [Condition.asked, found]
    exact congrArg Prod.snd noted
  rw [decided, asked, List.all_eq_true]
  exact ⟨Iff.rfl, noted, plain⟩

theorem holds_iff_compares_two_gold :
    let counters : Counters := ⟨[("gold", 2)]⟩
    let text := " gold >= 0 & Gold == 2 & key != 1"
    Condition.read (Text.trim text) = .ok (some [⟨"gold", .atLeast, 0⟩, ⟨"Gold", .equal, 2⟩, ⟨"key", .unequal, 1⟩]) ∧
      Condition.holds counters.answer text = true ∧
      Condition.asked counters.answer text = [.reaches "Gold" 2, .reaches "Gold" 3, .present "key"] := by
  intro counters text
  have reads : Condition.read (Text.trim " gold >= 0 & Gold == 2 & key != 1") =
      .ok (some [⟨"gold", .atLeast, 0⟩, ⟨"Gold", .equal, 2⟩, ⟨"key", .unequal, 1⟩]) := by rfl
  exact ⟨reads, (holds_iff_compares counters reads).1.mpr (by decide +kernel), by decide +kernel⟩

end Gamebook
