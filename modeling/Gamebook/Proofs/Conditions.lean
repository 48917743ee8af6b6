import Gamebook.Condition

set_option autoImplicit false

namespace Gamebook

open Gamebook.Text

def Condition.names (text : String) : List String := ((clauses? text).getD []).map Clause.name

def Oracle.Agrees (ask other : Oracle) (name : String) : Prop :=
  ∀ query : Query, query.name = name → 0 < query.threshold → ask query = other query

theorem askReaches_congr {m : Type → Type} [Monad m] {ask other : Query → m Bool} {name : String}
    (same : ∀ query : Query, query.name = name → 0 < query.threshold → ask query = other query) (threshold : Nat) :
    askReaches ask name threshold = askReaches other name threshold := by
  match threshold with
  | 0 => rfl
  | 1 => exact same (.present name) rfl Nat.one_pos
  | threshold + 2 => exact same (.reaches name (threshold + 2)) rfl (Nat.succ_pos _)

theorem Clause.decideBy_congr {m : Type → Type} [Monad m] {ask other : Query → m Bool} {clause : Clause}
    (same : ∀ query : Query, query.name = clause.name → 0 < query.threshold → ask query = other query) :
    decideBy ask clause = decideBy other clause := by
  have reaches := askReaches_congr same
  obtain ⟨name, comparison, value⟩ := clause
  cases comparison <;> simp only [decideBy, askEqual, reaches]

theorem Condition.decideBy_congr {m : Type → Type} [Monad m] {ask other : Query → m Bool} {clauses : List Clause}
    (same : ∀ clause ∈ clauses, ∀ query : Query, query.name = clause.name → 0 < query.threshold →
      ask query = other query) : decideBy ask clauses = decideBy other clauses := by
  induction clauses with
  | nil => rfl
  | cons clause clauses ih =>
    have first := Clause.decideBy_congr (same clause List.mem_cons_self)
    have rest := ih fun clause member => same clause (List.mem_cons_of_mem _ member)
    unfold decideBy at rest ⊢
    rw [List.allM, List.allM, first, rest]

theorem Condition.agrees_of_clauses {ask other : Oracle} {text : String} {clauses : List Clause}
    (reads : clauses? text = some clauses) (agrees : ∀ name ∈ names text, ask.Agrees other name) :
    ∀ clause ∈ clauses, ask.Agrees other clause.name := by
  intro clause member
  exact agrees clause.name (List.mem_map_of_mem (by simpa [reads] using member))

theorem Condition.holds_congr {ask other : Oracle} {text : String}
    (agrees : ∀ name ∈ names text, ask.Agrees other name) : holds ask text = holds other text := by
  unfold holds
  cases reads : clauses? text with
  | none => rfl
  | some clauses =>
    have same := agrees_of_clauses reads agrees
    exact congrArg Id.run (decideBy_congr fun clause member query named positive =>
      congrArg pure (same clause member query named positive))

theorem Condition.asked_congr {ask other : Oracle} {text : String}
    (agrees : ∀ name ∈ names text, ask.Agrees other name) : asked ask text = asked other text := by
  unfold asked
  cases reads : clauses? text with
  | none => rfl
  | some clauses =>
    have same := agrees_of_clauses reads agrees
    have noting : decideBy (askNoting ask) clauses = decideBy (askNoting other) clauses :=
      decideBy_congr fun clause member query named positive => by
        rw [askNoting, askNoting, same clause member query named positive]
    dsimp only
    rw [noting]

theorem Condition.isReadable_of_clauses {text : String} {clauses : List Clause}
    (reads : clauses? text = some clauses) : isReadable text = true := by
  unfold clauses? at reads
  unfold isReadable
  split at reads
  next parsed =>
    rw [parsed]
    rfl
  next => cases reads

theorem Query.exists_ofThreshold (name : String) {count : Nat} (positive : 0 < count) :
    ∃ query, ofThreshold? name count = some query ∧ query.name = name ∧ query.threshold = count := by
  match count with
  | 1 => exact ⟨.present name, rfl, rfl, rfl⟩
  | count + 2 => exact ⟨.reaches name (count + 2), rfl, rfl, rfl⟩

theorem Clause.decideBy_atLeast {ask : Oracle} {name : String} {count : Nat} {query : Query}
    (asks : Query.ofThreshold? name count = some query) :
    Id.run (Condition.decideBy (fun query => pure (ask query)) [⟨name, .atLeast, count⟩]) = ask query := by
  simp only [Condition.decideBy, List.allM, decideBy, askReaches, asks, bind, pure, Id.run]
  cases ask query <;> rfl

theorem Condition.holds_atLeast {text name : String} {count : Nat}
    (reads : clauses? text = some [⟨name, .atLeast, count⟩]) (positive : 0 < count) :
    ∃ query : Query, query.name = name ∧ query.threshold = count ∧ ∀ ask, holds ask text = ask query := by
  obtain ⟨query, asks, named, reached⟩ := Query.exists_ofThreshold name positive
  refine ⟨query, named, reached, ?_⟩
  intro ask
  unfold holds
  rw [reads]
  exact Clause.decideBy_atLeast asks

theorem Text.trimChars_eq_self (first last : Char) (middle : List Char) (opens : isBlank first = false)
    (closes : isBlank last = false) :
    trimChars (first :: (middle ++ [last])) = first :: (middle ++ [last]) := by
  simp [trimChars, dropBlanks, dropBlanksEnd, opens, closes]

def longClause (count : Nat) : List Char :=
  'g' :: 'o' :: 'l' :: 'd' :: '>' :: '=' :: '1' :: List.replicate count '1'

theorem trimChars_longClause (count : Nat) : trimChars (longClause count) = longClause count := by
  have trimmed := Text.trimChars_eq_self 'g' '1' ('o' :: 'l' :: 'd' :: '>' :: '=' :: List.replicate count '1')
    (by decide) (by decide)
  simpa [longClause, ← List.replicate_succ, ← List.replicate_succ'] using trimmed

theorem splitOn_longClause (count : Nat) : (longClause count).splitOn '&' = [longClause count] := by
  rw [List.splitOn_eq_splitOnP]
  apply List.splitOnP_eq_singleton
  intro c member
  simp only [longClause, List.mem_cons, List.mem_replicate] at member
  rcases member with rfl | rfl | rfl | rfl | rfl | rfl | rfl | ⟨_, rfl⟩ <;> rfl

theorem readClause_longClause {count : Nat} (long : numeralLimit ≤ count) :
    Condition.readClause (longClause count) = .error {} := by
  have refused : readNumeral ('1' :: List.replicate count '1') = .error {} := by
    rw [readNumeral, if_neg]
    simp only [List.length_cons, List.length_replicate]
    omega
  have digit : isDigit '1' = true := by decide
  have digits : ('1' :: List.replicate count '1').all isDigit = true := by simp [digit]
  have name : Name.take? (longClause count) =
      some (['g', 'o', 'l', 'd'], '>' :: '=' :: '1' :: List.replicate count '1') := rfl
  have sign : dropBlanks ('>' :: '=' :: '1' :: List.replicate count '1') =
      '>' :: '=' :: '1' :: List.replicate count '1' := rfl
  have numeral : dropBlanks ('1' :: List.replicate count '1') = '1' :: List.replicate count '1' := rfl
  unfold Condition.readClause
  split
  next opens => simp [longClause] at opens
  next =>
    simp only [name, Condition.readComparison, sign, Condition.takeComparison?, numeral, digits, refused,
      List.isEmpty_cons, Bool.not_true, Bool.or_self, Bool.false_eq_true, if_false]
    rfl

theorem Condition.isReadable_longClause {count : Nat} (long : numeralLimit ≤ count) :
    isReadable (String.ofList (longClause count)) = false := by
  have whole : (trim (String.ofList (longClause count))).toList = longClause count := by
    rw [trim, String.toList_ofList, String.toList_ofList, trimChars_longClause]
  have peeled : peel (longClause count) = longClause count := rfl
  rw [isReadable, read, whole, splitOn_longClause, readClauses, trimChars_longClause, peeled,
    readClause_longClause long]
  rfl

end Gamebook
