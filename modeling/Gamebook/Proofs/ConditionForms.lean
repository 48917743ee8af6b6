import Gamebook.Proofs.AliasLines
import Gamebook.Proofs.Conditions

set_option autoImplicit false

namespace Gamebook

open Gamebook.Text

namespace Text

def AllBlank (cs : List Char) : Prop := ∀ c ∈ cs, isBlank c = true

theorem allBlank_nil : AllBlank [] := nofun

theorem exists_gap (cs : List Char) : ∃ gap, AllBlank gap ∧ cs = gap ++ dropBlanks cs :=
  ⟨cs.takeWhile isBlank, fun _ => List.mem_takeWhile_imp, List.takeWhile_append_dropWhile.symm⟩

theorem opens_dropBlanks {cs : List Char} (some_left : dropBlanks cs ≠ []) : Opens (dropBlanks cs) := by
  obtain ⟨c, rest, same⟩ := List.exists_cons_of_ne_nil some_left
  have first := List.head?_dropWhile_not isBlank cs
  rw [← dropBlanks, same] at first
  exact ⟨c, rest, same, by simpa using first⟩

theorem dropBlanks_eq_nil_iff {cs : List Char} : dropBlanks cs = [] ↔ AllBlank cs := List.dropWhile_eq_nil_iff

theorem dropBlanksEnd_append {front space : List Char} (closes : Closes front) (blank : AllBlank space) :
    dropBlanksEnd (front ++ space) = front := by
  have behind : ∀ c ∈ space.reverse, isBlank c = true := fun c member => blank c (List.mem_reverse.mp member)
  rw [dropBlanksEnd, List.reverse_append, List.dropWhile_append_of_pos behind]
  exact closes.dropBlanksEnd_eq

theorem exists_space (cs : List Char) : ∃ space, AllBlank space ∧ cs = dropBlanksEnd cs ++ space := by
  obtain ⟨gap, blank, same⟩ := exists_gap cs.reverse
  refine ⟨gap.reverse, fun c member => blank c (List.mem_reverse.mp member), ?_⟩
  rw [dropBlanksEnd, ← List.reverse_append, ← dropBlanks, ← same, List.reverse_reverse]

theorem trimChars_around {gap text space : List Char} (before : AllBlank gap) (solid : Solid text)
    (behind : AllBlank space) : trimChars (gap ++ (text ++ space)) = text := by
  rw [trimChars, dropBlanks_append before (solid.opens.append space), dropBlanksEnd_append solid.closes behind]

theorem exists_around (cs : List Char) :
    ∃ gap space, AllBlank gap ∧ AllBlank space ∧ cs = gap ++ (trimChars cs ++ space) := by
  obtain ⟨gap, before, front⟩ := exists_gap cs
  obtain ⟨space, behind, back⟩ := exists_space (dropBlanks cs)
  exact ⟨gap, space, before, behind, by rw [trimChars, ← back, ← front]⟩

theorem not_blank_of_isDigit {c : Char} (digit : isDigit c = true) : isBlank c = false := by
  have apart : ∀ d ∈ blanks, (!isDigit d) = true := List.all_eq_true.mp (by decide +kernel)
  by_contra blank
  have other := apart c (List.contains_iff_mem.mp (eq_true_of_ne_false blank))
  simp [digit] at other

theorem not_isNameRest_of_blank {c : Char} (blank : isBlank c = true) : isNameRest c = false := by
  by_contra rest
  have solid := not_blank_of_isNameRest (eq_true_of_ne_false rest)
  simp [blank] at solid

theorem not_isNameRest_of_gap {gap cs : List Char} (blank : AllBlank gap)
    (ends : ∀ c ∈ cs.head?, isNameRest c = false) : ∀ c ∈ (gap ++ cs).head?, isNameRest c = false := by
  cases gap with
  | nil => exact ends
  | cons b gap =>
    rintro c ⟨⟩
    exact not_isNameRest_of_blank (blank b List.mem_cons_self)

end Text

namespace Name

theorem take?_append {name rest : List Char} (named : isName name = true)
    (ends : ∀ c ∈ rest.head?, isNameRest c = false) : take? (name ++ rest) = some (name, rest) := by
  obtain ⟨c, others, rfl, start, all⟩ := (isName_iff name).mp named
  obtain ⟨taken, left⟩ := dropWhile_append_of_head all ends
  rw [List.cons_append, take?, if_pos start, taken, left]

theorem take?_eq_some {cs name rest : List Char} (takes : take? cs = some (name, rest)) :
    cs = name ++ rest ∧ isName name = true := by
  cases cs with
  | nil => cases takes
  | cons c cs =>
    obtain ⟨start, same⟩ := Option.ite_none_right_eq_some.mp takes
    cases same
    refine ⟨?_, (isName_iff _).mpr ⟨c, _, rfl, start, fun d => List.mem_takeWhile_imp⟩⟩
    rw [List.cons_append, List.takeWhile_append_dropWhile]

theorem not_mem_of_isName {name : List Char} (named : isName name = true) {c : Char}
    (start : isNameStart c = false) (rest : isNameRest c = false) : c ∉ name := by
  obtain ⟨first, others, rfl, starts, all⟩ := (isName_iff name).mp named
  intro member
  rcases List.mem_cons.mp member with rfl | later
  next => simp [start] at starts
  next =>
    have inside := all c later
    simp [rest] at inside

end Name

theorem Comparison.takeComparison?_symbol (comparison : Comparison) {rest : List Char} (apart : rest.head? ≠ some '=') :
    Condition.takeComparison? (comparison.symbol.toList ++ rest) = some (comparison, rest) := by
  cases comparison with
  | atLeast | atMost | equal | unequal => rfl
  | above | below =>
    rcases rest with _ | ⟨c, rest⟩
    next => rfl
    next =>
      have other : c ≠ '=' := fun same => apart (congrArg some same)
      simp [symbol, Condition.takeComparison?, other]

theorem Condition.eq_append_of_takeComparison? {cs rest : List Char} {comparison : Comparison}
    (takes : takeComparison? cs = some (comparison, rest)) : cs = comparison.symbol.toList ++ rest := by
  unfold takeComparison? at takes
  split at takes <;> cases takes <;> rfl

namespace Clause

inductive Compares : List Char → List Char → Comparison → List Char → Prop where
  | mk {name gap space digits : List Char} (comparison : Comparison) (named : Name.isName name = true)
      (before : AllBlank gap) (behind : AllBlank space) (nonempty : digits ≠ [])
      (all : ∀ c ∈ digits, isDigit c = true) :
      Compares (name ++ (gap ++ (comparison.symbol.toList ++ (space ++ digits)))) name comparison digits

inductive ClauseForm : List Char → Clause → Prop where
  | named {name : List Char} (named : Name.isName name = true) : ClauseForm name ⟨String.ofList name, .atLeast, 1⟩
  | absent {gap name : List Char} (blank : AllBlank gap) (named : Name.isName name = true) :
      ClauseForm ('!' :: (gap ++ name)) ⟨String.ofList name, .below, 1⟩
  | compared {cs name digits : List Char} {comparison : Comparison} (compares : Compares cs name comparison digits)
      (short : digits.length ≤ numeralLimit) : ClauseForm cs ⟨String.ofList name, comparison, digitsValue digits⟩

def Overlong (cs : List Char) : Prop :=
  ∃ name comparison digits, Compares cs name comparison digits ∧ numeralLimit < digits.length

end Clause

namespace Condition

theorem readClause_of_take? {cs name rest : List Char} (takes : Name.take? cs = some (name, rest)) :
    readClause cs = readComparison (String.ofList name) rest := by
  unfold readClause
  split
  next => cases takes
  next => rw [takes]

theorem readComparison_compared (name : String) (comparison : Comparison) {gap space digits : List Char}
    (before : AllBlank gap) (behind : AllBlank space) (nonempty : digits ≠ []) (all : ∀ c ∈ digits, isDigit c = true) :
    readComparison name (gap ++ (comparison.symbol.toList ++ (space ++ digits))) =
      (readNumeral digits).map fun value => some ⟨name, comparison, value⟩ := by
  have opens : Opens digits := by
    obtain ⟨d, rest, rfl⟩ := List.exists_cons_of_ne_nil nonempty
    exact ⟨d, rest, rfl, not_blank_of_isDigit (all d List.mem_cons_self)⟩
  have signed (more : List Char) : Opens (comparison.symbol.toList ++ more) := by
    cases comparison <;> exact ⟨_, _, rfl, by decide⟩
  have apart : (space ++ digits).head? ≠ some '=' := by
    intro first
    rcases List.mem_append.mp (List.mem_of_mem_head? first) with blank | digit
    next => exact absurd (behind '=' blank) (by decide)
    next => exact absurd (all '=' digit) (by decide)
  have some_text : gap ++ (comparison.symbol.toList ++ (space ++ digits)) ≠ [] := by simp [nonempty]
  unfold readComparison
  split
  next empty => exact absurd empty some_text
  next =>
    rw [dropBlanks_append before (signed _), comparison.takeComparison?_symbol apart]
    dsimp only
    rw [dropBlanks_append behind opens, if_neg (by simpa [nonempty] using all)]

theorem readClause_of_compares {cs name digits : List Char} {comparison : Comparison}
    (compares : Clause.Compares cs name comparison digits) :
    readClause cs = (readNumeral digits).map fun value => some ⟨String.ofList name, comparison, value⟩ := by
  obtain ⟨_, named, before, behind, nonempty, all⟩ := compares
  have ends (more : List Char) : ∀ c ∈ (comparison.symbol.toList ++ more).head?, isNameRest c = false := by
    cases comparison <;> rintro c ⟨⟩ <;> decide
  rw [readClause_of_take? (Name.take?_append named (not_isNameRest_of_gap before (ends _)))]
  exact readComparison_compared _ comparison before behind nonempty all

theorem readClause_of_form {cs : List Char} {clause : Clause} (form : Clause.ClauseForm cs clause) :
    readClause cs = .ok (some clause) := by
  cases form with
  | named named =>
    rw [readClause_of_take? (Name.take?_of_isName named)]
    rfl
  | @absent gap name blank named =>
    have left := dropBlanks_append blank (Name.solid_of_isName named).opens
    rw [readClause, left, Name.take?_of_isName named]
  | compared compares short => rw [readClause_of_compares compares, readNumeral, if_pos short, Except.map]

theorem readClause_of_overlong {cs : List Char} (overlong : Clause.Overlong cs) : readClause cs = .error {} := by
  obtain ⟨name, comparison, digits, compares, long⟩ := overlong
  rw [readClause_of_compares compares, readNumeral, if_neg (Nat.not_le.mpr long), Except.map]

theorem readComparison_cases (name : String) (cs : List Char) :
    readComparison name cs = .ok none ∨ cs = [] ∨
      ∃ (gap : List Char) (comparison : Comparison) (space digits : List Char), AllBlank gap ∧ AllBlank space ∧
        digits ≠ [] ∧ (∀ c ∈ digits, isDigit c = true) ∧ cs = gap ++ (comparison.symbol.toList ++ (space ++ digits)) := by
  unfold readComparison
  split
  next => exact .inr (.inl rfl)
  next =>
    split
    next => exact .inl rfl
    next comparison rest takes =>
      obtain ⟨gap, before, front⟩ := exists_gap cs
      obtain ⟨space, behind, back⟩ := exists_gap rest
      dsimp only
      split
      next => exact .inl rfl
      next numeral =>
        rw [Bool.not_eq_true, Bool.or_eq_false_iff] at numeral
        refine .inr (.inr ⟨gap, comparison, space, dropBlanks rest, before, behind, by simpa using numeral.1,
          List.all_eq_true.mp (by simpa using numeral.2), ?_⟩)
        rw [← back, ← eq_append_of_takeComparison? takes, ← front]

theorem readClause_cases (cs : List Char) :
    (∃ clause, Clause.ClauseForm cs clause) ∨ Clause.Overlong cs ∨ readClause cs = .ok none := by
  have compared {name digits : List Char} {comparison : Comparison}
      (compares : Clause.Compares cs name comparison digits) :
      (∃ clause, Clause.ClauseForm cs clause) ∨ Clause.Overlong cs := by
    rcases Nat.lt_or_ge numeralLimit digits.length with long | short
    next => exact .inr ⟨_, _, _, compares, long⟩
    next => exact .inl ⟨_, .compared compares short⟩
  unfold readClause
  split
  next inner =>
    split
    next name takes =>
      obtain ⟨gap, blank, whole⟩ := exists_gap inner
      obtain ⟨same, named⟩ := Name.take?_eq_some takes
      rw [List.append_nil] at same
      rw [whole, same]
      exact .inl ⟨_, .absent blank named⟩
    next => exact .inr (.inr rfl)
  next =>
    split
    next name rest takes =>
      obtain ⟨same, named⟩ := Name.take?_eq_some takes
      rcases readComparison_cases (String.ofList name) rest with neither | rfl | shape
      next => exact .inr (.inr neither)
      next =>
        rw [same, List.append_nil]
        exact .inl ⟨_, .named named⟩
      next =>
        obtain ⟨gap, comparison, space, digits, before, behind, nonempty, all, whole⟩ := shape
        rw [whole] at same
        have compares := Clause.Compares.mk comparison named before behind nonempty all
        rw [← same] at compares
        exact (compared compares).imp_right .inl
    next => exact .inr (.inr rfl)

theorem peel_eq_self {cs : List Char} (unbracketed : cs.head? ≠ some '[') : peel cs = cs := by
  unfold peel
  split
  next => exact absurd rfl unbracketed
  next => rfl

def PartForm (part : List Char) (clause : Clause) : Prop := Clause.ClauseForm (peel (trimChars part)) clause

def PartOverlong (part : List Char) : Prop := Clause.Overlong (peel (trimChars part))

def PartsForm (cs : List Char) (clauses : List Clause) : Prop := List.Forall₂ PartForm (cs.splitOn '&') clauses

def PartsOverlong (parts : List (List Char)) : Prop :=
  ∃ before part after, parts = before ++ part :: after ∧ (∀ other ∈ before, ∃ clause, PartForm other clause) ∧
    PartOverlong part

def Overlong (cs : List Char) : Prop := PartsOverlong (cs.splitOn '&')

theorem readClauses_cons {part : List Char} {clause : Clause} (form : PartForm part clause)
    (parts : List (List Char)) :
    readClauses (part :: parts) = (readClauses parts).map fun clauses => clauses.map (clause :: ·) := by
  rw [readClauses, readClause_of_form form]
  cases readClauses parts <;> rfl

theorem readClauses_of_forms {parts : List (List Char)} {clauses : List Clause}
    (forms : List.Forall₂ PartForm parts clauses) : readClauses parts = .ok (some clauses) := by
  induction forms with
  | nil => rfl
  | cons form _ ih =>
    rw [readClauses_cons form, ih]
    rfl

theorem readClauses_of_overlong {parts : List (List Char)} (overlong : PartsOverlong parts) :
    readClauses parts = .error {} := by
  obtain ⟨before, part, after, rfl, forms, long⟩ := overlong
  induction before with
  | nil =>
    rw [List.nil_append, readClauses, readClause_of_overlong long]
    rfl
  | cons other before ih =>
    obtain ⟨clause, form⟩ := forms other List.mem_cons_self
    rw [List.cons_append, readClauses_cons form, ih fun next member => forms next (List.mem_cons_of_mem _ member)]
    rfl

theorem readClauses_cases (parts : List (List Char)) :
    (∃ clauses, List.Forall₂ PartForm parts clauses) ∨ PartsOverlong parts ∨ readClauses parts = .ok none := by
  induction parts with
  | nil => exact .inl ⟨[], .nil⟩
  | cons part parts ih =>
    rcases readClause_cases (peel (trimChars part)) with ⟨clause, form⟩ | long | neither
    next =>
      rcases ih with ⟨clauses, forms⟩ | ⟨before, other, after, rfl, forms, long⟩ | neither
      next => exact .inl ⟨clause :: clauses, .cons form forms⟩
      next =>
        refine .inr (.inl ⟨part :: before, other, after, rfl, ?_, long⟩)
        exact List.forall_mem_cons.mpr ⟨⟨clause, form⟩, forms⟩
      next =>
        rw [readClauses_cons form, neither]
        exact .inr (.inr rfl)
    next => exact .inr (.inl ⟨[], part, parts, rfl, nofun, long⟩)
    next =>
      rw [readClauses, neither]
      exact .inr (.inr rfl)

theorem read_of_form {cs : List Char} {clauses : List Clause} (form : PartsForm cs clauses) :
    read (String.ofList cs) = .ok (some clauses) := by
  rw [read, String.toList_ofList]
  exact readClauses_of_forms form

theorem read_of_overlong {cs : List Char} (overlong : Overlong cs) : read (String.ofList cs) = .error {} := by
  rw [read, String.toList_ofList]
  exact readClauses_of_overlong overlong

theorem read_cases (cs : List Char) :
    (∃ clauses, PartsForm cs clauses) ∨ Overlong cs ∨ read (String.ofList cs) = .ok none := by
  rw [read, String.toList_ofList]
  exact readClauses_cases _

end Condition

end Gamebook
