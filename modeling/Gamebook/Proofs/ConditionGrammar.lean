import Mathlib.Data.List.Forall2
import Gamebook.Proofs.ConditionForms

set_option autoImplicit false

namespace Gamebook

open Gamebook.Text

namespace Text

-- The number that a run of decimal digits spells.
inductive Spells : List Char → Nat → Prop where
  | one {c : Char} {n : Nat} (digit : digitValue? c = some n) : Spells [c] n
  | more {cs : List Char} {c : Char} {n d : Nat} (front : Spells cs n) (digit : digitValue? c = some d) :
      Spells (cs ++ [c]) (10 * n + d)

theorem digitsValue_concat {cs : List Char} {c : Char} {d : Nat} (digit : digitValue? c = some d) :
    digitsValue (cs ++ [c]) = 10 * digitsValue cs + d := by
  simp [digitsValue, digit]

theorem spells_iff {cs : List Char} {n : Nat} :
    Spells cs n ↔ cs ≠ [] ∧ (∀ c ∈ cs, isDigit c = true) ∧ digitsValue cs = n := by
  constructor
  next =>
    intro spells
    induction spells with
    | one digit => simp [isDigit, digitsValue, digit]
    | @more cs c n d _ digit ih =>
      obtain ⟨-, all, rfl⟩ := ih
      refine ⟨by simp, ?_, digitsValue_concat digit⟩
      intro e member
      rcases List.mem_append.mp member with before | last
      next => exact all e before
      next => simp [List.mem_singleton.mp last, isDigit, digit]
  next =>
    rintro ⟨nonempty, all, rfl⟩
    induction cs using List.reverseRecOn with
    | nil => exact absurd rfl nonempty
    | append_singleton cs c ih =>
      obtain ⟨d, digit⟩ := Option.isSome_iff_exists.mp (all c (by simp))
      rw [digitsValue_concat digit]
      by_cases first : cs = []
      next =>
        rw [first]
        simpa [digitsValue] using Spells.one digit
      next => exact .more (ih first fun e member => all e (by simp [member])) digit

def ShortRuns (cs : List Char) : Prop :=
  ∀ run, run <:+: cs → (∀ c ∈ run, isDigit c = true) → run.length ≤ numeralLimit

theorem ShortRuns.of_infix {cs part : List Char} (short : ShortRuns cs) (inside : part <:+: cs) : ShortRuns part :=
  fun run within => short run (within.trans inside)

end Text

namespace Name

-- A letter or an underscore, and word characters and dashes after it.
inductive Spelt : List Char → Prop where
  | mk {c : Char} {rest : List Char} (start : c.isAlpha = true ∨ c = '_')
      (others : ∀ d ∈ rest, isWord d = true ∨ d = '-') : Spelt (c :: rest)

theorem spelt_iff {name : List Char} : Spelt name ↔ isName name = true := by
  rw [isName_iff]
  constructor
  next =>
    rintro ⟨start, others⟩
    exact ⟨_, _, rfl, by simpa [isNameStart] using start, by simpa [isNameRest] using others⟩
  next =>
    rintro ⟨c, rest, rfl, start, others⟩
    exact ⟨by simpa [isNameStart] using start, by simpa [isNameRest] using others⟩

end Name

namespace Condition

inductive Body : List Char → Clause → Prop where
  | present {name : List Char} (spelt : Name.Spelt name) : Body name ⟨String.ofList name, .atLeast, 1⟩
  | absent {gap name : List Char} (blank : AllBlank gap) (spelt : Name.Spelt name) :
      Body ('!' :: (gap ++ name)) ⟨String.ofList name, .below, 1⟩
  | compared {name gap space digits : List Char} {value : Nat} (comparison : Comparison) (spelt : Name.Spelt name)
      (before : AllBlank gap) (behind : AllBlank space) (spells : Spells digits value) :
      Body (name ++ (gap ++ (comparison.symbol.toList ++ (space ++ digits)))) ⟨String.ofList name, comparison, value⟩

inductive Part : List Char → Clause → Prop where
  | plain {gap cs space : List Char} {clause : Clause} (before : AllBlank gap) (body : Body cs clause)
      (behind : AllBlank space) : Part (gap ++ (cs ++ space)) clause
  | bracketed {gap inner cs outer space : List Char} {clause : Clause} (before : AllBlank gap) (opens : AllBlank inner)
      (body : Body cs clause) (closes : AllBlank outer) (behind : AllBlank space) :
      Part (gap ++ ('[' :: (inner ++ (cs ++ outer)) ++ [']'] ++ space)) clause

/-- A condition as it may be written: parts with ampersands between them, one for each clause. -/
def Written (cs : List Char) (clauses : List Clause) : Prop :=
  ∃ parts, parts ≠ [] ∧ cs = ['&'].intercalate parts ∧ List.Forall₂ Part parts clauses

theorem body_of_form {cs : List Char} {clause : Clause} (form : Clause.ClauseForm cs clause) : Body cs clause := by
  cases form with
  | named named => exact .present (Name.spelt_iff.mpr named)
  | absent blank named => exact .absent blank (Name.spelt_iff.mpr named)
  | compared compares short =>
    obtain ⟨_, named, before, behind, nonempty, all⟩ := compares
    exact .compared _ (Name.spelt_iff.mpr named) before behind (spells_iff.mpr ⟨nonempty, all, rfl⟩)

theorem Body.form {cs : List Char} {clause : Clause} (body : Body cs clause) (short : ShortRuns cs) :
    Clause.ClauseForm cs clause := by
  cases body with
  | present spelt => exact .named (Name.spelt_iff.mp spelt)
  | absent blank spelt => exact .absent blank (Name.spelt_iff.mp spelt)
  | @compared name gap space digits _ comparison spelt before behind spells =>
    obtain ⟨nonempty, all, rfl⟩ := spells_iff.mp spells
    have within : digits <:+: name ++ (gap ++ (comparison.symbol.toList ++ (space ++ digits))) :=
      ⟨name ++ gap ++ comparison.symbol.toList ++ space, [], by simp⟩
    exact .compared (.mk comparison (Name.spelt_iff.mp spelt) before behind nonempty all) (short digits within all)

theorem Body.solid {cs : List Char} {clause : Clause} (body : Body cs clause) : Solid cs := by
  cases body with
  | present spelt => exact Name.solid_of_isName (Name.spelt_iff.mp spelt)
  | @absent gap name blank spelt =>
    have named := Name.solid_of_isName (Name.spelt_iff.mp spelt)
    exact solid_of_opens_closes ⟨'!', _, rfl, by decide⟩ (named.closes.append ('!' :: gap))
  | @compared name gap space digits _ comparison spelt before behind spells =>
    have named := Name.solid_of_isName (Name.spelt_iff.mp spelt)
    obtain ⟨nonempty, all, -⟩ := spells_iff.mp spells
    have ends : Closes digits :=
      closes_of_getLast? nonempty fun c last => not_blank_of_isDigit (all c (List.mem_of_mem_getLast? last))
    have ended := ends.append (name ++ gap ++ comparison.symbol.toList ++ space)
    exact solid_of_opens_closes (named.opens.append _) (by simpa using ended)

-- A character that no clause has.
def isForeign (c : Char) : Bool :=
  !(isNameStart c || isNameRest c || isBlank c || isDigit c || ['!', '<', '=', '>'].contains c)

theorem not_mem_of_allBlank {gap : List Char} (blank : AllBlank gap) {c : Char} (foreign : isForeign c = true) :
    c ∉ gap := by
  intro member
  simp [isForeign, blank c member] at foreign

theorem Body.not_mem {cs : List Char} {clause : Clause} (body : Body cs clause) {c : Char}
    (foreign : isForeign c = true) : c ∉ cs := by
  have apart := foreign
  simp only [isForeign, Bool.not_eq_true', Bool.or_eq_false_iff] at apart
  obtain ⟨⟨⟨⟨start, rest⟩, -⟩, digit⟩, sign⟩ := apart
  have unnamed {name : List Char} (spelt : Name.Spelt name) : c ∉ name :=
    Name.not_mem_of_isName (Name.spelt_iff.mp spelt) start rest
  cases body with
  | present spelt => exact unnamed spelt
  | absent blank spelt =>
    have other : c ≠ '!' := by
      rintro rfl
      exact absurd sign (by decide)
    simp [other, not_mem_of_allBlank blank foreign, unnamed spelt]
  | compared comparison spelt before behind spells =>
    have signed : c ∉ comparison.symbol.toList := by
      have listed : comparison.symbol.toList.all (['!', '<', '=', '>'].contains ·) = true := by
        cases comparison <;> decide
      intro member
      rw [List.all_eq_true.mp listed c member] at sign
      cases sign
    have numbered : c ∉ _ := fun member => by simpa [digit] using (spells_iff.mp spells).2.1 c member
    simp [unnamed spelt, not_mem_of_allBlank before foreign, signed, not_mem_of_allBlank behind foreign, numbered]

theorem Part.not_mem {part : List Char} {clause : Clause} (written : Part part clause) {c : Char}
    (foreign : isForeign c = true) (unbracketed : c ∉ ['[', ']']) : c ∉ part := by
  cases written with
  | plain before body behind =>
    simp [not_mem_of_allBlank before foreign, body.not_mem foreign, not_mem_of_allBlank behind foreign]
  | bracketed before opens body closes behind =>
    have others : c ≠ '[' ∧ c ≠ ']' := by simpa using unbracketed
    simp [not_mem_of_allBlank before foreign, not_mem_of_allBlank opens foreign, body.not_mem foreign,
      not_mem_of_allBlank closes foreign, not_mem_of_allBlank behind foreign, others]

theorem peel_bracketed (inner : List Char) : peel ('[' :: inner ++ [']']) = trimChars inner := by
  simp [peel]

theorem peel_cases (cs : List Char) :
    peel cs = cs ∨ ∃ inner, cs = '[' :: inner ++ [']'] ∧ peel cs = trimChars inner := by
  unfold peel
  split
  next cs =>
    split
    next closed =>
      obtain ⟨front, rfl⟩ := List.getLast?_eq_some_iff.mp (eq_of_beq closed)
      exact .inr ⟨front, rfl, by rw [List.dropLast_concat]⟩
    next => exact .inl rfl
  next => exact .inl rfl

theorem partForm_of_part {part : List Char} {clause : Clause} (written : Part part clause) (short : ShortRuns part) :
    PartForm part clause := by
  unfold PartForm
  cases written with
  | @plain gap cs space _ before body behind =>
    have form := body.form (short.of_infix ⟨gap, space, by simp⟩)
    have unbracketed : cs.head? ≠ some '[' := fun first => body.not_mem (by decide) (List.mem_of_mem_head? first)
    rw [trimChars_around before body.solid behind, peel_eq_self unbracketed]
    exact form
  | @bracketed gap inner cs outer space _ before opens body closes behind =>
    have form := body.form (short.of_infix ⟨gap ++ '[' :: inner, outer ++ ']' :: space, by simp⟩)
    have solid : Solid ('[' :: (inner ++ (cs ++ outer)) ++ [']']) :=
      solid_of_opens_closes ⟨'[', _, rfl, by decide⟩ ⟨_, ']', rfl, by decide⟩
    rw [trimChars_around before solid behind, peel_bracketed, trimChars_around opens body.solid closes]
    exact form

theorem part_of_partForm {part : List Char} {clause : Clause} (form : PartForm part clause) : Part part clause := by
  obtain ⟨gap, space, before, behind, whole⟩ := exists_around part
  have body := body_of_form form
  rcases peel_cases (trimChars part) with same | ⟨inner, bracketed, same⟩
  next =>
    rw [same] at body
    rw [whole]
    exact .plain before body behind
  next =>
    obtain ⟨opens, closes, inside, outside, within⟩ := exists_around inner
    rw [same] at body
    rw [whole, bracketed, within]
    exact .bracketed before inside body outside behind

theorem written_of_form {cs : List Char} {clauses : List Clause} (form : PartsForm cs clauses) : Written cs clauses :=
  ⟨cs.splitOn '&', List.splitOn_ne_nil _ _, (List.intercalate_splitOn '&').symm, form.imp fun _ _ => part_of_partForm⟩

theorem written_of_read {text : String} {clauses : List Clause} (reads : read text = .ok (some clauses)) :
    Written text.toList clauses := by
  rw [← text.ofList_toList] at reads
  rcases read_cases text.toList with ⟨others, form⟩ | overlong | neither
  next =>
    rw [read_of_form form] at reads
    cases reads
    exact written_of_form form
  next =>
    rw [read_of_overlong overlong] at reads
    cases reads
  next =>
    rw [neither] at reads
    cases reads

theorem Written.not_mem {cs : List Char} {clauses : List Clause} (written : Written cs clauses) {c : Char}
    (foreign : isForeign c = true) (other : c ∉ ['[', ']', '&']) : c ∉ cs := by
  have apart : c ∉ ['[', ']'] ∧ c ≠ '&' := by simpa [and_assoc] using other
  obtain ⟨parts, -, rfl, each⟩ := written
  induction each with
  | nil => exact List.not_mem_nil
  | @cons part _ parts _ written rest ih =>
    have first := written.not_mem foreign apart.1
    cases rest with
    | nil => rwa [List.intercalate_singleton]
    | cons => simp [List.intercalate_cons_cons, first, apart.2, ih]

theorem Written.form {cs : List Char} {clauses : List Clause} (written : Written cs clauses) (short : ShortRuns cs) :
    PartsForm cs clauses := by
  obtain ⟨parts, nonempty, rfl, each⟩ := written
  have plain : ∀ part ∈ parts, '&' ∉ part :=
    ((List.forall₂_and_left _ _).mp (each.imp fun _ _ part => ⟨part.not_mem (by decide) (by decide), part⟩)).1
  have split : (['&'].intercalate parts).splitOn '&' = parts := List.splitOn_intercalate '&' plain nonempty
  have brief : ∀ part ∈ parts, ShortRuns part := by
    intro part member
    rw [← split] at member
    exact short.of_infix (isInfix_of_mem_splitOn member)
  rw [PartsForm, split]
  exact ((List.forall₂_and_left _ _).mpr ⟨brief, each⟩).imp fun _ _ both => partForm_of_part both.2 both.1

theorem peel_trimChars_isInfix (cs : List Char) : peel (trimChars cs) <:+: cs := by
  have trimmed (text : List Char) : trimChars text <:+: text := by
    obtain ⟨gap, space, -, -, whole⟩ := exists_around text
    exact ⟨gap, space, by rw [List.append_assoc, ← whole]⟩
  rcases peel_cases (trimChars cs) with same | ⟨inner, bracketed, same⟩
  next =>
    rw [same]
    exact trimmed cs
  next =>
    have inside : inner <:+: trimChars cs := ⟨['['], [']'], by rw [bracketed]; rfl⟩
    rw [same]
    exact ((trimmed inner).trans inside).trans (trimmed cs)

theorem not_overlong {cs : List Char} (short : ShortRuns cs) : ¬Overlong cs := by
  rintro ⟨before, part, after, split, -, name, comparison, digits, compares, long⟩
  have inside : part <:+: cs := isInfix_of_mem_splitOn (by rw [split]; simp)
  have numeral : digits <:+: peel (trimChars part) ∧ ∀ c ∈ digits, isDigit c = true := by
    generalize peel (trimChars part) = text at compares
    obtain @⟨_, gap, space, _, _, -, -, -, -, all⟩ := compares
    exact ⟨⟨name ++ gap ++ comparison.symbol.toList ++ space, [], by simp⟩, all⟩
  have few := short digits (numeral.1.trans ((peel_trimChars_isInfix part).trans inside)) numeral.2
  omega

/-- A condition is read as clauses if and only if it is written as these, and every other text as none. -/
theorem read_iff_written {text : String} (short : ShortRuns text.toList) :
    (∀ clauses, read text = .ok (some clauses) ↔ Written text.toList clauses) ∧
      (read text = .ok none ↔ ¬∃ clauses, Written text.toList clauses) := by
  have reads {clauses : List Clause} (written : Written text.toList clauses) : read text = .ok (some clauses) := by
    rw [← text.ofList_toList]
    exact read_of_form (written.form short)
  refine ⟨fun clauses => ⟨written_of_read, reads⟩, fun nothing => ?_, fun unwritten => ?_⟩
  next =>
    rintro ⟨clauses, written⟩
    rw [reads written] at nothing
    cases nothing
  next =>
    rcases read_cases text.toList with ⟨clauses, form⟩ | overlong | neither
    next => exact absurd ⟨clauses, written_of_form form⟩ unwritten
    next => exact absurd overlong (not_overlong short)
    next => rwa [text.ofList_toList] at neither

theorem shortRuns_of_length {cs : List Char} (few : cs.length ≤ numeralLimit) : ShortRuns cs :=
  fun _ within _ => within.length_le.trans few

theorem read_iff_written_by_lamplight :
    let text := " [ lamp >=\u0663 ]& !  key &_x-2"
    let clauses : List Clause := [⟨"lamp", .atLeast, 3⟩, ⟨"key", .below, 1⟩, ⟨"_x-2", .atLeast, 1⟩]
    ShortRuns text.toList ∧ read text = .ok (some clauses) ∧ Written text.toList clauses ∧
      ShortRuns "!lamp >= 3".toList ∧ ¬∃ clauses, Written "!lamp >= 3".toList clauses := by
  have found : read " [ lamp >=\u0663 ]& !  key &_x-2" =
      .ok (some [⟨"lamp", .atLeast, 3⟩, ⟨"key", .below, 1⟩, ⟨"_x-2", .atLeast, 1⟩]) := by rfl
  have refused : read "!lamp >= 3" = .ok none := by rfl
  have short : ShortRuns " [ lamp >=\u0663 ]& !  key &_x-2".toList := shortRuns_of_length (by decide)
  have brief : ShortRuns "!lamp >= 3".toList := shortRuns_of_length (by decide)
  exact ⟨short, found, ((read_iff_written short).1 _).mp found, brief, (read_iff_written brief).2.mp refused⟩

end Condition

end Gamebook
