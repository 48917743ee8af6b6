import Mathlib.Data.List.Basic
import Mathlib.Data.List.TakeWhile
import Gamebook.Script.Option
import Gamebook.Script.Printer
import Gamebook.Text.Search

set_option autoImplicit false

namespace Gamebook.Text

/-- Something is there, and no blanks stand around it. -/
structure Solid (cs : List Char) : Prop where
  nonempty : cs ≠ []
  trimmed : trimChars cs = cs

instance (cs : List Char) : Decidable (Solid cs) :=
  decidable_of_iff (cs ≠ [] ∧ trimChars cs = cs) ⟨fun ⟨nonempty, trimmed⟩ => ⟨nonempty, trimmed⟩,
    fun ⟨nonempty, trimmed⟩ => ⟨nonempty, trimmed⟩⟩

def Opens (cs : List Char) : Prop := ∃ c rest, cs = c :: rest ∧ isBlank c = false

def Closes (cs : List Char) : Prop := ∃ front c, cs = front ++ [c] ∧ isBlank c = false

theorem Opens.append {cs : List Char} (opens : Opens cs) (rest : List Char) : Opens (cs ++ rest) := by
  obtain ⟨c, more, rfl, solid⟩ := opens
  exact ⟨c, more ++ rest, rfl, solid⟩

theorem Closes.append {cs : List Char} (closes : Closes cs) (front : List Char) : Closes (front ++ cs) := by
  obtain ⟨more, c, rfl, solid⟩ := closes
  exact ⟨front ++ more, c, by simp, solid⟩

theorem Opens.dropBlanks_eq {cs : List Char} (opens : Opens cs) : dropBlanks cs = cs := by
  obtain ⟨c, rest, rfl, solid⟩ := opens
  simp [dropBlanks, solid]

theorem Closes.dropBlanksEnd_eq {cs : List Char} (closes : Closes cs) : dropBlanksEnd cs = cs := by
  obtain ⟨front, c, rfl, solid⟩ := closes
  simp [dropBlanksEnd, solid]

theorem solid_of_opens_closes {cs : List Char} (opens : Opens cs) (closes : Closes cs) : Solid cs := by
  refine ⟨?_, by rw [trimChars, opens.dropBlanks_eq, closes.dropBlanksEnd_eq]⟩
  obtain ⟨c, rest, rfl, -⟩ := opens
  exact List.cons_ne_nil c rest

theorem Solid.isEmpty_eq {s : String} (solid : Solid s.toList) : s.isEmpty = false := by
  rw [Bool.eq_false_iff, ne_eq, String.isEmpty_iff]
  rintro rfl
  exact solid.nonempty rfl

theorem not_blank_of_dropBlanks_eq {c : Char} {rest : List Char} (same : dropBlanks (c :: rest) = c :: rest) :
    isBlank c = false := by
  by_contra blank
  have shorter : (dropBlanks rest).length ≤ rest.length := (List.dropWhile_suffix isBlank).length_le
  rw [dropBlanks, List.dropWhile_cons_of_pos (by simpa using blank)] at same
  rw [dropBlanks, same, List.length_cons] at shorter
  omega

theorem Solid.opens {cs : List Char} (solid : Solid cs) : Opens cs := by
  obtain ⟨nonempty, trimmed⟩ := solid
  match cs with
  | [] => exact absurd rfl nonempty
  | c :: rest =>
    -- What is trimmed at its end too is no longer, so nothing is lost at the front.
    have same : dropBlanks (c :: rest) = c :: rest := by
      refine (List.dropWhile_suffix isBlank).eq_of_length_le ?_
      calc (c :: rest).length = (dropBlanksEnd (dropBlanks (c :: rest))).length := by rw [← trimChars, trimmed]
        _ ≤ (dropBlanks (c :: rest)).reverse.length := by
          rw [dropBlanksEnd, List.length_reverse]
          exact (List.dropWhile_suffix isBlank).length_le
        _ = (dropBlanks (c :: rest)).length := List.length_reverse
    exact ⟨c, rest, rfl, not_blank_of_dropBlanks_eq same⟩

theorem Solid.closes {cs : List Char} (solid : Solid cs) : Closes cs := by
  have trimmed := solid.trimmed
  rw [trimChars, solid.opens.dropBlanks_eq, dropBlanksEnd, List.reverse_eq_iff] at trimmed
  obtain ⟨front, c, rfl⟩ := (List.eq_nil_or_concat' cs).resolve_left solid.nonempty
  rw [List.reverse_append, List.reverse_singleton, List.singleton_append] at trimmed
  exact ⟨front, c, rfl, not_blank_of_dropBlanks_eq trimmed⟩

theorem closes_of_getLast? {cs : List Char} (nonempty : cs ≠ []) (last : ∀ c ∈ cs.getLast?, isBlank c = false) :
    Closes cs := by
  obtain ⟨front, c, rfl⟩ := (List.eq_nil_or_concat' cs).resolve_left nonempty
  exact ⟨front, c, rfl, last c (by simp)⟩

theorem Closes.getLast? {cs : List Char} (closes : Closes cs) : ∀ c ∈ cs.getLast?, isBlank c = false := by
  obtain ⟨front, c, rfl, solid⟩ := closes
  simpa using solid

theorem Solid.trimChars_space {cs : List Char} (solid : Solid cs) : trimChars (cs ++ [' ']) = cs := by
  obtain ⟨front, c, same, closed⟩ := solid.closes
  have space : isBlank ' ' = true := by decide
  rw [trimChars, (solid.opens.append [' ']).dropBlanks_eq, same]
  simp [dropBlanksEnd, closed, space]

theorem Solid.mid {first last : List Char} (solid : Solid first) (ends : Solid last) (between : List Char) :
    Solid (first ++ between ++ last) :=
  solid_of_opens_closes ((solid.opens.append between).append last) (ends.closes.append (first ++ between))

-- A word without blanks does not reach past a blank.
theorem prefix_of_prefix_append {word front tail : List Char} (plain : ∀ c ∈ word, isBlank c = false)
    (follows : ∀ c ∈ tail.head?, isBlank c = true) (starts : word <+: front ++ tail) : word <+: front := by
  induction front generalizing word with
  | nil =>
    match word, tail with
    | [], _ => exact List.nil_prefix
    | _ :: _, [] => exact starts
    | c :: word, d :: tail =>
      obtain ⟨rfl, -⟩ := List.cons_prefix_cons.mp starts
      have blank := follows c rfl
      simp [plain c List.mem_cons_self] at blank
  | cons d front ih =>
    match word with
    | [] => exact List.nil_prefix
    | c :: word =>
      obtain ⟨rfl, further⟩ := List.cons_prefix_cons.mp starts
      exact List.cons_prefix_cons.mpr ⟨rfl, ih (fun x member => plain x (List.mem_cons_of_mem _ member)) further⟩

theorem afterWord?_eq_none {word : String} {cs : List Char} (apart : ¬word.toList <+: cs) :
    afterWord? word cs = none := by
  simpa [afterWord?] using apart

theorem mem_dropBlanks {c : Char} {cs : List Char} (solid : isBlank c = false) (member : c ∈ cs) :
    c ∈ dropBlanks cs := by
  rw [← List.takeWhile_append_dropWhile (p := isBlank) (l := cs)] at member
  refine (List.mem_append.mp member).resolve_left fun front => ?_
  have blank := List.mem_takeWhile_imp front
  simp [solid] at blank

end Gamebook.Text

namespace Gamebook

open Gamebook.Text

theorem not_blank_of_none {p : Char → Bool} (none_blank : blanks.all (fun c => !p c) = true) {c : Char}
    (holds : p c = true) : isBlank c = false := by
  by_contra blank
  have := List.all_eq_true.mp none_blank c (by simpa [isBlank] using blank)
  simp [holds] at this

theorem not_blank_of_isNameRest {c : Char} (rest : isNameRest c = true) : isBlank c = false :=
  not_blank_of_none (by decide +kernel) rest

theorem not_blank_of_isNameStart {c : Char} (start : isNameStart c = true) : isBlank c = false :=
  not_blank_of_none (by decide +kernel) start

namespace Name

theorem isName_iff (cs : List Char) :
    isName cs = true ↔ ∃ c rest, cs = c :: rest ∧ isNameStart c = true ∧ ∀ d ∈ rest, isNameRest d = true := by
  unfold isName
  match cs with
  | [] => simp [take?]
  | c :: rest =>
    cases start : isNameStart c with
    | false => simp [take?, start]
    | true =>
      cases left : rest.dropWhile isNameRest with
      | nil =>
        have all := List.dropWhile_eq_nil_iff.mp left
        simpa [take?, start, left] using all
      | cons d more =>
        have some_other : ¬∀ d ∈ rest, isNameRest d = true := by
          rw [← List.dropWhile_eq_nil_iff, left]
          simp
        simp [take?, start, left, some_other]

theorem take?_of_isName {cs : List Char} (name : isName cs = true) : take? cs = some (cs, []) := by
  obtain ⟨c, rest, rfl, start, all⟩ := (isName_iff cs).mp name
  rw [take?, if_pos start, List.takeWhile_eq_self_iff.mpr all, List.dropWhile_eq_nil_iff.mpr all]

theorem solid_of_isName {cs : List Char} (name : isName cs = true) : Solid cs := by
  obtain ⟨c, rest, rfl, start, all⟩ := (isName_iff cs).mp name
  refine solid_of_opens_closes ⟨c, rest, rfl, not_blank_of_isNameStart start⟩ ?_
  rcases List.eq_nil_or_concat' rest with rfl | ⟨front, d, rfl⟩
  next => exact ⟨[], c, rfl, not_blank_of_isNameStart start⟩
  next => exact ⟨c :: front, d, rfl, not_blank_of_isNameRest (all d (by simp))⟩

end Name

namespace Gate

def isForeign (c : Char) : Bool :=
  !(isBlank c || isNameStart c || isNameRest c || ['?', '!', '[', ']'].contains c)

theorem mem_of_take? {c : Char} (foreign : isForeign c = true) {cs name rest : List Char}
    (takes : Name.take? cs = some (name, rest)) (member : c ∈ cs) : c ∈ rest := by
  match cs with
  | [] => simp at member
  | d :: cs =>
    rw [Name.take?] at takes
    split at takes
    next start =>
      cases takes
      simp only [isForeign, Bool.not_eq_true', Bool.or_eq_false_iff] at foreign
      rcases List.mem_cons.mp member with rfl | later
      next => simp [start] at foreign
      next =>
        rw [← List.takeWhile_append_dropWhile (p := isNameRest) (l := cs)] at later
        refine (List.mem_append.mp later).resolve_left fun front => ?_
        have inside := List.mem_takeWhile_imp front
        simp [foreign] at inside
    next => cases takes

theorem not_blank_of_isForeign {c : Char} (foreign : isForeign c = true) : isBlank c = false := by
  simp only [isForeign, Bool.not_eq_true', Bool.or_eq_false_iff] at foreign
  exact foreign.1.1.1

theorem ne_of_isForeign {c d : Char} (foreign : isForeign c = true) (known : isForeign d = false) : c ≠ d := by
  rintro rfl
  simp [known] at foreign

theorem mem_of_takeTerm? {c : Char} (foreign : isForeign c = true) {cs term rest : List Char}
    (takes : takeTerm? cs = some (term, rest)) (member : c ∈ cs) : c ∈ rest := by
  unfold takeTerm? at takes
  split at takes
  next more =>
    obtain ⟨⟨name, left⟩, taken, same⟩ := Option.map_eq_some_iff.mp takes
    cases same
    have later := (List.mem_cons.mp member).resolve_left (ne_of_isForeign foreign (by decide))
    exact mem_of_take? foreign taken (mem_dropBlanks (not_blank_of_isForeign foreign) later)
  next => exact mem_of_take? foreign takes member

theorem read?_eq_none {c : Char} (foreign : isForeign c = true) {cs : List Char} (member : c ∈ cs) :
    read? cs = none := by
  have keeps {cs : List Char} := @mem_dropBlanks c cs (not_blank_of_isForeign foreign)
  have here := keeps member
  unfold read?
  split
  next inside =>
    rw [inside] at here
    have later := (List.mem_cons.mp here).resolve_left (ne_of_isForeign foreign (by decide))
    split
    next takes =>
      have left := keeps (mem_of_takeTerm? foreign takes (keeps later))
      rw [if_neg (by simpa using List.ne_nil_of_mem left)]
    next => rfl
  next inside =>
    rw [inside] at here
    have later := (List.mem_cons.mp here).resolve_left (ne_of_isForeign foreign (by decide))
    split
    next takes =>
      have left := keeps (mem_of_takeTerm? foreign takes (keeps later))
      split
      next closed =>
        rw [closed] at left
        have beyond := (List.mem_cons.mp left).resolve_left (ne_of_isForeign foreign (by decide))
        rw [if_neg (by simpa using List.ne_nil_of_mem (keeps beyond))]
      next => rfl
    next => rfl
  next => rfl

theorem read?_term {term : List Char} (named : ∃ name, Name.isName name = true ∧ (term = name ∨ term = '!' :: name)) :
    read? (' ' :: '?' :: term) = some term := by
  obtain ⟨name, named, shape⟩ := named
  have solid := Name.solid_of_isName named
  have taken := Name.take?_of_isName named
  have spaced : dropBlanks (' ' :: '?' :: term) = '?' :: term := rfl
  have takes : takeTerm? (dropBlanks term) = some (term, []) := by
    rcases shape with rfl | rfl
    next =>
      rw [solid.opens.dropBlanks_eq]
      unfold takeTerm?
      split
      next => simp [Name.isName, Name.take?, isNameStart] at named
      next => exact taken
    next =>
      have marked : dropBlanks ('!' :: name) = '!' :: name := rfl
      rw [marked, takeTerm?, solid.opens.dropBlanks_eq, taken]
      rfl
  simp only [read?, spaced, takes]
  rfl

theorem find?_eq_none {cs : List Char} (plain : '&' ∉ cs) : find? cs = none := by
  induction cs with
  | nil => rfl
  | cons c cs ih =>
    rw [List.mem_cons, not_or] at plain
    have differ : (c == '&') = false := by simpa using Ne.symm plain.1
    rw [find?, differ, ih plain.2]
    rfl

-- A bar after an ampersand keeps it from opening a gate.
theorem find?_append_bar (front : List Char) {rest : List Char} (none_later : find? rest = none) :
    find? (front ++ '|' :: rest) = none := by
  induction front with
  | nil =>
    rw [List.nil_append, find?, none_later]
    rfl
  | cons c front ih =>
    have barred : read? (front ++ '|' :: rest) = none := read?_eq_none (c := '|') (by decide) (by simp)
    rw [List.cons_append, find?, ih, barred, ite_self]
    rfl

-- Of several ampersands only the last can open a gate, so what stands before it may hold others.
theorem find?_append_gate (before : List Char) {after term : List Char} (reads : read? after = some term) :
    find? (before ++ '&' :: after) = some ⟨before, '&' :: after, term⟩ := by
  induction before with
  | nil => rw [List.nil_append, find?, if_pos (beq_self_eq_true '&'), reads]
  | cons c before ih =>
    have followed : read? (before ++ '&' :: after) = none := read?_eq_none (c := '&') (by decide) (by simp)
    rw [List.cons_append, find?, ih, followed, ite_self]
    rfl

end Gate

def barred (phrases : List String) : List Char := (" | ".intercalate phrases).toList

theorem barred_singleton (phrase : String) : barred [phrase] = phrase.toList := by
  rw [barred, String.intercalate_singleton]

theorem barred_cons (phrase other : String) (phrases : List String) :
    barred (phrase :: other :: phrases) = (phrase.toList ++ [' ']) ++ '|' :: ' ' :: barred (other :: phrases) := by
  rw [barred, String.intercalate_cons_cons, String.toList_append, String.toList_append, barred]
  simp

structure Phrase (phrase : String) : Prop where
  solid : Solid phrase.toList
  unbarred : '|' ∉ phrase.toList

instance (phrase : String) : Decidable (Phrase phrase) :=
  decidable_of_iff (Solid phrase.toList ∧ '|' ∉ phrase.toList)
    ⟨fun ⟨solid, unbarred⟩ => ⟨solid, unbarred⟩, fun ⟨solid, unbarred⟩ => ⟨solid, unbarred⟩⟩

theorem solid_barred {phrases : List String} (nonempty : phrases ≠ []) (written : ∀ phrase ∈ phrases, Phrase phrase) :
    Solid (barred phrases) := by
  induction phrases with
  | nil => exact absurd rfl nonempty
  | cons phrase phrases ih =>
    have first := (written phrase List.mem_cons_self).solid
    match phrases with
    | [] => rwa [barred_singleton]
    | other :: phrases =>
      have rest := ih (List.cons_ne_nil _ _) fun phrase member => written phrase (List.mem_cons_of_mem _ member)
      rw [barred_cons]
      have whole := first.mid rest [' ', '|', ' ']
      simpa using whole

theorem splitBars_space (cs : List Char) : splitBars (' ' :: cs) = splitBars cs := by
  unfold splitBars
  rw [List.splitOn_eq_splitOnP, List.splitOn_eq_splitOnP, List.splitOnP_cons_eq_if_modifyHead]
  rw [if_neg (by decide)]
  cases List.splitOnP (· == '|') cs with
  | nil => rfl
  | cons part parts => rfl

theorem splitBars_barred {phrases : List String} (nonempty : phrases ≠ [])
    (written : ∀ phrase ∈ phrases, Phrase phrase) : splitBars (barred phrases) = phrases := by
  induction phrases with
  | nil => exact absurd rfl nonempty
  | cons phrase phrases ih =>
    obtain ⟨solid, unbarred⟩ := written phrase List.mem_cons_self
    have inside : ∀ c ∈ phrase.toList, (c == '|') = false := by
      intro c member
      rw [beq_eq_false_iff_ne]
      rintro rfl
      exact unbarred member
    match phrases with
    | [] =>
      rw [barred_singleton, splitBars, List.splitOn_eq_splitOnP, List.splitOnP_eq_singleton inside]
      simp [solid.trimmed]
    | other :: phrases =>
      have rest := ih (List.cons_ne_nil _ _) fun phrase member => written phrase (List.mem_cons_of_mem _ member)
      have spaced : ∀ c ∈ phrase.toList ++ [' '], (c == '|') = false := by
        intro c member
        rcases List.mem_append.mp member with before | last
        next => exact inside c before
        next => simp [List.mem_singleton.mp last]
      rw [← splitBars_space] at rest
      unfold splitBars at rest ⊢
      rw [List.splitOn_eq_splitOnP] at rest ⊢
      rw [barred_cons, List.splitOnP_append_cons_of_forall_mem spaced '|' (by decide), List.map_cons, rest,
        solid.trimChars_space, String.ofList_toList]

theorem find?_barred {phrases : List String} (last : ∀ phrase ∈ phrases.getLast?, Gate.find? phrase.toList = none) :
    Gate.find? (barred phrases) = none := by
  induction phrases with
  | nil => rfl
  | cons phrase phrases ih =>
    match phrases with
    | [] =>
      rw [barred_singleton]
      exact last phrase rfl
    | other :: phrases =>
      have rest := ih (by simpa using last)
      rw [barred_cons]
      refine Gate.find?_append_bar _ ?_
      rw [Gate.find?, rest]
      rfl

structure Choice.Writable (choice : Choice) : Prop where
  phrases : ∀ phrase ∈ choice.phrases, Phrase phrase
  unbracketed : choice.text.toList.head? ≠ some '['
  aliases : choice.aliases ≠ some []
  gate : ∀ condition ∈ choice.requires,
    ∃ name, Name.isName name = true ∧ (condition.toList = name ∨ condition.toList = '!' :: name)
  ungated : choice.requires = none → ∀ phrase ∈ choice.phrases.getLast?, '&' ∉ phrase.toList

namespace Choice

theorem readPhrases?_barred {text : String} {others : List String}
    (written : ∀ phrase ∈ text :: others, Phrase phrase) :
    readPhrases? (barred (text :: others)) = some ⟨text, if others.isEmpty then none else some others, none⟩ := by
  have parts := splitBars_barred (List.cons_ne_nil _ _) written
  have first := (written text List.mem_cons_self).solid.isEmpty_eq
  have kept : others.filter (fun phrase => !phrase.isEmpty) = others := by
    rw [List.filter_eq_self]
    intro phrase member
    rw [(written phrase (List.mem_cons_of_mem _ member)).solid.isEmpty_eq]
    rfl
  unfold readPhrases?
  rw [parts]
  dsimp only
  rw [first, kept]
  rfl

theorem readPhrases?_phrases {choice : Choice} (writable : choice.Writable) :
    readPhrases? (barred choice.phrases) = some { choice with requires := none } := by
  have aliases := writable.aliases
  rw [phrases, readPhrases?_barred writable.phrases]
  obtain ⟨text, others, requires⟩ := choice
  rcases others with _ | _ | ⟨other, others⟩
  next => rfl
  next => exact absurd rfl aliases
  next => rfl

def written (choice : Choice) : List Char :=
  barred choice.phrases ++
    match choice.requires with
    | none => []
    | some condition => if condition.isEmpty then [] else ' ' :: '&' :: ' ' :: '?' :: condition.toList

theorem toList_line (choice : Choice) : choice.line.toList = 'i' :: 'f' :: ' ' :: choice.written := by
  unfold line written barred
  cases choice.requires with
  | none => simp
  | some condition => by_cases blank : condition = "" <;> simp [blank]

theorem Writable.isEmpty_eq {choice : Choice} (writable : choice.Writable) {condition : String}
    (gated : choice.requires = some condition) : condition.isEmpty = false := by
  obtain ⟨name, named, shape⟩ := writable.gate condition gated
  rw [Bool.eq_false_iff, ne_eq, String.isEmpty_iff]
  rintro rfl
  rcases shape with empty | empty
  next =>
    subst empty
    cases named
  next => cases empty

theorem Writable.solid {choice : Choice} (writable : choice.Writable) : Solid (barred choice.phrases) :=
  solid_barred (List.cons_ne_nil _ _) writable.phrases

theorem solid_written {choice : Choice} (writable : choice.Writable) : Solid choice.written := by
  have solid := writable.solid
  unfold written
  cases gated : choice.requires with
  | none => simpa using solid
  | some condition =>
    obtain ⟨name, named, shape⟩ := writable.gate condition gated
    have ends : Solid name := Name.solid_of_isName named
    dsimp only
    rw [writable.isEmpty_eq gated, if_neg Bool.false_ne_true]
    rcases shape with shape | shape
    next => simpa [shape] using solid.mid ends [' ', '&', ' ', '?']
    next => simpa [shape] using solid.mid ends [' ', '&', ' ', '?', '!']

theorem read?_written {choice : Choice} (writable : choice.Writable) : read? choice.written = some choice := by
  have solid := writable.solid
  have phrases := readPhrases?_phrases writable
  unfold written read?
  cases gated : choice.requires with
  | none =>
    rw [List.append_nil, find?_barred fun phrase last => Gate.find?_eq_none (writable.ungated gated phrase last)]
    dsimp only
    rw [phrases, ← gated]
  | some condition =>
    have term := Gate.read?_term (writable.gate condition gated)
    have found := Gate.find?_append_gate (barred choice.phrases ++ [' ']) term
    dsimp only
    rw [writable.isEmpty_eq gated, if_neg Bool.false_ne_true]
    rw [List.append_assoc, List.singleton_append] at found
    rw [found]
    dsimp only
    rw [solid.trimChars_space, phrases, Option.map_some, String.ofList_toList, ← gated]

end Choice

theorem head?_barred {text : String} (solid : Solid text.toList) (others : List String) :
    (barred (text :: others)).head? = text.toList.head? := by
  obtain ⟨c, rest, same, -⟩ := solid.opens
  match others with
  | [] => rw [barred_singleton]
  | other :: others => rw [barred_cons, same]; rfl

end Gamebook
