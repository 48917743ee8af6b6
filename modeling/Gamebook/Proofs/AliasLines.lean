import Mathlib.Data.List.DropRight
import Gamebook.Proofs.Pieces
import Gamebook.Proofs.RoundTrip
import Gamebook.Script.Alias

set_option autoImplicit false

namespace Gamebook

open Gamebook.Text

theorem takeWhile_append_dropWhile_twice (p q : Char → Bool) (cs : List Char) :
    cs.takeWhile p ++ (cs.dropWhile p).takeWhile q ++ (cs.dropWhile p).dropWhile q = cs := by
  rw [List.append_assoc, List.takeWhile_append_dropWhile, List.takeWhile_append_dropWhile]

theorem indentFrom_blanks {pad cs : List Char} (blank : ∀ c ∈ pad, isBlank c = true) (opens : Opens cs) (column : Nat) :
    indentFrom column (pad ++ cs) = indentFrom column pad := by
  induction pad generalizing column with
  | nil => simpa [indentFrom] using indentFrom_spaces column 0 opens
  | cons c pad ih =>
    have further := ih fun d member => blank d (List.mem_cons_of_mem _ member)
    simp only [List.cons_append, indentFrom, further]

theorem dropBlanks_append {pad cs : List Char} (blank : ∀ c ∈ pad, isBlank c = true) (opens : Opens cs) :
    dropBlanks (pad ++ cs) = cs := by
  rw [dropBlanks, List.dropWhile_append_of_pos blank]
  exact opens.dropBlanks_eq

-- Text as it stands after a margin.
structure Begins (cs : List Char) : Prop where
  opens : Opens cs
  unstarred : cs.head? ≠ some '*'

theorem Begins.takeWhile_star {cs : List Char} (begins : Begins cs) : cs.takeWhile (· == '*') = [] := by
  obtain ⟨⟨c, rest, rfl, -⟩, unstarred⟩ := begins
  have other : (c == '*') = false := by simpa using unstarred
  simp [other]

theorem dropWhile_append_of_head {p : Char → Bool} {front cs : List Char} (all : ∀ c ∈ front, p c = true)
    (stops : ∀ c ∈ cs.head?, p c = false) : (front ++ cs).takeWhile p = front ∧ (front ++ cs).dropWhile p = cs := by
  rw [List.takeWhile_append_of_pos all, List.dropWhile_append_of_pos all]
  cases cs with
  | nil => simp
  | cons c cs => simp [stops c rfl]

theorem expandStars_starred {front stars gap text : List Char} (blank : ∀ c ∈ front, isBlank c = true)
    (starred : ∀ c ∈ stars, (c == '*') = true) (some_star : stars ≠ []) (apart : ∀ c ∈ gap, isBlank c = true)
    (some_gap : gap ≠ []) (opens : Opens text) :
    expandStars (front ++ (stars ++ (gap ++ text))) = front ++ List.replicate (2 * stars.length) ' ' ++ text := by
  have solid : ∀ c ∈ (stars ++ (gap ++ text)).head?, isBlank c = false := by
    obtain ⟨star, others, rfl⟩ := List.exists_cons_of_ne_nil some_star
    have same := eq_of_beq (starred star List.mem_cons_self)
    subst same
    rintro c ⟨⟩
    decide
  obtain ⟨space, spaces, rfl⟩ := List.exists_cons_of_ne_nil some_gap
  have between : isBlank space = true := apart space List.mem_cons_self
  have other : ∀ c ∈ (space :: spaces ++ text).head?, (c == '*') = false := by
    rintro c ⟨⟩
    rw [beq_eq_false_iff_ne]
    rintro rfl
    exact absurd between (by decide)
  have outer := dropWhile_append_of_head blank solid
  have inner := dropWhile_append_of_head starred other
  unfold expandStars
  dsimp only
  rw [dropBlanks, outer.2, outer.1, inner.1, inner.2, dropBlanks_append apart opens, if_pos]
  simp [some_star, between]

theorem expandStars_plain {front text : List Char} (blank : ∀ c ∈ front, isBlank c = true) (begins : Begins text) :
    expandStars (front ++ text) = front ++ text := by
  unfold expandStars
  dsimp only
  rw [dropBlanks_append blank begins.opens, begins.takeWhile_star]
  rfl

namespace Alias

def pad (cs : List Char) : List Char :=
  let text := dropBlanks cs
  let rest := text.dropWhile (· == '*')
  if !(text.takeWhile (· == '*')).isEmpty && rest.head?.any isBlank then
    cs.takeWhile isBlank ++ List.replicate (2 * (text.takeWhile (· == '*')).length) ' '
  else cs.takeWhile isBlank

theorem isBlank_of_mem_pad {cs : List Char} : ∀ c ∈ pad cs, isBlank c = true := by
  intro c member
  unfold pad at member
  dsimp only at member
  split at member
  next =>
    rcases List.mem_append.mp member with front | space
    next => exact List.mem_takeWhile_imp front
    next =>
      rw [(List.mem_replicate.mp space).2]
      decide
  next => exact List.mem_takeWhile_imp member

theorem splitMargin_append (cs : List Char) : (splitMargin cs).1 ++ (splitMargin cs).2 = cs := by
  unfold splitMargin
  dsimp only
  split
  next =>
    have inner := takeWhile_append_dropWhile_twice (· == '*') isBlank (cs.dropWhile isBlank)
    rw [List.append_assoc (cs.takeWhile isBlank), List.append_assoc (cs.takeWhile isBlank), inner,
      List.takeWhile_append_dropWhile]
  next => exact List.takeWhile_append_dropWhile

theorem expandStars_margin (cs : List Char) {text : List Char} (begins : Begins text) :
    expandStars ((splitMargin cs).1 ++ text) = pad cs ++ text := by
  have front : ∀ c ∈ cs.takeWhile isBlank, isBlank c = true := fun c member => List.mem_takeWhile_imp member
  unfold splitMargin pad
  dsimp only
  rw [← dropBlanks]
  split
  next starred =>
    rw [Bool.and_eq_true] at starred
    obtain ⟨stars, gap⟩ := starred
    have all : ∀ c ∈ (dropBlanks cs).takeWhile (· == '*'), (c == '*') = true := fun c member => by
      simpa using List.mem_takeWhile_imp member
    rw [List.append_assoc, List.append_assoc]
    refine expandStars_starred front all (by simpa using stars) (fun c member => List.mem_takeWhile_imp member) ?_
      begins.opens
    cases left : (dropBlanks cs).dropWhile (· == '*') with
    | nil => simp [left] at gap
    | cons c rest =>
      have blank : isBlank c = true := by simpa [left] using gap
      simp [blank]
  next => exact expandStars_plain front begins

theorem expandStars_eq (cs : List Char) : expandStars cs = pad cs ++ (splitMargin cs).2 := by
  unfold expandStars splitMargin pad
  dsimp only
  rw [← dropBlanks]
  split
  next => rfl
  next => exact List.takeWhile_append_dropWhile.symm

theorem dropBlanks_splitMargin (cs : List Char) : dropBlanks (splitMargin cs).2 = (splitMargin cs).2 := by
  unfold splitMargin
  dsimp only
  split <;> exact List.dropWhile_idempotent isBlank _

theorem trimChars_expandStars (cs : List Char) : trimChars (expandStars cs) = dropBlanksEnd (splitMargin cs).2 := by
  rw [expandStars_eq, trimChars, dropBlanks, List.dropWhile_append_of_pos isBlank_of_mem_pad, ← dropBlanks,
    dropBlanks_splitMargin]

end Alias

theorem SourceLine.ofString?_margin (cs : List Char) {text : List Char} (begins : Begins text) :
    ofString? (String.ofList ((Alias.splitMargin cs).1 ++ text)) =
      some ⟨indentOf (Alias.pad cs), dropBlanksEnd text⟩ := by
  have trimmed : trimChars (Alias.pad cs ++ text) = dropBlanksEnd text := by
    rw [trimChars, dropBlanks_append Alias.isBlank_of_mem_pad begins.opens]
  have left : dropBlanksEnd text ≠ [] := by
    obtain ⟨c, rest, rfl, solid⟩ := begins.opens
    intro nothing
    have blank := List.rdropWhile_eq_nil_iff.mp nothing c List.mem_cons_self
    simp [solid] at blank
  unfold ofString?
  rw [String.toList_ofList, Alias.expandStars_margin cs begins]
  dsimp only
  rw [trimmed, if_neg (by simpa using left), indentOf, indentFrom_blanks Alias.isBlank_of_mem_pad begins.opens]
  rfl

namespace Text

theorem solid_trimChars {cs : List Char} (some_left : trimChars cs ≠ []) : Solid (trimChars cs) := by
  have within : trimChars cs <+: dropBlanks cs := List.rdropWhile_prefix isBlank (dropBlanks cs)
  obtain ⟨c, rest, same⟩ := List.exists_cons_of_ne_nil some_left
  refine solid_of_opens_closes ⟨c, rest, same, ?_⟩ ?_
  next =>
    obtain ⟨more, whole⟩ := within
    have first := List.head?_dropWhile_not isBlank cs
    rw [← dropBlanks, ← whole, same] at first
    simpa using first
  next =>
    refine closes_of_getLast? some_left fun c last => ?_
    have solid := List.rdropWhile_last_not isBlank (dropBlanks cs) some_left
    rw [List.getLast?_eq_some_getLast some_left] at last
    cases last
    exact (Bool.not_eq_true _).mp solid

theorem mem_of_mem_trimChars {c : Char} {cs : List Char} (member : c ∈ trimChars cs) : c ∈ cs :=
  (List.dropWhile_suffix isBlank).subset ((List.rdropWhile_prefix isBlank (dropBlanks cs)).subset member)

end Text

theorem phrase_of_mem_splitBars {cs : List Char} {phrase : String} (member : phrase ∈ splitBars cs)
    (some_left : phrase.isEmpty = false) : Phrase phrase := by
  obtain ⟨part, inside, rfl⟩ := List.mem_map.mp member
  refine ⟨?_, ?_⟩ <;> rw [String.toList_ofList]
  next => exact solid_trimChars (by simpa using some_left)
  next => exact fun bar => not_mem_of_mem_splitOn inside (mem_of_mem_trimChars bar)

namespace Choice

theorem phrases_of_readPhrases? {cs : List Char} {choice : Choice} (reads : readPhrases? cs = some choice) :
    (∀ phrase ∈ choice.phrases, Phrase phrase) ∧ choice.aliases ≠ some [] ∧ choice.requires = none := by
  have parts := @phrase_of_mem_splitBars cs
  unfold readPhrases? at reads
  cases split : splitBars cs with
  | nil =>
    rw [split] at reads
    cases reads
  | cons text others =>
    rw [split] at reads parts
    dsimp only at reads
    split at reads
    next => cases reads
    next some_text =>
      have text_phrase := parts List.mem_cons_self (by simpa using some_text)
      cases reads
      refine ⟨?_, ?_, rfl⟩
      next =>
        intro phrase member
        rcases List.mem_cons.mp member with rfl | later
        next => exact text_phrase
        next =>
          split at later
          next => cases later
          next =>
            obtain ⟨inside, some_left⟩ := List.mem_filter.mp later
            exact parts (List.mem_cons_of_mem _ inside) (by simpa using some_left)
      next =>
        split
        next => exact nofun
        next some_alias =>
          intro same
          rw [Option.some.inj same] at some_alias
          exact some_alias rfl

theorem phrases_of_read? {cs : List Char} {choice : Choice} (reads : read? cs = some choice) :
    (∀ phrase ∈ choice.phrases, Phrase phrase) ∧ choice.aliases ≠ some [] := by
  unfold read? at reads
  split at reads
  next =>
    obtain ⟨plain, found, rfl⟩ := Option.map_eq_some_iff.mp reads
    obtain ⟨phrases, aliases, -⟩ := phrases_of_readPhrases? found
    exact ⟨phrases, aliases⟩
  next =>
    obtain ⟨phrases, aliases, -⟩ := phrases_of_readPhrases? reads
    exact ⟨phrases, aliases⟩

end Choice

namespace Gate

theorem written_of_find? {cs : List Char} {gate : Gate} (found : find? cs = some gate) :
    cs = gate.before ++ gate.written ∧ ∃ after, gate.written = '&' :: after ∧ read? after = some gate.requires := by
  induction cs generalizing gate with
  | nil => cases found
  | cons c cs ih =>
    rw [find?] at found
    split at found
    next requires reads =>
      obtain ⟨ampersand, reads⟩ := Option.ite_none_right_eq_some.mp reads
      cases found
      exact ⟨rfl, cs, by rw [eq_of_beq ampersand], reads⟩
    next =>
      obtain ⟨inner, later, rfl⟩ := Option.map_eq_some_iff.mp found
      obtain ⟨same, after⟩ := ih later
      exact ⟨congrArg (c :: ·) same, after⟩

theorem find?_append_plain {front : List Char} (plain : '&' ∉ front) (cs : List Char) :
    find? (front ++ cs) = (find? cs).map fun gate => { gate with before := front ++ gate.before } := by
  induction front with
  | nil => simp
  | cons c front ih =>
    rw [List.mem_cons, not_or] at plain
    have other : (c == '&') = false := by simpa using Ne.symm plain.1
    rw [List.cons_append, find?, other, ih plain.2]
    simp [Function.comp_def]

theorem find?_of_append {front cs : List Char} (none_found : find? (front ++ cs) = none) : find? cs = none := by
  induction front with
  | nil => exact none_found
  | cons c front ih =>
    rw [List.cons_append, find?] at none_found
    split at none_found
    next => cases none_found
    next => exact ih (Option.map_eq_none_iff.mp none_found)

end Gate

namespace Choice

def withPhrase (choice : Choice) (new : String) : Choice :=
  { choice with aliases := some (choice.aliases.getD [] ++ [new]) }

theorem phrases_withPhrase (choice : Choice) (new : String) :
    (choice.withPhrase new).phrases = choice.phrases ++ [new] := rfl

end Choice

namespace Alias

def gateOf (text : List Char) : List Char :=
  match Gate.find? text with
  | some gate => ' ' :: gate.written
  | none => []

theorem gateOf_append {front : List Char} (plain : '&' ∉ front) (cs : List Char) :
    gateOf (front ++ cs) = gateOf cs := by
  unfold gateOf
  rw [Gate.find?_append_plain plain]
  cases Gate.find? cs <;> rfl

end Alias

theorem Text.Closes.of_append {front cs : List Char} (closes : Closes (front ++ cs)) (nonempty : cs ≠ []) :
    Closes cs := by
  refine closes_of_getLast? nonempty fun c last => closes.getLast? c ?_
  rw [List.getLast?_append_of_ne_nil _ nonempty]
  exact last

namespace Choice

theorem read?_withPhrase {words : List Char} {choice : Choice} {new : String} (reads : read? words = some choice)
    (closes : Closes words) (phrase : Phrase new) (ungated : choice.requires = none → Gate.find? new.toList = none) :
    Solid (barred (choice.withPhrase new).phrases ++ Alias.gateOf words) ∧
      read? (barred (choice.withPhrase new).phrases ++ Alias.gateOf words) = some (choice.withPhrase new) := by
  have known := (phrases_of_read? reads).1
  have written : ∀ phrase ∈ (choice.withPhrase new).phrases, Phrase phrase := by
    intro other member
    rw [phrases_withPhrase, List.mem_append] at member
    rcases member with old | last
    next => exact known other old
    next => exact List.mem_singleton.mp last ▸ phrase
  have solid : Solid (barred (choice.withPhrase new).phrases) := solid_barred (List.cons_ne_nil _ _) written
  have plain : readPhrases? (barred (choice.withPhrase new).phrases) =
      some ⟨choice.text, some (choice.aliases.getD [] ++ [new]), none⟩ := by
    refine (readPhrases?_barred written).trans ?_
    simp [withPhrase]
  unfold read? at reads
  unfold Alias.gateOf
  cases found : Gate.find? words with
  | none =>
    rw [found] at reads
    have open_to_all := (phrases_of_readPhrases? reads).2.2
    have none_last : Gate.find? (barred (choice.withPhrase new).phrases) = none := by
      refine find?_barred fun other last => ?_
      rw [phrases_withPhrase, List.getLast?_concat] at last
      cases last
      exact ungated open_to_all
    dsimp only
    rw [List.append_nil]
    refine ⟨solid, ?_⟩
    rw [read?, none_last, withPhrase, open_to_all]
    exact plain
  | some gate =>
    rw [found] at reads
    obtain ⟨same, after, ampersand, term⟩ := Gate.written_of_find? found
    have requires : choice.requires = some (String.ofList gate.requires) := by
      obtain ⟨old, -, rfl⟩ := Option.map_eq_some_iff.mp reads
      rfl
    have gated := Gate.find?_append_gate (barred (choice.withPhrase new).phrases ++ [' ']) term
    rw [List.append_assoc, List.singleton_append] at gated
    dsimp only
    rw [ampersand] at same ⊢
    have ends : Closes ('&' :: after) := Closes.of_append (same ▸ closes) (List.cons_ne_nil _ _)
    refine ⟨solid_of_opens_closes (solid.opens.append _) ((ends.append [' ']).append _), ?_⟩
    rw [read?, gated]
    dsimp only
    rw [solid.trimChars_space, plain, withPhrase, requires]
    rfl

end Choice

theorem Text.mem_trimChars {c : Char} {cs : List Char} (solid : isBlank c = false) (member : c ∈ cs) :
    c ∈ trimChars cs := by
  have kept := mem_dropBlanks solid (List.mem_reverse.mpr (mem_dropBlanks solid member))
  exact List.mem_reverse.mpr kept

end Gamebook
