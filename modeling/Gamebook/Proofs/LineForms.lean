import Gamebook.Proofs.ConditionForms
import Gamebook.Proofs.LearntAliases

set_option autoImplicit false

namespace Gamebook

open Gamebook.Text

namespace Gate

inductive Term : List Char → List Char → Prop where
  | name {name : List Char} (named : Name.isName name = true) : Term name name
  | negated {gap name : List Char} (blank : AllBlank gap) (named : Name.isName name = true) :
      Term ('!' :: (gap ++ name)) ('!' :: name)

inductive GateForm : List Char → List Char → Prop where
  | marked {gap space written term rest : List Char} (before : AllBlank gap) (between : AllBlank space)
      (named : Term written term) (behind : AllBlank rest) :
      GateForm (gap ++ '?' :: (space ++ (written ++ rest))) term
  | bracketed {gap space written term rest beyond : List Char} (before : AllBlank gap) (between : AllBlank space)
      (named : Term written term) (behind : AllBlank rest) (last : AllBlank beyond) :
      GateForm (gap ++ '[' :: (space ++ (written ++ (rest ++ ']' :: beyond)))) term

theorem Term.opens {written term : List Char} (named : Term written term) : Opens written := by
  cases named with
  | name named => exact (Name.solid_of_isName named).opens
  | negated => exact ⟨'!', _, rfl, by decide⟩

theorem takeTerm?_append {written term rest : List Char} (named : Term written term)
    (ends : ∀ c ∈ rest.head?, isNameRest c = false) : takeTerm? (written ++ rest) = some (term, rest) := by
  cases named with
  | name named =>
    have taken := Name.take?_append named ends
    unfold takeTerm?
    split
    next whole =>
      rw [whole] at taken
      cases taken
    next => exact taken
  | @negated gap name blank named =>
    have left : dropBlanks (gap ++ (name ++ rest)) = name ++ rest :=
      dropBlanks_append blank ((Name.solid_of_isName named).opens.append rest)
    rw [List.cons_append, List.append_assoc, takeTerm?, left, Name.take?_append named ends]
    rfl

theorem takeTerm?_eq_some {cs term rest : List Char} (takes : takeTerm? cs = some (term, rest)) :
    ∃ written, cs = written ++ rest ∧ Term written term := by
  unfold takeTerm? at takes
  split at takes
  next inner =>
    obtain ⟨⟨name, left⟩, taken, same⟩ := Option.map_eq_some_iff.mp takes
    cases same
    obtain ⟨gap, blank, whole⟩ := exists_gap inner
    obtain ⟨same, named⟩ := Name.take?_eq_some taken
    exact ⟨_, by rw [whole, same]; simp, .negated blank named⟩
  next =>
    obtain ⟨same, named⟩ := Name.take?_eq_some takes
    exact ⟨term, same, .name named⟩

theorem read?_of_form {cs term : List Char} (form : GateForm cs term) : read? cs = some term := by
  cases form with
  | @marked gap space written _ rest before between named behind =>
    have front := dropBlanks_append before ⟨'?', space ++ (written ++ rest), rfl, by decide⟩
    have inner := dropBlanks_append between (named.opens.append rest)
    have ends : ∀ c ∈ (rest ++ []).head?, isNameRest c = false := not_isNameRest_of_gap behind nofun
    rw [List.append_nil] at ends
    simp only [read?, front, inner, takeTerm?_append named ends, dropBlanks_eq_nil_iff.mpr behind]
    rfl
  | @bracketed gap space written _ rest beyond before between named behind last =>
    have front := dropBlanks_append before ⟨'[', space ++ (written ++ (rest ++ ']' :: beyond)), rfl, by decide⟩
    have inner := dropBlanks_append between (named.opens.append (rest ++ ']' :: beyond))
    have ends : ∀ c ∈ (rest ++ ']' :: beyond).head?, isNameRest c = false := by
      apply not_isNameRest_of_gap behind
      rintro c ⟨⟩
      decide
    have closed := dropBlanks_append behind ⟨']', beyond, rfl, by decide⟩
    simp only [read?, front, inner, takeTerm?_append named ends, closed, dropBlanks_eq_nil_iff.mpr last]
    rfl

theorem form_of_read? {cs term : List Char} (reads : read? cs = some term) : GateForm cs term := by
  obtain ⟨gap, before, whole⟩ := exists_gap cs
  unfold read? at reads
  split at reads
  next inner opened =>
    obtain ⟨space, between, inside⟩ := exists_gap inner
    split at reads
    next taken rest takes =>
      obtain ⟨ended, same⟩ := Option.ite_none_right_eq_some.mp reads
      cases same
      obtain ⟨written, parts, named⟩ := takeTerm?_eq_some takes
      rw [whole, opened, inside, parts]
      exact .marked before between named (dropBlanks_eq_nil_iff.mp (by simpa using ended))
    next => cases reads
  next inner opened =>
    obtain ⟨space, between, inside⟩ := exists_gap inner
    split at reads
    next taken rest takes =>
      obtain ⟨written, parts, named⟩ := takeTerm?_eq_some takes
      obtain ⟨middle, behind, beyond⟩ := exists_gap rest
      split at reads
      next last closed =>
        obtain ⟨ended, same⟩ := Option.ite_none_right_eq_some.mp reads
        cases same
        rw [whole, opened, inside, parts, beyond, closed]
        exact .bracketed before between named behind (dropBlanks_eq_nil_iff.mp (by simpa using ended))
      next => cases reads
    next => cases reads
  next => cases reads

end Gate

namespace Choice

def aliasesOf (others : List String) : Option (List String) :=
  let aliases := others.filter fun phrase => !phrase.isEmpty
  if aliases.isEmpty then none else some aliases

inductive WordsForm : List Char → Choice → Prop where
  | ungated {cs : List Char} {text : String} {others : List String} (parts : splitBars cs = text :: others)
      (written : text ≠ "") (free : ∀ before after term, cs = before ++ '&' :: after → ¬Gate.GateForm after term) :
      WordsForm cs ⟨text, aliasesOf others, none⟩
  | gated {before after term : List Char} {text : String} {others : List String}
      (parts : splitBars (trimChars before) = text :: others) (written : text ≠ "") (gate : Gate.GateForm after term) :
      WordsForm (before ++ '&' :: after) ⟨text, aliasesOf others, some (String.ofList term)⟩

theorem readPhrases?_of_parts {cs : List Char} {text : String} {others : List String}
    (parts : splitBars cs = text :: others) (written : text ≠ "") :
    readPhrases? cs = some ⟨text, aliasesOf others, none⟩ := by
  rw [readPhrases?, parts]
  dsimp only
  rw [if_neg (by simpa using written), aliasesOf]

theorem parts_of_readPhrases? {cs : List Char} {choice : Choice} (reads : readPhrases? cs = some choice) :
    ∃ text others, splitBars cs = text :: others ∧ text ≠ "" ∧ choice = ⟨text, aliasesOf others, none⟩ := by
  unfold readPhrases? at reads
  split at reads
  next => cases reads
  next text others parts =>
    obtain ⟨written, same⟩ := Option.ite_none_left_eq_some.mp reads
    exact ⟨text, others, parts, by simpa using written, (Option.some.inj same).symm⟩

theorem read?_of_form {cs : List Char} {choice : Choice} (form : WordsForm cs choice) : read? cs = some choice := by
  cases form with
  | ungated parts written free =>
    have none_found : Gate.find? cs = none := by
      rw [Option.eq_none_iff_forall_ne_some]
      intro gate found
      obtain ⟨same, after, ampersand, reads⟩ := Gate.written_of_find? found
      exact free gate.before after gate.requires (ampersand ▸ same) (Gate.form_of_read? reads)
    rw [read?, none_found]
    exact readPhrases?_of_parts parts written
  | @gated before _ _ _ _ parts written gate =>
    rw [read?, Gate.find?_append_gate before (Gate.read?_of_form gate)]
    dsimp only
    rw [readPhrases?_of_parts parts written]
    rfl

theorem form_of_read? {cs : List Char} {choice : Choice} (reads : read? cs = some choice) : WordsForm cs choice := by
  unfold read? at reads
  split at reads
  next gate found =>
    obtain ⟨plain, phrases, rfl⟩ := Option.map_eq_some_iff.mp reads
    obtain ⟨text, others, parts, written, rfl⟩ := parts_of_readPhrases? phrases
    obtain ⟨same, after, ampersand, gated⟩ := Gate.written_of_find? found
    rw [same, ampersand]
    exact .gated parts written (Gate.form_of_read? gated)
  next none_found =>
    obtain ⟨text, others, parts, written, rfl⟩ := parts_of_readPhrases? reads
    refine .ungated parts written ?_
    rintro before after term rfl gate
    rw [Gate.find?_append_gate before (Gate.read?_of_form gate)] at none_found
    cases none_found

end Choice

theorem Text.afterWord?_append (word : String) (rest : List Char) :
    afterWord? word (word.toList ++ rest) = some rest := by
  rw [afterWord?, if_pos (List.isPrefixOf_iff_prefix.mpr (List.prefix_append _ _)), List.drop_left]

theorem Text.solid_dropBlanksEnd {cs : List Char} (opens : Opens cs) : Solid (dropBlanksEnd cs) := by
  have same : dropBlanksEnd cs = trimChars cs := by rw [trimChars, opens.dropBlanks_eq]
  have some_left : dropBlanksEnd cs ≠ [] := by
    obtain ⟨c, rest, rfl, solid⟩ := opens
    intro nothing
    have blank := List.rdropWhile_eq_nil_iff.mp nothing c List.mem_cons_self
    simp [solid] at blank
  rw [same] at some_left ⊢
  exact solid_trimChars some_left

namespace EntryLine

inductive Ending : List Char → Option (List Char) → Prop where
  | bare {gap : List Char} (blank : AllBlank gap) : Ending gap none
  | hint {gap space hint rest : List Char} (before : AllBlank gap) (between : AllBlank space)
      (trimmed : hint = [] ∨ Solid hint) (unclosed : ']' ∉ hint) (behind : AllBlank rest) :
      Ending (gap ++ ("[allows:".toList ++ (space ++ (hint ++ (rest ++ [']']))))) (some hint)

theorem splitAt_bracket {inner : List Char} (unclosed : ']' ∉ inner) :
    (inner ++ [']']).takeWhile (· != ']') = inner ∧ (inner ++ [']']).dropWhile (· != ']') = [']'] := by
  apply dropWhile_append_of_head
  next =>
    intro c member
    rw [bne_iff_ne]
    rintro rfl
    exact unclosed member
  next =>
    rintro c ⟨⟩
    rfl

theorem headerEnd?_of_ending {cs : List Char} {allows : Option (List Char)} (ends : Ending cs allows) :
    headerEnd? cs = some allows := by
  cases ends with
  | bare blank => rw [headerEnd?, dropBlanks_eq_nil_iff.mpr blank]
  | @hint gap space hint rest before between trimmed unclosed behind =>
    have opens (more : List Char) : Opens ("[allows:".toList ++ more) := ⟨'[', _, rfl, by decide⟩
    have open_ : ']' ∉ hint ++ rest := by
      rw [List.mem_append, not_or]
      exact ⟨unclosed, fun member => absurd (behind _ member) (by decide)⟩
    have value : ∃ inner, dropBlanks (space ++ (hint ++ (rest ++ [']']))) = inner ++ [']'] ∧ ']' ∉ inner ∧
        dropBlanksEnd inner = hint := by
      rcases trimmed with rfl | solid
      next =>
        have gaps : AllBlank (space ++ rest) := List.forall_mem_append.mpr ⟨between, behind⟩
        have left := dropBlanks_append gaps ⟨']', [], rfl, by decide⟩
        exact ⟨[], by simpa using left, List.not_mem_nil, rfl⟩
      next =>
        have left := dropBlanks_append between (solid.opens.append (rest ++ [']']))
        exact ⟨hint ++ rest, by simpa using left, open_, dropBlanksEnd_append solid.closes behind⟩
    obtain ⟨inner, left, closed, same⟩ := value
    have word := afterWord?_append "[allows:" (space ++ (hint ++ (rest ++ [']'])))
    obtain ⟨taken, dropped⟩ := splitAt_bracket closed
    unfold headerEnd?
    rw [dropBlanks_append before (opens _)]
    split
    next empty => cases empty
    next =>
      rw [word]
      dsimp only
      rw [left, dropped, taken, same]
      rfl

theorem ending_of_headerEnd? {cs : List Char} {allows : Option (List Char)} (ends : headerEnd? cs = some allows) :
    Ending cs allows := by
  obtain ⟨gap, before, whole⟩ := exists_gap cs
  unfold headerEnd? at ends
  split at ends
  next empty =>
    cases ends
    exact .bare (dropBlanks_eq_nil_iff.mp empty)
  next =>
    split at ends
    next => cases ends
    next value after =>
      obtain ⟨space, between, inside⟩ := exists_gap value
      dsimp only at ends
      obtain ⟨closed, same⟩ := Option.ite_none_right_eq_some.mp ends
      cases same
      have parts := @List.takeWhile_append_dropWhile _ (· != ']') (dropBlanks value)
      have unclosed : ∀ c ∈ (dropBlanks value).takeWhile (· != ']'), (c != ']') = true :=
        fun c => List.mem_takeWhile_imp
      rw [eq_of_beq closed] at parts
      generalize (dropBlanks value).takeWhile (· != ']') = inner at *
      obtain ⟨rest, behind, back⟩ := exists_space inner
      have opens : inner = [] ∨ Opens inner := by
        cases inner with
        | nil => exact .inl rfl
        | cons c inner =>
          have some_left : dropBlanks value ≠ [] := by simp [← parts]
          obtain ⟨d, more, first, solid⟩ := opens_dropBlanks some_left
          rw [← parts] at first
          cases first
          exact .inr ⟨c, inner, rfl, solid⟩
      rw [whole, eq_append_of_afterWord? after, inside, ← parts]
      nth_rewrite 1 [back]
      rw [List.append_assoc]
      refine .hint before between (opens.imp (by rintro rfl; rfl) solid_dropBlanksEnd) ?_ behind
      intro member
      have here : ']' ∈ inner := by
        rw [back]
        exact List.mem_append_left _ member
      exact absurd (unclosed ']' here) (by decide)

def Shortest (label rest : List Char) : Prop :=
  ∀ front back, label ++ rest = front ++ back → front.length < label.length → ∀ allows, ¬Ending back allows

theorem splitHeader?_of_shortest {label rest : List Char} {allows : Option (List Char)} (oneLine : '\n' ∉ label)
    (ends : Ending rest allows) (shortest : Shortest label rest) :
    splitHeader? (label ++ rest) = some (label, allows) := by
  induction label with
  | nil =>
    unfold splitHeader?
    rw [List.nil_append, headerEnd?_of_ending ends]
  | cons c label ih =>
    rw [List.mem_cons, not_or] at oneLine
    have onward : headerEnd? (c :: label ++ rest) = none := by
      rw [Option.eq_none_iff_forall_ne_some]
      intro allows ends
      exact shortest [] _ rfl (Nat.succ_pos _) allows (ending_of_headerEnd? ends)
    have later : Shortest label rest := by
      intro front back same shorter
      exact shortest (c :: front) back (congrArg (c :: ·) same) (Nat.succ_lt_succ shorter)
    have same : (c == '\n') = false := by simpa using Ne.symm oneLine.1
    unfold splitHeader?
    rw [onward, List.cons_append]
    dsimp only
    rw [same, ih oneLine.2 later]
    rfl

theorem shortest_of_splitHeader? {cs label : List Char} {allows : Option (List Char)}
    (splits : splitHeader? cs = some (label, allows)) :
    ∃ rest, cs = label ++ rest ∧ '\n' ∉ label ∧ Ending rest allows ∧ Shortest label rest := by
  induction cs generalizing label with
  | nil =>
    unfold splitHeader? at splits
    split at splits
    next ends =>
      cases splits
      exact ⟨[], rfl, List.not_mem_nil, ending_of_headerEnd? ends, fun _ _ _ shorter => by cases shorter⟩
    next => cases splits
  | cons c cs ih =>
    unfold splitHeader? at splits
    split at splits
    next ends =>
      cases splits
      exact ⟨_, rfl, List.not_mem_nil, ending_of_headerEnd? ends, fun _ _ _ shorter => by cases shorter⟩
    next goes_on =>
      obtain ⟨other, later⟩ := Option.ite_none_left_eq_some.mp splits
      obtain ⟨⟨front, _⟩, found, same⟩ := Option.map_eq_some_iff.mp later
      cases same
      obtain ⟨rest, rfl, oneLine, ends, shortest⟩ := ih found
      refine ⟨rest, rfl, ?_, ends, ?_⟩
      next =>
        rw [List.mem_cons, not_or]
        exact ⟨fun same => other (by simp [← same]), oneLine⟩
      next =>
        rintro (_ | ⟨d, front⟩) back same shorter hint ending
        next =>
          rw [List.nil_append] at same
          rw [← same] at ending
          have found := headerEnd?_of_ending ending
          rw [List.cons_append, goes_on] at found
          cases found
        next =>
          exact shortest front back (List.cons.inj same).2 (Nat.lt_of_succ_lt_succ shorter) hint ending

inductive Value : List Char → List Char → Prop where
  | text {gap value space : List Char} (before : AllBlank gap) (solid : Solid value) (oneLine : '\n' ∉ value)
      (behind : AllBlank space) : Value (gap ++ (value ++ space)) value
  | blank {gap rest : List Char} {c : Char} (before : AllBlank gap) (blank : isBlank c = true) (other : c ≠ '\n')
      (breaks : ∀ d ∈ rest, d = '\n') : Value (gap ++ c :: rest) [c]

theorem fieldValue?_of_value {cs value : List Char} (inner : Value cs value) : fieldValue? cs = some value := by
  cases inner with
  | @text gap _ space before solid oneLine behind =>
    have left := dropBlanks_append before (solid.opens.append space)
    unfold fieldValue?
    rw [left]
    split
    next empty => exact absurd (List.append_eq_nil_iff.mp empty).1 solid.nonempty
    next =>
      dsimp only
      rw [dropBlanksEnd_append solid.closes behind, if_neg (by simpa using oneLine)]
  | @blank gap rest c before blank other breaks =>
    have all : AllBlank (gap ++ c :: rest) := by
      refine List.forall_mem_append.mpr ⟨before, List.forall_mem_cons.mpr ⟨blank, fun d member => ?_⟩⟩
      rw [breaks d member]
      decide
    have passed : rest.reverse.find? (· != '\n') = none := by
      rw [List.find?_eq_none]
      intro d member
      simpa using breaks d (List.mem_reverse.mp member)
    have last : (gap ++ c :: rest).reverse.find? (· != '\n') = some c := by
      simp [List.find?_append, passed, other]
    rw [fieldValue?, dropBlanks_eq_nil_iff.mpr all, last]
    rfl

theorem value_of_fieldValue? {cs value : List Char} (found : fieldValue? cs = some value) : Value cs value := by
  unfold fieldValue? at found
  split at found
  next empty =>
    obtain ⟨c, last, rfl⟩ := Option.map_eq_some_iff.mp found
    obtain ⟨other, rest, gap, whole, breaks⟩ := List.find?_eq_some_iff_append.mp last
    have same : cs = gap.reverse ++ c :: rest.reverse := by simpa using congrArg List.reverse whole
    have all : AllBlank cs := dropBlanks_eq_nil_iff.mp empty
    rw [same] at all ⊢
    obtain ⟨before, behind⟩ := List.forall_mem_append.mp all
    refine .blank before (behind c List.mem_cons_self) (by simpa using other) fun d member => ?_
    simpa using breaks d (List.mem_reverse.mp member)
  next some_left =>
    dsimp only at found
    obtain ⟨oneLine, same⟩ := Option.ite_none_left_eq_some.mp found
    cases same
    obtain ⟨gap, space, before, behind, whole⟩ := exists_around cs
    have solid : Solid (trimChars cs) := solid_dropBlanksEnd (opens_dropBlanks some_left)
    rw [← trimChars] at oneLine ⊢
    nth_rewrite 1 [whole]
    exact .text before solid (by simpa using oneLine) behind

inductive Field : List Char → List Char → List Char → Prop where
  | mk {key written value : List Char} (nonempty : key ≠ []) (word : ∀ c ∈ key, isWord c = true)
      (inner : Value written value) : Field ('[' :: (key ++ ':' :: (written ++ [']']))) key value

theorem splitField?_of_field {cs key value : List Char} (field : Field cs key value) :
    splitField? cs = some (key, value) := by
  obtain @⟨_, written, _, nonempty, word, inner⟩ := field
  obtain ⟨taken, left⟩ : (key ++ ':' :: (written ++ [']'])).takeWhile isWord = key ∧
      (key ++ ':' :: (written ++ [']'])).dropWhile isWord = ':' :: (written ++ [']']) := by
    apply dropWhile_append_of_head word
    rintro c ⟨⟩
    decide
  simp only [splitField?, taken, left]
  rw [List.dropLast_concat, List.getLast?_concat, fieldValue?_of_value inner, if_neg (by simp [nonempty])]
  rfl

theorem field_of_splitField? {cs key value : List Char} (splits : splitField? cs = some (key, value)) :
    Field cs key value := by
  unfold splitField? at splits
  split at splits
  next rest =>
    dsimp only at splits
    split at splits
    next tail colon =>
      obtain ⟨shape, found⟩ := Option.ite_none_left_eq_some.mp splits
      obtain ⟨_, inner, same⟩ := Option.map_eq_some_iff.mp found
      cases same
      rw [Bool.not_eq_true, Bool.or_eq_false_iff] at shape
      have closed := List.dropLast_append_getLast? ']' (by simpa using shape.2)
      have parts := @List.takeWhile_append_dropWhile _ isWord rest
      have word : ∀ c ∈ rest.takeWhile isWord, isWord c = true := fun c => List.mem_takeWhile_imp
      rw [colon, ← closed] at parts
      generalize rest.takeWhile isWord = key at *
      rw [← parts]
      exact .mk (by simpa using shape.1) word (value_of_fieldValue? inner)
    next => cases splits
  next => cases splits

inductive Conditional : List Char → List Char → Prop where
  | when (condition : List Char) : Conditional ("when ".toList ++ condition) condition
  | bracketed {gap condition : List Char} (blank : AllBlank gap) (apart : gap ≠ []) (nonempty : condition ≠ [])
      (unclosed : ']' ∉ condition) : Conditional ("if".toList ++ (gap ++ '[' :: (condition ++ [']']))) condition
  | field {cs condition : List Char} (field : Field cs "if".toList condition) : Conditional cs condition

/-- The forms of lines, and the entries they stand for. -/
inductive LineForm : List Char → Entry → Prop where
  | header {gap label rest : List Char} {allows : Option (List Char)} (blank : AllBlank gap) (opens : Opens label)
      (oneLine : '\n' ∉ label) (ends : Ending rest allows) (shortest : Shortest label rest) :
      LineForm ('@' :: (gap ++ (label ++ rest)))
        (.scene (String.ofList label) ((allows.filter fun hint => !hint.isEmpty).map String.ofList))
  | jump {gap target space : List Char} (before : AllBlank gap) (solid : Solid target)
      (unmarked : target.head? ≠ some '@') (behind : AllBlank space) :
      LineForm ("goto ".toList ++ (gap ++ (target ++ space))) (.goto (String.ofList target))
  | markedJump {gap between target space : List Char} (before : AllBlank gap) (inner : AllBlank between)
      (solid : Solid target) (behind : AllBlank space) :
      LineForm ("goto ".toList ++ (gap ++ '@' :: (between ++ (target ++ space)))) (.goto (String.ofList target))
  | conditional {cs condition : List Char} {clauses : List Clause} (shape : Conditional cs condition)
      (form : Condition.PartsForm (trimChars condition) clauses) :
      LineForm cs (.when (String.ofList (trimChars condition)) [])
  | option {words : List Char} {choice : Choice} (other : ∀ condition, ¬Conditional ("if ".toList ++ words) condition)
      (form : Choice.WordsForm (trimChars words) choice) : LineForm ("if ".toList ++ words) (.option choice [])
  | set {name : List Char} (named : Name.isName name = true) :
      LineForm ('+' :: name) (.metadata "sets" (String.ofList name))
  | unset {name : List Char} (named : Name.isName name = true) :
      LineForm ('-' :: name) (.metadata "unsets" (String.ofList name))
  | image {cs url : List Char} (field : Field cs "image".toList url) (picture : isImage url = true) :
      LineForm cs (.image (String.ofList url))
  | remark {cs url : List Char} (field : Field cs "image".toList url) (other : isImage url = false) :
      LineForm cs (.narrative ("[Invalid image URL: " ++ String.ofList url ++ "]"))
  | field {cs key value : List Char} (field : Field cs key value) (notImage : String.ofList key ≠ "image")
      (notIf : String.ofList key ≠ "if") : LineForm cs (.metadata (String.ofList key) (String.ofList value))

def TooLong (text : List Char) : Prop :=
  ∃ condition, Conditional text condition ∧ Condition.Overlong (trimChars condition)

theorem read_of_field {cs key value : List Char} (field : Field cs key value) :
    read cs =
      match String.ofList key with
      | "image" => .ok (image value)
      | "if" => conditional value cs
      | key => .ok (.metadata key (String.ofList value)) := by
  have splits := splitField?_of_field field
  cases field
  have reads (rest : List Char) :
      read ('[' :: rest) = (field? ('[' :: rest)).getD (.ok (narrative ('[' :: rest))) := rfl
  rw [reads, field?, splits]
  rfl

theorem bracketed?_of_shape {gap condition : List Char} (blank : AllBlank gap) (apart : gap ≠ [])
    (nonempty : condition ≠ []) (unclosed : ']' ∉ condition) :
    bracketed? ("if".toList ++ (gap ++ '[' :: (condition ++ [']']))) =
      some (conditional condition ("if".toList ++ (gap ++ '[' :: (condition ++ [']'])))) := by
  have left := dropBlanks_append blank ⟨'[', condition ++ [']'], rfl, by decide⟩
  obtain ⟨taken, dropped⟩ := splitAt_bracket unclosed
  have first : (gap ++ '[' :: (condition ++ [']'])).head?.any isBlank = true := by
    obtain ⟨b, gap, rfl⟩ := List.exists_cons_of_ne_nil apart
    exact blank b List.mem_cons_self
  unfold bracketed?
  rw [afterWord?_append]
  dsimp only
  rw [first, left]
  simp [taken, dropped, nonempty]

theorem shape_of_bracketed? {cs : List Char} {result : Read} (reads : bracketed? cs = some result) :
    ∃ condition, Conditional cs condition ∧ result = conditional condition cs := by
  unfold bracketed? at reads
  split at reads
  next => cases reads
  next rest after =>
    split at reads
    next => cases reads
    next blank_first =>
      obtain ⟨gap, blank, whole⟩ := exists_gap rest
      split at reads
      next inner opened =>
        dsimp only at reads
        obtain ⟨shape, same⟩ := Option.ite_none_right_eq_some.mp reads
        rw [Bool.and_eq_true] at shape
        have parts := @List.takeWhile_append_dropWhile _ (· != ']') inner
        have unclosed : ∀ c ∈ inner.takeWhile (· != ']'), (c != ']') = true := fun c => List.mem_takeWhile_imp
        rw [eq_of_beq shape.2] at parts
        refine ⟨_, ?_, (Option.some.inj same).symm⟩
        generalize inner.takeWhile (· != ']') = condition at *
        rw [opened, ← parts] at whole
        rw [eq_append_of_afterWord? after, whole]
        refine .bracketed blank ?_ (by simpa using shape.1) fun member => absurd (unclosed _ member) (by decide)
        -- Without a gap the bracket would be the blank that must come first.
        rintro rfl
        rw [whole] at blank_first
        exact blank_first rfl
      next => cases reads

theorem read_of_conditional {cs condition : List Char} (shape : Conditional cs condition) :
    read cs = conditional condition cs := by
  cases shape with
  | when => rfl
  | @bracketed gap _ blank apart nonempty unclosed =>
    have reads (rest : List Char) : read ("if".toList ++ rest) =
        (bracketed? ("if".toList ++ rest) <|> option? ("if".toList ++ rest) <|> change? ("if".toList ++ rest) <|>
          field? ("if".toList ++ rest)).getD (.ok (narrative ("if".toList ++ rest))) := rfl
    rw [reads, bracketed?_of_shape blank apart nonempty unclosed]
    rfl
  | field field => exact read_of_field field

theorem conditional_of_form {condition cs : List Char} {clauses : List Clause}
    (form : Condition.PartsForm (trimChars condition) clauses) :
    conditional condition cs = .ok (.when (String.ofList (trimChars condition)) []) := by
  rw [conditional_eq, Condition.read_of_form form]

theorem read_of_tooLong {text : List Char} (tooLong : TooLong text) : read text = .error {} := by
  obtain ⟨condition, shape, overlong⟩ := tooLong
  rw [read_of_conditional shape, conditional_eq, Condition.read_of_overlong overlong]

theorem read_jump {rest target : List Char} (named : jumpTarget rest = target) (nonempty : target ≠ []) :
    read ("goto ".toList ++ rest) = .ok (.goto (String.ofList target)) := by
  have reads : read ("goto ".toList ++ rest) =
      .ok (if (jumpTarget rest).isEmpty then narrative ("goto ".toList ++ rest)
        else .goto (String.ofList (jumpTarget rest))) := rfl
  rw [reads, named, if_neg (by simpa using nonempty)]

theorem read_of_form {text : List Char} {entry : Entry} (form : LineForm text entry) : read text = .ok entry := by
  cases form with
  | @header gap label rest allows blank opens oneLine ends shortest =>
    have left := dropBlanks_append blank (opens.append rest)
    have split := splitHeader?_of_shortest oneLine ends shortest
    obtain ⟨c, label, rfl, -⟩ := opens
    have header : header? ('@' :: (gap ++ (c :: label ++ rest))) = some (.ok (.scene (String.ofList (c :: label))
        ((allows.filter fun hint => !hint.isEmpty).map String.ofList))) := by
      simp only [header?, left, split]
    rw [read, header]
    rfl
  | @jump gap target space before solid unmarked behind =>
    refine read_jump ?_ solid.nonempty
    rw [jumpTarget, trimChars_around before solid behind]
    split
    next => exact absurd rfl unmarked
    next => rfl
  | @markedJump gap between target space before inner solid behind =>
    have outer : Solid ('@' :: (between ++ target)) :=
      solid_of_opens_closes ⟨'@', _, rfl, by decide⟩ (solid.closes.append ('@' :: between))
    have around := trimChars_around before outer behind
    refine read_jump ?_ solid.nonempty
    rw [List.cons_append, List.append_assoc] at around
    have within := trimChars_around inner solid allBlank_nil
    rw [List.append_nil] at within
    rw [jumpTarget, around]
    exact within
  | conditional shape form => rw [read_of_conditional shape, conditional_of_form form]
  | @option words choice other form =>
    have unbracketed : bracketed? ('i' :: 'f' :: ' ' :: words) = none := by
      rw [Option.eq_none_iff_forall_ne_some]
      intro result reads
      obtain ⟨condition, shape, -⟩ := shape_of_bracketed? reads
      exact other condition shape
    have reads := read_if words
    rw [unbracketed, Choice.read?_of_form form] at reads
    exact reads
  | set named => exact (read_change named).1
  | unset named => exact (read_change named).2
  | image field picture =>
    rw [read_of_field field]
    simp [EntryLine.image, picture]
  | remark field other =>
    rw [read_of_field field]
    simp [EntryLine.image, other]
  | field field notImage notIf =>
    rw [read_of_field field]
    split
    next same => exact absurd same notImage
    next same => exact absurd same notIf
    next => rfl

theorem conditional_settled {text condition : List Char} (shape : Conditional text condition) :
    (∃ entry, LineForm text entry) ∨ TooLong text ∨ conditional condition text = .ok (narrative text) := by
  rcases Condition.read_cases (trimChars condition) with ⟨clauses, form⟩ | overlong | malformed
  next => exact .inl ⟨_, .conditional shape form⟩
  next => exact .inr (.inl ⟨condition, shape, overlong⟩)
  next =>
    rw [conditional_eq, malformed]
    exact .inr (.inr rfl)

theorem header_settled {text : List Char} {result : Read} (reads : header? text = some result) :
    (∃ entry, LineForm text entry) ∨ result = .ok (narrative text) := by
  unfold header? at reads
  split at reads
  next rest =>
    split at reads
    next c label allows splits =>
      obtain ⟨gap, blank, whole⟩ := exists_gap rest
      obtain ⟨tail, same, oneLine, ends, shortest⟩ := shortest_of_splitHeader? splits
      have opens : Opens (c :: label) := by
        obtain ⟨d, more, first, solid⟩ := @opens_dropBlanks rest (by simp [same])
        rw [same] at first
        cases first
        exact ⟨c, label, rfl, solid⟩
      rw [whole, same]
      exact .inl ⟨_, .header blank opens oneLine ends shortest⟩
    next =>
      cases reads
      exact .inr rfl
  next => cases reads

theorem form_of_jumpTarget {rest : List Char} (nonempty : jumpTarget rest ≠ []) :
    LineForm ("goto ".toList ++ rest) (.goto (String.ofList (jumpTarget rest))) := by
  obtain ⟨gap, space, before, behind, whole⟩ := exists_around rest
  unfold jumpTarget at nonempty ⊢
  split at nonempty
  next inner marked =>
    obtain ⟨between, more, front, back, inside⟩ := exists_around inner
    have blank : AllBlank (more ++ space) := List.forall_mem_append.mpr ⟨back, behind⟩
    have parts : rest = gap ++ '@' :: (between ++ (trimChars inner ++ (more ++ space))) := by
      rw [whole, marked]
      nth_rewrite 1 [inside]
      simp
    rw [parts]
    exact .markedJump before front (solid_trimChars nonempty) blank
  next unmarked =>
    nth_rewrite 1 [whole]
    refine .jump before (solid_trimChars nonempty) ?_ behind
    intro first
    obtain ⟨inner, marked⟩ := List.head?_eq_some_iff.mp first
    exact unmarked inner marked

theorem jump_settled {text : List Char} {result : Read} (reads : jump? text = some result) :
    (∃ entry, LineForm text entry) ∨ result = .ok (narrative text) := by
  unfold jump? at reads
  obtain ⟨rest, after, rfl⟩ := Option.map_eq_some_iff.mp reads
  by_cases named : jumpTarget rest = []
  next =>
    rw [named]
    exact .inr rfl
  next =>
    rw [eq_append_of_afterWord? after]
    exact .inl ⟨_, form_of_jumpTarget named⟩

theorem not_conditional {words : List Char} (unbracketed : bracketed? ("if ".toList ++ words) = none)
    (condition : List Char) : ¬Conditional ("if ".toList ++ words) condition := by
  intro shape
  generalize whole : "if ".toList ++ words = text at shape unbracketed
  cases shape with
  | when => simp at whole
  | bracketed blank apart nonempty unclosed =>
    rw [bracketed?_of_shape blank apart nonempty unclosed] at unbracketed
    cases unbracketed
  | field field =>
    cases field
    simp at whole

theorem option_settled {text : List Char} {result : Read} (unbracketed : bracketed? text = none)
    (reads : option? text = some result) : (∃ entry, LineForm text entry) ∨ result = .ok (narrative text) := by
  unfold option? at reads
  obtain ⟨words, after, same⟩ := Option.map_eq_some_iff.mp reads
  have whole : text = "if ".toList ++ words := eq_append_of_afterWord? after
  subst whole
  cases found : Choice.read? (trimChars words) with
  | none =>
    rw [found] at same
    exact .inr same.symm
  | some choice => exact .inl ⟨_, .option (not_conditional unbracketed) (Choice.form_of_read? found)⟩

theorem change_settled {text : List Char} {result : Read} (reads : change? text = some result) :
    ∃ entry, LineForm text entry := by
  unfold change? at reads
  split at reads
  next => exact ⟨_, .set (Option.ite_none_right_eq_some.mp reads).1⟩
  next => exact ⟨_, .unset (Option.ite_none_right_eq_some.mp reads).1⟩
  next => cases reads

theorem field_settled {text : List Char} {result : Read} (reads : field? text = some result) :
    (∃ entry, LineForm text entry) ∨ TooLong text ∨ result = .ok (narrative text) := by
  unfold field? at reads
  obtain ⟨⟨key, value⟩, splits, same⟩ := Option.map_eq_some_iff.mp reads
  have field := field_of_splitField? splits
  have spelled {word : String} (named : String.ofList key = word) : key = word.toList := by
    rw [← named, String.toList_ofList]
  dsimp only at same
  split at same
  next named =>
    rw [spelled named] at field
    cases picture : isImage value with
    | true => exact .inl ⟨_, .image field picture⟩
    | false => exact .inl ⟨_, .remark field picture⟩
  next named =>
    rw [spelled named] at field
    rw [← same]
    exact conditional_settled (.field field)
  next notImage notIf => exact .inl ⟨_, .field field notImage notIf⟩

theorem read_settled (text : List Char) :
    (∃ entry, LineForm text entry) ∨ TooLong text ∨ read text = .ok (narrative text) := by
  unfold read
  rcases found : (header? text <|> jump? text <|> when? text <|> bracketed? text <|> option? text <|>
    change? text <|> field? text) with _ | result
  next => exact .inr (.inr rfl)
  next =>
    rw [Option.getD_some]
    simp only [Option.orElse_eq_orElse, Option.orElse_eq_or, Option.or_eq_some_iff] at found
    rcases found with header | ⟨-, jump | ⟨-, told | ⟨-, bracketed | ⟨unbracketed, option | ⟨-, change |
      ⟨-, field⟩⟩⟩⟩⟩⟩
    next => exact (header_settled header).imp_right .inr
    next => exact (jump_settled jump).imp_right .inr
    next =>
      obtain ⟨condition, after, rfl⟩ := Option.map_eq_some_iff.mp told
      have whole : text = "when ".toList ++ condition := eq_append_of_afterWord? after
      subst whole
      exact conditional_settled (.when condition)
    next =>
      obtain ⟨condition, shape, rfl⟩ := shape_of_bracketed? bracketed
      exact conditional_settled shape
    next => exact (option_settled unbracketed option).imp_right .inr
    next => exact .inl (change_settled change)
    next => exact field_settled field

theorem ne_narrative_of_form {text : List Char} {entry : Entry} (form : LineForm text entry) :
    entry ≠ narrative text := by
  cases form with
  | remark field other =>
    cases field
    -- The remark begins otherwise than the field that it is about.
    simp [narrative, ← String.toList_inj]
  | _ =>
    intro same
    cases same

theorem fits_of_read {text : List Char} {entry : Entry} (reads : read text = .ok entry) :
    LineForm text entry ∨ entry = narrative text ∧ ∀ other, ¬LineForm text other := by
  rcases read_settled text with ⟨found, form⟩ | tooLong | told
  next =>
    rw [read_of_form form] at reads
    cases reads
    exact .inl form
  next =>
    rw [read_of_tooLong tooLong] at reads
    cases reads
  next =>
    rw [told] at reads
    cases reads
    refine .inr ⟨rfl, fun other form => ?_⟩
    rw [read_of_form form] at told
    exact ne_narrative_of_form form (Except.ok.inj told)

theorem tooLong_of_read {text : List Char} {fault : NumeralTooLong} (fails : read text = .error fault) :
    TooLong text := by
  rcases read_settled text with ⟨entry, form⟩ | tooLong | told
  next =>
    rw [read_of_form form] at fails
    cases fails
  next => exact tooLong
  next =>
    rw [told] at fails
    cases fails

end EntryLine

/-- An item is what the text of its line has the form of. A line of no form is told as it stands. -/
def Item.Fits : Item → List Char → Prop
  | .entry bare, text =>
    EntryLine.LineForm text bare ∨ bare = EntryLine.narrative text ∧ ∀ other, ¬EntryLine.LineForm text other
  | .otherwise, text => String.ofList text = "else" ∨ String.ofList text = "[else]"

theorem Item.StandsOn.fits {item : Item} {text : List Char} (stands : item.StandsOn text) : item.Fits text := by
  cases item with
  | entry bare => exact EntryLine.fits_of_read stands
  | otherwise => exact stands

theorem exists_of_forall₂ {α β : Type} {relates : α → β → Prop} {xs : List α} {ys : List β}
    (all : List.Forall₂ relates xs ys) {x : α} (member : x ∈ xs) : ∃ y ∈ ys, relates x y := by
  induction all with
  | nil => cases member
  | cons here _ ih =>
    rcases List.mem_cons.mp member with rfl | later
    next => exact ⟨_, List.mem_cons_self, here⟩
    next =>
      obtain ⟨y, inside, there⟩ := ih later
      exact ⟨y, List.mem_cons_of_mem _ inside, there⟩

namespace Script

theorem fails_of_readLines {lines : List String} {fault : NumeralTooLong} (fails : readLines lines = .error fault) :
    ∃ text ∈ contents lines, EntryLine.read text = .error fault := by
  induction lines with
  | nil => cases fails
  | cons line lines ih =>
    rw [readLines_cons] at fails
    rw [contents_cons]
    cases source : SourceLine.ofString? line with
    | none =>
      rw [source] at fails
      exact ih fails
    | some source =>
      rw [source] at fails
      dsimp only at fails ⊢
      split at fails
      next first =>
        cases fails
        exact ⟨_, List.mem_cons_self, first⟩
      next later =>
        cases fails
        obtain ⟨text, member, fails⟩ := ih later
        exact ⟨text, List.mem_cons_of_mem _ member, fails⟩
      next => cases fails

theorem readLines_of_read {lines : List String} {script : List Entry} (reads : read lines = .ok script) :
    ∃ placed, readLines lines = .ok placed ∧ script = (nest placed).map Prod.snd := by
  unfold read at reads
  cases found : readLines lines with
  | error =>
    rw [found] at reads
    cases reads
  | ok placed =>
    rw [found] at reads
    cases reads
    exact ⟨placed, rfl, rfl⟩

theorem readLines_of_read_error {lines : List String} {fault : NumeralTooLong} (fails : read lines = .error fault) :
    readLines lines = .error fault := by
  unfold read at fails
  cases found : readLines lines with
  | error => rfl
  | ok placed =>
    rw [found] at fails
    cases fails

theorem fits_of_read {lines : List String} {script : List Entry} (reads : read lines = .ok script) :
    List.Forall₂ Item.Fits (items script) (contents lines) := by
  obtain ⟨placed, found, rfl⟩ := readLines_of_read reads
  exact (standsOn_nest (reads_of_readLines found)).imp fun _ _ => Item.StandsOn.fits

theorem not_tooLong_of_read {lines : List String} {script : List Entry} (reads : read lines = .ok script) :
    ∀ text ∈ contents lines, ¬EntryLine.TooLong text := by
  obtain ⟨placed, found, -⟩ := readLines_of_read reads
  intro text member tooLong
  obtain ⟨entry, -, entry_read⟩ := exists_of_forall₂ (reads_of_readLines found).flip member
  rw [EntryLine.read_of_tooLong tooLong] at entry_read
  cases entry_read

end Script

/-- Lines are read unless a condition in them has a numeral that is too long, and a line that has no form is told as it
stands. -/
theorem lines_fit_or_too_long (lines : List String) :
    match Script.read lines with
    | .ok script =>
      (∀ text ∈ contents lines, ¬EntryLine.TooLong text) ∧
        List.Forall₂ Item.Fits (Script.items script) (contents lines)
    | .error _ => ∃ text ∈ contents lines, EntryLine.TooLong text := by
  cases reads : Script.read lines with
  | ok script => exact ⟨Script.not_tooLong_of_read reads, Script.fits_of_read reads⟩
  | error fault =>
    obtain ⟨text, member, fails⟩ := Script.fails_of_readLines (Script.readLines_of_read_error reads)
    exact ⟨text, member, EntryLine.tooLong_of_read fails⟩

theorem overlong_longClause {count : Nat} (long : numeralLimit ≤ count) : Condition.Overlong (longClause count) := by
  have digits : ∀ c ∈ List.replicate (count + 1) '1', isDigit c = true := by
    intro c member
    rw [(List.mem_replicate.mp member).2]
    decide
  have compares : Clause.Compares (longClause count) ['g', 'o', 'l', 'd'] .atLeast (List.replicate (count + 1) '1') :=
    @Clause.Compares.mk ['g', 'o', 'l', 'd'] [] [] _ .atLeast (by decide) allBlank_nil allBlank_nil (by simp) digits
  refine ⟨[], longClause count, [], splitOn_longClause count, nofun, ?_⟩
  rw [Condition.PartOverlong, trimChars_longClause]
  exact ⟨_, _, _, compares, by simpa using Nat.lt_succ_of_le long⟩

theorem Script.read_longClause {count : Nat} (long : numeralLimit ≤ count) :
    read ["when " ++ String.ofList (longClause count)] = .error {} := by
  have clause : Solid (longClause count) := ⟨List.cons_ne_nil _ _, trimChars_longClause _⟩
  have chars : ("when " ++ String.ofList (longClause count)).toList = "when ".toList ++ longClause count := by simp
  have tooLong : EntryLine.TooLong ("when " ++ String.ofList (longClause count)).toList := by
    rw [chars]
    refine ⟨_, .when _, ?_⟩
    rw [trimChars_longClause]
    exact overlong_longClause long
  have source := @SourceLine.ofString?_indentBy 0 ("when " ++ String.ofList (longClause count))
  rw [chars] at source tooLong
  have unindented (line : String) : indentBy 0 line = line := String.empty_append
  have found := source (solid_of_opens_closes ⟨'w', _, rfl, by decide⟩ (clause.closes.append _))
    (not_starred (by decide) _)
  rw [unindented] at found
  have fails : readLines ["when " ++ String.ofList (longClause count)] = .error {} := by
    rw [readLines_cons, found]
    dsimp only
    rw [EntryLine.read_of_tooLong tooLong]
  rw [read, fails]
  rfl

theorem line_with_long_numeral_not_read :
    Script.read ["when " ++ String.ofList (longClause numeralLimit)] = .error {} :=
  Script.read_longClause (Nat.le_refl numeralLimit)

end Gamebook
