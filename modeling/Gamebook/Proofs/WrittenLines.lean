import Gamebook.Proofs.DocumentOrder
import Gamebook.Proofs.WrittenOptions

set_option autoImplicit false

namespace Gamebook

open Gamebook.Text

namespace EntryLine

theorem read_goto {target : List Char} (solid : Solid target) :
    read ('g' :: 'o' :: 't' :: 'o' :: ' ' :: '@' :: target) = .ok (.goto (String.ofList target)) := by
  have whole : trimChars ('@' :: target) = '@' :: target :=
    (solid_of_opens_closes ⟨'@', target, rfl, by decide⟩ (solid.closes.append ['@'])).trimmed
  have named : jumpTarget ('@' :: target) = target := by
    rw [jumpTarget, whole]
    exact solid.trimmed
  -- The first letters of a line keep most readers from it, whatever comes after them.
  have reads : read ('g' :: 'o' :: 't' :: 'o' :: ' ' :: '@' :: target) =
      .ok (if (jumpTarget ('@' :: target)).isEmpty then narrative ('g' :: 'o' :: 't' :: 'o' :: ' ' :: '@' :: target)
        else .goto (String.ofList (jumpTarget ('@' :: target)))) := rfl
  rw [reads, named, if_neg (by simpa using solid.nonempty)]

theorem read_when {condition : String} (stripped : trimChars condition.toList = condition.toList)
    {clauses : List Clause} (accepted : Condition.read condition = .ok (some clauses)) :
    read ('w' :: 'h' :: 'e' :: 'n' :: ' ' :: condition.toList) = .ok (.when condition []) := by
  have reads : read ('w' :: 'h' :: 'e' :: 'n' :: ' ' :: condition.toList) =
      conditional condition.toList ('w' :: 'h' :: 'e' :: 'n' :: ' ' :: condition.toList) := rfl
  rw [reads, conditional_eq, stripped, String.ofList_toList, accepted]

theorem bracketed?_written {choice : Choice} (writable : choice.Writable) :
    bracketed? ('i' :: 'f' :: ' ' :: choice.written) = none := by
  have text := (writable.phrases choice.text List.mem_cons_self).solid
  have first : choice.written.head? ≠ some '[' := by
    rw [Choice.written, List.head?_append, Choice.phrases, head?_barred text]
    obtain ⟨c, rest, same, -⟩ := text.opens
    simpa [same] using writable.unbracketed
  have after : afterWord? "if" ('i' :: 'f' :: ' ' :: choice.written) = some (' ' :: choice.written) := rfl
  have spaced : dropBlanks (' ' :: choice.written) = choice.written :=
    (Choice.solid_written writable).opens.dropBlanks_eq
  unfold bracketed?
  rw [after]
  dsimp only
  rw [spaced]
  split
  next => rfl
  next =>
    split
    next bracket =>
      rw [bracket] at first
      exact absurd rfl first
    next => rfl

theorem read_option {choice : Choice} (writable : choice.Writable) :
    read choice.line.toList = .ok (.option choice []) := by
  -- Two readers take lines that begin so, and the one for brackets comes first.
  have reads : read ('i' :: 'f' :: ' ' :: choice.written) =
      (bracketed? ('i' :: 'f' :: ' ' :: choice.written) <|> option? ('i' :: 'f' :: ' ' :: choice.written)).getD
        (.ok (narrative ('i' :: 'f' :: ' ' :: choice.written))) := rfl
  have after : afterWord? "if " ('i' :: 'f' :: ' ' :: choice.written) = some choice.written := rfl
  have option : option? ('i' :: 'f' :: ' ' :: choice.written) = some (.ok (.option choice [])) := by
    rw [option?, after, Option.map_some, (Choice.solid_written writable).trimmed, Choice.read?_written writable]
  rw [Choice.toList_line, reads, bracketed?_written writable, option]
  rfl

theorem read_change {name : List Char} (named : Name.isName name = true) :
    read ('+' :: name) = .ok (.metadata "sets" (String.ofList name)) ∧
      read ('-' :: name) = .ok (.metadata "unsets" (String.ofList name)) := by
  have plus : read ('+' :: name) =
      (change? ('+' :: name) <|> field? ('+' :: name)).getD (.ok (narrative ('+' :: name))) := rfl
  have minus : read ('-' :: name) =
      (change? ('-' :: name) <|> field? ('-' :: name)).getD (.ok (narrative ('-' :: name))) := rfl
  have up : change? ('+' :: name) = some (.ok (.metadata "sets" (String.ofList name))) := if_pos named
  have down : change? ('-' :: name) = some (.ok (.metadata "unsets" (String.ofList name))) := if_pos named
  rw [plus, minus, up, down]
  exact ⟨rfl, rfl⟩

theorem splitField?_written {key value : List Char} (nonempty : key ≠ []) (word : ∀ c ∈ key, isWord c = true)
    (solid : Solid value) (oneLine : '\n' ∉ value) :
    splitField? ('[' :: (key ++ ':' :: ' ' :: (value ++ [']']))) = some (key, value) := by
  have colon : isWord ':' = false := by decide
  have taken : (key ++ ':' :: ' ' :: (value ++ [']'])).takeWhile isWord = key := by
    rw [List.takeWhile_append_of_pos word, List.takeWhile_cons_of_neg (by simp [colon]), List.append_nil]
  have left : (key ++ ':' :: ' ' :: (value ++ [']'])).dropWhile isWord = ':' :: ' ' :: (value ++ [']']) := by
    rw [List.dropWhile_append_of_pos word, List.dropWhile_cons_of_neg (by simp [colon])]
  have inner : fieldValue? (' ' :: value) = some value := by
    have spaced : dropBlanks (' ' :: value) = value := solid.opens.dropBlanks_eq
    obtain ⟨c, rest, rfl, -⟩ := solid.opens
    rw [fieldValue?, spaced]
    dsimp only
    rw [solid.closes.dropBlanksEnd_eq, if_neg (by simpa using oneLine)]
  simp only [splitField?, taken, left]
  rw [← List.cons_append, List.dropLast_concat, List.getLast?_concat, inner, if_neg (by simp [nonempty])]
  rfl

theorem read_field {key value : List Char} (nonempty : key ≠ []) (word : ∀ c ∈ key, isWord c = true)
    (solid : Solid value) (oneLine : '\n' ∉ value) :
    read ('[' :: (key ++ ':' :: ' ' :: (value ++ [']']))) =
      match String.ofList key with
      | "image" => .ok (image value)
      | "if" => conditional value ('[' :: (key ++ ':' :: ' ' :: (value ++ [']'])))
      | key => .ok (.metadata key (String.ofList value)) := by
  have reads (cs : List Char) : read ('[' :: cs) = (field? ('[' :: cs)).getD (.ok (narrative ('[' :: cs))) := rfl
  rw [reads, field?, splitField?_written nonempty word solid oneLine]
  rfl

theorem headerEnd?_eq_none {front tail : List Char} (closes : Closes front)
    (unhinted : ¬"[allows:".toList <:+: front) (follows : ∀ c ∈ tail.head?, isBlank c = true) :
    headerEnd? (front ++ tail) = none := by
  have text : dropBlanks front ≠ [] := by
    obtain ⟨before, c, rfl, solid⟩ := closes
    intro empty
    have blank := List.dropWhile_eq_nil_iff.mp empty c (by simp)
    simp [solid] at blank
  have left : dropBlanks (front ++ tail) = dropBlanks front ++ tail := by
    rw [dropBlanks, List.dropWhile_append, ← dropBlanks, if_neg (by simpa using text)]
  have apart : ¬"[allows:".toList <+: dropBlanks front ++ tail := by
    intro starts
    have solid : "[allows:".toList.all (fun c => !isBlank c) = true := by decide
    have inside := prefix_of_prefix_append (by simpa using List.all_eq_true.mp solid) follows starts
    exact unhinted (inside.isInfix.trans (List.dropWhile_suffix isBlank).isInfix)
  unfold headerEnd?
  rw [left]
  split
  next empty => simp [text] at empty
  next => rw [afterWord?_eq_none apart]

theorem splitHeader?_append {label tail : List Char} {allows : Option (List Char)}
    (closes : ∀ c ∈ label.getLast?, isBlank c = false) (oneLine : '\n' ∉ label)
    (unhinted : ¬"[allows:".toList <:+: label) (follows : ∀ c ∈ tail.head?, isBlank c = true)
    (ends : headerEnd? tail = some allows) : splitHeader? (label ++ tail) = some (label, allows) := by
  -- A label is taken as short as it can be. It does not end before the tail, since up to there some text is left, and
  -- that is no hint.
  induction label with
  | nil =>
    rw [List.nil_append]
    unfold splitHeader?
    rw [ends]
  | cons c label ih =>
    rw [List.mem_cons, not_or] at oneLine
    have later : ∀ d ∈ label.getLast?, isBlank d = false := by
      cases label with
      | nil => nofun
      | cons => exact closes
    have rest := ih later oneLine.2 fun inside => unhinted (inside.trans (List.suffix_cons c label).isInfix)
    have onward := headerEnd?_eq_none (closes_of_getLast? (List.cons_ne_nil c label) closes) unhinted follows
    have same : (c == '\n') = false := by simpa using Ne.symm oneLine.1
    unfold splitHeader?
    rw [onward, List.cons_append]
    dsimp only
    rw [same, rest]
    rfl

theorem read_scene {label : List Char} (solid : Solid label) (oneLine : '\n' ∉ label)
    (unhinted : ¬"[allows:".toList <:+: label) {tail : List Char} {allows : Option (List Char)}
    (follows : ∀ c ∈ tail.head?, isBlank c = true) (ends : headerEnd? tail = some allows) :
    read ('@' :: (label ++ tail)) =
      .ok (.scene (String.ofList label) ((allows.filter fun hint => !hint.isEmpty).map String.ofList)) := by
  have split := splitHeader?_append solid.closes.getLast? oneLine unhinted follows ends
  have spaced := (solid.opens.append tail).dropBlanks_eq
  obtain ⟨c, rest, rfl, -⟩ := solid.opens
  have header : header? ('@' :: (c :: rest ++ tail)) =
      some (.ok (.scene (String.ofList (c :: rest))
        ((allows.filter fun hint => !hint.isEmpty).map String.ofList))) := by
    simp only [header?, spaced, split]
  simp only [read, header]
  rfl

theorem headerEnd?_hint {hint : List Char} (solid : Solid hint) (unclosed : ']' ∉ hint) :
    headerEnd? (" [allows: ".toList ++ (hint ++ [']'])) = some (some hint) := by
  have open_ : ∀ c ∈ hint, (c != ']') = true := by
    intro c member
    rw [bne_iff_ne]
    rintro rfl
    exact unclosed member
  have after : headerEnd? (" [allows: ".toList ++ (hint ++ [']'])) =
      if (dropBlanks (hint ++ [']'])).dropWhile (· != ']') == [']'] then
        some (some (dropBlanksEnd ((dropBlanks (hint ++ [']'])).takeWhile (· != ']'))))
      else none := rfl
  rw [after, (solid.opens.append [']']).dropBlanks_eq, List.dropWhile_append_of_pos open_,
    List.takeWhile_append_of_pos open_]
  simp [solid.closes.dropBlanksEnd_eq]

end EntryLine

def Text.Starred (cs : List Char) : Prop :=
  ∃ count blank rest, cs = List.replicate (count + 1) '*' ++ blank :: rest ∧ isBlank blank = true

theorem Text.not_starred {c : Char} (other : c ≠ '*') (rest : List Char) : ¬Starred (c :: rest) := by
  rintro ⟨count, blank, more, same, -⟩
  rw [List.replicate_succ, List.cons_append] at same
  exact other (List.cons.inj same).1

structure LineReads (line : String) (entry : Entry) : Prop where
  solid : Solid line.toList
  unstarred : ¬Starred line.toList
  reads : EntryLine.read line.toList = .ok entry

theorem lineReads_of_front {line : String} {c : Char} {rest : List Char} {entry : Entry}
    (written : line.toList = c :: rest) (front : isBlank c = false ∧ c ≠ '*') (closes : Closes (c :: rest))
    (reads : EntryLine.read (c :: rest) = .ok entry) : LineReads line entry := by
  refine ⟨?_, ?_, ?_⟩ <;> rw [written]
  · exact solid_of_opens_closes ⟨c, rest, rfl, front.1⟩ closes
  · exact not_starred front.2 rest
  · exact reads

namespace Entry

def bare : Entry → Entry
  | .option choice _ => .option choice []
  | .when condition _ => .when condition []
  | .whenElse condition _ _ => .when condition []
  | entry => entry

/-- What an entry must be like for its line. -/
def Writable : Entry → Prop
  | .narrative text =>
    Solid text.toList ∧ ¬Starred text.toList ∧ EntryLine.read text.toList = .ok (.narrative text)
  | .scene label allows =>
    Solid label.toList ∧ '\n' ∉ label.toList ∧ ¬"[allows:".toList <:+: label.toList ∧
      ∀ hint ∈ allows, Solid hint.toList ∧ ']' ∉ hint.toList
  | .goto target => Solid target.toList
  | .option choice _ => choice.Writable
  | .image url => Solid url.toList ∧ '\n' ∉ url.toList ∧ EntryLine.isImage url.toList = true
  | .metadata key value =>
    if key = "sets" ∨ key = "unsets" then Name.isName value.toList = true
    else
      key ≠ "" ∧ (∀ c ∈ key.toList, isWord c = true) ∧ key ≠ "image" ∧ key ≠ "if" ∧
        Solid value.toList ∧ '\n' ∉ value.toList
  | .when condition _ | .whenElse condition _ _ =>
    trimChars condition.toList = condition.toList ∧ ∃ clauses, Condition.read condition = .ok (some clauses)

theorem lineReads_scene {label : String} {allows : Option String} (writable : (scene label allows).Writable) :
    LineReads (sceneLine label allows) (.scene label allows) := by
  obtain ⟨solid, oneLine, unhinted, hints⟩ := writable
  cases allows with
  | none =>
    have written : (sceneLine label none).toList = '@' :: (label.toList ++ []) := by simp [sceneLine]
    refine lineReads_of_front written (by decide) ?_ ?_
    · simpa using solid.closes.append ['@']
    · rw [EntryLine.read_scene solid oneLine unhinted (by simp) rfl, String.ofList_toList]
      rfl
  | some hint =>
    obtain ⟨solidHint, unclosed⟩ := hints hint rfl
    have written : (sceneLine label (some hint)).toList =
        '@' :: (label.toList ++ (" [allows: ".toList ++ (hint.toList ++ [']']))) := by
      simp only [sceneLine, solidHint.isEmpty_eq]
      simp
    have ends := EntryLine.headerEnd?_hint solidHint unclosed
    refine lineReads_of_front written (by decide) ?_ ?_
    · exact ⟨'@' :: (label.toList ++ (" [allows: ".toList ++ hint.toList)), ']', by simp, by decide⟩
    · rw [EntryLine.read_scene solid oneLine unhinted (fun c first => by cases first; decide) ends]
      have kept : hint.toList.isEmpty = false := by simpa using solidHint.nonempty
      simp only [Option.filter, kept]
      simp

theorem lineReads_metadata {key value : String} (writable : (metadata key value).Writable) :
    LineReads (metadataLine key value) (.metadata key value) := by
  by_cases changes : key = "sets" ∨ key = "unsets"
  next =>
    have named : Name.isName value.toList = true := by simpa [Writable, changes] using writable
    have closes := (Name.solid_of_isName named).closes
    obtain ⟨up, down⟩ := EntryLine.read_change named
    rw [String.ofList_toList] at up down
    rcases changes with rfl | rfl
    next => exact lineReads_of_front (by simp [metadataLine, Change.ofField?]) (by decide) (closes.append ['+']) up
    next => exact lineReads_of_front (by simp [metadataLine, Change.ofField?]) (by decide) (closes.append ['-']) down
  next =>
    rw [Writable, if_neg changes] at writable
    rw [not_or] at changes
    obtain ⟨nonempty, word, notImage, notIf, solid, oneLine⟩ := writable
    have written : (metadataLine key value).toList =
        '[' :: (key.toList ++ ':' :: ' ' :: (value.toList ++ [']'])) := by
      simp [metadataLine, Change.ofField?, changes]
    have reads := EntryLine.read_field (by simpa using nonempty) word solid oneLine
    refine lineReads_of_front written (by decide) ?_ ?_
    · exact ⟨'[' :: (key.toList ++ ':' :: ' ' :: value.toList), ']', by simp, by decide⟩
    · rw [reads, String.ofList_toList]
      split
      next => exact absurd rfl notImage
      next => exact absurd rfl notIf
      next => rw [String.ofList_toList]

theorem lineReads_image {url : String} (writable : (image url).Writable) :
    LineReads (line (.image url)) (.image url) := by
  obtain ⟨solid, oneLine, picture⟩ := writable
  have written : (line (.image url)).toList = '[' :: ("image".toList ++ ':' :: ' ' :: (url.toList ++ [']'])) := by
    simp [line]
  have word : "image".toList ≠ [] ∧ ∀ c ∈ "image".toList, isWord c = true :=
    ⟨by decide, List.all_eq_true.mp (by decide)⟩
  refine lineReads_of_front written (by decide) ?_ ?_
  · exact ⟨"[image: ".toList ++ url.toList, ']', by simp, by decide⟩
  · rw [EntryLine.read_field word.1 word.2 solid oneLine, EntryLine.image, if_pos picture]
    simp only [String.ofList_toList]

theorem lineReads_conditional {condition : String} (stripped : trimChars condition.toList = condition.toList)
    {clauses : List Clause} (accepted : Condition.read condition = .ok (some clauses)) :
    LineReads ("when " ++ condition) (.when condition []) := by
  have nonempty : condition.toList ≠ [] := by
    intro empty
    rw [String.toList_eq_nil_iff] at empty
    subst empty
    cases accepted
  have closes := (Solid.mk nonempty stripped).closes.append ['w', 'h', 'e', 'n', ' ']
  exact lineReads_of_front (by simp) (by decide) closes (EntryLine.read_when stripped accepted)

theorem lineReads {entry : Entry} (writable : entry.Writable) : LineReads entry.line entry.bare := by
  cases entry with
  | narrative text => exact ⟨writable.1, writable.2.1, writable.2.2⟩
  | scene label allows => exact lineReads_scene writable
  | goto target =>
    have closes := Solid.closes writable |>.append ['g', 'o', 't', 'o', ' ', '@']
    have reads := EntryLine.read_goto writable
    rw [String.ofList_toList] at reads
    exact lineReads_of_front (by simp [line]) (by decide) closes reads
  | option choice response =>
    have written := choice.toList_line
    have reads := EntryLine.read_option writable
    rw [written] at reads
    have closes := (Choice.solid_written writable).closes.append ['i', 'f', ' ']
    exact lineReads_of_front written (by decide) closes reads
  | image url => exact lineReads_image writable
  | metadata key value => exact lineReads_metadata writable
  | when condition body =>
    obtain ⟨stripped, clauses, accepted⟩ := writable
    exact lineReads_conditional stripped accepted
  | whenElse condition body otherwise =>
    obtain ⟨stripped, clauses, accepted⟩ := writable
    exact lineReads_conditional stripped accepted

end Entry

theorem lineReads_else : LineReads "else" (.narrative "else") :=
  lineReads_of_front rfl (by decide) ⟨['e', 'l', 's'], 'e', rfl, by decide⟩ rfl

end Gamebook
