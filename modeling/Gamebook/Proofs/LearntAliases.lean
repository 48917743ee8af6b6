import Gamebook.Proofs.ConditionGrammar

set_option autoImplicit false

namespace Gamebook

open Gamebook.Text

/-- Whether a choice takes a new alias: it has the text, and none of its phrases makes the alias redundant. -/
def Choice.takes (optionText new : String) (choice : Choice) : Bool :=
  choice.text == optionText && !choice.phrases.any (Alias.isRedundant · new)

def Choice.learn (optionText new : String) (choice : Choice) : Choice :=
  if choice.takes optionText new then choice.withPhrase new else choice

theorem Text.eq_append_of_afterWord? {word : String} {cs rest : List Char} (after : afterWord? word cs = some rest) :
    cs = word.toList ++ rest := by
  obtain ⟨begins, same⟩ := Option.ite_none_right_eq_some.mp after
  obtain ⟨rest, rfl⟩ := List.isPrefixOf_iff_prefix.mp begins
  rw [List.drop_left] at same
  rw [Option.some.inj same]

theorem barred_concat (phrases : List String) (last : String) :
    ∃ front, barred (phrases ++ [last]) = front ++ last.toList := by
  induction phrases with
  | nil => exact ⟨[], barred_singleton last⟩
  | cons phrase phrases ih =>
    obtain ⟨front, same⟩ := ih
    match phrases with
    | [] => exact ⟨phrase.toList ++ [' '] ++ ['|', ' '], by simp [barred_cons, barred_singleton]⟩
    | other :: phrases =>
      refine ⟨phrase.toList ++ [' '] ++ '|' :: ' ' :: front, ?_⟩
      rw [List.cons_append, List.cons_append, barred_cons, ← List.cons_append, same]
      simp

namespace Alias

mutual

def learnEntry (optionText new : String) : Entry → Entry
  | .option choice response => .option (choice.learn optionText new) (learn optionText new response)
  | .when condition body => .when condition (learn optionText new body)
  | .whenElse condition body otherwise =>
    .whenElse condition (learn optionText new body) (learn optionText new otherwise)
  | entry => entry

/-- A script in which every option that takes a new alias has it. -/
def learn (optionText new : String) : List Entry → List Entry
  | [] => []
  | entry :: entries => learnEntry optionText new entry :: learn optionText new entries

end

theorem learn_eq_map (optionText new : String) (entries : List Entry) :
    learn optionText new entries = entries.map (learnEntry optionText new) := by
  induction entries with
  | nil => rw [learn, List.map_nil]
  | cons entry entries ih => rw [learn, ih, List.map_cons]

def newText (text : List Char) (choice : Choice) (new : String) : List Char :=
  'i' :: 'f' :: ' ' :: (barred (choice.withPhrase new).phrases ++ gateOf text)

theorem withAlias_eq (margin text : List Char) (choice : Choice) (new : String) :
    withAlias margin text choice new = String.ofList (margin ++ newText text choice new) := by
  unfold withAlias newText gateOf barred
  rw [← String.toList_inj]
  cases Gate.find? text <;> simp [Choice.phrases_withPhrase]

def rewrite (optionText new : String) (text : List Char) : List Char :=
  match choiceOf? text with
  | some choice => if choice.takes optionText new then newText text choice new else text
  | none => text

theorem exists_of_choiceOf? {text : List Char} {choice : Choice} (reads : choiceOf? text = some choice) :
    ∃ rest, text = 'i' :: 'f' :: ' ' :: rest ∧ Choice.read? (trimChars rest) = some choice := by
  unfold choiceOf? at reads
  split at reads
  next rest after => exact ⟨rest, eq_append_of_afterWord? after, reads⟩
  next => cases reads

theorem closes_newText {text : List Char} (closes : Closes text) (choice : Choice) {new : String}
    (solid : Solid new.toList) : Closes (newText text choice new) := by
  obtain ⟨front, same⟩ := barred_concat choice.phrases new
  rw [newText, Choice.phrases_withPhrase, same]
  suffices ends : Closes (front ++ new.toList ++ gateOf text) from ends.append ['i', 'f', ' ']
  unfold gateOf
  cases found : Gate.find? text with
  | none => simpa using solid.closes.append front
  | some gate =>
    obtain ⟨whole, after, ampersand, -⟩ := Gate.written_of_find? found
    have ends : Closes gate.written := Closes.of_append (whole ▸ closes) (by simp [ampersand])
    exact (ends.append [' ']).append _

end Alias

namespace SourceLine

theorem text_of_ofString? {line : String} {source : SourceLine} (found : ofString? line = some source) :
    source.text = dropBlanksEnd (Alias.splitMargin line.toList).2 ∧ Solid source.text := by
  unfold ofString? at found
  dsimp only at found
  split at found
  next => cases found
  next some_left =>
    cases found
    exact ⟨Alias.trimChars_expandStars _, solid_trimChars (by simpa using some_left)⟩

theorem ofString?_of_choiceOf? {line : String} {choice : Choice}
    (reads : Alias.choiceOf? (dropBlanksEnd (Alias.splitMargin line.toList).2) = some choice) :
    ofString? line = some ⟨indentOf (Alias.pad line.toList), dropBlanksEnd (Alias.splitMargin line.toList).2⟩ := by
  obtain ⟨rest, same, -⟩ := Alias.exists_of_choiceOf? reads
  obtain ⟨more, whole⟩ := List.rdropWhile_prefix isBlank (Alias.splitMargin line.toList).2
  change dropBlanksEnd (Alias.splitMargin line.toList).2 ++ more = (Alias.splitMargin line.toList).2 at whole
  have begins : Begins (Alias.splitMargin line.toList).2 := by
    rw [← whole, same]
    exact ⟨⟨'i', _, rfl, by decide⟩, by simp⟩
  have margin := ofString?_margin line.toList begins
  rwa [Alias.splitMargin_append, String.ofList_toList] at margin

theorem ofString?_addToLine (optionText : String) {new : String} (solid : Solid new.toList) (line : String) :
    ofString? (Alias.addToLine optionText new line) =
      (ofString? line).map fun source => { source with text := Alias.rewrite optionText new source.text } := by
  unfold Alias.addToLine
  dsimp only
  cases reads : Alias.choiceOf? (dropBlanksEnd (Alias.splitMargin line.toList).2) with
  | none =>
    cases found : ofString? line with
    | none => rfl
    | some source =>
      have text := (text_of_ofString? found).1
      rw [Option.map_some, Alias.rewrite, text, reads]
      dsimp only
      rw [← text]
  | some choice =>
    have found := ofString?_of_choiceOf? reads
    have closes := (text_of_ofString? found).2.closes
    dsimp only at closes ⊢
    rw [← Choice.takes]
    cases takes : choice.takes optionText new with
    | false => simp [found, Alias.rewrite, reads, takes]
    | true =>
      have begins : Begins (Alias.newText (dropBlanksEnd (Alias.splitMargin line.toList).2) choice new) :=
        ⟨⟨'i', _, rfl, by decide⟩, by simp [Alias.newText]⟩
      rw [if_pos rfl, Alias.withAlias_eq, ofString?_margin line.toList begins,
        (Alias.closes_newText closes choice solid).dropBlanksEnd_eq, found, Option.map_some, Alias.rewrite, reads]
      simp [takes]

end SourceLine

namespace EntryLine

theorem read_if (rest : List Char) :
    read ('i' :: 'f' :: ' ' :: rest) =
      match bracketed? ('i' :: 'f' :: ' ' :: rest) with
      | some result => result
      | none =>
        match Choice.read? (trimChars rest) with
        | some choice => .ok (.option choice [])
        | none => .ok (narrative ('i' :: 'f' :: ' ' :: rest)) := by
  have reads : read ('i' :: 'f' :: ' ' :: rest) =
      (bracketed? ('i' :: 'f' :: ' ' :: rest) <|> option? ('i' :: 'f' :: ' ' :: rest)).getD
        (.ok (narrative ('i' :: 'f' :: ' ' :: rest))) := rfl
  have option : option? ('i' :: 'f' :: ' ' :: rest) =
      some (match Choice.read? (trimChars rest) with
        | some choice => .ok (.option choice [])
        | none => .ok (narrative ('i' :: 'f' :: ' ' :: rest))) := rfl
  rw [reads, option]
  cases bracketed? ('i' :: 'f' :: ' ' :: rest) <;> rfl

theorem conditional_cases {condition text : List Char} {entry : Entry}
    (reads : conditional condition text = .ok entry) :
    entry = narrative text ∨
      ∃ clauses, entry = .when (String.ofList (trimChars condition)) [] ∧
        Condition.read (String.ofList (trimChars condition)) = .ok (some clauses) := by
  rw [conditional_eq] at reads
  split at reads
  next => cases reads
  next clauses found =>
    cases reads
    exact .inr ⟨clauses, rfl, found⟩
  next =>
    cases reads
    exact .inl rfl

theorem bracketed?_eq_some {text : List Char} {result : Read} (reads : bracketed? text = some result) :
    ∃ condition, result = conditional condition text ∧ ('|' ∈ text → '|' ∈ condition) := by
  unfold bracketed? at reads
  split at reads
  next => cases reads
  next rest after =>
    split at reads
    next => cases reads
    next =>
      split at reads
      next inner opened =>
        dsimp only at reads
        split at reads
        next closed =>
          cases reads
          refine ⟨_, rfl, fun bar => ?_⟩
          obtain ⟨-, last⟩ := (Bool.and_eq_true _ _).mp closed
          have word : text = 'i' :: 'f' :: rest := eq_append_of_afterWord? after
          have here : '|' ∈ dropBlanks rest := mem_dropBlanks (by decide) (by simpa [word] using bar)
          rw [opened] at here
          have later : '|' ∈ inner := by simpa using here
          rw [← @List.takeWhile_append_dropWhile _ (· != ']') inner, eq_of_beq last, List.mem_append] at later
          exact later.resolve_right (by decide)
        next => cases reads
      next => cases reads

theorem read_if_cases {rest : List Char} {entry : Entry} (reads : read ('i' :: 'f' :: ' ' :: rest) = .ok entry) :
    entry = narrative ('i' :: 'f' :: ' ' :: rest) ∨ (∃ choice, entry = .option choice []) ∨
      ∃ condition clauses, entry = .when (String.ofList (trimChars condition)) [] ∧
        Condition.read (String.ofList (trimChars condition)) = .ok (some clauses) ∧
        ('|' ∈ 'i' :: 'f' :: ' ' :: rest → '|' ∈ condition) := by
  rw [read_if] at reads
  split at reads
  next result bracketed =>
    obtain ⟨condition, rfl, barred⟩ := bracketed?_eq_some bracketed
    rcases conditional_cases reads with told | ⟨clauses, conditional, readable⟩
    next => exact .inl told
    next => exact .inr (.inr ⟨condition, clauses, conditional, readable, barred⟩)
  next =>
    split at reads
    next choice _ =>
      cases reads
      exact .inr (.inl ⟨choice, rfl⟩)
    next =>
      cases reads
      exact .inl rfl

theorem option?_of_read {text : List Char} {choice : Choice} {response : List Entry}
    (reads : read text = .ok (.option choice response)) :
    bracketed? text = none ∧ option? text = some (.ok (.option choice response)) := by
  unfold read at reads
  rcases found : (header? text <|> jump? text <|> when? text <|> bracketed? text <|> option? text <|>
    change? text <|> field? text) with _ | result
  next =>
    rw [found] at reads
    cases reads
  next =>
    rw [found] at reads
    cases reads
    simp only [Option.orElse_eq_orElse, Option.orElse_eq_or, Option.or_eq_some_iff] at found
    rcases found with header | ⟨-, jump | ⟨-, condition | ⟨-, bracketed | ⟨none_bracketed, option | ⟨-, change |
      ⟨-, field⟩⟩⟩⟩⟩⟩
    next =>
      unfold header? at header
      repeat' split at header
      all_goals cases header
    next =>
      unfold jump? at jump
      obtain ⟨rest, -, jump⟩ := Option.map_eq_some_iff.mp jump
      dsimp only at jump
      split at jump <;> cases jump
    next =>
      obtain ⟨rest, -, conditional⟩ := Option.map_eq_some_iff.mp condition
      rcases conditional_cases conditional with told | ⟨_, told, -⟩ <;> cases told
    next =>
      obtain ⟨rest, conditional, -⟩ := bracketed?_eq_some bracketed
      rcases conditional_cases conditional.symm with told | ⟨_, told, -⟩ <;> cases told
    next => exact ⟨none_bracketed, option⟩
    next =>
      unfold change? at change
      repeat' split at change
      all_goals cases change
    next =>
      obtain ⟨⟨key, value⟩, -, field⟩ := Option.map_eq_some_iff.mp field
      dsimp only at field
      split at field
      next =>
        unfold image at field
        split at field <;> cases field
      next => rcases conditional_cases field with told | ⟨_, told, -⟩ <;> cases told
      next => cases field

end EntryLine

namespace Alias

/-- A new alias fits a line whose option takes it: it brings neither a bar nor a gate, and the line is no conditional in
brackets, neither before nor after. Such a conditional may only stay as it is. -/
def Fits (optionText new : String) (text : List Char) : Prop :=
  ∀ choice, choiceOf? text = some choice → choice.takes optionText new = true →
    if (EntryLine.bracketed? text).isSome then newText text choice new = text
    else
      '|' ∉ new.toList ∧ (choice.requires = none → Gate.find? new.toList = none) ∧
        EntryLine.bracketed? (newText text choice new) = none

instance (optionText new : String) (text : List Char) : Decidable (Fits optionText new text) :=
  match found : choiceOf? text with
  | none => .isTrue (by simp [Fits, found])
  | some choice =>
    decidable_of_iff
      (choice.takes optionText new = true →
        if (EntryLine.bracketed? text).isSome then newText text choice new = text
        else
          '|' ∉ new.toList ∧ (choice.requires = none → Gate.find? new.toList = none) ∧
            EntryLine.bracketed? (newText text choice new) = none)
      (by simp [Fits, found])

theorem learnEntry_eq_self {text : List Char} {entry : Entry} (plain : EntryLine.Plain text entry)
    {optionText new : String}
    (untaken : ∀ choice response, entry = .option choice response → choice.takes optionText new = false) :
    learnEntry optionText new entry = entry := by
  have items := plain.items
  cases entry with
  | option choice response =>
    simp only [Script.itemsOf, List.cons.injEq, Item.entry.injEq, Entry.option.injEq, true_and] at items
    rw [← items.1, learnEntry, learn, Choice.learn, untaken choice response rfl, if_neg Bool.false_ne_true]
  | when condition body =>
    simp only [Script.itemsOf, List.cons.injEq, Item.entry.injEq, Entry.when.injEq, true_and] at items
    rw [← items.1, learnEntry, learn]
  | whenElse => simp [Script.itemsOf] at items
  | narrative | scene | goto | image | metadata => rw [learnEntry] <;> nofun

theorem learnEntry_option (choice : Choice) (optionText new : String) :
    learnEntry optionText new (.option choice []) = .option (choice.learn optionText new) [] := by
  rw [learnEntry, learn]

theorem choiceOf?_of_read {text : List Char} {choice : Choice} {response : List Entry}
    (reads : EntryLine.read text = .ok (.option choice response)) : choiceOf? text = some choice := by
  have option := (EntryLine.option?_of_read reads).2
  obtain ⟨rest, after, kind⟩ := Option.map_eq_some_iff.mp option
  rw [choiceOf?, after]
  dsimp only
  split at kind
  next found =>
    cases kind
    exact found
  next => cases kind

-- Blanks after the first word belong neither to the words of an option nor to its gate.
theorem words_of_text {rest : List Char} (closes : Closes ('i' :: 'f' :: ' ' :: rest)) {choice : Choice}
    (reads : Choice.read? (trimChars rest) = some choice) :
    Closes (trimChars rest) ∧ gateOf ('i' :: 'f' :: ' ' :: rest) = gateOf (trimChars rest) := by
  have some_left : trimChars rest ≠ [] := by
    intro nothing
    rw [nothing] at reads
    cases reads
  have some_words : dropBlanks rest ≠ [] := fun nothing => some_left (by rw [trimChars, nothing]; rfl)
  have whole : 'i' :: 'f' :: ' ' :: rest = ('i' :: 'f' :: ' ' :: rest.takeWhile isBlank) ++ dropBlanks rest := by
    rw [List.cons_append, List.cons_append, List.cons_append, dropBlanks, List.takeWhile_append_dropWhile]
  have trimmed : trimChars rest = dropBlanks rest :=
    (Closes.of_append (whole ▸ closes) some_words).dropBlanksEnd_eq
  have plain : '&' ∉ 'i' :: 'f' :: ' ' :: rest.takeWhile isBlank := by
    have blank : '&' ∉ rest.takeWhile isBlank := fun member => absurd (List.mem_takeWhile_imp member) (by decide)
    simpa using blank
  refine ⟨(solid_trimChars some_left).closes, ?_⟩
  rw [whole, gateOf_append plain, trimmed]

theorem find?_of_ungated {cs : List Char} {choice : Choice} (reads : Choice.read? cs = some choice)
    (ungated : choice.requires = none) : Gate.find? cs = none := by
  unfold Choice.read? at reads
  split at reads
  next =>
    obtain ⟨old, -, rfl⟩ := Option.map_eq_some_iff.mp reads
    cases ungated
  next none_found => exact none_found

theorem find?_of_barred {choice : Choice} {new : String} (solid : Solid (barred (choice.withPhrase new).phrases))
    (reads : Choice.read? (trimChars (barred (choice.withPhrase new).phrases)) = some (choice.withPhrase new))
    (ungated : choice.requires = none) : Gate.find? new.toList = none := by
  obtain ⟨front, same⟩ := barred_concat choice.phrases new
  have none_found := find?_of_ungated reads ungated
  rw [solid.trimmed, Choice.phrases_withPhrase, same] at none_found
  exact Gate.find?_of_append none_found

theorem read_newText {text : List Char} {choice : Choice} {new : String} (solid : Solid new.toList)
    (closes : Closes text) (reads : choiceOf? text = some choice) :
    EntryLine.read (newText text choice new) = .ok (.option (choice.withPhrase new) []) ↔
      '|' ∉ new.toList ∧ (choice.requires = none → Gate.find? new.toList = none) ∧
        EntryLine.bracketed? (newText text choice new) = none := by
  obtain ⟨rest, rfl, words⟩ := exists_of_choiceOf? reads
  obtain ⟨ends, gate⟩ := words_of_text closes words
  constructor
  next =>
    intro learnt
    have unbracketed := (EntryLine.option?_of_read learnt).1
    have again : Choice.read? (trimChars (barred (choice.withPhrase new).phrases ++ gateOf (trimChars rest))) =
        some (choice.withPhrase new) := by
      rw [newText, gate, EntryLine.read_if] at learnt
      rw [newText, gate] at unbracketed
      rw [unbracketed] at learnt
      dsimp only at learnt
      split at learnt
      next other found =>
        cases learnt
        exact found
      next => cases learnt
    have phrases := (Choice.phrases_of_read? again).1
    have last : Phrase new := phrases new (by simp [Choice.phrases_withPhrase])
    refine ⟨last.unbarred, fun ungated => ?_, unbracketed⟩
    have none_before : gateOf (trimChars rest) = [] := by rw [gateOf, find?_of_ungated words ungated]
    rw [none_before, List.append_nil] at again
    exact find?_of_barred (solid_barred (List.cons_ne_nil _ _) phrases) again ungated
  next =>
    rintro ⟨unbarred, ungated, unbracketed⟩
    obtain ⟨trimmed, again⟩ := Choice.read?_withPhrase words ends ⟨solid, unbarred⟩ ungated
    rw [newText, gate] at unbracketed ⊢
    rw [EntryLine.read_if, unbracketed, trimmed.trimmed, again]

theorem bar_mem_newText (text : List Char) (choice : Choice) (new : String) : '|' ∈ newText text choice new := by
  have two : ∀ phrases : List String, '|' ∈ barred (choice.text :: (phrases ++ [new])) := by
    intro phrases
    cases phrases with
    | nil => simp [barred_cons]
    | cons => simp [barred_cons]
  exact List.mem_append_right ['i', 'f', ' '] (List.mem_append_left _ (two _))

theorem newText_eq_of_read {text : List Char} {entry : Entry} {choice : Choice} {new : String}
    (bracketed : EntryLine.bracketed? text = some (.ok entry))
    (reads : EntryLine.read (newText text choice new) = .ok entry) : newText text choice new = text := by
  obtain ⟨condition, same, -⟩ := EntryLine.bracketed?_eq_some bracketed
  have kind := EntryLine.read_if_cases reads
  rcases EntryLine.conditional_cases same.symm with rfl | ⟨clauses, rfl, -⟩
  next =>
    rcases kind with told | ⟨other, option⟩ | ⟨inner, clauses, conditional, -⟩
    next => exact (String.ofList_injective (Entry.narrative.inj told)).symm
    next => cases option
    next => cases conditional
  next =>
    rcases kind with told | ⟨other, option⟩ | ⟨inner, clauses, conditional, readable, barred⟩
    next => cases told
    next => cases option
    next =>
      have bar : '|' ∈ (String.ofList (trimChars inner)).toList := by
        rw [String.toList_ofList]
        exact mem_trimChars (by decide) (barred (bar_mem_newText text choice new))
      exact absurd bar ((Condition.written_of_read readable).not_mem (by decide) (by decide))

theorem read_rewrite {text : List Char} {entry : Entry} {new : String} (solid : Solid new.toList)
    (closes : Closes text) (reads : EntryLine.read text = .ok entry) (optionText : String) :
    EntryLine.read (rewrite optionText new text) = .ok (learnEntry optionText new entry) ↔
      Fits optionText new text := by
  have plain := EntryLine.plain_of_read reads
  unfold rewrite Fits
  cases option : choiceOf? text with
  | none =>
    have untaken : ∀ choice response, entry = .option choice response → choice.takes optionText new = false := by
      rintro choice response rfl
      rw [choiceOf?_of_read reads] at option
      cases option
    simp [learnEntry_eq_self plain untaken, reads]
  | some choice =>
    simp only [Option.some.injEq, forall_eq']
    cases takes : choice.takes optionText new with
    | false =>
      have untaken : ∀ other response, entry = .option other response → other.takes optionText new = false := by
        rintro other response rfl
        rw [choiceOf?_of_read reads, Option.some.injEq] at option
        rw [option, takes]
      simp [learnEntry_eq_self plain untaken, reads]
    | true =>
      simp only [if_true, forall_const]
      obtain ⟨rest, rfl, words⟩ := exists_of_choiceOf? option
      cases bracketed : EntryLine.bracketed? ('i' :: 'f' :: ' ' :: rest) with
      | some result =>
        have same : result = .ok entry := by rwa [EntryLine.read_if, bracketed] at reads
        have untaken : ∀ other response, entry = .option other response → other.takes optionText new = false := by
          rintro other response rfl
          rw [(EntryLine.option?_of_read reads).1] at bracketed
          cases bracketed
        rw [learnEntry_eq_self plain untaken, Option.isSome_some, if_pos rfl]
        constructor
        next => exact newText_eq_of_read (same ▸ bracketed)
        next =>
          intro unchanged
          rw [unchanged, reads]
      | none =>
        rw [EntryLine.read_if, bracketed, words] at reads
        cases reads
        rw [learnEntry_option, Choice.learn, takes, if_pos rfl, Option.isSome_none, if_neg Bool.false_ne_true]
        exact read_newText solid closes option

def learnPlaced (optionText new : String) (placed : Script.Placed) : Script.Placed :=
  (placed.1, learnEntry optionText new placed.2)

theorem isElse_learnEntry (optionText new : String) (entry : Entry) :
    Script.isElse (learnEntry optionText new entry) = Script.isElse entry := by
  cases entry <;> simp [learnEntry, Script.isElse]

theorem body_learnPlaced (optionText new : String) (indent : Nat) (following : List Script.Placed) :
    Script.body indent (following.map (learnPlaced optionText new)) =
      learn optionText new (Script.body indent following) := by
  unfold Script.body
  rw [List.takeWhile_map, learn_eq_map, List.map_map, List.map_map]
  rfl

theorem afterBody_learnPlaced (optionText new : String) (indent : Nat) (following : List Script.Placed) :
    Script.afterBody indent (following.map (learnPlaced optionText new)) =
      (Script.afterBody indent following).map (learnPlaced optionText new) := by
  unfold Script.afterBody
  rw [List.dropWhile_map]
  rfl

theorem attach_learnPlaced (optionText new : String) (placed : Script.Placed) (following : List Script.Placed) :
    Script.attach (learnPlaced optionText new placed) (following.map (learnPlaced optionText new)) =
      (Script.attach placed following).map (learnPlaced optionText new) := by
  obtain ⟨indent, entry⟩ := placed
  cases entry with
  | option choice response =>
    simp only [learnPlaced, learnEntry, Script.attach, body_learnPlaced, afterBody_learnPlaced, List.map_cons]
  | when condition body =>
    simp only [learnPlaced, learnEntry, Script.attach, body_learnPlaced, afterBody_learnPlaced]
    cases Script.afterBody indent following with
    | nil => simp [learnPlaced, learnEntry]
    | cons next rest =>
      rw [List.map_cons]
      dsimp only
      rw [learnPlaced, isElse_learnEntry]
      dsimp only
      split
      next => simp [learnPlaced, learnEntry, body_learnPlaced, afterBody_learnPlaced]
      next => simp [learnPlaced, learnEntry]
  | whenElse | narrative | scene | goto | image | metadata => simp [learnPlaced, learnEntry, Script.attach]

theorem nest_learnPlaced (optionText new : String) (placed : List Script.Placed) :
    Script.nest (placed.map (learnPlaced optionText new)) = (Script.nest placed).map (learnPlaced optionText new) := by
  induction placed with
  | nil => rfl
  | cons first placed ih =>
    change Script.attach _ (Script.nest (placed.map _)) = _
    rw [ih, attach_learnPlaced]
    rfl

theorem readLines_addToLine {optionText new : String} (solid : Solid new.toList) {lines : List String}
    {placed : List Script.Placed} (reads : Script.readLines lines = .ok placed)
    (fits : ∀ text ∈ contents lines, Fits optionText new text) :
    Script.readLines (lines.map (addToLine optionText new)) = .ok (placed.map (learnPlaced optionText new)) := by
  induction lines generalizing placed with
  | nil =>
    cases reads
    rfl
  | cons line lines ih =>
    rw [Script.readLines_cons] at reads
    rw [Script.contents_cons] at fits
    rw [List.map_cons, Script.readLines_cons, SourceLine.ofString?_addToLine optionText solid]
    cases found : SourceLine.ofString? line with
    | none =>
      rw [found] at reads fits
      exact ih reads fits
    | some source =>
      rw [found] at reads fits
      dsimp only [Option.map_some] at reads ⊢
      split at reads
      next => cases reads
      next => cases reads
      next entry rest here later =>
        cases reads
        have closes := (SourceLine.text_of_ofString? found).2.closes
        have fit := fits source.text List.mem_cons_self
        have rest := ih later fun text member => fits text (List.mem_cons_of_mem _ member)
        rw [(read_rewrite solid closes here optionText).mpr fit, rest]
        rfl

theorem contents_addToLine (optionText : String) {new : String} (solid : Solid new.toList) (lines : List String) :
    contents (lines.map (addToLine optionText new)) = (contents lines).map (rewrite optionText new) := by
  induction lines with
  | nil => rfl
  | cons line lines ih =>
    rw [List.map_cons, Script.contents_cons, Script.contents_cons, SourceLine.ofString?_addToLine optionText solid, ih]
    cases SourceLine.ofString? line <;> rfl

theorem solid_of_mem_contents {lines : List String} {text : List Char} (member : text ∈ contents lines) :
    Solid text := by
  obtain ⟨inside, some_left⟩ := List.mem_filter.mp member
  obtain ⟨line, -, rfl⟩ := List.mem_map.mp inside
  exact solid_trimChars (by simpa using some_left)

def learnItem (optionText new : String) : Item → Item
  | .entry bare => .entry (learnEntry optionText new bare)
  | .otherwise => .otherwise

mutual

theorem itemsOf_learnEntry (optionText new : String) (entry : Entry) :
    Script.itemsOf (learnEntry optionText new entry) = (Script.itemsOf entry).map (learnItem optionText new) := by
  cases entry with
  | option choice response =>
    rw [learnEntry, Script.itemsOf, Script.itemsOf, items_learn, List.map_cons, learnItem, learnEntry_option]
  | when condition body =>
    rw [learnEntry, Script.itemsOf, Script.itemsOf, items_learn, List.map_cons, learnItem, learnEntry, learn]
  | whenElse condition body otherwise =>
    rw [learnEntry, Script.itemsOf, Script.itemsOf, items_learn, items_learn, List.map_cons, List.map_append,
      List.map_cons, learnItem, learnItem, learnEntry, learn]
  | narrative | scene | goto | image | metadata => simp [learnEntry, Script.itemsOf, learnItem]

theorem items_learn (optionText new : String) (entries : List Entry) :
    Script.items (learn optionText new entries) = (Script.items entries).map (learnItem optionText new) := by
  match entries with
  | [] => simp [learn]
  | entry :: entries =>
    rw [learn, Script.items_cons, Script.items_cons, itemsOf_learnEntry, items_learn optionText new entries,
      List.map_append]

end

theorem fits_of_standsOn {optionText new : String} (solid : Solid new.toList) {item : Item} {text : List Char}
    (closes : Closes text) (stands : item.StandsOn text)
    (learnt : (learnItem optionText new item).StandsOn (rewrite optionText new text)) : Fits optionText new text := by
  cases item with
  | entry bare => exact (read_rewrite solid closes stands optionText).mp learnt
  | otherwise =>
    intro choice reads
    obtain ⟨rest, rfl, -⟩ := exists_of_choiceOf? reads
    rcases stands with mark | mark <;> simp [← String.toList_inj] at mark

theorem exists_of_standsOn {first second : Item → List Char → Prop} {items : List Item} {texts : List (List Char)}
    (before : List.Forall₂ first items texts) (after : List.Forall₂ second items texts) {text : List Char}
    (member : text ∈ texts) : ∃ item, first item text ∧ second item text := by
  induction before with
  | nil => cases member
  | cons here _ ih =>
    obtain ⟨there, later⟩ := List.forall₂_cons.mp after
    rcases List.mem_cons.mp member with rfl | inside
    next => exact ⟨_, here, there⟩
    next => exact ih later inside

theorem read_addToLine_iff {optionText new : String} (solid : Solid new.toList) {lines : List String}
    {script : List Entry} (reads : Script.read lines = .ok script) :
    Script.read (lines.map (addToLine optionText new)) = .ok (learn optionText new script) ↔
      ∀ text ∈ contents lines, Fits optionText new text := by
  constructor
  next =>
    intro learnt text member
    have before := items_stand_on_lines reads
    have after := items_stand_on_lines learnt
    rw [items_learn, contents_addToLine optionText solid, List.forall₂_map_left_iff,
      List.forall₂_map_right_iff] at after
    obtain ⟨item, stands, learnt⟩ := exists_of_standsOn before after member
    exact fits_of_standsOn solid (solid_of_mem_contents member).closes stands learnt
  next =>
    intro fits
    unfold Script.read at reads ⊢
    cases found : Script.readLines lines with
    | error =>
      rw [found] at reads
      cases reads
    | ok placed =>
      rw [found] at reads
      cases reads
      rw [readLines_addToLine solid found fits]
      change Except.ok ((Script.nest _).map Prod.snd) = _
      rw [nest_learnPlaced, learn_eq_map, List.map_map, List.map_map]
      rfl

end Alias

/-- Adding an alias to the lines of a script adds it, in the script that is read from them, to the options of the text
that it says something new for, and changes nothing else. That is so exactly if the alias fits the lines: what a player
types may itself have bars or a gate, and a conditional in brackets looks like an option. -/
theorem alias_added_iff_fits (optionText phrase : String) (lines : List String) (script : List Entry)
    (reads : Script.read lines = .ok script) :
    Script.read (Alias.add optionText phrase lines) =
        .ok (if trim phrase = "" then script else Alias.learn optionText (trim phrase) script) ↔
      (trim phrase ≠ "" → ∀ text ∈ contents lines, Alias.Fits optionText (trim phrase) text) := by
  unfold Alias.add
  by_cases blank : trim phrase = ""
  next => simp [blank, reads]
  next =>
    have solid : Solid (trim phrase).toList := by
      have left : trimChars phrase.toList ≠ [] := by simpa [trim] using blank
      simpa [trim] using solid_trimChars left
    simpa [blank] using Alias.read_addToLine_iff solid reads

theorem alias_added_iff_fits_of_night :
    let lines := ["@HOME", "when lamp", "* if rest | sit down & ?!key ", "    You rest.", "if  rest | sleep |",
      "if [rest]", "  if rest a while"]
    let script : List Entry :=
      [.scene "HOME" none,
        .when "lamp" [.option ⟨"rest", some ["sit down"], some "!key"⟩ [.narrative "You rest."]],
        .option ⟨"rest", some ["sleep"], none⟩ [],
        .when "rest" [.option ⟨"rest a while", none, none⟩ []]]
    Script.read lines = .ok script ∧
      (∀ text ∈ contents lines, Alias.Fits "rest" "go to sleep & ?now" text) ∧
      Script.read (Alias.add "rest" " go to sleep & ?now " lines) =
        .ok [.scene "HOME" none,
          .when "lamp"
            [.option ⟨"rest", some ["sit down", "go to sleep & ?now"], some "!key"⟩ [.narrative "You rest."]],
          .option ⟨"rest", some ["sleep"], none⟩ [],
          .when "rest" [.option ⟨"rest a while", none, none⟩ []]] := by
  intro lines script
  have reads : Script.read lines = .ok script := rfl
  have fits : ∀ text ∈ contents lines, Alias.Fits "rest" "go to sleep & ?now" text := by decide +kernel
  have added := (alias_added_iff_fits "rest" " go to sleep & ?now " lines script reads).mpr fun _ => fits
  exact ⟨reads, fits, added⟩

theorem option_locked_by_alias :
    Script.read ["if rest"] = .ok [.option ⟨"rest", none, none⟩ []] ∧
      Alias.learn "rest" "sleep & ?key" [.option ⟨"rest", none, none⟩ []] =
        [.option ⟨"rest", some ["sleep & ?key"], none⟩ []] ∧
      Script.read (Alias.add "rest" "sleep & ?key" ["if rest"]) =
        .ok [.option ⟨"rest", some ["sleep"], some "key"⟩ []] :=
  ⟨rfl, rfl, rfl⟩

end Gamebook
