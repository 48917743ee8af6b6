import Mathlib.Data.List.Forall2
import Gamebook.Script.Reader

set_option autoImplicit false

namespace Gamebook

open Gamebook.Text

inductive Item where
  | entry (entry : Entry)
  | otherwise

namespace Script

-- Items come as on the page: an entry without its blocks, then what is in them, the second block after its mark.
mutual

def itemsOf : Entry → List Item
  | .option choice response => .entry (.option choice []) :: items response
  | .when condition body => .entry (.when condition []) :: items body
  | .whenElse condition body otherwise =>
    .entry (.when condition []) :: (items body ++ .otherwise :: items otherwise)
  | entry => [.entry entry]

def items : List Entry → List Item
  | [] => []
  | entry :: entries => itemsOf entry ++ items entries

end

@[simp]
theorem items_nil : items [] = [] := by rw [items]

@[simp]
theorem items_cons (entry : Entry) (entries : List Entry) :
    items (entry :: entries) = itemsOf entry ++ items entries := by
  rw [items]

@[simp]
theorem items_append (first second : List Entry) : items (first ++ second) = items first ++ items second := by
  induction first with
  | nil => simp
  | cons entry entries ih => simp [ih]

end Script

/-- The texts of the lines that are not blank once their stars count as indentation. -/
def contents (lines : List String) : List (List Char) :=
  (lines.map fun line => trimChars (expandStars line.toList)).filter fun text => !text.isEmpty

def Item.StandsOn : Item → List Char → Prop
  | .entry bare, text => EntryLine.read text = .ok bare
  | .otherwise, text => String.ofList text = "else" ∨ String.ofList text = "[else]"

namespace EntryLine

-- What one line gives has no blocks yet, and is taken for the mark of a second block only if the line is one.
structure Plain (text : List Char) (entry : Entry) : Prop where
  items : Script.itemsOf entry = [.entry entry]
  mark : Script.isElse entry = true → entry = narrative text

theorem plain_narrative (text : List Char) : Plain text (narrative text) :=
  ⟨by simp [narrative, Script.itemsOf], fun _ => rfl⟩

theorem conditional_eq (condition text : List Char) :
    conditional condition text =
      match Condition.read (String.ofList (trimChars condition)) with
      | .error fault => .error fault
      | .ok (some _) => .ok (.when (String.ofList (trimChars condition)) [])
      | .ok none => .ok (narrative text) := by
  unfold conditional
  dsimp only
  rcases Condition.read (String.ofList (trimChars condition)) with _ | _ | _ <;> rfl

theorem plain_conditional {condition text : List Char} {entry : Entry}
    (read : conditional condition text = .ok entry) : Plain text entry := by
  rw [conditional_eq] at read
  split at read
  next => cases read
  next =>
    cases read
    exact ⟨by simp [Script.itemsOf], by simp [Script.isElse]⟩
  next =>
    cases read
    exact plain_narrative text

theorem plain_header {text : List Char} {entry : Entry} (read : header? text = some (.ok entry)) :
    Plain text entry := by
  unfold header? at read
  split at read
  next rest =>
    split at read
    next =>
      cases read
      exact ⟨by simp [Script.itemsOf], by simp [Script.isElse]⟩
    next =>
      cases read
      exact plain_narrative _
  next => cases read

theorem plain_jump {text : List Char} {entry : Entry} (read : jump? text = some (.ok entry)) :
    Plain text entry := by
  unfold jump? at read
  obtain ⟨rest, -, read⟩ := Option.map_eq_some_iff.mp read
  cases read
  split
  next => exact plain_narrative text
  next => exact ⟨by simp [Script.itemsOf], by simp [Script.isElse]⟩

theorem plain_bracketed {text : List Char} {entry : Entry} (read : bracketed? text = some (.ok entry)) :
    Plain text entry := by
  unfold bracketed? at read
  split at read
  next => cases read
  next =>
    split at read
    next => cases read
    next =>
      split at read
      next =>
        dsimp only at read
        split at read
        next => exact plain_conditional (Option.some.inj read)
        next => cases read
      next => cases read

theorem plain_option {text : List Char} {entry : Entry} (read : option? text = some (.ok entry)) :
    Plain text entry := by
  unfold option? at read
  obtain ⟨rest, -, read⟩ := Option.map_eq_some_iff.mp read
  split at read
  next =>
    cases read
    exact ⟨by simp [Script.itemsOf], by simp [Script.isElse]⟩
  next =>
    cases read
    exact plain_narrative text

theorem plain_change {text : List Char} {entry : Entry} (read : change? text = some (.ok entry)) :
    Plain text entry := by
  unfold change? at read
  split at read
  next =>
    split at read <;> cases read
    exact ⟨by simp [Script.itemsOf], by simp [Script.isElse]⟩
  next =>
    split at read <;> cases read
    exact ⟨by simp [Script.itemsOf], by simp [Script.isElse]⟩
  next => cases read

-- An address that names no picture is told with a remark, and that is no mark.
theorem plain_image (text url : List Char) : Plain text (image url) := by
  unfold image
  split
  next => exact ⟨by simp [Script.itemsOf], by simp [Script.isElse]⟩
  next =>
    refine ⟨by simp [Script.itemsOf], fun mark => ?_⟩
    simp only [Script.isElse, Bool.or_eq_true, beq_iff_eq, ← String.toList_inj, String.toList_append] at mark
    rcases mark with mark | mark <;> simp at mark

theorem plain_field {text : List Char} {entry : Entry} (read : field? text = some (.ok entry)) :
    Plain text entry := by
  unfold field? at read
  obtain ⟨⟨key, value⟩, -, read⟩ := Option.map_eq_some_iff.mp read
  dsimp only at read
  split at read
  next =>
    cases read
    exact plain_image text value
  next => exact plain_conditional read
  next =>
    cases read
    exact ⟨by simp [Script.itemsOf], by simp [Script.isElse]⟩

theorem plain_when {text : List Char} {entry : Entry} (read : when? text = some (.ok entry)) :
    Plain text entry := by
  unfold when? at read
  obtain ⟨condition, -, read⟩ := Option.map_eq_some_iff.mp read
  exact plain_conditional read

theorem plain_of_read {text : List Char} {entry : Entry} (reads : read text = .ok entry) : Plain text entry := by
  unfold read at reads
  rcases found : (header? text <|> jump? text <|> when? text <|> bracketed? text <|> option? text <|>
    change? text <|> field? text) with _ | result
  next =>
    rw [found] at reads
    cases reads
    exact plain_narrative text
  next =>
    rw [found] at reads
    cases reads
    simp only [Option.orElse_eq_orElse, Option.orElse_eq_or, Option.or_eq_some_iff] at found
    rcases found with header | ⟨-, jump | ⟨-, conditional | ⟨-, bracketed | ⟨-, option | ⟨-, change | ⟨-, field⟩⟩⟩⟩⟩⟩
    next => exact plain_header header
    next => exact plain_jump jump
    next => exact plain_when conditional
    next => exact plain_bracketed bracketed
    next => exact plain_option option
    next => exact plain_change change
    next => exact plain_field field

end EntryLine

namespace Script

def placedItems (placed : List Placed) : List Item := items (placed.map Prod.snd)

theorem placedItems_cons (indent : Nat) (entry : Entry) (placed : List Placed) :
    placedItems ((indent, entry) :: placed) = itemsOf entry ++ placedItems placed := by
  simp [placedItems]

theorem items_body (indent : Nat) (following : List Placed) :
    items (body indent following) ++ placedItems (afterBody indent following) = placedItems following := by
  rw [placedItems, ← items_append, body, afterBody, ← List.map_append, List.takeWhile_append_dropWhile, placedItems]

theorem standsOn_replace {old new : Item} (weaker : ∀ text, old.StandsOn text → new.StandsOn text)
    {front back : List Item} {texts : List (List Char)}
    (stands : List.Forall₂ Item.StandsOn (front ++ old :: back) texts) :
    List.Forall₂ Item.StandsOn (front ++ new :: back) texts := by
  induction front generalizing texts with
  | nil =>
    obtain ⟨text, rest, here, later, rfl⟩ := List.forall₂_cons_left_iff.mp stands
    exact .cons (weaker text here) later
  | cons item front ih =>
    obtain ⟨text, rest, here, later, rfl⟩ := List.forall₂_cons_left_iff.mp stands
    exact .cons here (ih later)

theorem standsOn_mark {entry : Entry} (mark : isElse entry = true) {text : List Char}
    (stands : (Item.entry entry).StandsOn text) : Item.otherwise.StandsOn text := by
  have same := (EntryLine.plain_of_read stands).mark mark
  rw [same] at mark
  simpa [isElse, EntryLine.narrative, Item.StandsOn] using mark

-- Blocks are taken from what follows without a change of order. Only the item of a mark changes its kind.
theorem standsOn_attach {placed : Placed} {following : List Placed} {text : List Char} {texts : List (List Char)}
    (reads : EntryLine.read text = .ok placed.2)
    (stands : List.Forall₂ Item.StandsOn (placedItems following) texts) :
    List.Forall₂ Item.StandsOn (placedItems (attach placed following)) (text :: texts) := by
  obtain ⟨indent, entry⟩ := placed
  have plain := (EntryLine.plain_of_read reads).items
  have parts := items_body indent following
  cases entry with
  | option choice response =>
    simp only [itemsOf, List.cons.injEq, Item.entry.injEq] at plain
    rw [attach, placedItems_cons, itemsOf, List.cons_append, parts, plain.1]
    exact .cons reads stands
  | when condition inner =>
    simp only [itemsOf, List.cons.injEq, Item.entry.injEq] at plain
    rw [attach]
    dsimp only
    split
    next ends =>
      rw [placedItems_cons, itemsOf, plain.1, List.cons_append, ← ends, parts]
      exact .cons reads stands
    next next rest found =>
      split
      next mark =>
        obtain ⟨depth, told⟩ := next
        rw [Bool.and_eq_true] at mark
        -- The mark was read as a narrative so far, and stands where the second block begins.
        have single : itemsOf told = [.entry told] := by
          cases told <;> first | rfl | simp [isElse] at mark
        rw [← parts, found, placedItems_cons, single] at stands
        have marked := standsOn_replace (fun _ => standsOn_mark mark.2) stands
        rw [placedItems_cons, itemsOf, plain.1, List.cons_append, List.append_assoc, List.cons_append,
          items_body indent rest]
        exact .cons reads marked
      next =>
        rw [placedItems_cons, itemsOf, plain.1, List.cons_append, ← found, parts]
        exact .cons reads stands
  | whenElse condition inner otherwise => simp [itemsOf] at plain
  | narrative | scene | goto | image | metadata =>
    rw [attach, placedItems_cons, plain]
    exact .cons reads stands

theorem standsOn_nest {placed : List Placed} {texts : List (List Char)}
    (reads : List.Forall₂ (fun entry text => EntryLine.read text = .ok entry.2) placed texts) :
    List.Forall₂ Item.StandsOn (placedItems (nest placed)) texts := by
  induction reads with
  | nil => exact .nil
  | cons here _ ih => exact standsOn_attach here ih

theorem readLines_cons (line : String) (lines : List String) :
    readLines (line :: lines) =
      match SourceLine.ofString? line with
      | none => readLines lines
      | some source =>
        match EntryLine.read source.text, readLines lines with
        | .error fault, _ => .error fault
        | .ok _, .error fault => .error fault
        | .ok entry, .ok placed => .ok ((source.indent, entry) :: placed) := by
  unfold readLines
  rw [List.filterMap_cons]
  cases SourceLine.ofString? line with
  | none => rfl
  | some source =>
    dsimp only
    rw [List.mapM_cons]
    cases EntryLine.read source.text with
    | error => rfl
    | ok entry =>
      generalize ((lines.filterMap SourceLine.ofString?).mapM _ : Except NumeralTooLong (List Placed)) = rest
      cases rest <;> rfl

theorem contents_cons (line : String) (lines : List String) :
    contents (line :: lines) =
      match SourceLine.ofString? line with
      | none => contents lines
      | some source => source.text :: contents lines := by
  unfold contents SourceLine.ofString?
  rw [List.map_cons, List.filter_cons]
  dsimp only
  cases (trimChars (expandStars line.toList)).isEmpty <;> rfl

theorem reads_of_readLines {lines : List String} {placed : List Placed} (reads : readLines lines = .ok placed) :
    List.Forall₂ (fun entry text => EntryLine.read text = .ok entry.2) placed (contents lines) := by
  induction lines generalizing placed with
  | nil =>
    cases reads
    exact .nil
  | cons line lines ih =>
    rw [readLines_cons] at reads
    rw [contents_cons]
    split at reads
    next => exact ih reads
    next source _ =>
      split at reads
      next => cases reads
      next => cases reads
      next entry rest here later =>
        cases reads
        exact .cons here (ih later)

end Script

/-- Whatever lines a script is read from, its items stand on those that are not blank, one on each, in order. -/
theorem items_stand_on_lines {lines : List String} {script : List Entry} (reads : Script.read lines = .ok script) :
    List.Forall₂ Item.StandsOn (Script.items script) (contents lines) := by
  unfold Script.read at reads
  cases found : Script.readLines lines with
  | error =>
    rw [found] at reads
    cases reads
  | ok placed =>
    rw [found] at reads
    cases reads
    exact Script.standsOn_nest (Script.reads_of_readLines found)

theorem items_stand_on_lines_of_night :
    let lines := ["@HOME", "when lamp", "", "  * You read.", "  if sleep | rest & ?!key", "    goto @END", " ",
      "[else]", "\tIt is dark.", "Night falls."]
    ∃ script, Script.read lines = .ok script ∧
      List.Forall₂ Item.StandsOn (Script.items script) (contents lines) ∧
      (Script.items script).length = 8 := by
  intro lines
  have reads : Script.read lines = .ok
      [.scene "HOME" none,
        .whenElse "lamp"
          [.narrative "You read.", .option ⟨"sleep", some ["rest"], some "!key"⟩ [.goto "END"]]
          [.narrative "It is dark."],
        .narrative "Night falls."] := rfl
  exact ⟨_, reads, items_stand_on_lines reads, rfl⟩

end Gamebook
