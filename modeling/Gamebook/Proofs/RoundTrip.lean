import Gamebook.Proofs.WrittenLines

set_option autoImplicit false

namespace Gamebook

open Gamebook.Text

theorem indentFrom_spaces (column count : Nat) {cs : List Char} (opens : Opens cs) :
    indentFrom column (List.replicate count ' ' ++ cs) = count := by
  induction count generalizing column with
  | zero =>
    obtain ⟨c, rest, rfl, solid⟩ := opens
    have differs {d : Char} (blank : isBlank d = true) : (c == d) = false := by
      rw [beq_eq_false_iff_ne]
      rintro rfl
      simp [solid] at blank
    have tab := @differs '\t' (by decide)
    have feed := @differs '\n' (by decide)
    have back := @differs '\r' (by decide)
    simp [indentFrom, tab, feed, back, solid]
  | succ count ih =>
    have space : isBlank ' ' = true := by decide
    simp [List.replicate_succ, indentFrom, space, ih, Nat.add_comm]

theorem dropBlanks_spaces (count : Nat) {cs : List Char} (opens : Opens cs) :
    dropBlanks (List.replicate count ' ' ++ cs) = cs := by
  have space : isBlank ' ' = true := by decide
  rw [dropBlanks, List.dropWhile_append_of_pos (by simp [space])]
  exact opens.dropBlanks_eq

theorem expandStars_spaces (count : Nat) {cs : List Char} (opens : Opens cs) (unstarred : ¬Starred cs) :
    expandStars (List.replicate count ' ' ++ cs) = List.replicate count ' ' ++ cs := by
  unfold expandStars
  rw [dropBlanks_spaces count opens]
  refine if_neg fun starred => unstarred ?_
  rw [Bool.and_eq_true] at starred
  obtain ⟨stars, blank⟩ := starred
  have all : ∀ c ∈ cs.takeWhile (· == '*'), c = '*' := fun c member => by
    simpa using List.mem_takeWhile_imp member
  obtain ⟨few, count⟩ : ∃ few, (cs.takeWhile (· == '*')).length = few + 1 := by
    rw [Nat.exists_eq_add_one, List.length_pos_iff]
    simpa using stars
  match left : cs.dropWhile (· == '*') with
  | [] => simp [left] at blank
  | c :: rest =>
    refine ⟨few, c, rest, ?_, by simpa [left] using blank⟩
    rw [← count, ← List.eq_replicate_of_mem all, ← left, List.takeWhile_append_dropWhile]

theorem SourceLine.ofString?_indentBy (depth : Nat) {line : String} (solid : Solid line.toList)
    (unstarred : ¬Starred line.toList) :
    ofString? (Script.indentBy depth line) = some ⟨2 * depth, line.toList⟩ := by
  have opens := solid.opens
  have chars : (Script.indentBy depth line).toList = List.replicate (2 * depth) ' ' ++ line.toList := by
    rw [Script.indentBy, String.toList_append, String.toList_ofList]
  have trimmed : trimChars (List.replicate (2 * depth) ' ' ++ line.toList) = line.toList := by
    rw [trimChars, dropBlanks_spaces _ opens, solid.closes.dropBlanksEnd_eq]
  have nonempty : line.toList.isEmpty = false := by simpa using solid.nonempty
  unfold ofString?
  rw [chars, expandStars_spaces _ opens unstarred]
  dsimp only
  rw [trimmed, nonempty, indentOf, indentFrom_spaces 0 _ opens]
  rfl

namespace Script

theorem readLines_indentBy {line : String} {entry : Entry} (written : LineReads line entry) (depth : Nat)
    {lines : List String} {placed : List Placed} (rest : readLines lines = .ok placed) :
    readLines (indentBy depth line :: lines) = .ok ((2 * depth, entry) :: placed) := by
  rw [readLines_cons, SourceLine.ofString?_indentBy depth written.solid written.unstarred]
  dsimp only
  rw [written.reads, rest]

theorem readLines_append {first second : List String} {before after : List Placed}
    (reads : readLines first = .ok before) (readsToo : readLines second = .ok after) :
    readLines (first ++ second) = .ok (before ++ after) := by
  induction first generalizing before with
  | nil =>
    cases reads
    exact readsToo
  | cons line lines ih =>
    rw [List.cons_append]
    rw [readLines_cons] at reads ⊢
    split
    next none =>
      rw [none] at reads
      exact ih reads
    next source found =>
      rw [found] at reads
      dsimp only at reads
      split at reads
      next => cases reads
      next => cases reads
      next entry rest here later =>
        cases reads
        rw [here, ih later]
        rfl

-- Reading loses one thing of a script: a conditional with one block takes an else that follows for its own.
def takeElse (entry : Entry) (following : List Entry) : List Entry :=
  match entry, following with
  | .when condition body, next :: rest =>
    if isElse next then .whenElse condition body [] :: rest else entry :: following
  | _, _ => entry :: following

mutual

def rereadEntry : Entry → Entry
  | .option choice response => .option choice (reread response)
  | .when condition body => .when condition (reread body)
  | .whenElse condition body otherwise => .whenElse condition (reread body) (reread otherwise)
  | entry => entry

def reread : List Entry → List Entry
  | [] => []
  | entry :: entries => takeElse (rereadEntry entry) (reread entries)

end

def placeAt (depth : Nat) (entries : List Entry) : List Placed := entries.map fun entry => (2 * depth, entry)

@[simp]
theorem placeAt_nil (depth : Nat) : placeAt depth [] = [] := rfl

@[simp]
theorem placeAt_cons (depth : Nat) (entry : Entry) (entries : List Entry) :
    placeAt depth (entry :: entries) = (2 * depth, entry) :: placeAt depth entries := rfl

-- What follows a block stands no deeper than what the block belongs to.
def NoDeeper (indent : Nat) (following : List Placed) : Prop := ∀ next ∈ following.head?, next.1 ≤ indent

theorem body_placeAt (depth : Nat) (entries : List Entry) {following : List Placed}
    (leaves : NoDeeper (2 * depth) following) :
    body (2 * depth) (placeAt (depth + 1) entries ++ following) = entries ∧
      afterBody (2 * depth) (placeAt (depth + 1) entries ++ following) = following := by
  have deeper : ∀ placed ∈ placeAt (depth + 1) entries, decide (2 * depth < placed.1) = true := by
    intro placed member
    obtain ⟨entry, -, rfl⟩ := List.mem_map.mp member
    simp
  have stops : following.takeWhile (fun entry => 2 * depth < entry.1) = [] ∧
      following.dropWhile (fun entry => 2 * depth < entry.1) = following := by
    cases following with
    | nil => exact ⟨rfl, rfl⟩
    | cons next rest =>
      have le := leaves next rfl
      have : ¬2 * depth < next.1 := by omega
      simp [this]
  constructor
  next =>
    rw [body, List.takeWhile_append_of_pos deeper, stops.1, List.append_nil, placeAt, List.map_map]
    exact List.map_id'' (fun _ => rfl) entries
  next => rw [afterBody, List.dropWhile_append_of_pos deeper, stops.2]

theorem noDeeper_placeAt {depth : Nat} (siblings : List Entry) {beyond : List Placed}
    (leaves : ∀ next ∈ beyond.head?, next.1 < 2 * depth) : NoDeeper (2 * depth) (placeAt depth siblings ++ beyond) := by
  intro next first
  cases siblings with
  | nil => exact Nat.le_of_lt (leaves next first)
  | cons sibling siblings =>
    cases first
    exact Nat.le_refl _

theorem attach_when (condition : String) (depth : Nat) (inner siblings : List Entry) {beyond : List Placed}
    (leaves : ∀ next ∈ beyond.head?, next.1 < 2 * depth) :
    attach (2 * depth, .when condition []) (placeAt (depth + 1) inner ++ (placeAt depth siblings ++ beyond)) =
      placeAt depth (takeElse (.when condition inner) siblings) ++ beyond := by
  obtain ⟨block, after⟩ := body_placeAt depth inner (noDeeper_placeAt siblings leaves)
  simp only [attach, block, after]
  cases siblings with
  | nil =>
    cases beyond with
    | nil => rfl
    | cons next rest =>
      have shallower := leaves next rfl
      have apart : (next.1 == 2 * depth) = false := by
        rw [beq_eq_false_iff_ne]
        omega
      simp [takeElse, apart]
  | cons sibling siblings =>
    -- What follows an else stands no deeper than it, so the second block is empty.
    obtain ⟨empty, rest⟩ := body_placeAt depth [] (noDeeper_placeAt siblings leaves)
    rw [placeAt_nil, List.nil_append] at empty rest
    cases mark : isElse sibling <;> simp [takeElse, mark, empty, rest]

theorem noDeeper_else (depth : Nat) (following : List Placed) :
    NoDeeper (2 * depth) ((2 * depth, .narrative "else") :: following) := by
  intro next first
  cases first
  exact Nat.le_refl _

theorem attach_else (depth : Nat) (following : List Placed) :
    attach (2 * depth, .narrative "else") following = (2 * depth, .narrative "else") :: following := rfl

theorem attach_otherwise (condition : String) (depth : Nat) (inner otherwise : List Entry) {following : List Placed}
    (leaves : NoDeeper (2 * depth) following) :
    attach (2 * depth, .when condition [])
        (placeAt (depth + 1) inner ++ (2 * depth, .narrative "else") :: (placeAt (depth + 1) otherwise ++ following)) =
      (2 * depth, .whenElse condition inner otherwise) :: following := by
  obtain ⟨block, after⟩ := body_placeAt depth inner (noDeeper_else depth (placeAt (depth + 1) otherwise ++ following))
  obtain ⟨second, rest⟩ := body_placeAt depth otherwise leaves
  simp [attach, block, after, second, rest, isElse]

theorem noDeeper_succ {depth : Nat} {following : List Placed} (leaves : NoDeeper (2 * depth) following) :
    ∀ next ∈ following.head?, next.1 < 2 * (depth + 1) := by
  intro next first
  have := leaves next first
  omega

-- A block ends where what follows it says, so both statements are about all that can follow: siblings at the same
-- depth, and beyond them something further out.
mutual

theorem nest_printEntry (depth : Nat) (entry : Entry)
    (writable : ∀ bare, Item.entry bare ∈ itemsOf entry → bare.Writable) :
    ∃ placed, readLines (printEntry depth entry) = .ok placed ∧
      ∀ siblings beyond, (∀ next ∈ beyond.head?, next.1 < 2 * depth) →
        placed.foldr attach (placeAt depth siblings ++ beyond) =
          placeAt depth (takeElse (rereadEntry entry) siblings) ++ beyond := by
  match entry with
  | .option choice response =>
    simp only [itemsOf, List.mem_cons] at writable
    obtain ⟨inner, reads, nests⟩ := nest_print (depth + 1) response fun bare member => writable bare (.inr member)
    have line := Entry.lineReads (writable _ (.inl rfl))
    refine ⟨(2 * depth, .option choice []) :: inner, readLines_indentBy line depth reads, ?_⟩
    intro siblings beyond leaves
    have follow := noDeeper_placeAt siblings leaves
    obtain ⟨block, after⟩ := body_placeAt depth (reread response) follow
    rw [List.foldr_cons, nests _ (noDeeper_succ follow), attach, block, after]
    rfl
  | .when condition body =>
    simp only [itemsOf, List.mem_cons] at writable
    obtain ⟨inner, reads, nests⟩ := nest_print (depth + 1) body fun bare member => writable bare (.inr member)
    have line := Entry.lineReads (writable _ (.inl rfl))
    refine ⟨(2 * depth, .when condition []) :: inner, readLines_indentBy line depth reads, ?_⟩
    intro siblings beyond leaves
    have follow := noDeeper_placeAt siblings leaves
    rw [List.foldr_cons, nests _ (noDeeper_succ follow), attach_when condition depth (reread body) siblings leaves]
    rfl
  | .whenElse condition body otherwise =>
    simp only [itemsOf, List.mem_cons, List.mem_append] at writable
    obtain ⟨inner, reads, nests⟩ := nest_print (depth + 1) body fun bare member => writable bare (.inr (.inl member))
    obtain ⟨other, readsOther, nestsOther⟩ := nest_print (depth + 1) otherwise fun bare member =>
      writable bare (.inr (.inr (.inr member)))
    have line := Entry.lineReads (writable _ (.inl rfl))
    have marked := readLines_indentBy lineReads_else depth readsOther
    refine ⟨(2 * depth, .when condition []) :: (inner ++ (2 * depth, .narrative "else") :: other),
      readLines_indentBy line depth (readLines_append reads marked), ?_⟩
    intro siblings beyond leaves
    have follow := noDeeper_placeAt siblings leaves
    rw [List.foldr_cons, List.foldr_append, List.foldr_cons, nestsOther _ (noDeeper_succ follow), attach_else,
      nests _ (noDeeper_succ (noDeeper_else depth _)), attach_otherwise condition depth _ _ follow]
    rfl
  | .narrative _ | .scene _ _ | .goto _ | .image _ | .metadata _ _ =>
    have line := Entry.lineReads (writable _ (List.mem_singleton.mpr rfl))
    exact ⟨[(2 * depth, _)], readLines_indentBy line depth rfl, fun _ _ _ => rfl⟩

theorem nest_print (depth : Nat) (entries : List Entry)
    (writable : ∀ bare, Item.entry bare ∈ items entries → bare.Writable) :
    ∃ placed, readLines (print depth entries) = .ok placed ∧
      ∀ beyond, (∀ next ∈ beyond.head?, next.1 < 2 * depth) →
        placed.foldr attach beyond = placeAt depth (reread entries) ++ beyond := by
  match entries with
  | [] => exact ⟨[], rfl, fun _ _ => rfl⟩
  | entry :: entries =>
    obtain ⟨first, reads, nests⟩ := nest_printEntry depth entry fun bare member =>
      writable bare (by simp [member])
    obtain ⟨rest, readsRest, nestsRest⟩ := nest_print depth entries fun bare member =>
      writable bare (by simp [member])
    refine ⟨first ++ rest, ?_, ?_⟩
    next =>
      rw [print]
      exact readLines_append reads readsRest
    next =>
      intro beyond leaves
      rw [List.foldr_append, nestsRest beyond leaves, nests _ beyond leaves, reread]

end

theorem read_print {script : List Entry} (writable : ∀ bare, Item.entry bare ∈ items script → bare.Writable)
    (depth : Nat) : read (print depth script) = .ok (reread script) := by
  obtain ⟨placed, reads, nests⟩ := nest_print depth script writable
  have nested : nest placed = placeAt depth (reread script) := by
    rw [nest, nests [] (by simp), List.append_nil]
  have read_eq : read (print depth script) = .ok ((nest placed).map Prod.snd) := by
    unfold read
    rw [reads]
    rfl
  rw [read_eq, nested, placeAt, List.map_map]
  exact congrArg Except.ok (List.map_id'' (fun _ => rfl) (reread script))

def hasOneBlock : Entry → Bool
  | .when _ _ => true
  | _ => false

mutual

def entryApart : Entry → Bool
  | .option _ response => elsesApart response
  | .when _ body => elsesApart body
  | .whenElse _ body otherwise => elsesApart body && elsesApart otherwise
  | _ => true

/-- No narrative that reads as the mark of a second block comes right after a conditional with one block. -/
def elsesApart : List Entry → Bool
  | [] => true
  | entry :: entries =>
    entryApart entry && !(hasOneBlock entry && entries.head?.any isElse) && elsesApart entries

end

theorem hasOneBlock_rereadEntry (entry : Entry) : hasOneBlock (rereadEntry entry) = hasOneBlock entry := by
  cases entry <;> rfl

theorem takeElse_of_apart {entry : Entry} {following : List Entry}
    (apart : (hasOneBlock entry && following.head?.any isElse) = false) :
    takeElse entry following = entry :: following := by
  unfold takeElse
  split
  next => exact if_neg (by simpa [hasOneBlock] using apart)
  next => rfl

theorem takeElse_of_taken {entry : Entry} {following : List Entry}
    (taken : (hasOneBlock entry && following.head?.any isElse) = true) :
    ∃ first rest, takeElse entry following = first :: rest ∧ hasOneBlock first = false := by
  match entry, following with
  | .when condition body, next :: rest =>
    have mark : isElse next = true := by simpa [hasOneBlock] using taken
    exact ⟨_, rest, if_pos mark, rfl⟩

theorem takeElse_eq_cons_iff {entry same : Entry} {following others : List Entry}
    (kind : hasOneBlock entry = hasOneBlock same) :
    takeElse entry following = same :: others ↔
      entry = same ∧ following = others ∧ (hasOneBlock same && others.head?.any isElse) = false := by
  constructor
  next =>
    intro eq
    cases taken : hasOneBlock entry && following.head?.any isElse with
    | false =>
      rw [takeElse_of_apart taken] at eq
      cases eq
      exact ⟨rfl, rfl, taken⟩
    | true =>
      -- With an else taken in, the first entry has two blocks, and `same` has one.
      obtain ⟨first, rest, split, twoBlocks⟩ := takeElse_of_taken taken
      rw [split] at eq
      cases eq
      simp [kind, twoBlocks] at taken
  next =>
    rintro ⟨rfl, rfl, apart⟩
    exact takeElse_of_apart apart

mutual

theorem rereadEntry_eq_self (entry : Entry) : rereadEntry entry = entry ↔ entryApart entry = true := by
  match entry with
  | .option _ response => simp [rereadEntry, entryApart, reread_eq_self response]
  | .when _ body => simp [rereadEntry, entryApart, reread_eq_self body]
  | .whenElse _ body otherwise =>
    simp [rereadEntry, entryApart, reread_eq_self body, reread_eq_self otherwise]
  | .narrative _ | .scene _ _ | .goto _ | .image _ | .metadata _ _ => simp [rereadEntry, entryApart]

theorem reread_eq_self (entries : List Entry) : reread entries = entries ↔ elsesApart entries = true := by
  match entries with
  | [] => simp [reread, elsesApart]
  | entry :: entries =>
    rw [reread, takeElse_eq_cons_iff (hasOneBlock_rereadEntry entry), rereadEntry_eq_self entry,
      reread_eq_self entries, elsesApart, Bool.and_eq_true, Bool.and_eq_true, Bool.not_eq_true', and_assoc]
    tauto

end

/-- A script fit for its lines comes back from them, at any depth, exactly when no narrative can be taken for the
mark of a second block. -/
theorem read_print_eq_self_iff {script : List Entry}
    (writable : ∀ bare, Item.entry bare ∈ items script → bare.Writable) (depth : Nat) :
    read (print depth script) = .ok script ↔ elsesApart script = true := by
  rw [read_print writable depth, Except.ok.injEq, reread_eq_self]

theorem read_print_eq_self_of_night :
    let script : List Entry :=
      [.scene "HOME" (some "reading"),
        .when "lamp & !key"
          [.image "night.png",
            .option ⟨"sleep", some ["rest", "lie down"], some "!key"⟩ [.metadata "sets" "slept", .goto "END"]],
        .narrative "Night falls.",
        .whenElse "gold >= 3" [.when "rich" []] [],
        .metadata "mood" "calm"]
    (∀ bare, Item.entry bare ∈ items script → bare.Writable) ∧ elsesApart script = true ∧
      read (print 1 script) = .ok script := by
  intro script
  have writable : ∀ bare, Item.entry bare ∈ items script → bare.Writable := by
    intro bare member
    simp only [script, items_cons, items_nil, itemsOf, List.cons_append, List.nil_append, List.append_nil,
      List.mem_cons, List.not_mem_nil, or_false, Item.entry.injEq, reduceCtorEq, false_or] at member
    rcases member with rfl | rfl | rfl | rfl | rfl | rfl | rfl | rfl | rfl | rfl
    · exact ⟨by decide, by decide, by decide, fun hint same => by cases same; decide⟩
    · exact ⟨rfl, _, rfl⟩
    · exact ⟨by decide, by decide, rfl⟩
    · exact ⟨by decide, by decide, by decide, fun gate same => by cases same; exact ⟨"key".toList, rfl, .inr rfl⟩,
        by decide⟩
    · exact (rfl : Name.isName "slept".toList = true)
    · exact (by decide : Solid "END".toList)
    · exact ⟨by decide, not_starred (by decide) _, rfl⟩
    · exact ⟨rfl, _, rfl⟩
    · exact ⟨rfl, _, rfl⟩
    · exact ⟨by decide, List.all_eq_true.mp (by decide), by decide, by decide, by decide, by decide⟩
  exact ⟨writable, rfl, (read_print_eq_self_iff writable 1).mpr rfl⟩

end Script

end Gamebook
