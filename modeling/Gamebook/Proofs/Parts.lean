import Gamebook.Proofs.DocumentOrder
import Gamebook.Proofs.OpenOptions

set_option autoImplicit false

namespace Gamebook

def Entry.blocks : Entry → List (List Entry)
  | .option _ response => [response]
  | .when _ body => [body]
  | .whenElse _ body otherwise => [body, otherwise]
  | _ => []

def Item.conditions : Item → List String
  | .entry (.when condition _) => [condition]
  | .entry (.option choice _) => choice.requires.toList
  | _ => []

namespace Script

def conditions (script : List Entry) : List String := (items script).flatMap Item.conditions

theorem conditions_subset {part script : List Entry} (within : items part ⊆ items script) :
    conditions part ⊆ conditions script := by
  intro condition member
  obtain ⟨item, inside, here⟩ := List.mem_flatMap.mp member
  exact List.mem_flatMap.mpr ⟨item, within inside, here⟩

theorem mem_conditions_of_when {script : List Entry} {condition : String}
    (member : Item.entry (.when condition []) ∈ items script) : condition ∈ conditions script :=
  List.mem_flatMap.mpr ⟨_, member, List.mem_singleton_self condition⟩

theorem mem_conditions_of_option {script : List Entry} {choice : Choice} {condition : String}
    (member : Item.entry (.option choice []) ∈ items script) (gated : choice.requires = some condition) :
    condition ∈ conditions script :=
  List.mem_flatMap.mpr ⟨_, member, by simp [Item.conditions, gated]⟩

theorem items_eq_flatMap (entries : List Entry) : items entries = entries.flatMap itemsOf := by
  induction entries with
  | nil => simp
  | cons entry entries ih => simp [ih]

theorem itemsOf_subset {entry : Entry} {entries : List Entry} (member : entry ∈ entries) :
    itemsOf entry ⊆ items entries := by
  rw [items_eq_flatMap]
  exact fun item inside => List.mem_flatMap.mpr ⟨entry, member, inside⟩

theorem items_block_subset {entry : Entry} {block : List Entry} (member : block ∈ entry.blocks) :
    items block ⊆ itemsOf entry := by
  cases entry with
  | option | when =>
    cases List.mem_singleton.mp member
    rw [itemsOf]
    exact List.subset_cons_self _ _
  | whenElse condition body otherwise =>
    rw [itemsOf]
    rcases List.mem_pair.mp member with rfl | rfl
    next => exact fun item inside => List.mem_cons_of_mem _ (List.mem_append_left _ inside)
    next => exact fun item inside => List.mem_cons_of_mem _ (List.mem_append_right _ (List.mem_cons_of_mem _ inside))
  | narrative | scene | goto | image | metadata => cases member

theorem items_subset {entries others : List Entry} (within : entries ⊆ others) : items entries ⊆ items others := by
  rw [items_eq_flatMap entries]
  intro item member
  obtain ⟨entry, inside, here⟩ := List.mem_flatMap.mp member
  exact itemsOf_subset (within inside) here

theorem body_subset (limit : Int) (place : Nat) (entries : List Entry) : bodyFrom limit place entries ⊆ entries := by
  induction entries generalizing place with
  | nil => exact List.Subset.refl _
  | cons entry entries ih =>
    rw [bodyFrom]
    split
    next => exact List.nil_subset _
    next =>
      split
      next => exact List.Subset.trans (ih _) (List.subset_cons_self _ _)
      next => exact List.cons_subset_cons _ (ih _)

theorem items_body_subset (story : Story) (begins : Int) : items (story.body begins) ⊆ items story.script :=
  items_subset (List.Subset.trans (body_subset _ _ _) (List.drop_subset _ _))

theorem items_preamble_subset (script : List Entry) : items (preamble script) ⊆ items script :=
  items_subset (List.take_subset _ _)

theorem items_conditionals_subset (script : List Entry) :
    items ((preamble script).filter isConditional) ⊆ items script :=
  List.Subset.trans (items_subset List.filter_sublist.subset) (items_preamble_subset script)

def Holds (entries : List Entry) : Exit → Prop
  | .jump target => ∃ written, Item.entry (.goto written) ∈ items entries ∧ target = Text.trim written
  | .unreadable => ∃ condition, Item.entry (.when condition []) ∈ items entries ∧ Condition.isReadable condition = false

theorem Holds.mono {entries others : List Entry} {exit : Exit} (within : items entries ⊆ items others)
    (holds : Holds entries exit) : Holds others exit := by
  cases exit with
  | jump target | unreadable =>
    obtain ⟨written, member, same⟩ := holds
    exact ⟨written, within member, same⟩

theorem Holds.of_block {entry : Entry} {block : List Entry} {exit : Exit} (member : block ∈ entry.blocks)
    (holds : Holds block exit) : Holds [entry] exit :=
  holds.mono (by simpa using items_block_subset member)

theorem Holds.of_branch {α : Type} {entry : Entry} {condition : String} {exit : Exit} {stay : α}
    {first second : α × Option Exit} {taken : Bool} (asks : Item.entry (.when condition []) ∈ itemsOf entry)
    (inside : first.2 = some exit → Holds [entry] exit) (beside : second.2 = some exit → Holds [entry] exit)
    (stops : (if !Condition.isReadable condition then (stay, some .unreadable) else if taken then first else second).2 =
      some exit) : Holds [entry] exit := by
  split at stops
  next unreadable =>
    cases stops
    exact ⟨condition, by simpa using asks, by simpa using unreadable⟩
  next =>
    split at stops
    next => exact inside stops
    next => exact beside stops

end Script

namespace Telling

variable {σ : Type} {keeper : Keeper σ}

mutual

theorem holds_of_runEntry {telling : Telling σ} {exit : Exit} (entry : Entry)
    (stops : (runEntry keeper telling entry).2 = some exit) : Script.Holds [entry] exit := by
  cases entry with
  | goto target =>
    cases stops
    exact ⟨target, by simp [Script.itemsOf], rfl⟩
  | when condition body =>
    rw [runEntry] at stops
    refine .of_branch (by simp [Script.itemsOf]) (fun inside => ?_) (fun stays => ?_) stops
    next => exact .of_block List.mem_cons_self (holds_of_run body inside)
    next => cases stays
  | whenElse condition body otherwise =>
    rw [runEntry] at stops
    refine .of_branch (by simp [Script.itemsOf]) (fun inside => ?_) (fun beside => ?_) stops
    next => exact .of_block List.mem_cons_self (holds_of_run body inside)
    next => exact .of_block (List.mem_cons_of_mem _ List.mem_cons_self) (holds_of_run otherwise beside)
  | metadata key value =>
    rw [runEntry] at stops
    split at stops <;> cases stops
  | narrative | scene | option | image => simp [runEntry] at stops

theorem holds_of_run {telling : Telling σ} {exit : Exit} (entries : List Entry)
    (stops : (run keeper telling entries).2 = some exit) : Script.Holds entries exit := by
  cases entries with
  | nil => simp [run] at stops
  | cons entry entries =>
    rw [run, andThen] at stops
    split at stops
    next exit stopped =>
      cases stops
      exact (holds_of_runEntry entry stopped).mono (by simp)
    next => exact (holds_of_run entries stops).mono (by simp)

end

end Telling

namespace Response

mutual

theorem holds_of_runEntry {ask : Oracle} {response : Response} {exit : Exit} (entry : Entry)
    (stops : (runEntry ask response entry).2 = some exit) : Script.Holds [entry] exit := by
  cases entry with
  | goto target =>
    cases stops
    exact ⟨target, by simp [Script.itemsOf], rfl⟩
  | when condition body =>
    rw [runEntry] at stops
    refine .of_branch (by simp [Script.itemsOf]) (fun inside => ?_) (fun stays => ?_) stops
    next => exact .of_block List.mem_cons_self (holds_of_run body inside)
    next => cases stays
  | whenElse condition body otherwise =>
    rw [runEntry] at stops
    refine .of_branch (by simp [Script.itemsOf]) (fun inside => ?_) (fun beside => ?_) stops
    next => exact .of_block List.mem_cons_self (holds_of_run body inside)
    next => exact .of_block (List.mem_cons_of_mem _ List.mem_cons_self) (holds_of_run otherwise beside)
  | metadata key value =>
    rw [runEntry] at stops
    split at stops <;> cases stops
  | narrative | scene | option | image => simp [runEntry] at stops

theorem holds_of_run {ask : Oracle} {response : Response} {exit : Exit} (entries : List Entry)
    (stops : (run ask response entries).2 = some exit) : Script.Holds entries exit := by
  cases entries with
  | nil => simp [run] at stops
  | cons entry entries =>
    rw [run, andThen] at stops
    split at stops
    next exit stopped =>
      cases stops
      exact (holds_of_runEntry entry stopped).mono (by simp)
    next => exact (holds_of_run entries stops).mono (by simp)

end

end Response

theorem LiesOpen.items_subset {ask : Oracle} {offer : Offer} {entries : List Entry}
    (lies : LiesOpen ask offer entries) :
    Script.itemsOf (.option offer.choice offer.response) ⊆ Script.items entries := by
  induction lies with
  | here => exact Script.itemsOf_subset (by simp)
  | @within before after block entry _ selected _ ih =>
    have inside : block ∈ entry.blocks := by
      cases entry with
      | when condition body =>
        rw [Entry.selected?, Option.ite_none_right_eq_some] at selected
        exact List.mem_singleton.mpr (Option.some.inj selected.2).symm
      | whenElse condition body otherwise =>
        rw [Entry.selected?, Option.some.injEq] at selected
        rw [← selected, Entry.blocks, List.mem_pair]
        split
        next => exact .inl rfl
        next => exact .inr rfl
      | narrative | scene | goto | option | image | metadata => cases selected
    have outer : Script.itemsOf entry ⊆ Script.items (before ++ entry :: after) := Script.itemsOf_subset (by simp)
    exact List.Subset.trans ih (List.Subset.trans (Script.items_block_subset inside) outer)

theorem Story.items_response_subset {story : Story} {ask : Oracle} {place : Coordinate} {offers : List Offer}
    {offer : Offer} (offered : story.offersAt ask place = .ok offers) (member : offer ∈ offers) :
    Script.items offer.response ⊆ Script.items story.script := by
  obtain ⟨begins, -, -, lies, -⟩ := open_of_mem_offersAt offered member
  have inside : Script.items offer.response ⊆ Script.itemsOf (.option offer.choice offer.response) :=
    Script.items_block_subset List.mem_cons_self
  exact List.Subset.trans inside (List.Subset.trans lies.items_subset (Script.items_body_subset story begins))

theorem Fork.exists_of_enter? {block inner : List Entry} {fork : Fork} (entered : fork.enter? block = some inner) :
    ∃ entry ∈ block, inner ∈ entry.blocks ∧ Item.entry (.when fork.condition []) ∈ Script.itemsOf entry := by
  obtain ⟨entry, met, branch⟩ := enter?_eq_some_iff.mp entered
  refine ⟨entry, List.mem_of_getElem? met, ?_⟩
  obtain ⟨index, condition, which⟩ := fork
  cases entry <;> cases which <;> cases branch <;> simp [Entry.blocks, Script.itemsOf]

theorem Script.written_of_blockAt? {script block : List Entry} {forks : List Fork}
    (found : blockAt? script forks = some block) :
    items block ⊆ items script ∧ ∀ fork ∈ forks, Item.entry (.when fork.condition []) ∈ items script := by
  induction forks generalizing script with
  | nil =>
    rw [blockAt?, List.foldlM_nil] at found
    exact ⟨Option.some.inj found ▸ List.Subset.refl _, nofun⟩
  | cons fork forks ih =>
    rw [blockAt?, List.foldlM_cons] at found
    obtain ⟨inner, entered, found⟩ := Option.bind_eq_some_iff.mp found
    obtain ⟨entry, met, inside, named⟩ := Fork.exists_of_enter? entered
    have within : items inner ⊆ items script := List.Subset.trans (items_block_subset inside) (itemsOf_subset met)
    obtain ⟨deeper, others⟩ := ih found
    refine ⟨List.Subset.trans deeper within, fun other member => ?_⟩
    rcases List.mem_cons.mp member with rfl | later
    next => exact itemsOf_subset met named
    next => exact within (others other later)

theorem Place.StandsIn.jump {script : List Entry} {place : Place} {target : String} (stands : place.StandsIn script)
    (jumps : place.site = .beat (.jump target)) : Script.Holds script (.jump target) := by
  obtain ⟨block, found, here⟩ := stands
  rw [jumps] at here
  obtain ⟨entry, met, beat⟩ := Option.bind_eq_some_iff.mp here
  have written : Script.Holds [entry] (.jump target) := by
    cases entry with
    | goto written =>
      rw [Entry.beat?] at beat
      cases beat
      exact ⟨written, by simp [Script.itemsOf], rfl⟩
    | metadata key value =>
      rw [Entry.beat?, Option.map_eq_some_iff] at beat
      obtain ⟨change, -, same⟩ := beat
      cases same
    | narrative | image | scene | option | when | whenElse => cases beat
  refine written.mono (List.Subset.trans ?_ (Script.written_of_blockAt? found).1)
  simpa using Script.itemsOf_subset (List.mem_of_getElem? met)

end Gamebook
