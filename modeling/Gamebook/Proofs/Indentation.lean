import Gamebook.Proofs.Places
import Gamebook.Proofs.Seams

set_option autoImplicit false

namespace Gamebook

structure Extent where
  owner : Nat
  branch : Branch
  first : Nat
  size : Nat

def Extent.Holds (extent : Extent) (number : Nat) : Prop :=
  extent.first ≤ number ∧ number < extent.first + extent.size

def Entry.isWhen : Entry → Bool
  | .when _ _ => true
  | _ => false

namespace Script

-- The mark of a second block is an item between the two blocks, and in neither.
mutual

def extentsOf (number : Nat) : Entry → List Extent
  | .option _ response => ⟨number, .body, number + 1, (items response).length⟩ :: extents (number + 1) response
  | .when _ body => ⟨number, .body, number + 1, (items body).length⟩ :: extents (number + 1) body
  | .whenElse _ body otherwise =>
    ⟨number, .body, number + 1, (items body).length⟩ ::
      ⟨number, .otherwise, number + (items body).length + 2, (items otherwise).length⟩ ::
        (extents (number + 1) body ++ extents (number + (items body).length + 2) otherwise)
  | _ => []

def extents (number : Nat) : List Entry → List Extent
  | [] => []
  | entry :: entries => extentsOf number entry ++ extents (number + (itemsOf entry).length) entries

end

/-- An item lies, at some depth, in a block of the entry that another item stands for. -/
def Nested (script : List Entry) (branch : Branch) (owner number : Nat) : Prop :=
  ∃ extent ∈ extents 0 script, extent.owner = owner ∧ extent.branch = branch ∧ extent.Holds number

theorem extents_append (number : Nat) (first second : List Entry) :
    extents number (first ++ second) = extents number first ++ extents (number + (items first).length) second := by
  induction first generalizing number with
  | nil => simp [extents]
  | cons entry first ih => simp [extents, ih, Nat.add_assoc]

theorem exists_of_mem_nest {placed : List Placed} {root : Placed} (member : root ∈ nest placed) :
    ∃ entry ∈ placed, root.1 = entry.1 := by
  induction placed generalizing root with
  | nil => cases member
  | cons entry placed ih =>
    -- All but the first come from what follows, some of which the first has taken.
    have known : root.1 = entry.1 ∨ root ∈ nest placed := by
      have after (following : List Placed) : afterBody entry.1 following ⊆ following := List.dropWhile_subset _
      obtain ⟨indent, bare⟩ := entry
      change root ∈ attach (indent, bare) (nest placed) at member
      cases bare with
      | option =>
        rcases List.mem_cons.mp member with rfl | later
        next => exact .inl rfl
        next => exact .inr (after _ later)
      | when condition block =>
        rw [attach] at member
        dsimp only at member
        have rest := after (nest placed)
        split at member
        next =>
          cases List.mem_singleton.mp member
          exact .inl rfl
        next next others found =>
          rw [found] at rest
          split at member
          next =>
            rcases List.mem_cons.mp member with rfl | later
            next => exact .inl rfl
            next => exact .inr (rest (List.mem_cons_of_mem _ (after _ later)))
          next =>
            rcases List.mem_cons.mp member with rfl | later
            next => exact .inl rfl
            next => exact .inr (rest later)
      | narrative | scene | goto | image | metadata | whenElse =>
        rcases List.mem_cons.mp member with rfl | later
        next => exact .inl rfl
        next => exact .inr later
    rcases known with same | later
    next => exact ⟨entry, List.mem_cons_self, same⟩
    next =>
      obtain ⟨other, inside, same⟩ := ih later
      exact ⟨other, List.mem_cons_of_mem _ inside, same⟩

theorem body_nest (indent : Nat) (placed : List Placed) :
    body indent (nest placed) = (nest (placed.takeWhile fun next => indent < next.1)).map Prod.snd ∧
      afterBody indent (nest placed) = nest (placed.dropWhile fun next => indent < next.1) := by
  have parts : (placed.takeWhile fun next => indent < next.1) ++ (placed.dropWhile fun next => indent < next.1) =
      placed := List.takeWhile_append_dropWhile
  have inner : ∀ entry ∈ placed.takeWhile fun next => indent < next.1, indent < entry.1 := by
    intro entry member
    simpa using List.mem_takeWhile_imp member
  have outer : NoDeeper indent (placed.dropWhile fun next => indent < next.1) := by
    intro next leads
    have fails := List.head?_dropWhile_not (fun next : Placed => decide (indent < next.1)) placed
    rw [Option.mem_def.mp leads] at fails
    simpa using fails
  generalize placed.takeWhile (fun next => indent < next.1) = front at parts inner
  generalize placed.dropWhile (fun next => indent < next.1) = back at parts outer
  subst parts
  have apart := @nest_append front back fun entry member next leads => .inl
    (Nat.lt_of_le_of_lt (outer next leads) (inner entry member))
  have leaves : NoDeeper indent (nest back) := by
    cases back with
    | nil => nofun
    | cons next back =>
      obtain ⟨nested, leads, -⟩ := head?_attach next (nest back)
      intro found member
      cases leads.symm.trans member
      exact outer next rfl
  have deeper : ∀ root ∈ nest front, decide (indent < root.1) = true := by
    intro root member
    obtain ⟨entry, inside, same⟩ := exists_of_mem_nest member
    simpa [same] using inner entry inside
  obtain ⟨taken, left⟩ := body_append (nest front) leaves
  rw [apart, taken, left, body, afterBody, List.takeWhile_eq_self_iff.mpr deeper, List.dropWhile_eq_nil_iff.mpr deeper]
  exact ⟨rfl, rfl⟩

def Written (placed : List Placed) : Prop := ∀ entry ∈ placed, ∃ text, EntryLine.read text = .ok entry.2

theorem length_items_nest {placed : List Placed} (written : Written placed) :
    (items ((nest placed).map Prod.snd)).length = placed.length := by
  have texts : ∃ texts, List.Forall₂ (fun (entry : Placed) text => EntryLine.read text = .ok entry.2) placed texts := by
    induction placed with
    | nil => exact ⟨[], .nil⟩
    | cons entry placed ih =>
      obtain ⟨text, reads⟩ := written entry List.mem_cons_self
      obtain ⟨texts, rest⟩ := ih fun other member => written other (List.mem_cons_of_mem _ member)
      exact ⟨text :: texts, .cons reads rest⟩
  obtain ⟨texts, reads⟩ := texts
  exact (standsOn_nest reads).length_eq.trans reads.length_eq.symm

def indented (number : Nat) (entry : Placed) (following : List Placed) : List Extent :=
  let inner := following.takeWhile fun next => entry.1 < next.1
  let own : Extent := ⟨number, .body, number + 1, inner.length⟩
  match entry.2 with
  | .option _ _ => [own]
  | .when _ _ =>
    match following.dropWhile fun next => entry.1 < next.1 with
    | [] => [own]
    | mark :: others =>
      if mark.1 == entry.1 && isElse mark.2 then
        [own, ⟨number, .otherwise, number + inner.length + 2, (others.takeWhile fun next => entry.1 < next.1).length⟩]
      else [own]
  | _ => []

theorem map_snd_eq (indent : Nat) (following : List Placed) :
    following.map Prod.snd = body indent following ++ (afterBody indent following).map Prod.snd := by
  rw [body, afterBody, ← List.map_append, List.takeWhile_append_dropWhile]

theorem extents_option (number indent : Nat) (choice : Choice) (response : List Entry) (following : List Placed) :
    extents number ((attach (indent, .option choice response) following).map Prod.snd) =
      ⟨number, .body, number + 1, (items (body indent following)).length⟩ ::
        extents (number + 1) (following.map Prod.snd) := by
  rw [map_snd_eq indent following, extents_append]
  simp [attach, extents, extentsOf, itemsOf, Nat.add_assoc, Nat.add_comm]

theorem extents_when (number indent : Nat) (condition : String) (block : List Entry) (following : List Placed)
    (alone : ∀ next ∈ (afterBody indent following).head?, (next.1 == indent && isElse next.2) = false) :
    extents number ((attach (indent, .when condition block) following).map Prod.snd) =
      ⟨number, .body, number + 1, (items (body indent following)).length⟩ ::
        extents (number + 1) (following.map Prod.snd) := by
  rw [map_snd_eq indent following, extents_append, attach]
  dsimp only
  cases left : afterBody indent following with
  | nil => simp [extents, extentsOf]
  | cons next rest =>
    have told := alone next (by rw [left]; rfl)
    simp [told, extents, extentsOf, itemsOf, Nat.add_assoc, Nat.add_comm]

theorem extents_otherwise (number indent : Nat) (condition : String) (block : List Entry) {following rest : List Placed}
    {mark : Placed} (left : afterBody indent following = mark :: rest)
    (marks : (mark.1 == indent && isElse mark.2) = true) :
    extents number ((attach (indent, .when condition block) following).map Prod.snd) =
      ⟨number, .body, number + 1, (items (body indent following)).length⟩ ::
        ⟨number, .otherwise, number + (items (body indent following)).length + 2, (items (body indent rest)).length⟩ ::
          extents (number + 1) (following.map Prod.snd) := by
  obtain ⟨depth, told⟩ := mark
  have single : itemsOf told = [.entry told] ∧ ∀ place, extentsOf place told = [] := by
    rw [Bool.and_eq_true] at marks
    cases told with
    | narrative => simp [itemsOf, extentsOf]
    | scene | goto | option | image | metadata | when | whenElse => simp [isElse] at marks
  rw [map_snd_eq indent following, extents_append, attach]
  dsimp only
  rw [left]
  dsimp only
  -- Two items come before the second block besides those of the first: the entry itself and the mark.
  have second (size : Nat) : number + size + 2 = number + 1 + size + 1 := by omega
  have beyond (size more : Nat) : number + (size + (more + 1) + 1) = number + 1 + size + 1 + more := by omega
  rw [if_pos marks, List.map_cons, List.map_cons, map_snd_eq indent rest]
  simp [extents, extentsOf, extents_append, single, itemsOf, second, beyond]

theorem Written.of_subset {placed others : List Placed} (written : Written others) (within : placed ⊆ others) :
    Written placed :=
  fun entry member => written entry (within member)

theorem length_body_nest {placed : List Placed} (written : Written placed) (indent : Nat) :
    (items (body indent (nest placed))).length = (placed.takeWhile fun next => indent < next.1).length := by
  rw [(body_nest indent placed).1]
  exact length_items_nest (written.of_subset (List.takeWhile_subset _))

theorem attach_mark {mark : Placed} (marks : isElse mark.2 = true) (following : List Placed) :
    attach mark following = mark :: following := by
  obtain ⟨indent, told⟩ := mark
  cases told with
  | narrative => rfl
  | scene | goto | option | image | metadata | when | whenElse => cases marks

theorem extents_nest_cons {entry : Placed} {placed : List Placed} (written : Written (entry :: placed)) (number : Nat) :
    extents number ((nest (entry :: placed)).map Prod.snd) =
      indented number entry placed ++ extents (number + 1) ((nest placed).map Prod.snd) := by
  obtain ⟨text, reads⟩ := written entry List.mem_cons_self
  have plain := (EntryLine.plain_of_read reads).items
  have rest : Written placed := written.of_subset (List.subset_cons_self _ _)
  have size := length_body_nest rest
  have left (indent : Nat) := (body_nest indent placed).2
  obtain ⟨indent, bare⟩ := entry
  change extents number ((attach (indent, bare) (nest placed)).map Prod.snd) = _
  cases bare with
  | option choice response => simp [extents_option, size, indented]
  | when condition block =>
    unfold indented
    dsimp only
    cases outer : placed.dropWhile fun next => indent < next.1 with
    | nil =>
      have alone : ∀ next ∈ (afterBody indent (nest placed)).head?, (next.1 == indent && isElse next.2) = false := by
        rw [left, outer]
        nofun
      simp [extents_when _ _ _ _ _ alone, size]
    | cons mark others =>
      obtain ⟨nested, leads, told⟩ := head?_attach mark (nest others)
      by_cases marks : (mark.1 == indent && isElse mark.2) = true
      next =>
        have within : others ⊆ placed :=
          List.Subset.trans (List.subset_cons_self mark others) (outer ▸ List.dropWhile_subset _)
        have found : afterBody indent (nest placed) = mark :: nest others := by
          rw [left, outer]
          exact attach_mark (Bool.and_eq_true_iff.mp marks).2 _
        have second := length_body_nest (rest.of_subset within) indent
        simp [extents_otherwise _ _ _ _ found marks, size, second, marks]
      next =>
        have alone : ∀ next ∈ (afterBody indent (nest placed)).head?, (next.1 == indent && isElse next.2) = false := by
          rw [left, outer]
          intro next member
          cases leads.symm.trans member
          rw [told]
          exact Bool.eq_false_iff.mpr marks
        simp [extents_when _ _ _ _ _ alone, size, marks]
  | whenElse => simp [itemsOf] at plain
  | narrative | scene | goto | image | metadata => simp [attach, extents, extentsOf, plain, indented]

theorem mem_extents_nest {placed : List Placed} (written : Written placed) (number : Nat) (extent : Extent) :
    extent ∈ extents number ((nest placed).map Prod.snd) ↔
      ∃ k entry following, placed.drop k = entry :: following ∧ extent ∈ indented (number + k) entry following := by
  induction placed generalizing number with
  | nil => simp [nest, extents]
  | cons first placed ih =>
    rw [extents_nest_cons written, List.mem_append, ih (written.of_subset (List.subset_cons_self _ _))]
    constructor
    next =>
      rintro (own | ⟨k, entry, following, here, inside⟩)
      next => exact ⟨0, first, placed, rfl, own⟩
      next => exact ⟨k + 1, entry, following, here, by rwa [Nat.add_comm k, ← Nat.add_assoc]⟩
    next =>
      rintro ⟨k, entry, following, here, inside⟩
      cases k with
      | zero =>
        cases here
        exact .inl inside
      | succ k => exact .inr ⟨k, entry, following, here, by rwa [Nat.add_assoc, Nat.add_comm 1]⟩

theorem mem_indented {number : Nat} {entry : Placed} {following : List Placed} {extent : Extent} :
    extent ∈ indented number entry following ↔
      let inner := following.takeWhile fun next => entry.1 < next.1
      (entry.2.isOption || entry.2.isWhen) = true ∧ extent = ⟨number, .body, number + 1, inner.length⟩ ∨
      entry.2.isWhen = true ∧ ∃ mark others, following.dropWhile (fun next => entry.1 < next.1) = mark :: others ∧
        mark.1 = entry.1 ∧ isElse mark.2 = true ∧
        extent = ⟨number, .otherwise, number + inner.length + 2,
          (others.takeWhile fun next => entry.1 < next.1).length⟩ := by
  obtain ⟨indent, bare⟩ := entry
  unfold indented
  cases bare with
  | when condition block =>
    dsimp only
    cases following.dropWhile fun next => indent < next.1 with
    | nil => simp [Entry.isOption, Entry.isWhen]
    | cons mark others =>
      by_cases marks : (mark.1 == indent && isElse mark.2) = true
      next =>
        have both : mark.1 = indent ∧ isElse mark.2 = true := by simpa using marks
        simp [Entry.isOption, Entry.isWhen, both]
      next =>
        have apart : mark.1 = indent → ¬isElse mark.2 = true := by simpa using marks
        simp only [marks, Bool.false_eq_true, if_false, List.mem_singleton]
        constructor
        next => exact fun own => .inl ⟨rfl, own⟩
        next =>
          rintro (⟨-, own⟩ | ⟨-, _, _, same, level, mark, -⟩)
          next => exact own
          next =>
            cases same
            exact absurd mark (apart level)
  | option => simp [Entry.isOption, Entry.isWhen]
  | narrative | scene | goto | image | metadata | whenElse => simp [Entry.isOption, Entry.isWhen]

def Deeper (placed : List Placed) (indent first past : Nat) : Prop :=
  ∀ number entry, first < number → number < past → placed[number]? = some entry → indent < entry.1

theorem length_takeWhile_eq {α : Type} (keeps : α → Bool) (xs : List α) :
    (xs.takeWhile keeps).length = xs.findIdx fun x => !keeps x := by
  rw [List.takeWhile_eq_take_findIdx_not, List.length_take]
  exact Nat.min_eq_left List.findIdx_le_length

theorem holds_inner_iff (placed : List Placed) (indent k m : Nat) :
    k + 1 ≤ m ∧ m < k + 1 + ((placed.drop (k + 1)).takeWhile fun next => indent < next.1).length ↔
      k < m ∧ m < placed.length ∧ Deeper placed indent k (m + 1) := by
  rw [length_takeWhile_eq]
  constructor
  next =>
    rintro ⟨after, before⟩
    have found : m - (k + 1) < (placed.drop (k + 1)).findIdx fun next => !decide (indent < next.1) := by omega
    obtain ⟨inside, deep⟩ := (List.lt_findIdx_iff _ _ _).mp found
    rw [List.length_drop] at inside
    refine ⟨after, by omega, fun number entry later earlier met => ?_⟩
    have here := deep (number - (k + 1)) (by omega)
    have same : k + 1 + (number - (k + 1)) = number := by omega
    obtain ⟨_, rfl⟩ := List.getElem?_eq_some_iff.mp met
    simpa [same] using here
  next =>
    rintro ⟨after, inside, deep⟩
    refine ⟨after, ?_⟩
    have found : m - (k + 1) < (placed.drop (k + 1)).findIdx fun next => !decide (indent < next.1) := by
      rw [List.lt_findIdx_iff]
      refine ⟨by rw [List.length_drop]; omega, fun offset le => ?_⟩
      have met := deep (k + 1 + offset) _ (by omega) (by omega) (List.getElem?_eq_getElem (by omega))
      simpa using met
    omega

theorem drop_eq_cons_iff (placed : List Placed) (k : Nat) (entry : Placed) (following : List Placed) :
    placed.drop k = entry :: following ↔ placed[k]? = some entry ∧ following = placed.drop (k + 1) := by
  constructor
  next =>
    intro same
    rw [← List.head?_drop, ← List.tail_drop, same]
    exact ⟨rfl, rfl⟩
  next =>
    rintro ⟨here, rfl⟩
    rw [List.drop_eq_getElem?_toList_append, here]
    rfl

-- What closes an indented stretch is the first entry that is not deeper.
theorem dropWhile_deeper (placed : List Placed) (indent k : Nat) (mark : Placed) (others : List Placed) :
    (placed.drop (k + 1)).dropWhile (fun next => indent < next.1) = mark :: others ↔
      ∃ e, e = k + 1 + ((placed.drop (k + 1)).takeWhile fun next => indent < next.1).length ∧
        placed[e]? = some mark ∧ others = placed.drop (e + 1) := by
  rw [exists_eq_left, ← drop_eq_cons_iff, length_takeWhile_eq, List.dropWhile_eq_drop_findIdx_not, List.drop_drop]

theorem closes_iff (placed : List Placed) (indent k e : Nat) {mark : Placed} (here : placed[e]? = some mark)
    (outer : mark.1 ≤ indent) :
    e = k + 1 + ((placed.drop (k + 1)).takeWhile fun next => indent < next.1).length ↔
      k < e ∧ Deeper placed indent k e := by
  have inside := holds_inner_iff placed indent k
  obtain ⟨bound, -⟩ := List.getElem?_eq_some_iff.mp here
  constructor
  next =>
    intro same
    refine ⟨by omega, fun number entry later earlier met => ?_⟩
    obtain ⟨-, -, deep⟩ := (inside number).mp ⟨later, by omega⟩
    exact deep number entry later (by omega) met
  next =>
    rintro ⟨after, deep⟩
    -- The entry itself is not in the stretch, and the one before it is.
    have beyond : ¬e < k + 1 + ((placed.drop (k + 1)).takeWhile fun next => indent < next.1).length := by
      intro within
      obtain ⟨-, -, deeper⟩ := (inside e).mp ⟨after, within⟩
      exact Nat.not_lt.mpr outer (deeper e mark after (Nat.lt_succ_self e) here)
    rcases Nat.eq_or_lt_of_le (Nat.succ_le_of_lt after) with next | later
    next => omega
    next =>
      have last := (inside (e - 1)).mpr ⟨by omega, by omega, fun number entry low high met =>
        deep number entry low (by omega) met⟩
      omega

theorem nested_nest_iff {placed : List Placed} (written : Written placed) (branch : Branch) (k m : Nat) :
    Nested ((nest placed).map Prod.snd) branch k m ↔
      ∃ entry, placed[k]? = some entry ∧
        ∃ extent ∈ indented k entry (placed.drop (k + 1)), extent.branch = branch ∧ extent.Holds m := by
  constructor
  next =>
    rintro ⟨extent, member, owns, within⟩
    obtain ⟨k', entry, following, here, block⟩ := (mem_extents_nest written 0 extent).mp member
    obtain ⟨met, rfl⟩ := (drop_eq_cons_iff placed k' entry following).mp here
    rw [Nat.zero_add] at block
    have owner : extent.owner = k' := by
      rcases mem_indented.mp block with ⟨-, rfl⟩ | ⟨-, _, _, -, -, -, rfl⟩ <;> rfl
    cases owns.symm.trans owner
    exact ⟨entry, met, extent, block, within⟩
  next =>
    rintro ⟨entry, met, extent, block, within⟩
    have here := (drop_eq_cons_iff placed k entry _).mpr ⟨met, rfl⟩
    have owner : extent.owner = k := by
      rcases mem_indented.mp block with ⟨-, rfl⟩ | ⟨-, _, _, -, -, -, rfl⟩ <;> rfl
    have listed := (mem_extents_nest written 0 extent).mpr ⟨k, entry, _, here, by rwa [Nat.zero_add]⟩
    exact ⟨extent, listed, owner, within⟩

theorem nested_body_iff {placed : List Placed} (written : Written placed) (k m : Nat) :
    Nested ((nest placed).map Prod.snd) .body k m ↔
      ∃ entry, placed[k]? = some entry ∧ (entry.2.isOption || entry.2.isWhen) = true ∧
        k < m ∧ m < placed.length ∧ Deeper placed entry.1 k (m + 1) := by
  rw [nested_nest_iff written]
  constructor
  next =>
    rintro ⟨entry, met, extent, block, branch, holds⟩
    rcases mem_indented.mp block with ⟨opens, rfl⟩ | ⟨-, _, _, -, -, -, rfl⟩
    next => exact ⟨entry, met, opens, (holds_inner_iff placed entry.1 k m).mp holds⟩
    next => cases branch
  next =>
    rintro ⟨entry, met, opens, inside⟩
    exact ⟨entry, met, _, mem_indented.mpr (.inl ⟨opens, rfl⟩), rfl, (holds_inner_iff placed entry.1 k m).mpr inside⟩

theorem nested_otherwise_iff {placed : List Placed} (written : Written placed) (k m : Nat) :
    Nested ((nest placed).map Prod.snd) .otherwise k m ↔
      ∃ entry, placed[k]? = some entry ∧ entry.2.isWhen = true ∧
        ∃ e mark, k < e ∧ placed[e]? = some mark ∧ Deeper placed entry.1 k e ∧ mark.1 = entry.1 ∧
          isElse mark.2 = true ∧ e < m ∧ m < placed.length ∧ Deeper placed entry.1 e (m + 1) := by
  rw [nested_nest_iff written]
  constructor
  next =>
    rintro ⟨entry, met, extent, block, branch, holds⟩
    rcases mem_indented.mp block with ⟨-, rfl⟩ | ⟨opens, mark, others, closes, level, marks, rfl⟩
    next => cases branch
    next =>
      obtain ⟨e, place, found, rfl⟩ := (dropWhile_deeper placed entry.1 k mark others).mp closes
      obtain ⟨later, deep⟩ := (closes_iff placed entry.1 k e found (Nat.le_of_eq level)).mp place
      have second : k + ((placed.drop (k + 1)).takeWhile fun next => entry.1 < next.1).length + 2 = e + 1 := by omega
      rw [second] at holds
      exact ⟨entry, met, opens, e, mark, later, found, deep, level, marks,
        (holds_inner_iff placed entry.1 e m).mp holds⟩
  next =>
    rintro ⟨entry, met, opens, e, mark, later, found, deep, level, marks, inside⟩
    have place := (closes_iff placed entry.1 k e found (Nat.le_of_eq level)).mpr ⟨later, deep⟩
    have closes := (dropWhile_deeper placed entry.1 k mark _).mpr ⟨e, place, found, rfl⟩
    have second : k + ((placed.drop (k + 1)).takeWhile fun next => entry.1 < next.1).length + 2 = e + 1 := by omega
    refine ⟨entry, met, _, mem_indented.mpr (.inr ⟨opens, mark, _, closes, level, marks, rfl⟩), rfl, ?_⟩
    rw [second]
    exact (holds_inner_iff placed entry.1 e m).mpr inside

end Script

namespace SourceLine

def at? (lines : List String) (i : Nat) : Option SourceLine := lines[i]?.bind ofString?

def number (lines : List String) (i : Nat) : Nat := ((lines.take i).filterMap ofString?).length

def ReadsAs (line : SourceLine) (shape : Entry → Bool) : Prop :=
  ∃ entry, EntryLine.read line.text = .ok entry ∧ shape entry = true

/-- All lines strictly between two indices that are not blank are indented deeper. -/
def StaysDeeper (lines : List String) (indent first past : Nat) : Prop :=
  ∀ i line, first < i → i < past → at? lines i = some line → indent < line.indent

theorem getElem?_number {lines : List String} {i : Nat} {line : SourceLine} (here : at? lines i = some line) :
    (lines.filterMap ofString?)[number lines i]? = some line := by
  obtain ⟨raw, met, reads⟩ := Option.bind_eq_some_iff.mp here
  have parts : lines.filterMap ofString? =
      (lines.take i).filterMap ofString? ++ line :: (lines.drop (i + 1)).filterMap ofString? := by
    conv_lhs => rw [← List.take_append_drop i lines, List.drop_eq_getElem?_toList_append, met]
    simp [reads]
  rw [parts, number, List.getElem?_append_right (Nat.le_refl _), Nat.sub_self]
  rfl

theorem exists_at {lines : List String} {j : Nat} {line : SourceLine}
    (met : (lines.filterMap ofString?)[j]? = some line) : ∃ i, at? lines i = some line ∧ number lines i = j := by
  induction lines generalizing j with
  | nil => simp at met
  | cons raw lines ih =>
    cases reads : ofString? raw with
    | none =>
      rw [List.filterMap_cons_none reads] at met
      obtain ⟨i, here, same⟩ := ih met
      exact ⟨i + 1, here, by simpa [number, reads] using same⟩
    | some source =>
      rw [List.filterMap_cons_some reads] at met
      cases j with
      | zero =>
        cases met
        exact ⟨0, by simp [at?, reads], rfl⟩
      | succ j =>
        obtain ⟨i, here, same⟩ := ih met
        exact ⟨i + 1, here, by simpa [number, reads] using same⟩

theorem number_mono (lines : List String) {i p : Nat} (le : i ≤ p) : number lines i ≤ number lines p := by
  unfold number
  rw [← Nat.min_eq_left le, ← List.take_take]
  exact ((List.take_sublist _ _).filterMap _).length_le

theorem number_succ {lines : List String} {i : Nat} {line : SourceLine} (here : at? lines i = some line) :
    number lines (i + 1) = number lines i + 1 := by
  obtain ⟨raw, met, reads⟩ := Option.bind_eq_some_iff.mp here
  simp [number, List.take_add_one, met, reads]

theorem number_lt_iff {lines : List String} {i : Nat} {line : SourceLine} (here : at? lines i = some line) (p : Nat) :
    number lines i < number lines p ↔ i < p := by
  constructor
  next =>
    intro less
    by_contra beyond
    exact Nat.not_lt.mpr (number_mono lines (Nat.not_lt.mp beyond)) less
  next =>
    intro less
    have next := number_mono lines (Nat.succ_le_of_lt less)
    rw [Nat.succ_eq_add_one, number_succ here] at next
    omega

end SourceLine

namespace Script

theorem exists_getElem_of_forall₂ {α β : Type} {related : α → β → Prop} {xs : List α} {ys : List β}
    (all : List.Forall₂ related xs ys) {i : Nat} {y : β} (met : ys[i]? = some y) :
    ∃ x, xs[i]? = some x ∧ related x y := by
  obtain ⟨bound, rfl⟩ := List.getElem?_eq_some_iff.mp met
  have inside : i < xs.length := all.length_eq ▸ bound
  exact ⟨xs.get ⟨i, inside⟩, List.getElem?_eq_getElem inside, all.get inside bound⟩

theorem entry_at {lines : List String} {placed : List Placed} (reads : readLines lines = .ok placed) {i : Nat}
    {line : SourceLine} (here : SourceLine.at? lines i = some line) :
    ∃ entry, placed[SourceLine.number lines i]? = some entry ∧ entry.1 = line.indent ∧
      EntryLine.read line.text = .ok entry.2 :=
  exists_getElem_of_forall₂ (sources_of_readLines reads) (SourceLine.getElem?_number here)

theorem line_at {lines : List String} {placed : List Placed} (reads : readLines lines = .ok placed) {number : Nat}
    {entry : Placed} (met : placed[number]? = some entry) :
    ∃ i line, SourceLine.at? lines i = some line ∧ SourceLine.number lines i = number ∧ entry.1 = line.indent ∧
      EntryLine.read line.text = .ok entry.2 := by
  obtain ⟨line, found, same⟩ := exists_getElem_of_forall₂ (sources_of_readLines reads).flip met
  obtain ⟨i, here, place⟩ := SourceLine.exists_at found
  exact ⟨i, line, here, place, same⟩

theorem deeper_iff {lines : List String} {placed : List Placed} (reads : readLines lines = .ok placed) (indent : Nat)
    {k : Nat} {line : SourceLine} (here : SourceLine.at? lines k = some line) (past : Nat) :
    Deeper placed indent (SourceLine.number lines k) (SourceLine.number lines past) ↔
      SourceLine.StaysDeeper lines indent k past := by
  constructor
  next =>
    intro deep i next later earlier met
    obtain ⟨entry, found, level, -⟩ := entry_at reads met
    rw [← level]
    exact deep _ entry ((SourceLine.number_lt_iff here i).mpr later) ((SourceLine.number_lt_iff met past).mpr earlier)
      found
  next =>
    intro deep number entry later earlier met
    obtain ⟨i, next, there, rfl, level, -⟩ := line_at reads met
    rw [level]
    exact deep i next ((SourceLine.number_lt_iff here i).mp later) ((SourceLine.number_lt_iff there past).mp earlier)
      there

theorem written_of_readLines {lines : List String} {placed : List Placed} (reads : readLines lines = .ok placed) :
    Written placed := by
  intro entry member
  obtain ⟨number, met⟩ := List.mem_iff_getElem?.mp member
  obtain ⟨_, line, -, -, -, read⟩ := line_at reads met
  exact ⟨line.text, read⟩

theorem item_at {lines : List String} {placed : List Placed} (reads : readLines lines = .ok placed) {i : Nat}
    {line : SourceLine} (here : SourceLine.at? lines i = some line) :
    ∃ item, (items ((nest placed).map Prod.snd))[SourceLine.number lines i]? = some item ∧ item.StandsOn line.text := by
  have texts := (sources_of_readLines reads).imp fun _ _ same => same.2
  have stands := standsOn_nest (List.forall₂_map_right_iff.mpr texts)
  exact exists_getElem_of_forall₂ stands (by rw [List.getElem?_map, SourceLine.getElem?_number here]; rfl)

theorem readsAs_iff {line : SourceLine} {entry : Entry} (reads : EntryLine.read line.text = .ok entry)
    (shape : Entry → Bool) : line.ReadsAs shape ↔ shape entry = true := by
  constructor
  next =>
    rintro ⟨other, same, fits⟩
    cases reads.symm.trans same
    exact fits
  next => exact fun fits => ⟨entry, reads, fits⟩

end Script

/-- What is nested in what is decided by indentation: an option or a conditional holds the lines after it that stay
deeper, and a conditional those that stay deeper after the first that does not, if that is an else at its depth. -/
theorem nested_iff_indented {lines : List String} {script : List Entry} (reads : Script.read lines = .ok script)
    {k m : Nat} {owner line : SourceLine} (here : SourceLine.at? lines k = some owner)
    (there : SourceLine.at? lines m = some line) :
    (∃ item, (Script.items script)[SourceLine.number lines m]? = some item ∧ item.StandsOn line.text) ∧
      (Script.Nested script .body (SourceLine.number lines k) (SourceLine.number lines m) ↔
        (owner.ReadsAs Entry.isOption ∨ owner.ReadsAs Entry.isWhen) ∧
          k < m ∧ SourceLine.StaysDeeper lines owner.indent k (m + 1)) ∧
      (Script.Nested script .otherwise (SourceLine.number lines k) (SourceLine.number lines m) ↔
        owner.ReadsAs Entry.isWhen ∧ ∃ e mark, SourceLine.at? lines e = some mark ∧
          (k < e ∧ SourceLine.StaysDeeper lines owner.indent k e) ∧ (mark.indent = owner.indent ∧ mark.IsElse) ∧
          e < m ∧ SourceLine.StaysDeeper lines owner.indent e (m + 1)) := by
  obtain ⟨placed, found, rfl⟩ := Script.readLines_of_read reads
  have written := Script.written_of_readLines found
  obtain ⟨entry, met, level, bare⟩ := Script.entry_at found here
  obtain ⟨last, bound, -⟩ := Script.entry_at found there
  have inside : SourceLine.number lines m < placed.length := (List.getElem?_eq_some_iff.mp bound).1
  have past := SourceLine.number_succ there
  refine ⟨Script.item_at found there, ?_, ?_⟩
  next =>
    rw [Script.nested_body_iff written, met, Script.readsAs_iff bare, Script.readsAs_iff bare, ← Bool.or_eq_true,
      ← Script.deeper_iff found _ here, past, ← SourceLine.number_lt_iff here, ← level]
    simp [inside]
  next =>
    rw [Script.nested_otherwise_iff written, met, Script.readsAs_iff bare, ← level, ← past]
    constructor
    next =>
      rintro ⟨_, ⟨⟩, shape, e, mark, later, marked, deep, same, marks, beyond, -, more⟩
      obtain ⟨e, other, atMark, rfl, depth, told⟩ := Script.line_at found marked
      exact ⟨shape, e, other, atMark,
        ⟨(SourceLine.number_lt_iff here e).mp later, (Script.deeper_iff found _ here e).mp deep⟩,
        ⟨depth.symm.trans same, (Script.isElse_iff told).mp marks⟩,
        (SourceLine.number_lt_iff atMark m).mp beyond, (Script.deeper_iff found _ atMark (m + 1)).mp more⟩
    next =>
      rintro ⟨shape, e, other, atMark, ⟨later, deep⟩, ⟨same, marks⟩, beyond, more⟩
      obtain ⟨mark, marked, depth, told⟩ := Script.entry_at found atMark
      exact ⟨entry, rfl, shape, SourceLine.number lines e, mark,
        (SourceLine.number_lt_iff here e).mpr later, marked, (Script.deeper_iff found _ here e).mpr deep,
        depth.trans same, (Script.isElse_iff told).mpr marks,
        (SourceLine.number_lt_iff atMark m).mpr beyond, inside, (Script.deeper_iff found _ atMark (m + 1)).mpr more⟩

-- The second line in the block is less deep than the first, and a blank line stands between them.
theorem nested_iff_indented_by_lamplight :
    let lines := ["when lamp", "    You read.", "", " if sleep", "   * You dream.", "[else]", "\tIt is dark.", "Night."]
    let script : List Entry :=
      [.whenElse "lamp" [.narrative "You read.", .option ⟨"sleep", none, none⟩ [.narrative "You dream."]]
        [.narrative "It is dark."], .narrative "Night."]
    Script.read lines = .ok script ∧
      Script.Nested script .body (SourceLine.number lines 0) (SourceLine.number lines 4) ∧
      Script.Nested script .otherwise (SourceLine.number lines 0) (SourceLine.number lines 6) ∧
      ¬Script.Nested script .body (SourceLine.number lines 3) (SourceLine.number lines 6) := by
  intro lines script
  have reads : Script.read lines = .ok script := rfl
  have first : SourceLine.at? lines 0 = some ⟨0, "when lamp".toList⟩ := rfl
  have option : SourceLine.at? lines 3 = some ⟨1, "if sleep".toList⟩ := rfl
  have dream : SourceLine.at? lines 4 = some ⟨5, "You dream.".toList⟩ := rfl
  have mark : SourceLine.at? lines 5 = some ⟨0, "[else]".toList⟩ := rfl
  have dark : SourceLine.at? lines 6 = some ⟨4, "It is dark.".toList⟩ := rfl
  have conditional : SourceLine.ReadsAs ⟨0, "when lamp".toList⟩ Entry.isWhen := ⟨_, rfl, rfl⟩
  have inner : SourceLine.StaysDeeper lines 0 0 5 := by
    intro i line later earlier met
    obtain rfl | rfl | rfl | rfl : i = 1 ∨ i = 2 ∨ i = 3 ∨ i = 4 := by omega
    all_goals cases met
    all_goals decide
  have second : SourceLine.StaysDeeper lines 0 5 7 := by
    intro i line later earlier met
    obtain rfl : i = 6 := by omega
    cases met
    decide
  refine ⟨reads, ?_, ?_, ?_⟩
  next => exact (nested_iff_indented reads first dream).2.1.mpr ⟨.inr conditional, by decide, inner⟩
  next =>
    exact (nested_iff_indented reads first dark).2.2.mpr
      ⟨conditional, 5, _, mark, ⟨by decide, inner⟩, ⟨rfl, .inr (by simp)⟩, by decide, second⟩
  next =>
    intro nested
    obtain ⟨-, -, deep⟩ := (nested_iff_indented reads option dark).2.1.mp nested
    exact absurd (deep 5 _ (by decide) (by decide) mark) (by decide)

end Gamebook
