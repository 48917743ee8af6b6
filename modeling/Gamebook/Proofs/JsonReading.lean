import Gamebook.Json.Reader

set_option autoImplicit false

namespace Gamebook

theorem exists_of_map_ok {ε α β : Type} {result : Except ε α} {f : α → β} {value : β}
    (mapped : result.map f = .ok value) : ∃ given, result = .ok given ∧ f given = value := by
  cases result with
  | error => cases mapped
  | ok given => exact ⟨given, rfl, Except.ok.inj mapped⟩

theorem exists_of_bind_ok {ε α β : Type} {result : Except ε α} {f : α → Except ε β} {value : β}
    (bound : result >>= f = .ok value) : ∃ given, result = .ok given ∧ f given = .ok value := by
  cases result with
  | error => cases bound
  | ok given => exact ⟨given, rfl, bound⟩

namespace Json

inductive Distinct : Json → Prop where
  | null : Distinct .null
  | bool (b : Bool) : Distinct (.bool b)
  | int (n : Int) : Distinct (.int n)
  | float (x : Float) : Distinct (.float x)
  | str (s : String) : Distinct (.str s)
  | arr {items : List Json} (each : ∀ item ∈ items, Distinct item) : Distinct (.arr items)
  | obj {fields : Fields} (keys : (fields.map Prod.fst).Nodup) (each : ∀ field ∈ fields, Distinct field.2) :
      Distinct (.obj fields)

theorem distinct_of_readNumber {negative : Bool} {cs rest : List Char} {value : Json}
    (read : readNumber negative cs = .ok (value, rest)) : Distinct value := by
  unfold readNumber at read
  split at read
  next => cases read
  next =>
    dsimp only at read
    split at read
    next =>
      cases read
      exact .float _
    next =>
      split at read
      next =>
        split at read
        next =>
          cases read
          exact .int _
        next => cases read
      next =>
        cases read
        exact .float _

theorem distinct_of_readNamed {cs rest : List Char} {value : Json} (read : readNamed cs = .ok (value, rest)) :
    Distinct value := by
  unfold readNamed at read
  dsimp only at read
  split at read
  next found =>
    cases read
    obtain ⟨named, member, same⟩ := List.exists_of_findSome?_eq_some found
    obtain ⟨after, -, taken⟩ := Option.map_eq_some_iff.mp same
    cases taken
    simp only [List.mem_cons, List.not_mem_nil, or_false] at member
    rcases member with rfl | rfl | rfl | rfl | rfl | rfl
    next => exact .null
    next => exact .bool _
    next => exact .bool _
    next => exact .float _
    next => exact .float _
    next => exact .float _
  next =>
    split at read
    next => exact distinct_of_readNumber read
    next => exact distinct_of_readNumber read

theorem Distinct.put {fields : Fields} (distinct : Distinct (.obj fields)) (key : String) {value : Json}
    (distinctValue : Distinct value) : Distinct (.obj (fields.put key value)) := by
  cases distinct with
  | obj keys each =>
    refine .obj (Keyed.nodup_put keys key value) fun field member => ?_
    rcases Keyed.mem_put member with old | rfl
    next => exact each field old
    next => exact distinctValue

/-- What the readers give with some fuel is distinct: a field takes the place of an earlier one with its key. -/
structure ReadsDistinct (fuel : Nat) : Prop where
  value : ∀ {cs value rest}, readValue fuel cs = .ok (value, rest) → Distinct value
  items : ∀ {cs items rest}, readItems fuel cs = .ok (items, rest) → Distinct (.arr items)
  fields : ∀ {fields cs newer rest}, Distinct (.obj fields) → readFields fuel fields cs = .ok (newer, rest) →
    Distinct (.obj newer)

namespace ReadsDistinct

variable {fuel : Nat} {cs rest : List Char}

theorem value_succ {value : Json} (less : ReadsDistinct fuel) (read : readValue (fuel + 1) cs = .ok (value, rest)) :
    Distinct value := by
  have empty : Distinct (.obj []) := .obj List.nodup_nil (List.forall_mem_nil _)
  unfold readValue at read
  split at read
  next =>
    obtain ⟨text, -, same⟩ := exists_of_map_ok read
    cases same
    exact .str _
  next =>
    split at read
    next =>
      cases read
      exact .arr (List.forall_mem_nil _)
    next =>
      obtain ⟨items, listed, same⟩ := exists_of_map_ok read
      cases same
      exact less.items listed
  next =>
    split at read
    next =>
      cases read
      exact empty
    next =>
      obtain ⟨fields, listed, same⟩ := exists_of_map_ok read
      cases same
      exact less.fields empty listed
  next => exact distinct_of_readNamed read

theorem items_succ {items : List Json} (less : ReadsDistinct fuel)
    (read : readItems (fuel + 1) cs = .ok (items, rest)) : Distinct (.arr items) := by
  unfold readItems at read
  obtain ⟨⟨value, after⟩, first, more⟩ := exists_of_bind_ok read
  have distinct := less.value first
  dsimp only at more
  split at more
  next =>
    cases more
    exact .arr fun item member => List.mem_singleton.mp member ▸ distinct
  next =>
    obtain ⟨⟨others, behind⟩, listed, same⟩ := exists_of_bind_ok more
    cases same
    cases less.items listed with
    | arr each => exact .arr (List.forall_mem_cons.mpr ⟨distinct, each⟩)
  next => cases more

theorem fields_succ {fields newer : Fields} (less : ReadsDistinct fuel) (distinct : Distinct (.obj fields))
    (read : readFields (fuel + 1) fields cs = .ok (newer, rest)) : Distinct (.obj newer) := by
  unfold readFields at read
  split at read
  next =>
    obtain ⟨⟨key, after⟩, -, keyed⟩ := exists_of_bind_ok read
    dsimp only at keyed
    split at keyed
    next =>
      obtain ⟨⟨value, behind⟩, valued, more⟩ := exists_of_bind_ok keyed
      have added := distinct.put key (less.value valued)
      dsimp only at more
      split at more
      next =>
        cases more
        exact added
      next => exact less.fields added more
      next => cases more
    next => cases keyed
  next => cases read

end ReadsDistinct

theorem readsDistinct (fuel : Nat) : ReadsDistinct fuel := by
  induction fuel with
  | zero =>
    constructor
    next => exact fun read => by cases read
    next => exact fun read => by cases read
    next => exact fun _ read => by cases read
  | succ fuel ih => exact ⟨ih.value_succ, ih.items_succ, ih.fields_succ⟩

theorem distinct_of_read_ok {cs : List Char} {value : Json} (whole : Json.read cs = .ok value) : Distinct value := by
  unfold Json.read at whole
  obtain ⟨⟨front, rest⟩, first, more⟩ := exists_of_bind_ok whole
  dsimp only at more
  split at more
  next =>
    cases more
    exact (readsDistinct _).value first
  next => cases more

end Json

end Gamebook
