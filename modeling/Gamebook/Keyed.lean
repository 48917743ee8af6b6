set_option autoImplicit false

namespace Gamebook.Keyed

variable {α : Type}

def put (entries : List (String × α)) (key : String) (value : α) : List (String × α) :=
  if entries.any (·.1 == key) then
    entries.map fun entry => if entry.1 == key then (key, value) else entry
  else entries ++ [(key, value)]

theorem lookup_cons_ite (name other : String) (value : α) (entries : List (String × α)) :
    ((name, value) :: entries).lookup other = if other = name then some value else entries.lookup other := by
  by_cases same : other = name
  next => simp [same]
  next => simp [List.lookup_cons, beq_eq_false_iff_ne.mpr same, same]

theorem lookup_replace (entries : List (String × α)) (key other : String) (value : α) :
    (entries.map fun entry => if entry.1 = key then (key, value) else entry).lookup other =
      if other = key then (entries.lookup key).map fun _ => value else entries.lookup other := by
  induction entries with
  | nil => simp
  | cons entry entries ih =>
    obtain ⟨name, old⟩ := entry
    by_cases same : name = key
    next =>
      subst same
      by_cases asked : other = name <;> simp [lookup_cons_ite, asked, ih]
    next =>
      by_cases asked : other = key
      next =>
        subst asked
        simp [lookup_cons_ite, same, Ne.symm same, ih]
      next => simp [lookup_cons_ite, same, asked, ih]

theorem lookup_eq_none {entries : List (String × α)} {key : String}
    (absent : entries.any (·.1 == key) = false) : entries.lookup key = none := by
  rw [List.lookup_eq_none_iff]
  intro entry member
  have different := List.any_eq_false.mp absent entry member
  rw [beq_iff_eq] at different
  exact bne_iff_ne.mpr (Ne.symm different)

theorem mem_of_lookup {entries : List (String × α)} {key : String} {value : α}
    (found : entries.lookup key = some value) : (key, value) ∈ entries := by
  obtain ⟨before, after, rfl, -⟩ := List.lookup_eq_some_iff.mp found
  exact List.mem_append_right before List.mem_cons_self

theorem lookup_put (entries : List (String × α)) (key other : String) (value : α) :
    (put entries key value).lookup other = if other = key then some value else entries.lookup other := by
  unfold put
  cases present : entries.any (·.1 == key) with
  | true =>
    have found : ∃ old, entries.lookup key = some old := by
      cases lookup : entries.lookup key with
      | none =>
        rw [List.lookup_eq_none_iff] at lookup
        simp only [List.any_eq_true, beq_iff_eq] at present
        obtain ⟨entry, member, same⟩ := present
        simpa [same] using lookup entry member
      | some old => exact ⟨old, rfl⟩
    obtain ⟨old, found⟩ := found
    simp [lookup_replace, found]
  | false =>
    have missing := lookup_eq_none present
    by_cases asked : other = key
    next => simp [List.lookup_append, asked, missing]
    next => simp [List.lookup_append, lookup_cons_ite, asked]

theorem keys_put (entries : List (String × α)) (key : String) (value : α) :
    (put entries key value).map Prod.fst =
      if key ∈ entries.map Prod.fst then entries.map Prod.fst else entries.map Prod.fst ++ [key] := by
  have present : entries.any (·.1 == key) = true ↔ key ∈ entries.map Prod.fst := by
    simp [List.any_eq_true]
  unfold put
  by_cases member : key ∈ entries.map Prod.fst
  next =>
    rw [if_pos member, if_pos (present.mpr member), List.map_map]
    refine List.map_congr_left fun entry _ => ?_
    by_cases same : entry.1 = key <;> simp [same]
  next =>
    rw [if_neg member, if_neg (mt present.mp member), List.map_append]
    rfl

theorem mem_put {entries : List (String × α)} {key : String} {value : α} {entry : String × α}
    (member : entry ∈ put entries key value) : entry ∈ entries ∨ entry = (key, value) := by
  unfold put at member
  split at member
  next =>
    obtain ⟨old, inside, same⟩ := List.mem_map.mp member
    split at same
    next => exact .inr same.symm
    next => exact .inl (same ▸ inside)
  next => simpa using member

theorem nodup_put {entries : List (String × α)} (distinct : (entries.map Prod.fst).Nodup) (key : String) (value : α) :
    ((put entries key value).map Prod.fst).Nodup := by
  rw [keys_put]
  split
  next => exact distinct
  next fresh =>
    refine List.nodup_append.mpr ⟨distinct, by simp, fun old member new last => ?_⟩
    rw [List.mem_singleton.mp last]
    rintro rfl
    exact fresh member

theorem any_eq_false_of_distinct {before after : List (String × α)} {entry : String × α}
    (distinct : ((before ++ entry :: after).map Prod.fst).Nodup) : before.any (·.1 == entry.1) = false := by
  rw [List.map_append, List.nodup_append] at distinct
  rw [List.any_eq_false]
  intro old member same
  exact distinct.2.2 _ (List.mem_map_of_mem member) entry.1 (by simp) (beq_iff_eq.mp same)

theorem put_of_distinct {before after : List (String × α)} {entry : String × α}
    (distinct : ((before ++ entry :: after).map Prod.fst).Nodup) : put before entry.1 entry.2 = before ++ [entry] := by
  simp [put, any_eq_false_of_distinct distinct]

theorem lookup_of_mem {entries : List (String × α)} {key : String} {value : α}
    (distinct : (entries.map Prod.fst).Nodup) (member : (key, value) ∈ entries) :
    entries.lookup key = some value := by
  obtain ⟨before, after, rfl⟩ := List.append_of_mem member
  have fresh := List.any_eq_false.mp (any_eq_false_of_distinct distinct)
  refine List.lookup_eq_some_iff.mpr ⟨before, after, rfl, fun entry earlier => ?_⟩
  rw [bne_iff_ne]
  exact fun same => fresh entry earlier (beq_of_eq same.symm)

end Gamebook.Keyed
