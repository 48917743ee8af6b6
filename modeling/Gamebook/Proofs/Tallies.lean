import Mathlib.Logic.Function.Basic
import Gamebook.Proofs.Snapshots

set_option autoImplicit false

namespace Gamebook

inductive Counters.Act where
  | change (change : Change)
  | reset

def Counters.perform (counters : Counters) : Act → Counters
  | .change change => counters.apply change
  | .reset => {}

-- A tally is looked up by names in their normal spelling.
abbrev Tally := String → Nat

namespace Tally

def perform (tally : Tally) : Counters.Act → Tally
  | .change change =>
    Function.update tally (Name.normalize change.name) (change.act (tally (Name.normalize change.name)))
  | .reset => fun _ => 0

def ofInts (initial : List (String × Int)) : Tally := fun key =>
  ((initial.filter fun entry => Name.normalize entry.1 = key ∧ 0 < entry.2).getLast?.map fun entry =>
    entry.2.toNat).getD 0

theorem ofInts_concat (initial : List (String × Int)) (entry : String × Int) (key : String) :
    ofInts (initial ++ [entry]) key =
      if Name.normalize entry.1 = key ∧ 0 < entry.2 then entry.2.toNat else ofInts initial key := by
  unfold ofInts
  rw [List.filter_append]
  by_cases given : Name.normalize entry.1 = key ∧ 0 < entry.2 <;> simp [given]

end Tally

namespace Counters

theorem ofInts_concat (initial : List (String × Int)) (entry : String × Int) :
    ofInts (initial ++ [entry]) =
      if 0 < entry.2 then (ofInts initial).put (Name.normalize entry.1) entry.2.toNat else ofInts initial := by
  rw [ofInts, List.foldl_append]
  rfl

theorem ofAmounts_int {initial : List (String × Int)} (distinct : (initial.map Prod.fst).Nodup) :
    ofAmounts (initial.map fun entry => (entry.1, .int entry.2)) = .ok (ofInts initial) := by
  have plain : Fields.update [] (initial.map fun entry => (entry.1, .int entry.2)) =
      initial.map fun entry => (entry.1, .int entry.2) :=
    Fields.update_of_distinct (by simpa [Function.comp_def] using distinct)
  rw [ofAmounts, plain, ofInts]
  generalize ({} : Counters) = counters
  clear plain distinct
  induction initial generalizing counters with
  | nil => rfl
  | cons entry initial ih =>
    have begun : startOf (.int entry.2) = .ok (if 0 < entry.2 then some entry.2.toNat else none) := rfl
    rw [List.map_cons, List.foldlM_cons, List.foldl_cons, ← ih, begun]
    by_cases positive : 0 < entry.2
    next =>
      rw [if_pos positive, if_pos positive]
      rfl
    next =>
      rw [if_neg positive, if_neg positive]
      rfl

theorem get_put (counters : Counters) (key name : String) (count : Nat) :
    (counters.put key count).get name = if Name.normalize name = key then count else counters.get name := by
  rw [get, lookup_put]
  by_cases same : Name.normalize name = key <;> simp [same, get]

structure Simulates (counters : Counters) (tally : Tally) : Prop where
  counts : ∀ name, counters.get name = tally (Name.normalize name)
  kept : Kept counters

theorem simulates_ofInts (initial : List (String × Int)) : Simulates (ofInts initial) (Tally.ofInts initial) := by
  refine ⟨fun name => ?_, kept_ofInts initial⟩
  induction initial using List.reverseRecOn with
  | nil => rfl
  | append_singleton initial entry ih =>
    rw [ofInts_concat, Tally.ofInts_concat]
    by_cases positive : 0 < entry.2
    next => simp [positive, get_put, ih, eq_comm]
    next => simp [positive, ih]

theorem Simulates.perform {counters : Counters} {tally : Tally} (simulates : Simulates counters tally) (act : Act) :
    Simulates (counters.perform act) (tally.perform act) := by
  cases act with
  | change change =>
    refine ⟨fun name => ?_, simulates.kept.apply change⟩
    rw [Counters.perform, get_apply, simulates.counts, Tally.perform, Function.update_apply]
    by_cases same : Name.normalize change.name = Name.normalize name
    next => rw [if_pos same, if_pos same.symm, same]
    next => rw [if_neg same, if_neg (Ne.symm same)]
  | reset => exact ⟨fun _ => rfl, nofun, nofun, List.nodup_nil⟩

theorem Simulates.run {counters : Counters} {tally : Tally} (simulates : Simulates counters tally) (acts : List Act) :
    Simulates (acts.foldl Counters.perform counters) (acts.foldl Tally.perform tally) := by
  induction acts generalizing counters tally with
  | nil => exact simulates
  | cons act acts ih => exact ih (simulates.perform act)

theorem map_fst_snapshot (counters : Counters) :
    counters.snapshot.map Prod.fst = counters.entries.map Prod.fst := by
  rw [snapshot, List.map_map]
  rfl

theorem Simulates.mem_snapshot {counters : Counters} {tally : Tally} (simulates : Simulates counters tally)
    {key : String} {count : Int} :
    (key, count) ∈ counters.snapshot ↔ Name.normalize key = key ∧ 0 < count ∧ count = tally key := by
  have found := simulates.counts key
  constructor
  next =>
    intro member
    obtain ⟨⟨_, number⟩, inside, same⟩ := List.mem_map.mp member
    cases same
    have normal := simulates.kept.named _ inside
    have positive := simulates.kept.positive _ inside
    dsimp only at normal positive
    rw [get, normal, Keyed.lookup_of_mem simulates.kept.distinct inside, Option.getD_some] at found
    exact ⟨normal, Int.natCast_pos.mpr positive, congrArg Int.ofNat found⟩
  next =>
    rintro ⟨normal, positive, rfl⟩
    rw [get, normal] at found
    cases listed : counters.entries.lookup key with
    | none =>
      rw [listed, Option.getD_none] at found
      omega
    | some number =>
      rw [listed, Option.getD_some] at found
      refine List.mem_map.mpr ⟨(key, number), Keyed.mem_of_lookup listed, ?_⟩
      rw [found]

/-- Counters that start from numbers and are changed and reset at will are a tally: its numbers under every spelling of
a name, and each positive one listed once, under the normal spelling. -/
theorem counters_keep_tally (initial : List (String × Int)) (acts : List Act) :
    let counters := acts.foldl perform (ofInts initial)
    let tally := acts.foldl Tally.perform (Tally.ofInts initial)
    ((initial.map Prod.fst).Nodup →
      ofAmounts (initial.map fun entry => (entry.1, .int entry.2)) = .ok (ofInts initial)) ∧
    (∀ name, counters.get name = tally (Name.normalize name)) ∧
    (∀ name (threshold : Int), counters.reaches name threshold = true ↔ threshold ≤ tally (Name.normalize name)) ∧
    (∀ key count, (key, count) ∈ counters.snapshot ↔ Name.normalize key = key ∧ 0 < count ∧ count = tally key) ∧
    (counters.snapshot.map Prod.fst).Nodup := by
  intro counters tally
  have simulates : Simulates counters tally := (simulates_ofInts initial).run acts
  refine ⟨ofAmounts_int, simulates.counts, ?_, fun key count => simulates.mem_snapshot, ?_⟩
  next =>
    intro name threshold
    rw [reaches, decide_eq_true_eq, simulates.counts]
  next =>
    rw [map_fst_snapshot]
    exact simulates.kept.distinct

-- The second number is not positive and leaves the first as it is; the third replaces it.
example : (ofInts [("Gold", 5), (" gold ", -1)]).get "gold" = 5 := by decide +kernel

example : (ofInts [("Gold", 5), (" gold ", -1), ("GOLD", 2)]).snapshot = [("gold", 2)] := by decide +kernel

end Counters

end Gamebook
