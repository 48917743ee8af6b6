import Gamebook.Proofs.Conditions
import Gamebook.Response

set_option autoImplicit false

namespace Gamebook

def Change.act : Change → Nat → Nat
  | .sets _, count => count + 1
  | .unsets _, count => count - 1

namespace Counters

theorem lookup_put (counters : Counters) (key other : String) (count : Nat) :
    (counters.put key count).entries.lookup other =
      if other = key then some count else counters.entries.lookup other :=
  Keyed.lookup_put counters.entries key other count

theorem lookup_erase (counters : Counters) (key other : String) :
    (counters.erase key).entries.lookup other =
      if other = key then none else counters.entries.lookup other := by
  obtain ⟨entries⟩ := counters
  unfold erase
  induction entries with
  | nil => simp
  | cons entry entries ih =>
    obtain ⟨name, count⟩ := entry
    simp only [List.filter_cons, Keyed.lookup_cons_ite] at ih ⊢
    by_cases same : name = key
    next =>
      subst same
      by_cases asked : other = name
      next => simpa [asked] using ih
      next => simpa [asked] using ih
    next =>
      by_cases asked : other = key
      next =>
        subst asked
        simpa [Keyed.lookup_cons_ite, same, Ne.symm same] using ih
      next =>
        rw [if_neg asked] at ih
        simp [Keyed.lookup_cons_ite, same, asked, ih]

theorem get_increment (counters : Counters) (name other : String) :
    (counters.increment name).get other =
      if Name.normalize name = Name.normalize other then counters.get other + 1 else counters.get other := by
  unfold increment get
  rw [lookup_put]
  by_cases same : Name.normalize name = Name.normalize other
  next => simp [same]
  next => simp [same, Ne.symm same]

theorem get_decrement (counters : Counters) (name other : String) :
    (counters.decrement name).get other =
      if Name.normalize name = Name.normalize other then counters.get other - 1 else counters.get other := by
  unfold decrement
  by_cases same : Name.normalize name = Name.normalize other
  next =>
    have shared : counters.get name = counters.get other := by simp [get, same]
    rw [shared, if_pos same]
    split
    next few =>
      rw [get, lookup_erase, if_pos same.symm]
      simp only [Option.getD_none]
      omega
    next => rw [get, lookup_put, if_pos same.symm, Option.getD_some]
  next =>
    rw [if_neg same]
    split
    next => rw [get, lookup_erase, if_neg (Ne.symm same), get]
    next => rw [get, lookup_put, if_neg (Ne.symm same), get]

theorem get_apply (counters : Counters) (change : Change) (name : String) :
    (counters.apply change).get name =
      if Name.normalize change.name = Name.normalize name then change.act (counters.get name)
      else counters.get name := by
  cases change with
  | sets changed => exact get_increment counters changed name
  | unsets changed => exact get_decrement counters changed name

theorem agrees_of_get {counters others : Counters} {name : String} (same : counters.get name = others.get name) :
    Oracle.Agrees counters.answer others.answer name := by
  rintro query rfl _
  simp [answer, same]

end Counters

namespace Change

def shift : Change → Int
  | .sets _ => 1
  | .unsets _ => -1

def misses : Change → Nat → Bool
  | .sets _, _ => false
  | .unsets _, count => count == 0

theorem act_eq (change : Change) (count : Nat) :
    (change.act count : Int) = count + change.shift + if change.misses count then 1 else 0 := by
  cases change with
  | sets => simp [act, shift, misses]
  | unsets =>
    by_cases nothing : count = 0
    next => simp [act, shift, misses, nothing]
    next =>
      simp only [act, shift, misses, beq_iff_eq, nothing, if_false]
      omega

end Change

theorem shiftOf_concat (changes : List Change) (change : Change) (name : String) :
    shiftOf (changes ++ [change]) name =
      shiftOf changes name +
        if Name.normalize change.name = Name.normalize name then change.shift else 0 := by
  unfold shiftOf
  rw [List.foldl_append]
  by_cases same : Name.normalize change.name = Name.normalize name
  next => cases change <;> simp [same, Change.shift, Int.sub_eq_add_neg]
  next => simp [same]

theorem shiftOf_append (changes later : List Change) (name : String) :
    shiftOf (changes ++ later) name = shiftOf changes name + shiftOf later name := by
  -- The shift folds from the left, so what is appended goes over one change at a time.
  induction later generalizing changes with
  | nil => simp [shiftOf]
  | cons change later ih =>
    have whole := ih (changes ++ [change])
    have alone := ih [change]
    have first := shiftOf_concat changes change name
    have only := shiftOf_concat [] change name
    simp only [List.append_assoc, List.singleton_append, List.nil_append] at whole alone only
    have empty : shiftOf [] name = 0 := rfl
    omega

namespace Counters

/-- How many of the changes were to take from a counter that had nothing. -/
def missed (counters : Counters) (name : String) : List Change → Nat
  | [] => 0
  | change :: changes =>
    (if Name.normalize change.name = Name.normalize name ∧ change.misses (counters.get name) then 1 else 0)
      + (counters.apply change).missed name changes

theorem get_applyAll (counters : Counters) (changes : List Change) (name : String) :
    ((counters.applyAll changes).get name : Int) =
      counters.get name + shiftOf changes name + counters.missed name changes := by
  induction changes generalizing counters with
  | nil => simp [applyAll, shiftOf, missed]
  | cons change changes ih =>
    have first : ((counters.apply change).get name : Int) =
        counters.get name + shiftOf [change] name
          + if Name.normalize change.name = Name.normalize name ∧ change.misses (counters.get name) then 1
            else 0 := by
      have only := shiftOf_concat [] change name
      rw [List.nil_append] at only
      rw [get_apply, only]
      by_cases same : Name.normalize change.name = Name.normalize name
      next => simp [same, Change.act_eq, shiftOf]
      next => simp [same, shiftOf]
    -- The rest of the changes find the counters that the first one leaves.
    have rest := ih (counters.apply change)
    have split := shiftOf_append [change] changes name
    simp only [applyAll, List.foldl_cons, missed, List.singleton_append] at rest split ⊢
    by_cases empty : Name.normalize change.name = Name.normalize name ∧ change.misses (counters.get name)
    next =>
      rw [if_pos empty] at first ⊢
      omega
    next =>
      rw [if_neg empty] at first ⊢
      omega

theorem after_answer (counters : Counters) (changes : List Change) (query : Query) :
    Oracle.after counters.answer changes query =
      decide ((query.threshold : Int) ≤ counters.get query.name + shiftOf changes query.name) := by
  unfold Oracle.after Query.before?
  generalize left : (query.threshold - shiftOf changes query.name).toNat = threshold
  match threshold with
  | 0 =>
    change true = _
    rw [Bool.true_eq, decide_eq_true_eq]
    omega
  | 1 =>
    change decide (1 ≤ counters.get query.name) = _
    rw [decide_eq_decide]
    omega
  | threshold + 2 =>
    change decide (threshold + 2 ≤ counters.get query.name) = _
    rw [decide_eq_decide]
    omega

/-- The answers for the counters after changes are those of the changed counters exactly about counters that
the changes never found empty, or left empty. -/
theorem after_agrees_iff (counters : Counters) (changes : List Change) (name : String) :
    Oracle.Agrees (Oracle.after counters.answer changes) (counters.applyAll changes).answer name ↔
      counters.missed name changes = 0 ∨ (counters.applyAll changes).get name = 0 := by
  have total := get_applyAll counters changes name
  constructor
  next =>
    intro agrees
    by_cases empty : (counters.applyAll changes).get name = 0
    next => exact .inr empty
    next =>
      -- The count itself is the threshold that tells the two apart.
      have same := agrees (.reaches name ((counters.applyAll changes).get name)) rfl (Nat.pos_of_ne_zero empty)
      rw [after_answer, answer, decide_eq_decide] at same
      have reached := same.mpr (Nat.le_refl _)
      simp only [Query.threshold, Query.name] at reached
      omega
  next =>
    rintro sound query rfl positive
    rw [after_answer, answer, decide_eq_decide]
    omega

end Counters

end Gamebook
