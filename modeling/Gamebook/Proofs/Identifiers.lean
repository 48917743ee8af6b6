import Mathlib.Data.List.TakeWhile
import Gamebook.Line

set_option autoImplicit false

namespace Gamebook

open Gamebook.Text

namespace Text

theorem bounds_of_mem_toDigits {c : Char} {n : Nat} (member : c ∈ Nat.toDigits 10 n) :
    48 ≤ c.toNat ∧ c.toNat ≤ 57 := by
  have digit := Nat.isDigit_of_mem_toDigits (by omega) (by omega) member
  rw [Char.isDigit, Bool.and_eq_true, decide_eq_true_eq, decide_eq_true_eq] at digit
  exact ⟨UInt32.le_iff_toNat_le.mp digit.1, UInt32.le_iff_toNat_le.mp digit.2⟩

theorem digitValue?_eq {c : Char} (low : 48 ≤ c.toNat) (high : c.toNat ≤ 57) :
    digitValue? c = some (c.toNat - 48) := by
  have first : digitZeros = 48 :: digitZeros.tail := rfl
  have below : c.toNat < 48 + 10 := by omega
  rw [digitValue?, first, List.find?_cons]
  simp [low, below]

theorem filterMap_digitValue? {cs : List Char} (digits : ∀ c ∈ cs, 48 ≤ c.toNat ∧ c.toNat ≤ 57) :
    cs.filterMap digitValue? = cs.map fun c => c.toNat - 48 := by
  induction cs with
  | nil => rfl
  | cons c cs ih =>
    obtain ⟨low, high⟩ := digits c List.mem_cons_self
    rw [List.filterMap_cons, digitValue?_eq low high, ih fun d member => digits d (List.mem_cons_of_mem _ member)]
    rfl

theorem digitsValue_toDigits (n : Nat) : digitsValue (Nat.toDigits 10 n) = n := by
  calc digitsValue (Nat.toDigits 10 n) = Nat.ofDigitChars 10 (Nat.toDigits 10 n) 0 := by
        rw [digitsValue, filterMap_digitValue? fun _ => bounds_of_mem_toDigits, List.foldl_map]
        rfl
    _ = n := Nat.ofDigitChars_toDigits (by omega) (by omega)

theorem all_isDigit_toDigits (n : Nat) : (Nat.toDigits 10 n).all isDigit = true := by
  rw [List.all_eq_true]
  intro c member
  obtain ⟨low, high⟩ := bounds_of_mem_toDigits member
  rw [isDigit, digitValue?_eq low high]
  rfl

theorem not_mem_toDigits {c : Char} (low : c.toNat < 48) (n : Nat) : c ∉ Nat.toDigits 10 n := by
  intro member
  have := (bounds_of_mem_toDigits member).1
  omega

end Text

namespace Coordinate

theorem toList_id (scene : String) (index : Nat) :
    (id ⟨scene, index⟩).toList = scene.toList ++ '-' :: Nat.toDigits 10 index := by
  have number : (toString (index : Int)).toList = Nat.toDigits 10 index := Nat.toList_repr
  rw [id, String.toList_append, String.toList_append, number, List.append_assoc]
  rfl

-- An identifier ends with a digit, so it has no line feed to lose.
theorem dropNewline_id (scene : String) (index : Nat) :
    dropNewline (id ⟨scene, index⟩).toList = scene.toList ++ '-' :: Nat.toDigits 10 index := by
  rw [toList_id, dropNewline, if_neg]
  intro feed
  have last : '\n' ∈ '-' :: Nat.toDigits 10 index := by
    apply List.mem_of_getLast?
    rw [← eq_of_beq feed, List.getLast?_append, List.getLast?_cons, Option.some_or]
  rcases List.mem_cons.mp last with dash | digit
  next => cases dash
  next => exact not_mem_toDigits (by decide) index digit

def Nameable (scene : String) : Prop := scene ≠ "" ∧ '\n' ∉ scene.toList

instance (scene : String) : Decidable (Nameable scene) := inferInstanceAs (Decidable (_ ∧ _))

theorem ofId_id (scene : String) (index : Nat) :
    ofId (id ⟨scene, index⟩) =
      if Nameable scene then
        if (Nat.toDigits 10 index).length ≤ numeralLimit then .ok (some ⟨scene, index⟩) else .error {}
      else .ok none := by
  have inside : ∀ c ∈ (Nat.toDigits 10 index).reverse, (c != '-') = true := by
    intro c member
    rw [bne_iff_ne]
    rintro rfl
    exact not_mem_toDigits (by decide) index (List.mem_reverse.mp member)
  have reversed : (scene.toList ++ '-' :: Nat.toDigits 10 index).reverse =
      (Nat.toDigits 10 index).reverse ++ '-' :: scene.toList.reverse := by simp
  have digits : ((Nat.toDigits 10 index).reverse ++ '-' :: scene.toList.reverse).takeWhile (· != '-') =
      (Nat.toDigits 10 index).reverse := by
    rw [List.takeWhile_append_of_pos inside, List.takeWhile_cons_of_neg (by decide), List.append_nil]
  have before : ((Nat.toDigits 10 index).reverse ++ '-' :: scene.toList.reverse).dropWhile (· != '-') =
      '-' :: scene.toList.reverse := by
    rw [List.dropWhile_append_of_pos inside, List.dropWhile_cons_of_neg (by decide)]
  have nonempty : (Nat.toDigits 10 index).isEmpty = false := by simp
  have lost : (scene.toList.reverse.isEmpty || scene.toList.reverse.contains '\n') = decide (¬Nameable scene) := by
    rw [Bool.eq_iff_iff, decide_eq_true_iff, Nameable, not_and_or, not_not, not_not]
    simp
  unfold ofId
  simp only [dropNewline_id, reversed, digits, before, List.reverse_reverse, nonempty, all_isDigit_toDigits,
    Bool.not_true, Bool.false_or, lost, decide_eq_true_eq]
  by_cases named : Nameable scene
  next =>
    rw [if_neg (not_not.mpr named), if_pos named, readNumeral, digitsValue_toDigits, String.ofList_toList]
    split <;> rfl
  next => rw [if_pos named, if_neg named]

theorem ofId_eq_none {id : String} (dashless : '-' ∉ id.toList) : ofId id = .ok none := by
  have inside : ∀ c ∈ (dropNewline id.toList).reverse, (c != '-') = true := by
    intro c member
    rw [bne_iff_ne]
    rintro rfl
    apply dashless
    unfold dropNewline at member
    split at member
    next => exact List.dropLast_subset _ (List.mem_reverse.mp member)
    next => exact List.mem_reverse.mp member
  have none_left : (dropNewline id.toList).reverse.dropWhile (· != '-') = [] := List.dropWhile_eq_nil_iff.mpr inside
  unfold ofId
  simp only [none_left]

end Coordinate

end Gamebook
