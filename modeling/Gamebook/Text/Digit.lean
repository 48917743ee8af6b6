set_option autoImplicit false

namespace Gamebook.Text

def digitZeros : List Nat :=
  [0x30, 0x660, 0x6F0, 0x7C0, 0x966, 0x9E6, 0xA66, 0xAE6, 0xB66, 0xBE6, 0xC66, 0xCE6, 0xD66, 0xDE6,
    0xE50, 0xED0, 0xF20, 0x1040, 0x1090, 0x17E0, 0x1810, 0x1946, 0x19D0, 0x1A80, 0x1A90, 0x1B50,
    0x1BB0, 0x1C40, 0x1C50, 0xA620, 0xA8D0, 0xA900, 0xA9D0, 0xA9F0, 0xAA50, 0xABF0, 0xFF10, 0x104A0,
    0x10D30, 0x11066, 0x110F0, 0x11136, 0x111D0, 0x112F0, 0x11450, 0x114D0, 0x11650, 0x116C0,
    0x11730, 0x118E0, 0x11950, 0x11C50, 0x11D50, 0x11DA0, 0x16A60, 0x16AC0, 0x16B50, 0x1D7CE,
    0x1D7D8, 0x1D7E2, 0x1D7EC, 0x1D7F6, 0x1E140, 0x1E2F0, 0x1E950, 0x1FBF0]

def digitValue? (c : Char) : Option Nat :=
  (digitZeros.find? fun least => least ≤ c.toNat && c.toNat < least + 10).map (c.toNat - ·)

def isDigit (c : Char) : Bool := (digitValue? c).isSome

def digitsValue (cs : List Char) : Nat :=
  (cs.filterMap digitValue?).foldl (fun n d => 10 * n + d) 0

/-- Numerals with more digits than this are neither read nor written. -/
def numeralLimit : Nat := 4300

structure NumeralTooLong where
  deriving DecidableEq, Repr

def readNumeral (digits : List Char) : Except NumeralTooLong Nat :=
  if digits.length ≤ numeralLimit then .ok (digitsValue digits) else .error {}

def isWritable (n : Int) : Bool := (Nat.toDigits 10 n.natAbs).length ≤ numeralLimit

theorem isWritable_of_le {m n : Nat} (le : m ≤ n) (written : isWritable n = true) : isWritable m = true := by
  rw [isWritable, decide_eq_true_iff, Int.natAbs_natCast,
    Nat.length_toDigits_le_iff (by decide) (by decide)] at written ⊢
  exact Nat.lt_of_le_of_lt le written

theorem exists_not_isWritable : ∃ n : Nat, isWritable n = false := by
  refine ⟨10 ^ numeralLimit, ?_⟩
  rw [isWritable, decide_eq_false_iff_not, Int.natAbs_natCast, Nat.length_toDigits_le_iff (by decide) (by decide)]
  exact Nat.lt_irrefl _

end Gamebook.Text
