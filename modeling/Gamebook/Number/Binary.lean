set_option autoImplicit false

namespace Gamebook.Number

/-- The magnitude `mantissa * 2 ^ exponent`, with a sign that zero has too. -/
structure Binary where
  negative : Bool
  mantissa : Nat
  exponent : Int
  deriving DecidableEq, Repr

inductive View where
  | finite (value : Binary)
  | infinite (negative : Bool)
  | notANumber

def view (x : Float) : View :=
  let bits := x.toBits.toNat
  let negative := bits >>> 63 == 1
  let field := (bits >>> 52) % 2048
  let fraction := bits % Nat.pow 2 52
  if field == 2047 then
    if fraction == 0 then .infinite negative else .notANumber
  else if field == 0 then .finite ⟨negative, fraction, -1074⟩
  else .finite ⟨negative, fraction + Nat.pow 2 52, (field : Int) - 1075⟩

def Binary.ratio (b : Binary) : Nat × Nat :=
  if 0 ≤ b.exponent then (b.mantissa * Nat.pow 2 b.exponent.toNat, 1)
  else (b.mantissa, Nat.pow 2 (-b.exponent).toNat)

def Binary.signed (b : Binary) (magnitude : Nat) : Int :=
  if b.negative then -(magnitude : Int) else magnitude

def Binary.truncate (b : Binary) : Int := b.signed (b.ratio.1 / b.ratio.2)

def Binary.ceiling (b : Binary) : Int :=
  let (num, den) := b.ratio
  if b.negative then -((num / den : Nat) : Int) else ((num + den - 1) / den : Nat)

def Binary.isIntegral (b : Binary) : Bool := b.ratio.1 % b.ratio.2 == 0

def roundDiv (num den : Nat) : Nat :=
  let q := num / den
  let r := num % den
  if 2 * r < den then q
  else if den < 2 * r then q + 1
  else if q % 2 == 0 then q else q + 1

end Gamebook.Number
