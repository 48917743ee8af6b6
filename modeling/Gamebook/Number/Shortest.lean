import Gamebook.Number.Binary

set_option autoImplicit false

namespace Gamebook.Number

structure Decimal where
  significand : Nat
  exponent : Int
  deriving DecidableEq, Repr

def digitsOf (n : Nat) : List Char := Nat.toDigits 10 n

def decimalSize (num den : Nat) : Int :=
  if den ≤ num then (digitsOf (num / den)).length
  else
    let d := (digitsOf (den / num)).length
    if num * Nat.pow 10 (d - 1) == den then 2 - (d : Int) else 1 - (d : Int)

/-- Twice `num / den` compared with the sum of two neighbours: the interval that reads back. -/
structure ReadBack where
  low : Nat
  high : Nat
  den : Nat
  closed : Bool

/-- The reals that round to a positive double. The gap below a power of two is half as wide. -/
def Binary.readBack (b : Binary) : ReadBack :=
  let narrow := b.mantissa == Nat.pow 2 52 && b.exponent != -1074
  let below := if narrow then 1 else 2
  let quarter : Binary := { b with exponent := b.exponent - 2 }
  let scale := { quarter with mantissa := 1 }.ratio
  { low := (4 * b.mantissa - below) * scale.1
    high := (4 * b.mantissa + 2) * scale.1
    den := scale.2
    closed := b.mantissa % 2 == 0 }

def ReadBack.contains (r : ReadBack) (d : Decimal) : Bool :=
  let up := Nat.pow 10 d.exponent.toNat
  let down := Nat.pow 10 (-d.exponent).toNat
  let value := d.significand * up * r.den
  if r.closed then r.low * down ≤ value && value ≤ r.high * down
  else r.low * down < value && value < r.high * down

def Binary.decimalOf? (b : Binary) (count : Nat) : Option Decimal :=
  let (num, den) := b.ratio
  let exponent := decimalSize num den - count
  let top := num * Nat.pow 10 (-exponent).toNat
  let bottom := den * Nat.pow 10 exponent.toNat
  let floor : Decimal := ⟨top / bottom, exponent⟩
  let ceiling : Decimal := ⟨top / bottom + 1, exponent⟩
  match b.readBack.contains floor, b.readBack.contains ceiling with
  | true, true => some ⟨roundDiv top bottom, exponent⟩
  | true, false => some floor
  | false, true => some ceiling
  | false, false => none

def Binary.shortest (b : Binary) : Decimal :=
  (((List.range 17).map (· + 1)).findSome? b.decimalOf?).getD ⟨0, 0⟩

def Decimal.placed (d : Decimal) : List Char × Int :=
  let all := digitsOf d.significand
  ((all.reverse.dropWhile (· == '0')).reverse, all.length + d.exponent)

def exponentText (e : Int) : List Char :=
  let digits := digitsOf e.natAbs
  'e' :: (if e < 0 then '-' else '+') :: (if digits.length < 2 then '0' :: digits else digits)

def Decimal.text (d : Decimal) : List Char :=
  let (digits, point) := d.placed
  if point < -3 || 16 < point then
    match digits with
    | [] => []
    | first :: rest => first :: ((if rest.isEmpty then [] else '.' :: rest) ++ exponentText (point - 1))
  else if point ≤ 0 then
    '0' :: '.' :: (List.replicate (-point).toNat '0' ++ digits)
  else
    let whole := digits.take point.toNat
    let zeros := List.replicate (point.toNat - digits.length) '0'
    let fraction := digits.drop point.toNat
    whole ++ zeros ++ '.' :: (if fraction.isEmpty then ['0'] else fraction)

def text (x : Float) : String :=
  match view x with
  | .notANumber => "nan"
  | .infinite negative => if negative then "-inf" else "inf"
  | .finite b =>
    let magnitude := if b.mantissa == 0 then ['0', '.', '0'] else b.shortest.text
    String.ofList (if b.negative then '-' :: magnitude else magnitude)

def percent (x : Float) : String :=
  match view (x * 100.0) with
  | .notANumber => "nan%"
  | .infinite negative => if negative then "-inf%" else "inf%"
  | .finite b =>
    let whole := digitsOf (roundDiv b.ratio.1 b.ratio.2)
    String.ofList ((if b.negative then '-' :: whole else whole) ++ ['%'])

end Gamebook.Number
