import Gamebook.Number.Binary
import Gamebook.Text.Blank
import Gamebook.Text.Digit

set_option autoImplicit false

namespace Gamebook.Number

open Gamebook.Text

/-- The double nearest to `± significand * 10 ^ exponent`. Far outside the range of doubles the
power is not worked out. -/
def ofDecimal (negative : Bool) (significand : Nat) (exponent : Int) : Float :=
  let size := (Nat.toDigits 10 significand).length + exponent
  let magnitude : Float :=
    if significand == 0 || size < -400 then 0.0
    else if 400 < size then 1.0 / 0.0
    else Float.ofScientific significand (exponent < 0) exponent.natAbs
  if negative then -magnitude else magnitude

def ofInt? (n : Int) : Option Float :=
  let x := ofDecimal (n < 0) n.natAbs 0
  if x.isInf then none else some x

def takeSign : List Char → Bool × List Char
  | '-' :: cs => (true, cs)
  | '+' :: cs => (false, cs)
  | cs => (false, cs)

def takeDigits : List Char → List Char × List Char
  | [] => ([], [])
  | c :: '_' :: cs =>
    if !isDigit c then ([], c :: '_' :: cs)
    else if cs.head?.any isDigit then let r := takeDigits cs; (c :: r.1, r.2)
    else ([c], '_' :: cs)
  | c :: cs => if isDigit c then let r := takeDigits cs; (c :: r.1, r.2) else ([], c :: cs)

def readExponent? : List Char → Option Int
  | [] => some 0
  | c :: cs =>
    if c == 'e' || c == 'E' then
      let (negative, cs) := takeSign cs
      match takeDigits cs with
      | ([], _) => none
      | (digits, []) => some (if negative then -(digitsValue digits : Int) else digitsValue digits)
      | (_, _ :: _) => none
    else none

def namedMagnitude? (cs : List Char) : Option Float :=
  match String.ofList (cs.map Char.toLower) with
  | "nan" => some (0.0 / 0.0)
  | "inf" | "infinity" => some (1.0 / 0.0)
  | _ => none

def readFloat? (cs : List Char) : Option Float :=
  let (negative, cs) := takeSign (trimChars cs)
  match namedMagnitude? cs with
  | some x => some (if negative then -x else x)
  | none =>
    let (whole, rest) := takeDigits cs
    let (fraction, rest) :=
      match rest with
      | '.' :: rest => takeDigits rest
      | _ => ([], rest)
    if whole.isEmpty && fraction.isEmpty then none
    else (readExponent? rest).map fun e =>
      ofDecimal negative (digitsValue (whole ++ fraction)) (e - fraction.length)

inductive IntegerFault where
  | malformed
  | tooLong
  deriving DecidableEq, Repr

def readInt (cs : List Char) : Except IntegerFault Int :=
  let (negative, cs) := takeSign (trimChars cs)
  match takeDigits cs with
  | ([], _) => .error .malformed
  | (_, _ :: _) => .error .malformed
  | (digits, []) =>
    if digits.length ≤ numeralLimit then
      .ok (if negative then -(digitsValue digits : Int) else digitsValue digits)
    else .error .tooLong

end Gamebook.Number
