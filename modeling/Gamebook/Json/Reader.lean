import Gamebook.Json.Basic
import Gamebook.Text.Search

set_option autoImplicit false

namespace Gamebook.Json

open Gamebook.Text

inductive ReadFault where
  | malformed
  | numeralTooLong
  deriving DecidableEq, Repr

def isSpace (c : Char) : Bool := c == ' ' || c == '\t' || c == '\n' || c == '\r'

def skipSpaces (cs : List Char) : List Char := cs.dropWhile isSpace

def hexValue? (c : Char) : Option Nat :=
  if '0' ≤ c ∧ c ≤ '9' then some (c.toNat - '0'.toNat)
  else if 'a' ≤ c ∧ c ≤ 'f' then some (c.toNat - 'a'.toNat + 10)
  else if 'A' ≤ c ∧ c ≤ 'F' then some (c.toNat - 'A'.toNat + 10)
  else none

def readUnit? : List Char → Option (Nat × List Char)
  | a :: b :: c :: d :: cs => do
    let a ← hexValue? a
    let b ← hexValue? b
    let c ← hexValue? c
    let d ← hexValue? d
    some (((a * 16 + b) * 16 + c) * 16 + d, cs)
  | _ => none

def readLowUnit? : List Char → Option (Nat × List Char)
  | '\\' :: 'u' :: cs =>
    match readUnit? cs with
    | some (low, rest) => if 0xDC00 ≤ low && low < 0xE000 then some (low, rest) else none
    | none => none
  | _ => none

def readEscapedUnit? (cs : List Char) : Option (Char × List Char) :=
  match readUnit? cs with
  | none => none
  | some (unit, rest) =>
    if 0xD800 ≤ unit && unit < 0xDC00 then
      match readLowUnit? rest with
      | some (low, rest) => some (Char.ofNat (0x10000 + (unit - 0xD800) * 0x400 + (low - 0xDC00)), rest)
      | none => some ('�', rest)
    else if 0xDC00 ≤ unit && unit < 0xE000 then some ('�', rest)
    else some (Char.ofNat unit, rest)

def simpleEscape? : Char → Option Char
  | '"' => some '"'
  | '\\' => some '\\'
  | '/' => some '/'
  | 'b' => some '\x08'
  | 'f' => some '\x0c'
  | 'n' => some '\n'
  | 'r' => some '\r'
  | 't' => some '\t'
  | _ => none

def readChars : Nat → List Char → Except ReadFault (List Char × List Char)
  | 0, _ => .error .malformed
  | _ + 1, [] => .error .malformed
  | _ + 1, '"' :: cs => .ok ([], cs)
  | fuel + 1, '\\' :: 'u' :: cs =>
    match readEscapedUnit? cs with
    | some (c, rest) => (readChars fuel rest).map fun r => (c :: r.1, r.2)
    | none => .error .malformed
  | fuel + 1, '\\' :: e :: cs =>
    match simpleEscape? e with
    | some c => (readChars fuel cs).map fun r => (c :: r.1, r.2)
    | none => .error .malformed
  | fuel + 1, c :: cs =>
    if c.toNat < 0x20 then .error .malformed
    else (readChars fuel cs).map fun r => (c :: r.1, r.2)

def readText (cs : List Char) : Except ReadFault (String × List Char) :=
  (readChars (cs.length + 1) cs).map fun r => (String.ofList r.1, r.2)

def isAsciiDigit (c : Char) : Bool := '0' ≤ c && c ≤ '9'

def readWhole? : List Char → Option (List Char × List Char)
  | '0' :: cs => some (['0'], cs)
  | c :: cs =>
    if isAsciiDigit c then some (c :: cs.takeWhile isAsciiDigit, cs.dropWhile isAsciiDigit) else none
  | [] => none

def takeFraction (cs : List Char) : List Char × List Char :=
  match cs with
  | '.' :: rest =>
    if (rest.takeWhile isAsciiDigit).isEmpty then ([], cs)
    else (rest.takeWhile isAsciiDigit, rest.dropWhile isAsciiDigit)
  | _ => ([], cs)

def takeExponent? (cs : List Char) : Option (Int × List Char) :=
  match cs with
  | c :: rest =>
    if c == 'e' || c == 'E' then
      let (negative, rest) := Number.takeSign rest
      let digits := rest.takeWhile isAsciiDigit
      if digits.isEmpty then none
      else
        let e : Int := digitsValue digits
        some (if negative then -e else e, rest.dropWhile isAsciiDigit)
    else none
  | [] => none

def readNumber (negative : Bool) (cs : List Char) : Except ReadFault (Json × List Char) :=
  match readWhole? cs with
  | none => .error .malformed
  | some (whole, rest) =>
    let (fraction, afterFraction) := takeFraction rest
    match takeExponent? afterFraction with
    | some (e, afterExponent) =>
      .ok (.float (Number.ofDecimal negative (digitsValue (whole ++ fraction)) (e - fraction.length)),
        afterExponent)
    | none =>
      if fraction.isEmpty then
        match readNumeral whole with
        | .ok n => .ok (.int (if negative then -(n : Int) else n), afterFraction)
        | .error _ => .error .numeralTooLong
      else
        .ok (.float (Number.ofDecimal negative (digitsValue (whole ++ fraction)) (-(fraction.length : Int))),
          afterFraction)

def readNamed (cs : List Char) : Except ReadFault (Json × List Char) :=
  let named : List (String × Json) :=
    [("null", .null), ("true", .bool true), ("false", .bool false), ("NaN", .float (0.0 / 0.0)),
      ("Infinity", .float (1.0 / 0.0)), ("-Infinity", .float (-1.0 / 0.0))]
  match named.findSome? fun (word, value) => (afterWord? word cs).map fun rest => (value, rest) with
  | some r => .ok r
  | none =>
    match cs with
    | '-' :: cs => readNumber true cs
    | cs => readNumber false cs

mutual

/-- A value at the front of a text. The fuel bounds the nesting and the length. -/
def readValue : Nat → List Char → Except ReadFault (Json × List Char)
  | 0, _ => .error .malformed
  | fuel + 1, cs =>
    match cs with
    | '"' :: rest => (readText rest).map fun r => (.str r.1, r.2)
    | '[' :: rest =>
      match skipSpaces rest with
      | ']' :: rest => .ok (.arr [], rest)
      | rest => (readItems fuel rest).map fun r => (.arr r.1, r.2)
    | '\x7b' :: rest =>
      match skipSpaces rest with
      | '\x7d' :: rest => .ok (.obj [], rest)
      | rest => (readFields fuel [] rest).map fun r => (.obj r.1, r.2)
    | cs => readNamed cs

def readItems : Nat → List Char → Except ReadFault (List Json × List Char)
  | 0, _ => .error .malformed
  | fuel + 1, cs => do
    let (value, rest) ← readValue fuel cs
    match skipSpaces rest with
    | ']' :: rest => .ok ([value], rest)
    | ',' :: rest =>
      let (values, rest) ← readItems fuel (skipSpaces rest)
      .ok (value :: values, rest)
    | _ => .error .malformed

def readFields : Nat → Fields → List Char → Except ReadFault (Fields × List Char)
  | 0, _, _ => .error .malformed
  | fuel + 1, fields, cs =>
    match cs with
    | '"' :: rest => do
      let (key, rest) ← readText rest
      match skipSpaces rest with
      | ':' :: rest =>
        let (value, rest) ← readValue fuel (skipSpaces rest)
        let fields := fields.put key value
        match skipSpaces rest with
        | '\x7d' :: rest => .ok (fields, rest)
        | ',' :: rest => readFields fuel fields (skipSpaces rest)
        | _ => .error .malformed
      | _ => .error .malformed
    | _ => .error .malformed

end

def readFront (cs : List Char) : Except ReadFault (Json × List Char) := readValue (2 * cs.length + 1) cs

def read (cs : List Char) : Except ReadFault Json := do
  let (value, rest) ← readFront (skipSpaces cs)
  if (skipSpaces rest).isEmpty then .ok value else .error .malformed

def readMarked : List Char → Except ReadFault Json
  | '\ufeff' :: cs => read cs
  | cs => read cs

end Gamebook.Json
