import Gamebook.Service.Flaw

set_option autoImplicit false

namespace Gamebook.Service

/-- The blanks around a number in a text. The separators of information are not among them. -/
def isSpace (c : Char) : Bool := Text.isBlank c && !('\x1c' ≤ c && c ≤ '\x1f')

def trimSpaces (cs : List Char) : List Char :=
  ((cs.dropWhile isSpace).reverse.dropWhile isSpace).reverse

def dropZeros (cs : List Char) : List Char :=
  match cs with
  | '0' :: _ =>
    let rest := cs.dropWhile fun c => c == '0' || c == '_'
    let last := (cs.takeWhile fun c => c == '0' || c == '_').getLast?.toList
    match rest with
    | [] => last
    | '.' :: _ => last ++ rest
    | _ => rest
  | _ => cs

def dropFraction (cs : List Char) : List Char :=
  let whole := cs.takeWhile (· != '.')
  if (cs.drop (whole.length + 1)).all (· == '0') then whole else cs

def digits? : List Char → Option (List Char)
  | [] => none
  | [c] => if c.isDigit then some [c] else none
  | c :: '_' :: cs => if c.isDigit then (digits? cs).map (c :: ·) else none
  | c :: cs => if c.isDigit then (digits? cs).map (c :: ·) else none

def integerOfText (text : String) : Except Cause Int :=
  let (negative, cs) := Number.takeSign (trimSpaces text.toList)
  match digits? (dropFraction (dropZeros cs)) with
  | none => .error .unreadableInteger
  | some digits =>
    match Text.readNumeral digits with
    | .ok n => .ok (if negative then -(n : Int) else n)
    | .error _ => .error .integerTooLong

def fitsWord (n : Int) : Bool := -9223372036854775808 ≤ n && n < 9223372036854775808

def integerOfFloat (x : Float) : Except Cause Int :=
  match Number.view x with
  | .finite value =>
    if !value.isIntegral then .error .fraction
    else if fitsWord value.truncate then .ok value.truncate
    else .error .integerTooLong
  | _ => .error .notFinite

def integerOf : Json → Except Cause Int
  | .int n => .ok n
  | .bool b => .ok (if b then 1 else 0)
  | .float x => integerOfFloat x
  | .str text => integerOfText text
  | _ => .error .notAnInteger

def indexOf (value : Json) : Except Cause Int := do
  let n ← integerOf value
  if n < 0 then .error .negative else .ok n

def booleanOfInt (n : Int) : Except Cause Bool :=
  if n = 0 then .ok false
  else if n = 1 then .ok true
  -- Beyond a word an integer is not taken for a number of the right kind at all.
  else if fitsWord n then .error .unreadableBoolean
  else .error .notABoolean

def booleanOfText (text : String) : Except Cause Bool :=
  let word := String.ofList (text.toList.map Char.toLower)
  if ["1", "true", "t", "yes", "y", "on"].contains word then .ok true
  else if ["0", "false", "f", "no", "n", "off"].contains word then .ok false
  else .error .unreadableBoolean

def booleanOf : Json → Except Cause Bool
  | .bool b => .ok b
  | .int n => booleanOfInt n
  | .float x =>
    match integerOfFloat x with
    | .ok n => booleanOfInt n
    | .error _ => .error .notABoolean
  | .str text => booleanOfText text
  | _ => .error .notABoolean

def textOf : Json → Except Cause String
  | .str text => .ok text
  | _ => .error .notText

def checkValue {α : Type} (read : Json → Except Cause α) (path : List PathStep) (value : Json) : Checked α :=
  (read value).mapError fun cause => [⟨cause, path, value⟩]

def checkTexts (path : List PathStep) : Json → Checked (List String)
  | .arr items =>
    Checked.all (items.zipIdx.map fun item => checkValue textOf (path ++ [.item item.2]) item.1)
  | value => .flawed .notAList path value

def checkIntegers (path : List PathStep) : Json → Checked (List (String × Int))
  | .obj fields =>
    Checked.all (fields.map fun field =>
      (checkValue integerOf (path ++ [.field field.1]) field.2).map fun n => (field.1, n))
  | value => .flawed .notADictionary path value

end Gamebook.Service
