import Gamebook.Keyed
import Gamebook.Number.Reading
import Gamebook.Number.Shortest
import Gamebook.Text.Digit
import Gamebook.Text.Quoted

set_option autoImplicit false

namespace Gamebook

inductive Json where
  | null
  | bool (b : Bool)
  | int (n : Int)
  | float (x : Float)
  | str (s : String)
  | arr (items : List Json)
  | obj (fields : List (String × Json))
  deriving Inhabited

abbrev Fields := List (String × Json)

namespace Fields

def get? (fields : Fields) (key : String) : Option Json := List.lookup key fields

def put (fields : Fields) (key : String) (value : Json) : Fields := Keyed.put fields key value

def update (fields newer : Fields) : Fields :=
  newer.foldl (fun fields field => fields.put field.1 field.2) fields

-- What is laid over nothing is itself, if it names no key twice.
theorem update_of_distinct {before fields : Fields} (distinct : ((before ++ fields).map Prod.fst).Nodup) :
    before.update fields = before ++ fields := by
  induction fields generalizing before with
  | nil => simp [update]
  | cons field fields ih =>
    have added : before.put field.1 field.2 = before ++ [field] := Keyed.put_of_distinct distinct
    have rest := @ih (before ++ [field]) (by simpa using distinct)
    rw [update, List.foldl_cons, added]
    simpa [update] using rest

end Fields

namespace Json

def isFalsy : Json → Bool
  | .null => true
  | .bool b => !b
  | .int n => n == 0
  | .float x => x == 0.0
  | .str s => s.isEmpty
  | .arr items => items.isEmpty
  | .obj fields => fields.isEmpty

def field? (value : Json) (key : String) : Option Json :=
  match value with
  | .obj fields => Fields.get? fields key
  | _ => none

mutual

/-- Whether a value can be sent: its doubles are finite, and its integers have no more digits than are written. -/
def isSendable : Json → Bool
  | .int n => Text.isWritable n
  | .float x => x.isFinite
  | .arr items => allSendable items
  | .obj fields => fieldsSendable fields
  | _ => true

def allSendable : List Json → Bool
  | [] => true
  | item :: items => item.isSendable && allSendable items

def fieldsSendable : List (String × Json) → Bool
  | [] => true
  | (_, value) :: fields => value.isSendable && fieldsSendable fields

end

mutual

def shown : Json → String
  | .null => "None"
  | .bool b => if b then "True" else "False"
  | .int n => toString n
  | .float x => Number.text x
  | .str s => Text.quote s
  | .arr items => "[" ++ ", ".intercalate (shownItems items) ++ "]"
  | .obj fields => "\x7b" ++ ", ".intercalate (shownFields fields) ++ "\x7d"

def shownItems : List Json → List String
  | [] => []
  | item :: items => item.shown :: shownItems items

def shownFields : List (String × Json) → List String
  | [] => []
  | (key, value) :: fields => (Text.quote key ++ ": " ++ value.shown) :: shownFields fields

end

def display : Json → String
  | .str s => s
  | value => value.shown

inductive NumberFault where
  | notNumeric
  | unreadable
  | outOfRange
  deriving DecidableEq, Repr

def toFloat : Json → Except NumberFault Float
  | .bool b => .ok (if b then 1.0 else 0.0)
  | .int n => (Number.ofInt? n).elim (.error .outOfRange) .ok
  | .float x => .ok x
  | .str s => (Number.readFloat? s.toList).elim (.error .unreadable) .ok
  | _ => .error .notNumeric

def truncate (x : Float) : Except NumberFault Int :=
  match Number.view x with
  | .finite b => .ok b.truncate
  | .infinite _ => .error .outOfRange
  | .notANumber => .error .unreadable

def toInt : Json → Except NumberFault Int
  | .bool b => .ok (if b then 1 else 0)
  | .int n => .ok n
  | .float x => truncate x
  | .str s => (Number.readInt s.toList).mapError fun _ => .unreadable
  | _ => .error .notNumeric

end Json

end Gamebook
