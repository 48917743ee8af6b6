import Gamebook.Json.Basic

set_option autoImplicit false

namespace Gamebook.Service

inductive Cause where
  | missing
  | invalidJson
  | notAnObject
  | notAList
  | notText
  | notADictionary
  | notAnInteger
  | unreadableInteger
  | integerTooLong
  | fraction
  | notFinite
  | negative
  | notABoolean
  | unreadableBoolean
  deriving DecidableEq, Repr

def Cause.code : Cause → String
  | .missing => "missing"
  | .invalidJson => "json_invalid"
  | .notAnObject => "model_attributes_type"
  | .notAList => "list_type"
  | .notText => "string_type"
  | .notADictionary => "dict_type"
  | .notAnInteger => "int_type"
  | .unreadableInteger => "int_parsing"
  | .integerTooLong => "int_parsing_size"
  | .fraction => "int_from_float"
  | .notFinite => "finite_number"
  | .negative => "greater_than_equal"
  | .notABoolean => "bool_type"
  | .unreadableBoolean => "bool_parsing"

inductive PathStep where
  | field (name : String)
  | item (index : Nat)
  deriving DecidableEq, Repr

structure Flaw where
  cause : Cause
  path : List PathStep
  value : Json

def PathStep.record : PathStep → Json
  | .field name => .str name
  | .item index => .int index

def Flaw.record (flaw : Flaw) : Json :=
  .arr [.str flaw.cause.code, .arr (flaw.path.map PathStep.record)]

abbrev Checked (α : Type) := Except (List Flaw) α

namespace Checked

def flawed {α : Type} (cause : Cause) (path : List PathStep) (value : Json) : Checked α :=
  .error [⟨cause, path, value⟩]

def both {α β : Type} : Checked α → Checked β → Checked (α × β)
  | .ok a, .ok b => .ok (a, b)
  | .ok _, .error flaws => .error flaws
  | .error flaws, .ok _ => .error flaws
  | .error flaws, .error more => .error (flaws ++ more)

def all {α : Type} : List (Checked α) → Checked (List α)
  | [] => .ok []
  | value :: values => (both value (all values)).map fun pair => pair.1 :: pair.2

end Checked

end Gamebook.Service
