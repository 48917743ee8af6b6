import Gamebook.Counters
import Gamebook.Json.Reader
import Gamebook.Line
import Gamebook.Scene.Map
import Gamebook.Service.Value

set_option autoImplicit false

namespace Gamebook.Service

inductive Body where
  | absent
  | malformed
  | numeralTooLong
  | value (value : Json)

def Body.ofText (text : String) : Body :=
  if text.isEmpty then .absent
  else
    match Json.readMarked text.toList with
    | .ok found => .value found
    | .error .malformed => .malformed
    | .error .numeralTooLong => .numeralTooLong

structure Request where
  method : String
  path : String
  body : Body := .absent

structure Placed where
  lines : List String
  place : Coordinate
  amounts : List (String × Int)

def Placed.counters (placed : Placed) : Counters := .ofInts placed.amounts

structure Typed extends Placed where
  input : String
  useSemantic : Bool

def root : List PathStep := [.field "body"]

def required {α : Type} (fields : Fields) (name : String) (check : List PathStep → Json → Checked α) :
    Checked α :=
  match fields.get? name with
  | some value => check (root ++ [.field name]) value
  | none => .flawed .missing (root ++ [.field name]) (.obj fields)

def optional {α : Type} (fields : Fields) (name : String) (check : List PathStep → Json → Checked α)
    (standard : α) : Checked α :=
  match fields.get? name with
  | some value => check (root ++ [.field name]) value
  | none => .ok standard

def checkScript (fields : Fields) : Checked (List String) := required fields "lines" checkTexts

def checkPlaced (fields : Fields) : Checked Placed :=
  let lines := checkScript fields
  let scene := optional fields "scene_id" (checkValue textOf) startLabel
  let index := optional fields "line_idx" (checkValue indexOf) 0
  let amounts := optional fields "variables" checkIntegers []
  (lines.both (scene.both (index.both amounts))).map fun (lines, scene, index, amounts) =>
    ⟨lines, ⟨scene, index⟩, amounts⟩

def checkTyped (fields : Fields) : Checked Typed :=
  let input := required fields "input" (checkValue textOf)
  let useSemantic := optional fields "use_semantic" (checkValue booleanOf) true
  ((checkPlaced fields).both (input.both useSemantic)).map fun (placed, input, useSemantic) =>
    { placed with input, useSemantic }

end Gamebook.Service
