import Gamebook.Matching.Resolve
import Gamebook.Scene.Problem
import Gamebook.Step.Outcome

set_option autoImplicit false

namespace Gamebook

def optionalField (key : String) (value : Option Json) : Fields :=
  match value with
  | some value => [(key, value)]
  | none => []

def Fields.present (fields : Fields) : Fields :=
  fields.filter fun field =>
    match field.2 with
    | .null => false
    | _ => true

def Json.strings (texts : List String) : Json := .arr (texts.map .str)

def Json.nullable (value : Option String) : Json := (value.map Json.str).getD .null

def Choice.record (choice : Choice) : Fields :=
  [("type", .str "option"), ("text", .str choice.text)]
    ++ optionalField "aliases" (choice.aliases.map Json.strings)
    ++ optionalField "requires" (choice.requires.map .str)

def Change.record (change : Change) : Json :=
  .obj [("type", .str "metadata"), ("key", .str change.key), ("value", .str change.name)]

namespace Script

mutual

def recordEntry : Entry → Json
  | .narrative text => .obj [("type", .str "narrative"), ("text", .str text)]
  | .scene label allows =>
    .obj ([("type", .str "scene"), ("label", .str label)] ++ optionalField "allows" (allows.map .str))
  | .goto target => .obj [("type", .str "goto"), ("target", .str target)]
  | .option choice response => .obj (choice.record ++ [("then", .arr (record response))])
  | .image url => .obj [("type", .str "image"), ("url", .str url)]
  | .metadata key value =>
    .obj [("type", .str "metadata"), ("key", .str key), ("value", .str value)]
  | .when condition body =>
    .obj [("type", .str "conditional"), ("condition", .str condition), ("then", .arr (record body))]
  | .whenElse condition body otherwise =>
    .obj [("type", .str "conditional"), ("condition", .str condition), ("then", .arr (record body)),
      ("else", .arr (record otherwise))]

def record : List Entry → List Json
  | [] => []
  | entry :: entries => recordEntry entry :: record entries

end

end Script

def Shown.record : Shown → Json
  | .text told => Script.recordEntry (.narrative told)
  | .image url => Script.recordEntry (.image url)

def Line.record (line : Line) : Json :=
  .obj [("id", .str line.id), ("sender", .str line.sender.name), ("text", .str line.text),
    ("type", .str line.kind.name)]

namespace Outcome

def kind : Outcome → String
  | .line _ _ _ => "continue"
  | .wait _ _ => "wait"
  | .finished _ => "end"
  | .failed _ => "error"

def line? : Outcome → Option Line
  | .line told _ _ => some told
  | .failed error => some error.line
  | _ => none

def place? : Outcome → Option Coordinate
  | .line _ place _ => some place
  | .wait place _ => some place
  | _ => none

def error? : Outcome → Option StepError
  | .failed error => some error
  | _ => none

def record (outcome : Outcome) : Fields :=
  [("kind", .str outcome.kind),
    ("line", (outcome.line?.map Line.record).getD .null),
    ("error", .nullable (outcome.error?.map StepError.kind)),
    ("scene_id", .nullable (outcome.place?.map Coordinate.scene)),
    ("line_idx", (outcome.place?.map fun place => Json.int place.index).getD .null),
    ("prelude", .strings outcome.prelude)]

end Outcome

def Matching.record : Option Matching.Resolution → Fields
  | none => [("matched", .bool false), ("narratives", .arr []), ("metadata", .arr [])]
  | some resolution =>
    [("matched", .bool true),
      ("scene_id", .str resolution.place.scene),
      ("line_idx", .int resolution.place.index),
      ("option_text", .str resolution.optionText),
      ("narratives", .arr (resolution.shown.map Shown.record)),
      ("metadata", .arr (resolution.changes.map Change.record)),
      ("tier", .str resolution.means.tier)]
      ++ optionalField "matched_alias" (resolution.means.phrase?.map .str)
      ++ optionalField "confidence" (resolution.means.confidence?.map .float)
      ++ optionalField "suggested_alias" (resolution.suggestion.map .str)

def Counters.record (counters : Counters) : Json :=
  .obj (counters.entries.map fun entry => (entry.1, .int entry.2))

end Gamebook
