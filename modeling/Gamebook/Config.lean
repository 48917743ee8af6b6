import Gamebook.Completion
import Gamebook.Path
import Gamebook.Prompt.Match

set_option autoImplicit false

namespace Gamebook

inductive FileEntry where
  | missing
  | directory
  | beyondFile
  /-- The system refuses to look the path up or to read what stands there. -/
  | refused (reason : String)
  | file (bytes : ByteArray)

structure World where
  file : String → FileEntry
  setting : String → Option String

def decodeText? (bytes : ByteArray) : Option String :=
  (String.fromUTF8? bytes).map fun text => String.ofList (Text.plainNewlines text.toList)

structure Config where
  matcher : Fields :=
    [("provider_url", .str ""), ("api_key", .str ""), ("provider_format", .str "openai"),
      ("model", .str ""), ("timeout", .float 30.0)]
  minConfidence : Json := .float 0.7
  minKeywordScore : Json := .int 1
  maxSteps : Json := .int 200
  extras : Fields := []

namespace Config

inductive Fault where
  | notFound (path : String)
  | invalidJson (path : String)
  | badOverride (name value : String)
  | notText
  | numeralTooLong
  | notAnObject
  deriving DecidableEq, Repr

def Fault.message? : Fault → Option String
  | .notFound path => some ("Config file not found: " ++ path)
  | .invalidJson path => some ("Invalid JSON in " ++ path)
  | .badOverride name value => some (name ++ "=" ++ Text.quote value ++ " is not a valid float")
  | _ => none

def values (config : Config) : Fields :=
  [("min_confidence", config.minConfidence), ("min_keyword_score", config.minKeywordScore),
    ("max_steps", config.maxSteps)]

def fields (config : Config) : Fields :=
  ("matcher", .obj config.matcher) :: (config.values ++ config.extras)

/-- The values that are configured in an object: those of a matcher key by key, the others as they are.
What it does not name stays. -/
def overlay (config : Config) (stored : Fields) : Config :=
  { config with
    matcher :=
      match stored.get? "matcher" with
      | some (.obj fields) => config.matcher.update fields
      | _ => config.matcher
    minConfidence := (stored.get? "min_confidence").getD config.minConfidence
    minKeywordScore := (stored.get? "min_keyword_score").getD config.minKeywordScore
    maxSteps := (stored.get? "max_steps").getD config.maxSteps }

def knownKeys : List String := ["matcher", "min_confidence", "min_keyword_score", "max_steps"]

def withExtras (config : Config) (stored : Fields) : Config :=
  { config with extras := stored.filter fun field => !knownKeys.contains field.1 }

def pathOf? (world : World) (path : Option String) : Option String :=
  match path with
  | some path => some (Path.normalize path)
  | none =>
    match world.setting "PLOTLINE_CONFIG" with
    | some path => if path.isEmpty then none else some (Path.normalize path)
    | none => none

def readFile (world : World) (path : String) : Except Fault Fields :=
  match world.file path with
  | .file bytes =>
    match decodeText? bytes with
    | none => .error .notText
    | some text =>
      match Json.read text.toList with
      | .ok (.obj fields) => .ok fields
      | .ok _ => .error .notAnObject
      | .error .malformed => .error (.invalidJson path)
      | .error .numeralTooLong => .error .numeralTooLong
  | .refused _ => .error .notText
  | .missing | .directory | .beyondFile => .error (.notFound path)

def overrides : List (String × String) :=
  [("PLOTLINE_MATCHER_URL", "provider_url"), ("PLOTLINE_MATCHER_API_KEY", "api_key"),
    ("PLOTLINE_MATCHER_FORMAT", "provider_format"), ("PLOTLINE_MATCHER_MODEL", "model"),
    ("PLOTLINE_MATCHER_TIMEOUT", "timeout")]

def overrideValue (name key value : String) : Except Fault Json :=
  if key == "timeout" then
    match Number.readFloat? value.toList with
    | some x => .ok (.float x)
    | none => .error (.badOverride name value)
  else .ok (.str value)

/-- A matcher with one variable of the environment over it; an empty variable does not count. -/
def override (world : World) (matcher : Fields) (named : String × String) : Except Fault Fields :=
  match world.setting named.1 with
  | none => .ok matcher
  | some value =>
    if value.isEmpty then .ok matcher
    else (overrideValue named.1 named.2 value).map (matcher.put named.2)

def load (world : World) (path : Option String) : Except Fault Config := do
  let config ←
    match pathOf? world path with
    | none => pure {}
    | some path => (readFile world path).map (overlay {})
  let matcher ← overrides.foldlM (override world) config.matcher
  return { config with matcher }

def thresholds (config : Config) : Except Json.NumberFault Matching.Thresholds := do
  let confidence ← config.minConfidence.toFloat
  let score ← config.minKeywordScore.toInt
  return { confidence, score }

inductive ClientFault where
  | timeout (fault : Json.NumberFault)
  | urlNotText
  deriving DecidableEq, Repr

def client? (config : Config) : Except ClientFault (Option Completion.Client) :=
  let value (key : String) (standard : Json) : Json := (config.matcher.get? key).getD standard
  let address := value "provider_url" (.str "")
  if address.isFalsy then .ok none
  else
    -- The timeout is looked at before the address.
    match (value "timeout" (.float 30.0)).toFloat, address with
    | .error fault, _ => .error (.timeout fault)
    | .ok timeout, .str url =>
      let client : Completion.Client :=
        { base := url
          apiKey := value "api_key" (.str "")
          format := value "provider_format" (.str "openai")
          model := value "model" (.str "")
          timeout := .float timeout }
      .ok (some (client.withBase url))
    | .ok _, _ => .error .urlNotText

end Config

def Completion.Client.matcher (client : Completion.Client) : Matching.Matcher (List Completion.Reply) :=
  Prompt.matcher fun prompt => do return (← client.complete prompt).toOption

end Gamebook
