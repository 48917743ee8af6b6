import Gamebook.Config
import Gamebook.Matching.Resolve
import Gamebook.Record
import Gamebook.Scene.Problem
import Gamebook.Script.Reader
import Gamebook.Service.Request
import Gamebook.Step

set_option autoImplicit false

namespace Gamebook.Service

structure App (σ : Type) where
  config : Config
  matcher : Option (Matching.Matcher σ) := none

def App.ofConfig (config : Config) : Except Config.ClientFault (App (List Completion.Reply)) := do
  let client ← config.client?
  return { config, matcher := client.map Completion.Client.matcher }

inductive Endpoint where
  | health
  | settings
  | parse
  | step
  | options
  | resolve
  deriving DecidableEq, Repr

namespace Endpoint

def all : List Endpoint := [.health, .settings, .parse, .step, .options, .resolve]

def path : Endpoint → String
  | .health => "/api/health"
  | .settings => "/api/settings"
  | .parse => "/api/parse"
  | .step => "/api/step"
  | .options => "/api/options"
  | .resolve => "/api/match"

def method : Endpoint → String
  | .health | .settings => "GET"
  | _ => "POST"

/-- The endpoint at a path; a query does not count, nor does a slash at the end. -/
def at? (path : String) : Option Endpoint :=
  let plain := path.toList.takeWhile fun c => c != '?' && c != '#'
  all.find? fun endpoint => plain == endpoint.path.toList || plain == endpoint.path.toList ++ ['/']

end Endpoint

inductive Content where
  | json (value : Json)
  | text (text : String)
  | flaws (flaws : List Flaw)

structure Reply where
  status : Nat
  content : Content

namespace Reply

def ok (value : Json) : Reply := ⟨200, .json value⟩

def detail (status : Nat) (text : String) : Reply := ⟨status, .json (.obj [("detail", .str text)])⟩

def internalError : Reply := ⟨500, .text "Internal Server Error"⟩

/-- A reply as it is sent; one that cannot be is an error of the service. -/
def sendable (reply : Reply) : Reply :=
  let whole :=
    match reply.content with
    | .json value => value.isSendable
    | .text _ => true
    | .flaws flaws => flaws.all fun flaw => flaw.value.isSendable
  if whole then reply else internalError

end Reply

def settings {σ : Type} (app : App σ) : Json :=
  let masked := !((app.config.matcher.get? "api_key").getD .null).isFalsy
  let matcher := if masked then app.config.matcher.put "api_key" (.str "***") else app.config.matcher
  .obj ((app.config.fields.put "matcher" (.obj matcher)).put "semantic_enabled" (.bool app.matcher.isSome))

def Reply.ofAnswer : Except Text.NumeralTooLong Reply → Reply
  | .ok reply => reply
  | .error _ => .internalError

def withStory (lines : List String) (answer : Story → Except Text.NumeralTooLong Reply) : Reply :=
  .ofAnswer do answer (.ofScript (← Script.read lines))

def parse (lines : List String) : Reply :=
  withStory lines fun story => .ok <| .ok <| .obj
    [("schema", .arr (Script.record story.script)),
      ("scene_map", .obj (story.scenes.map fun scene => (scene.1, .int scene.2))),
      ("problems", .strings (story.problems.map Problem.message))]

def stepOnce (placed : Placed) : Except Text.NumeralTooLong Json := do
  let story := Story.ofScript (← Script.read placed.lines)
  let stepped := step story Counters.keeper placed.counters placed.place
  let outcome ← stepped.outcome
  return .obj [("result", .obj outcome.record), ("variables", stepped.state.record)]

def options (placed : Placed) : Reply :=
  withStory placed.lines fun story => do
    if (story.scenes.get? placed.place.scene).isNone then
      return .detail 404 ("Scene " ++ placed.place.scene ++ " not found")
    let offers ← story.offersAt placed.counters.answer placed.place
    return .ok (.obj [("options", .arr (offers.map fun offer => .obj offer.choice.record))])

def resolved (counters : Counters) (resolution : Option Matching.Resolution) : Reply :=
  let changes := (resolution.map Matching.Resolution.changes).getD []
  .ok (.obj [("result", .obj (Matching.record resolution)),
    ("variables", (counters.applyAll changes).record)])

def resolve {σ : Type} (app : App σ) (typed : Typed) : StateM σ Reply := do
  if (Text.trim typed.input).isEmpty then return .detail 400 "Input must not be empty"
  match Script.read typed.lines, app.config.thresholds with
  | .ok script, .ok thresholds =>
    let matcher := if typed.useSemantic then app.matcher else none
    let found ← Matching.resolve (.ofScript script) typed.counters.answer matcher thresholds typed.place
      typed.input
    match found with
    | .ok resolution => return resolved typed.counters resolution
    | .error _ => return .internalError
  | _, _ => return .internalError

def withBody {σ α : Type} (body : Body) (check : Fields → Checked α) (answer : α → StateM σ Reply) :
    StateM σ Reply :=
  let refuse (cause : Cause) (value : Json) : StateM σ Reply :=
    return ⟨422, .flaws [⟨cause, root, value⟩]⟩
  match body with
  -- An empty body lacks everything, while a body of `null` is a value of the wrong kind.
  | .absent => refuse .missing .null
  | .malformed => refuse .invalidJson (.obj [])
  | .numeralTooLong => return .detail 400 "There was an error parsing the body"
  | .value (.obj fields) =>
    match check fields with
    | .ok read => answer read
    | .error flaws => return ⟨422, .flaws flaws⟩
  | .value value => refuse .notAnObject value

def answer {σ : Type} (app : App σ) (body : Body) : Endpoint → StateM σ Reply
  | .health => return .ok (.obj [("status", .str "ok")])
  | .settings => return .ok (settings app)
  | .parse => withBody body checkScript fun lines => return parse lines
  | .step => withBody body checkPlaced fun placed => return .ofAnswer ((stepOnce placed).map .ok)
  | .options => withBody body checkPlaced fun placed => return options placed
  | .resolve => withBody body checkTyped (resolve app)

def respond {σ : Type} (app : App σ) (request : Request) : StateM σ Reply := do
  match Endpoint.at? request.path with
  | none => return .detail 404 "Not Found"
  | some endpoint =>
    if request.method != endpoint.method then return .detail 405 "Method Not Allowed"
    else return (← answer app request.body endpoint).sendable

end Gamebook.Service
