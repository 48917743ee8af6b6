import Gamebook.Json.Reader

set_option autoImplicit false

namespace Gamebook.Completion

structure Client where
  base : String
  apiKey : Json := .str ""
  format : Json := .str "openai"
  model : Json := .str ""
  timeout : Json := .float 30.0
  maxTokens : Json := .int 256

inductive Wire where
  | generate
  | completions
  deriving DecidableEq, Repr

namespace Wire

def path : Wire → String
  | .generate => "/api/v1/generate"
  | .completions => "/v1/completions"

def field : Wire → String
  | .generate => "results"
  | .completions => "choices"

def backend : Wire → String
  | .generate => "KoboldCpp"
  | .completions => "OpenAI-compatible"

end Wire

def Client.wire (client : Client) : Wire :=
  match client.format with
  | .str "koboldcpp" => .generate
  | _ => .completions

def Client.withBase (client : Client) (address : String) : Client :=
  { client with base := String.ofList (address.toList.reverse.dropWhile (· == '/')).reverse }

structure Post where
  url : String
  body : Fields
  headers : List (String × String)

namespace Client

def headers (client : Client) : List (String × String) :=
  ("Content-Type", "application/json") ::
    (if client.apiKey.isFalsy then [] else [("Authorization", "Bearer " ++ client.apiKey.display)])

def body (client : Client) (prompt : String) : Fields :=
  match client.wire with
  | .generate => [("prompt", .str prompt), ("max_length", client.maxTokens)]
  | .completions =>
    [("prompt", .str prompt), ("max_tokens", client.maxTokens)]
      ++ (if client.model.isFalsy then [] else [("model", client.model)])

def post (client : Client) (prompt : String) : Post :=
  ⟨client.base ++ client.wire.path, client.body prompt, client.headers⟩

end Client

inductive Reply where
  | unreachable
  | timedOut
  | broken (how : String)
  | answered (status : Int) (body : Option Json)

def decodeBody (text : String) : Option Json := (Json.readMarked text.toList).toOption

inductive Fault where
  | unreachable (base : String)
  | badStatus (status : Int)
  | timedOut (timeout : Json)
  | notJson
  | unexpectedFormat (wire : Wire)
  | broken (how : String)
  | notAnObject
  | notAList
  | noSuchKey

def Fault.message? : Fault → Option String
  | .unreachable base => some ("Cannot connect to LLM backend at " ++ base)
  | .badStatus status => some ("LLM backend returned HTTP " ++ toString status)
  | .timedOut timeout => some ("LLM backend timed out after " ++ timeout.display ++ "s")
  | .notJson => some "LLM backend returned a non-JSON body"
  | .unexpectedFormat wire => some ("Unexpected response format from " ++ wire.backend ++ " backend")
  | _ => none

def firstOf : Json → Except Fault Json
  | .arr (item :: _) => .ok item
  | .str s => .ok (.str (String.ofList (s.toList.take 1)))
  | .obj _ => .error .noSuchKey
  | _ => .error .notAList

def mentionsText : Json → Except Fault Bool
  | .obj fields => .ok (fields.any (·.1 == "text"))
  | .str s => .ok (Text.occursIn "text".toList s.toList)
  | .arr items => .ok (items.any fun
    | .str s => s == "text"
    | _ => false)
  | _ => .error .notAList

def textOf (item : Json) : Except Fault Json :=
  match item.field? "text" with
  | some (.str s) => .ok (.str s)
  | some (.arr items) => .ok (.arr items)
  | some (.obj fields) => .ok (.obj fields)
  | _ => .error .notAList

def Client.extract (client : Client) (value : Json) : Except Fault Json :=
  match value with
  | .obj fields => do
    let completions := (Fields.get? fields client.wire.field).getD .null
    if completions.isFalsy then .error (.unexpectedFormat client.wire)
    else
      let item ← firstOf completions
      if ← mentionsText item then textOf item else .error (.unexpectedFormat client.wire)
  | _ => .error .notAnObject

def Client.receive (client : Client) : Reply → Except Fault Json
  | .unreachable => .error (.unreachable client.base)
  | .timedOut => .error (.timedOut client.timeout)
  | .broken how => .error (.broken how)
  | .answered status body =>
    if status < 200 || 299 < status then .error (.badStatus status)
    else
      match body with
      | none => .error .notJson
      | some value => client.extract value

def nextReply : StateM (List Reply) Reply := do
  match ← get with
  | [] => return .unreachable
  | reply :: replies => set replies; return reply

def Client.complete (client : Client) (_prompt : String) : StateM (List Reply) (Except Fault Json) := do
  return client.receive (← nextReply)

end Gamebook.Completion
