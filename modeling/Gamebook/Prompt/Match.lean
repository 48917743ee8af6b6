import Gamebook.Json.Reader
import Gamebook.Matching.Choose
import Gamebook.Prompt.Template

set_option autoImplicit false

namespace Gamebook.Prompt

open Gamebook.Matching

def instructions : String :=
  "Return the most similar option with its similarity probability. "
    ++ "Consider synonyms, intent, and paraphrasing.\n"
    ++ "Respond in JSON: \x7b\"optionIndex\": <number>, \"confidence\": <0.0-1.0>, "
    ++ "\"normalizedInput\": \"<short normalized version>\"\x7d"

def workedCase (options : List String) (input answer : String) : String :=
  "Available options:\n"
    ++ String.join (options.zipIdx.map fun (option, index) => s!"{index}: \"" ++ option ++ "\"\n")
    ++ "\nPlayer input: \"" ++ input ++ "\"\n\n" ++ instructions ++ "\n" ++ answer ++ "\n\n"

def workedAnswer (index : Nat) (confidence normalized : String) : String :=
  "\x7b\"optionIndex\": " ++ toString index ++ ", \"confidence\": " ++ confidence
    ++ ", \"normalizedInput\": \"" ++ normalized ++ "\"\x7d"

def matchTemplate : String :=
  "You are matching player input to game options. Find the most similar "
    ++ "option and return a similarity probability.\n\n"
    ++ workedCase ["Go to the forest", "Visit the castle", "Stay home"] "I want to explore the woods"
      (workedAnswer 0 "0.92" "go to forest")
    ++ workedCase ["Fight the dragon", "Run away", "Talk to the dragon"] "let's chat with it"
      (workedAnswer 2 "0.88" "talk to dragon")
    ++ workedCase ["Open the door", "Look through the window"] "eat a sandwich"
      (workedAnswer 0 "0.05" "eat sandwich")
    ++ "Available options:\n\x7b\x7b#each options\x7d\x7d"
    ++ "\x7b\x7b@index\x7d\x7d: \"\x7b\x7b\x7btext\x7d\x7d\x7d\""
    ++ "\x7b\x7b#if aliases\x7d\x7d (also: \x7b\x7b\x7bjoin aliases \", \"\x7d\x7d\x7d)\x7b\x7b/if\x7d\x7d\n"
    ++ "\x7b\x7b/each\x7d\x7d\nPlayer input: \"\x7b\x7b\x7binput\x7d\x7d\x7d\"\n\n" ++ instructions ++ "\n"

def choiceContext (choice : Choice) : Json :=
  .obj [("text", .str choice.text), ("aliases", .arr ((choice.aliases.getD []).map .str))]

def build (input : String) (choices : List Choice) : Except Template.Fault String :=
  Template.fill matchTemplate
    (.obj [("input", .str input), ("options", .arr (choices.map choiceContext))])

inductive AnswerFault where
  | numeralTooLong
  | confidenceOutOfRange
  deriving DecidableEq, Repr

def confidenceOf (value : Json) : Except AnswerFault Float :=
  if value.isFalsy then .ok 0.0
  else
    match value.toFloat with
    | .ok confidence => .ok confidence
    | .error .outOfRange => .error .confidenceOutOfRange
    | .error _ => .ok 0.0

def answerOf (fields : Fields) : Except AnswerFault SemanticMatch := do
  let index :=
    match fields.get? "optionIndex" with
    | some (.int n) => some n
    | _ => none
  let confidence ← confidenceOf ((fields.get? "confidence").getD .null)
  let normalizedInput :=
    match fields.get? "normalizedInput" with
    | some (.str s) => some s
    | _ => none
  return { matched := index.isSome, index, confidence, normalizedInput }

/-- Reads the answer of a model: its first JSON object. No object is no match. -/
def readAnswer (text : String) : Except AnswerFault SemanticMatch :=
  match text.toList.dropWhile (· != '\x7b') with
  | [] => .ok {}
  | cs =>
    match Json.readFront cs with
    | .error .numeralTooLong => .error .numeralTooLong
    | .error .malformed => .ok {}
    | .ok (.obj fields, _) => answerOf fields
    | .ok _ => .ok {}

def matcher {σ : Type} (complete : String → StateM σ (Option Json)) : Matcher σ :=
  fun input choices => do
    if (Text.trim input).isEmpty || choices.isEmpty then return some {}
    match build input choices with
    | .error _ => return none
    | .ok prompt =>
      match ← complete prompt with
      | some (.str text) => return (readAnswer text).toOption
      | _ => return none

end Gamebook.Prompt
