import Gamebook.Scene.Preamble

set_option autoImplicit false

namespace Gamebook

inductive Shown where
  | text (text : String)
  | image (url : String)
  deriving DecidableEq, Repr

structure Response where
  shown : List Shown := []
  changes : List Change := []
  asked : List Query := []
  deriving DecidableEq, Repr

def shiftOf (changes : List Change) (name : String) : Int :=
  changes.foldl
    (fun shift change =>
      if Name.normalize change.name == Name.normalize name then
        match change with
        | .sets _ => shift + 1
        | .unsets _ => shift - 1
      else shift) 0

/-- The question about the counters as they are that decides one about the counters after the changes;
none if the changes alone decide it. -/
def Query.before? (changes : List Change) (query : Query) : Option Query :=
  Query.ofThreshold? query.name (query.threshold - shiftOf changes query.name).toNat

/-- Answers for the counters after changes. -/
def Oracle.after (ask : Oracle) (changes : List Change) : Oracle := fun query =>
  match query.before? changes with
  | none => true
  | some query => ask query

namespace Response

def noteCondition (ask : Oracle) (response : Response) (condition : String) : Response :=
  { response with
    asked := response.asked ++
      (Condition.asked (ask.after response.changes) condition).filterMap
        (Query.before? response.changes) }

def andThen (part : Response × Option Exit) (rest : Response → Response × Option Exit) :
    Response × Option Exit :=
  match part.2 with
  | some exit => (part.1, some exit)
  | none => rest part.1

mutual

def runEntry (ask : Oracle) (response : Response) : Entry → Response × Option Exit
  | .narrative text => ({ response with shown := response.shown ++ [.text text] }, none)
  | .image url => ({ response with shown := response.shown ++ [.image url] }, none)
  | .goto target => (response, some (.jump (Text.trim target)))
  | .metadata key value =>
    match Change.ofField? key value with
    | some change => ({ response with changes := response.changes ++ [change] }, none)
    | none => (response, none)
  | .when condition body =>
    if !Condition.isReadable condition then (response, some .unreadable)
    else if Condition.holds (ask.after response.changes) condition then
      run ask (response.noteCondition ask condition) body
    else (response.noteCondition ask condition, none)
  | .whenElse condition body otherwise =>
    if !Condition.isReadable condition then (response, some .unreadable)
    else if Condition.holds (ask.after response.changes) condition then
      run ask (response.noteCondition ask condition) body
    else run ask (response.noteCondition ask condition) otherwise
  | _ => (response, none)

def run (ask : Oracle) (response : Response) : List Entry → Response × Option Exit
  | [] => (response, none)
  | entry :: entries => andThen (runEntry ask response entry) fun response => run ask response entries

end

def ofBlock (ask : Oracle) (block : List Entry) :
    Except Text.NumeralTooLong (Response × Option String) :=
  match run ask {} block with
  | (_, some .unreadable) => .error {}
  | (response, some (.jump target)) => .ok (response, some target)
  | (response, none) => .ok (response, none)

end Response

end Gamebook
