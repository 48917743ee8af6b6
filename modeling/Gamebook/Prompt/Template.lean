import Gamebook.Json.Basic
import Gamebook.Text.Search
import Gamebook.Text.Word

set_option autoImplicit false

namespace Gamebook.Template

open Gamebook.Text

inductive Fault where
  | malformed
  | unknownHelper (name : String)
  | badArguments (helper : String)
  deriving DecidableEq, Repr

inductive Step where
  | up
  | name (name : String)
  deriving DecidableEq, Repr

abbrev Path := List Step

inductive Argument where
  | path (path : Path)
  | literal (value : Json)

structure Call where
  path : Path
  arguments : List Argument

inductive Token where
  | newline (text : List Char)
  | spaces (text : List Char)
  | text (text : List Char)
  | value (escaped : Bool) (call : Call)
  | opens (helper : String) (arguments : List Argument)
  | closes (helper : String)
  | otherwise
  | comment

inductive Node where
  | text (text : List Char)
  | value (escaped : Bool) (call : Call)
  | block (helper : String) (arguments : List Argument) (body otherwise : List Node)

def isSymbol (c : Char) : Bool := isWord c || c == '-' || c == '@'

def skipTagSpaces (cs : List Char) : List Char :=
  cs.dropWhile fun c => c == ' ' || c == '\t' || c == '\r' || c == '\n'

def takeSteps : Nat → List Char → Path × List Char
  | 0, cs => ([], cs)
  | fuel + 1, cs =>
    match cs with
    | '.' :: '.' :: '/' :: rest => let r := takeSteps fuel rest; (.up :: r.1, r.2)
    | c :: rest =>
      if c == '.' || c == '/' then takeSteps fuel rest
      else if isSymbol c then
        let r := takeSteps fuel (rest.dropWhile isSymbol)
        (.name (String.ofList (c :: rest.takeWhile isSymbol)) :: r.1, r.2)
      else ([], cs)
    | [] => ([], [])

def takePath? (cs : List Char) : Option (Path × List Char) :=
  match cs with
  | '/' :: _ => none
  | cs =>
    let (path, rest) := takeSteps cs.length cs
    if rest.length == cs.length then none else some (path, rest)

def unescape : Char → Char
  | 'n' => '\n'
  | 't' => '\t'
  | 'r' => '\r'
  | c => c

def takeQuoted? (mark : Char) : List Char → Option (List Char × List Char)
  | [] => none
  | '\\' :: c :: cs => (takeQuoted? mark cs).map fun r => (unescape c :: r.1, r.2)
  | c :: cs =>
    if c == mark then some ([], cs)
    else if c == '\n' then none
    else (takeQuoted? mark cs).map fun r => (c :: r.1, r.2)

def takeLiteral? (cs : List Char) : Option (Json × List Char) :=
  match cs with
  | '"' :: rest => (takeQuoted? '"' rest).map fun r => (.str (String.ofList r.1), r.2)
  | '\'' :: rest => (takeQuoted? '\'' rest).map fun r => (.str (String.ofList r.1), r.2)
  | cs =>
    if cs.head?.any Char.isDigit then
      let digits := cs.takeWhile Char.isDigit
      some (.int (digits.foldl (fun n c => 10 * n + (c.toNat - 48)) 0), cs.dropWhile Char.isDigit)
    else
      ([("true", Json.bool true), ("false", .bool false), ("null", .null), ("undefined", .null)]).findSome?
        fun (word, value) => (afterWord? word cs).map fun rest => (value, rest)

def takeArgument? (cs : List Char) : Option (Argument × List Char) :=
  match takeLiteral? cs with
  | some (value, rest) => some (.literal value, rest)
  | none => (takePath? cs).map fun r => (.path r.1, r.2)

def takeArguments : Nat → List Char → List Argument × List Char
  | 0, cs => ([], cs)
  | fuel + 1, cs =>
    let rest := skipTagSpaces cs
    if rest.length == cs.length then ([], cs)
    else
      match takeArgument? rest with
      | some (argument, rest) => let r := takeArguments fuel rest; (argument :: r.1, r.2)
      | none => ([], rest)

def afterEnd? (marks : Nat) (cs : List Char) : Option (List Char) :=
  let close := List.replicate marks '\x7d'
  if close.isPrefixOf cs then some (cs.drop marks) else none

def isElse (cs : List Char) : Option (List Char) :=
  (afterWord? "else" cs <|> afterWord? "^" cs).bind fun rest => afterEnd? 2 (skipTagSpaces rest)

def takeCall? (marks : Nat) (cs : List Char) : Option (Call × List Char) := do
  let (path, rest) ← takePath? (skipTagSpaces cs)
  let (arguments, rest) := takeArguments rest.length rest
  let rest ← afterEnd? marks (skipTagSpaces rest)
  some (⟨path, arguments⟩, rest)

def afterComment? : List Char → Option (List Char)
  | [] => none
  | '\x7d' :: '\x7d' :: cs => some cs
  | _ :: cs => afterComment? cs

def takeSymbol? (cs : List Char) : Option (String × List Char) :=
  let name := cs.takeWhile isSymbol
  if name.isEmpty then none else some (String.ofList name, cs.dropWhile isSymbol)

def takeTag? (cs : List Char) : Option (Token × List Char) :=
  match cs with
  | '!' :: cs => (afterComment? cs).map fun rest => (.comment, rest)
  | '\x7b' :: cs => (takeCall? 3 cs).map fun r => (.value false r.1, r.2)
  | '&' :: cs => (takeCall? 2 cs).map fun r => (.value false r.1, r.2)
  | '#' :: cs => do
    let (name, rest) ← takeSymbol? (skipTagSpaces cs)
    let (arguments, rest) := takeArguments rest.length rest
    let rest ← afterEnd? 2 (skipTagSpaces rest)
    some (.opens name arguments, rest)
  | '/' :: cs => do
    let (name, rest) ← takeSymbol? cs
    let rest ← afterEnd? 2 rest
    some (.closes name, rest)
  | cs =>
    match isElse (skipTagSpaces cs) with
    | some rest => some (.otherwise, rest)
    | none => (takeCall? 2 cs).map fun r => (.value true r.1, r.2)

def consText (c : Char) (tokens : List Token) : List Token :=
  if c == '\n' then .newline [c] :: tokens
  else if c == '\r' then
    match tokens with
    | .newline text :: rest => .newline (c :: text) :: rest
    | .text text :: rest => .text (c :: text) :: rest
    | rest => .text [c] :: rest
  else if c == ' ' || c == '\t' then
    match tokens with
    | .spaces text :: rest => .spaces (c :: text) :: rest
    | rest => .spaces [c] :: rest
  else
    match tokens with
    | .text text :: rest => .text (c :: text) :: rest
    | rest => .text [c] :: rest

def scan : Nat → List Char → Except Fault (List Token)
  | 0, _ => .ok []
  | _ + 1, [] => .ok []
  | fuel + 1, '\x7b' :: '\x7b' :: cs =>
    match takeTag? cs with
    | some (token, rest) => (scan fuel rest).map (token :: ·)
    | none => .error .malformed
  | fuel + 1, c :: cs => (scan fuel cs).map (consText c)

def lineBefore? (atPartStart : Bool) (before : List Token) : Option (List Token) :=
  let rest :=
    match before with
    | .spaces _ :: rest => rest
    | rest => rest
  match rest with
  | .newline _ :: _ => some rest
  | [] => if atPartStart then some rest else none
  | .opens _ _ :: _ => if atPartStart then some rest else none
  | .otherwise :: _ => if atPartStart then some rest else none
  | _ => none

def lineAfter? (atPartEnd : Bool) (after : List Token) : Option (List Token) :=
  let rest :=
    match after with
    | .spaces _ :: rest => rest
    | rest => rest
  match rest with
  | .newline _ :: rest => some rest
  | [] => if atPartEnd then some rest else none
  | .closes _ :: _ => if atPartEnd then some rest else none
  | .otherwise :: _ => if atPartEnd then some rest else none
  | _ => none

/-- Takes out lines that hold nothing but a tag that opens or closes a block. -/
def dropTagLines : Nat → List Token → List Token → List Token
  | 0, before, after => before.reverse ++ after
  | _ + 1, before, [] => before.reverse
  | fuel + 1, before, token :: after =>
    let lines :=
      match token with
      | .opens _ _ => (lineBefore? true before).bind fun b => (lineAfter? false after).map fun a => (b, a)
      | .closes _ => (lineBefore? false before).bind fun b => (lineAfter? true after).map fun a => (b, a)
      | _ => none
    match lines with
    | some (before, after) => dropTagLines fuel (token :: before) after
    | none => dropTagLines fuel (token :: before) after

structure Frame where
  helper : String
  arguments : List Argument
  body : List Node := []
  otherwise : Option (List Node) := none

def Frame.push (frame : Frame) (node : Node) : Frame :=
  match frame.otherwise with
  | none => { frame with body := node :: frame.body }
  | some nodes => { frame with otherwise := some (node :: nodes) }

def Frame.node (frame : Frame) : Node :=
  .block frame.helper frame.arguments frame.body.reverse (frame.otherwise.getD []).reverse

def build : Frame → List Frame → List Token → Except Fault (List Node)
  | frame, [], [] => .ok frame.body.reverse
  | _, _ :: _, [] => .error .malformed
  | frame, frames, token :: tokens =>
    match token with
    | .newline text | .spaces text | .text text => build (frame.push (.text text)) frames tokens
    | .value escaped call => build (frame.push (.value escaped call)) frames tokens
    | .comment => build frame frames tokens
    | .opens helper arguments => build { helper, arguments } (frame :: frames) tokens
    | .otherwise =>
      if frames.isEmpty || frame.otherwise.isSome then .error .malformed
      else build { frame with otherwise := some [] } frames tokens
    | .closes helper =>
      match frames with
      | [] => .error .malformed
      | outer :: frames =>
        if frame.helper == helper then build (outer.push frame.node) frames tokens
        else .error .malformed

def parse (template : String) : Except Fault (List Node) := do
  let tokens ← scan template.toList.length template.toList
  build { helper := "", arguments := [] } [] (dropTagLines tokens.length [] tokens)

inductive Scope where
  | root (context : Json)
  | item (value : Json) (index : Nat) (last : Bool) (key : Option String) (parent : Scope)

namespace Scope

def this : Scope → Json
  | .root context => context
  | .item value _ _ _ _ => value

def part (value : Json) (name : String) : Json :=
  match value with
  | .obj fields => (Fields.get? fields name).getD .null
  | .arr items =>
    if name.toList.all Char.isDigit then
      (items[name.toList.foldl (fun n c => 10 * n + (c.toNat - 48)) 0]?).getD .null
    else .null
  | _ => .null

def named (scope : Scope) (name : String) : Json :=
  match scope, name with
  | scope, "this" => scope.this
  | .item _ index _ _ _, "@index" => .int index
  | .item _ index _ _ _, "@first" => .bool (index == 0)
  | .item _ _ last _ _, "@last" => .bool last
  | .item _ _ _ key _, "@key" => (key.map Json.str).getD .null
  | scope, name => part scope.this name

def descend (value : Json) : Path → Json
  | [] => value
  | .up :: _ => .null
  | .name name :: path => descend (part value name) path

def lookup (scope : Scope) : Path → Json
  | [] => scope.this
  | .up :: path =>
    match scope with
    | .root _ => .null
    | .item _ _ _ _ parent => parent.lookup path
  | .name name :: path => descend (scope.named name) path

def argument (scope : Scope) : Argument → Json
  | .path path => scope.lookup path
  | .literal value => value

end Scope

def joinItems? (value : Json) : Option (List Json) :=
  if value.isFalsy then some []
  else
    match value with
    | .arr items => some items
    | .str s => some (s.toList.map fun c => .str c.toString)
    | .obj fields => some (fields.map fun field => .str field.1)
    | _ => none

def joinText (items : Json) (separator : String) : Except Fault Json :=
  match joinItems? items with
  | some items => .ok (.str (separator.intercalate (items.map Json.display)))
  | none => .error (.badArguments "join")

def Call.value (call : Call) (scope : Scope) : Except Fault Json :=
  match call.path, call.arguments.map scope.argument with
  | [.name "join"], [items] => joinText items ", "
  | [.name "join"], [items, separator] => joinText items separator.display
  | [.name "join"], _ => .error (.badArguments "join")
  | path, [] => .ok (scope.lookup path)
  | path, _ :: _ =>
    match scope.lookup path, path with
    | .null, [.name name] => .error (.unknownHelper name)
    | .null, _ => .error .malformed
    | value, _ => .ok value

def valueText : Json → String
  | .null => ""
  | .bool b => if b then "true" else "false"
  | value => value.display

def escapeChar (c : Char) : List Char :=
  match c with
  | '&' => "&amp;".toList
  | '<' => "&lt;".toList
  | '>' => "&gt;".toList
  | '"' => "&quot;".toList
  | '\'' => "&#x27;".toList
  | '\x60' => "&#x60;".toList
  | c => [c]

def eachItems (value : Json) : List (Option String × Json) :=
  match value with
  | .arr items => items.map fun item => (none, item)
  | .obj fields => fields.map fun field => (some field.1, field.2)
  | .str s => s.toList.map fun c => (none, .str c.toString)
  | _ => []

def Scope.items (scope : Scope) (value : Json) : List Scope :=
  let items := eachItems value
  items.zipIdx.map fun (entry, index) =>
    .item entry.2 index (index + 1 == items.length) entry.1 scope

def concatMapM (render : Scope → Except Fault (List Char)) : List Scope → Except Fault (List Char)
  | [] => .ok []
  | scope :: scopes => do return (← render scope) ++ (← concatMapM render scopes)

mutual

def renderNode (scope : Scope) : Node → Except Fault (List Char)
  | .text text => .ok text
  | .value escaped call => do
    let text := (valueText (← call.value scope)).toList
    return if escaped then text.flatMap escapeChar else text
  | .block helper arguments body otherwise =>
    match helper, arguments.map scope.argument with
    | "if", [value] => if value.isFalsy then render scope otherwise else render scope body
    -- The other branch of this one is never rendered.
    | "unless", [value] => if value.isFalsy then render scope body else .ok []
    | "each", [value] =>
      if (eachItems value).isEmpty then render scope otherwise
      else concatMapM (fun scope => render scope body) (scope.items value)
    | "if", _ => .error (.badArguments helper)
    | "unless", _ => .error (.badArguments helper)
    | "each", _ => .error (.badArguments helper)
    | _, _ => .error (.unknownHelper helper)

def render (scope : Scope) : List Node → Except Fault (List Char)
  | [] => .ok []
  | node :: nodes => do return (← renderNode scope node) ++ (← render scope nodes)

end

def fill (template : String) (context : Json) : Except Fault String := do
  return String.ofList (← render (.root context) (← parse template))

end Gamebook.Template
