import Gamebook.Number.Reading
import Gamebook.Path

set_option autoImplicit false

namespace Gamebook.Command

inductive Flag where
  | help
  | verbose
  | host
  | port
  | reload
  deriving DecidableEq, Repr

namespace Flag

def long : Flag → List Char
  | .help => "--help".toList
  | .verbose => "--verbose".toList
  | .host => "--host".toList
  | .port => "--port".toList
  | .reload => "--reload".toList

def letter? : Flag → Option Char
  | .help => some 'h'
  | .verbose => some 'v'
  | _ => none

def takesValue : Flag → Bool
  | .host | .port => true
  | _ => false

end Flag

inductive Stop where
  | help
  | usage
  deriving DecidableEq, Repr

inductive Token where
  | word (text : String)
  | flag (flag : Flag) (value : Option String)
  | letters (letters : List Char)
  | separator
  | unknown
  deriving DecidableEq, Repr

def isNegativeNumber : List Char → Bool
  | '-' :: cs =>
    let cs := if cs.getLast? == some '\n' then cs.dropLast else cs
    let fraction := (cs.dropWhile Text.isDigit).drop 1
    !cs.isEmpty && (cs.all Text.isDigit
      || ((cs.dropWhile Text.isDigit).head? == some '.' && !fraction.isEmpty && fraction.all Text.isDigit))
  | _ => false

def splitValue (cs : List Char) : List Char × Option String :=
  match cs.span (· != '=') with
  | (name, _ :: value) => (name, some (String.ofList value))
  | (name, []) => (name, none)

def longCandidates (flags : List Flag) (cs : List Char) : List Token :=
  let (name, value) := splitValue cs
  match flags.find? (·.long == name) with
  | some flag => [.flag flag value]
  | none => (flags.filter fun flag => name.isPrefixOf flag.long).map (.flag · value)

def shortCandidates (flags : List Flag) : List Char → List Token
  | [] => []
  | letter :: rest =>
    if flags.any fun flag => flag.letter? == some letter then [.letters (letter :: rest)] else []

def Token.read (flags : List Flag) (argument : String) : Except Stop Token :=
  let cs := argument.toList
  let candidates :=
    match cs with
    | '-' :: '-' :: _ => longCandidates flags cs
    | '-' :: rest => shortCandidates flags rest
    | _ => []
  match cs with
  | '-' :: _ :: _ =>
    match candidates with
    | [token] => .ok token
    | _ :: _ :: _ => .error .usage
    | [] => .ok (if isNegativeNumber cs || cs.contains ' ' then .word argument else .unknown)
  | _ => .ok (.word argument)

def Token.readAll (flags : List Flag) : List String → Except Stop (List Token)
  | [] => .ok []
  | "--" :: rest => .ok (.separator :: rest.map .word)
  | argument :: rest => return (← Token.read flags argument) :: (← readAll flags rest)

def lettersOn (flags : List Flag) : List Char → Except Stop (List Flag × Bool)
  | [] => .ok ([], false)
  | letter :: rest =>
    if letter == '=' || letter == '-' then .error .usage
    else
      match flags.find? fun flag => flag.letter? == some letter with
      | some flag => (lettersOn flags rest).map fun on => (flag :: on.1, on.2)
      | none => .ok ([], true)

structure Given where
  words : List String := []
  values : List (Flag × String) := []
  switches : List Flag := []
  separated : Bool := false
  unknown : Bool := false

def Given.switchOn (given : Given) (flag : Flag) : Except Stop Given :=
  if flag = .help then .error .help else .ok { given with switches := flag :: given.switches }

def Given.putValue (given : Given) (flag : Flag) (value : String) : Except Stop Given :=
  match flag, Number.readInt value.toList with
  | .port, .error _ => .error .usage
  | _, _ => .ok { given with values := (flag, value) :: given.values }

def Given.read (flags : List Flag) (given : Given) : List Token → Except Stop Given
  | [] => .ok given
  | .word text :: rest => read flags { given with words := given.words ++ [text] } rest
  | .separator :: rest => read flags { given with separated := true } rest
  | .unknown :: rest => read flags { given with unknown := true } rest
  | .letters letters :: rest => do
    let (on, unknown) ← lettersOn flags letters
    let given ← on.foldlM switchOn given
    read flags { given with unknown := given.unknown || unknown } rest
  | .flag flag (some value) :: rest => do
    if !flag.takesValue then throw .usage
    read flags (← given.putValue flag value) rest
  | .flag flag none :: rest => do
    if flag.takesValue then
      match rest with
      | .word value :: rest => read flags (← given.putValue flag value) rest
      | _ => throw .usage
    else read flags (← given.switchOn flag) rest

end Gamebook.Command
