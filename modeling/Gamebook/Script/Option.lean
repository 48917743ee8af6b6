import Gamebook.Name
import Gamebook.Script.Entry

set_option autoImplicit false

namespace Gamebook

open Gamebook.Text

structure Gate where
  before : List Char
  written : List Char
  requires : List Char
  deriving DecidableEq, Repr

namespace Gate

def takeTerm? (cs : List Char) : Option (List Char × List Char) :=
  match cs with
  | '!' :: cs => (Name.take? (dropBlanks cs)).map fun r => ('!' :: r.1, r.2)
  | cs => Name.take? cs

def read? (cs : List Char) : Option (List Char) :=
  match dropBlanks cs with
  | '?' :: cs =>
    match takeTerm? (dropBlanks cs) with
    | some (term, rest) => if (dropBlanks rest).isEmpty then some term else none
    | none => none
  | '[' :: cs =>
    match takeTerm? (dropBlanks cs) with
    | some (term, rest) =>
      match dropBlanks rest with
      | ']' :: rest => if (dropBlanks rest).isEmpty then some term else none
      | _ => none
    | none => none
  | _ => none

def find? : List Char → Option Gate
  | [] => none
  | c :: cs =>
    match if c == '&' then read? cs else none with
    | some requires => some ⟨[], c :: cs, requires⟩
    | none => (find? cs).map fun gate => { gate with before := c :: gate.before }

end Gate

def splitBars (cs : List Char) : List String :=
  (cs.splitOn '|').map fun part => String.ofList (trimChars part)

def Choice.readPhrases? (cs : List Char) : Option Choice :=
  match splitBars cs with
  | [] => none
  | text :: others =>
    if text.isEmpty then none
    else
      let aliases := others.filter fun phrase => !phrase.isEmpty
      some { text, aliases := if aliases.isEmpty then none else some aliases }

def Choice.read? (cs : List Char) : Option Choice :=
  match Gate.find? cs with
  | some gate =>
    (readPhrases? (trimChars gate.before)).map fun choice =>
      { choice with requires := some (String.ofList gate.requires) }
  | none => readPhrases? cs

end Gamebook
