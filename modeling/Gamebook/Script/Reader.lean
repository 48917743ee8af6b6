import Gamebook.Script.EntryLine
import Gamebook.Script.SourceLine

set_option autoImplicit false

namespace Gamebook.Script

abbrev Placed := Nat × Entry

def body (indent : Nat) (following : List Placed) : List Entry :=
  (following.takeWhile fun entry => indent < entry.1).map Prod.snd

def afterBody (indent : Nat) (following : List Placed) : List Placed :=
  following.dropWhile fun entry => indent < entry.1

def isElse : Entry → Bool
  | .narrative text => text == "else" || text == "[else]"
  | _ => false

/-- Puts an entry before the entries that follow it, of which it takes what belongs to its block. -/
def attach (entry : Placed) (following : List Placed) : List Placed :=
  let indent := entry.1
  match entry.2 with
  | .option choice _ => (indent, .option choice (body indent following)) :: afterBody indent following
  | .when condition _ =>
    match afterBody indent following with
    | [] => [(indent, .when condition (body indent following))]
    | next :: rest =>
      -- An else further in or out is told as it stands.
      if next.1 == indent && isElse next.2 then
        (indent, .whenElse condition (body indent following) (body indent rest)) :: afterBody indent rest
      else (indent, .when condition (body indent following)) :: next :: rest
  | _ => entry :: following

def nest (entries : List Placed) : List Placed := entries.foldr attach []

def readLines (lines : List String) : Except Text.NumeralTooLong (List Placed) :=
  (lines.filterMap SourceLine.ofString?).mapM fun line => do
    return (line.indent, ← EntryLine.read line.text)

def read (lines : List String) : Except Text.NumeralTooLong (List Entry) := do
  return (nest (← readLines lines)).map Prod.snd

end Gamebook.Script
