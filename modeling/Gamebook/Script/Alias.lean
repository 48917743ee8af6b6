import Gamebook.Script.Option
import Gamebook.Script.Printer
import Gamebook.Text.Phrase
import Gamebook.Text.Search

set_option autoImplicit false

namespace Gamebook.Alias

open Gamebook.Text

def sharedWords (old new : List (List Char)) : List (List Char) := new.filter old.contains

def mostlyShared (old new : List (List Char)) : Bool :=
  -- Repeated words of the new phrase count each time, those of the old one once.
  4 * max new.length old.eraseDups.length ≤ 5 * (sharedWords old new).length

/-- Whether a new phrase adds nothing to a known one: they are equal, one holds the other, or most
words are shared. -/
def isRedundant (known new : String) : Bool :=
  let old := Text.normalize known
  let fresh := Text.normalize new
  occursIn old fresh || occursIn fresh old || mostlyShared (wordsOf old) (wordsOf fresh)

def splitMargin (cs : List Char) : List Char × List Char :=
  let margin := cs.takeWhile isBlank
  let text := cs.dropWhile isBlank
  let stars := text.takeWhile (· == '*')
  let rest := text.dropWhile (· == '*')
  if !stars.isEmpty && rest.head?.any isBlank then
    (margin ++ stars ++ rest.takeWhile isBlank, rest.dropWhile isBlank)
  else (margin, text)

def choiceOf? (text : List Char) : Option Choice :=
  match afterWord? "if " text with
  | some rest => Choice.read? (trimChars rest)
  | none => none

def withAlias (margin text : List Char) (choice : Choice) (new : String) : String :=
  let gate :=
    match Gate.find? text with
    | some gate => ' ' :: gate.written
    | none => []
  String.ofList margin ++ "if " ++ " | ".intercalate (choice.phrases ++ [new]) ++ String.ofList gate

def addToLine (optionText new line : String) : String :=
  let (margin, rest) := splitMargin line.toList
  let text := dropBlanksEnd rest
  match choiceOf? text with
  | some choice =>
    if choice.text == optionText && !choice.phrases.any (isRedundant · new) then
      withAlias margin text choice new
    else line
  | none => line

def add (optionText new : String) (lines : List String) : List String :=
  let new := trim new
  if new.isEmpty then lines else lines.map (addToLine optionText new)

end Gamebook.Alias
