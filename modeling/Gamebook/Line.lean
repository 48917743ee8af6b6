import Gamebook.Text.Digit

set_option autoImplicit false

namespace Gamebook

open Gamebook.Text

structure Coordinate where
  scene : String
  index : Int
  deriving DecidableEq, Repr

namespace Coordinate

def id (place : Coordinate) : String := place.scene ++ "-" ++ toString place.index

def isWritable (place : Coordinate) : Bool := Text.isWritable place.index

def dropNewline (cs : List Char) : List Char :=
  if cs.getLast? == some '\n' then cs.dropLast else cs

/-- The coordinate in an identifier: all up to its last dash, on one line, and the number after that. -/
def ofId (id : String) : Except NumeralTooLong (Option Coordinate) :=
  -- A label may hold dashes, so the last one counts.
  let reversed := (dropNewline id.toList).reverse
  let digits := (reversed.takeWhile (· != '-')).reverse
  match reversed.dropWhile (· != '-') with
  | _ :: scene =>
    if digits.isEmpty || !digits.all isDigit || scene.isEmpty || scene.contains '\n' then .ok none
    else (readNumeral digits).map fun n => some ⟨String.ofList scene.reverse, n⟩
  | [] => .ok none

def next (place : Coordinate) : Coordinate := { place with index := place.index + 1 }

end Coordinate

inductive Sender where
  | narrator
  | player
  | system
  deriving DecidableEq, Repr

def Sender.name : Sender → String
  | .narrator => "narrator"
  | .player => "player"
  | .system => "system"

inductive LineKind where
  | text
  | image
  deriving DecidableEq, Repr

def LineKind.name : LineKind → String
  | .text => "text"
  | .image => "image"

structure Line where
  id : String
  sender : Sender
  text : String
  kind : LineKind := .text
  deriving DecidableEq, Repr

end Gamebook
