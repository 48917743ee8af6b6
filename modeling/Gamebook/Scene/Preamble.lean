import Gamebook.Counters
import Gamebook.Scene.Layout

set_option autoImplicit false

namespace Gamebook

inductive Exit where
  | jump (target : String)
  | unreadable
  deriving DecidableEq, Repr

structure Telling (σ : Type) where
  told : List String
  state : σ

namespace Telling

def andThen {σ : Type} (part : Telling σ × Option Exit) (rest : Telling σ → Telling σ × Option Exit) :
    Telling σ × Option Exit :=
  match part.2 with
  | some exit => (part.1, some exit)
  | none => rest part.1

mutual

def runEntry {σ : Type} (keeper : Keeper σ) (telling : Telling σ) : Entry → Telling σ × Option Exit
  | .narrative text => ({ telling with told := telling.told ++ [text] }, none)
  | .goto target => (telling, some (.jump (Text.trim target)))
  | .when condition body =>
    if !Condition.isReadable condition then (telling, some .unreadable)
    else if Condition.holds (keeper.answer telling.state) condition then run keeper telling body
    else (telling, none)
  | .whenElse condition body otherwise =>
    if !Condition.isReadable condition then (telling, some .unreadable)
    else if Condition.holds (keeper.answer telling.state) condition then run keeper telling body
    else run keeper telling otherwise
  | .metadata key value =>
    match Change.ofField? key value with
    | some change => ({ telling with state := keeper.change telling.state change }, none)
    | none => (telling, none)
  | _ => (telling, none)

def run {σ : Type} (keeper : Keeper σ) (telling : Telling σ) : List Entry → Telling σ × Option Exit
  | [] => (telling, none)
  | entry :: entries => andThen (runEntry keeper telling entry) fun telling => run keeper telling entries

end

end Telling

namespace Script

def preamble (script : List Entry) : List Entry := script.take (preambleSize script)

def isConditional : Entry → Bool
  | .when _ _ => true
  | .whenElse _ _ _ => true
  | _ => false

def runPreamble {σ : Type} (keeper : Keeper σ) (state : σ) (script : List Entry) :
    Telling σ × Option Exit :=
  Telling.run keeper ⟨[], state⟩ ((preamble script).filter isConditional)

def entryPoint? (script : List Entry) : Option String :=
  (preamble script).findSome? fun
    | .goto target => some (Text.trim target)
    | _ => none

def playsBeforeScenes : Entry → Bool
  | .narrative _ => true
  | .image _ => true
  | .option _ _ => true
  | .metadata key value => (Change.ofField? key value).isSome
  | _ => false

/-- Where a story without a start of its own begins, unless it begins with its first entry. -/
def implicitStart? (script : List Entry) : Option String :=
  match entryPoint? script with
  | some target => some target
  | none =>
    match (firstScene? script).bind fun place => (script[place]?).bind Entry.label? with
    | none => none
    | some label =>
      if (preamble script).any playsBeforeScenes || label == startLabel then none else some label

end Script

end Gamebook
