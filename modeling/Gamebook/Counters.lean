import Gamebook.Change
import Gamebook.Condition
import Gamebook.Json.Basic

set_option autoImplicit false

namespace Gamebook

structure Counters where
  entries : List (String × Nat) := []
  deriving DecidableEq, Repr

namespace Counters

def get (counters : Counters) (name : String) : Nat :=
  (counters.entries.lookup (Name.normalize name)).getD 0

def reaches (counters : Counters) (name : String) (threshold : Int) : Bool :=
  threshold ≤ counters.get name

def reachesFloat (counters : Counters) (name : String) (threshold : Float) : Bool :=
  match Number.view threshold with
  | .finite value => value.ceiling ≤ counters.get name
  | .infinite negative => negative
  | .notANumber => false

def put (counters : Counters) (key : String) (count : Nat) : Counters := ⟨Keyed.put counters.entries key count⟩

def erase (counters : Counters) (key : String) : Counters :=
  ⟨counters.entries.filter (·.1 != key)⟩

def increment (counters : Counters) (name : String) : Counters :=
  counters.put (Name.normalize name) (counters.get name + 1)

def decrement (counters : Counters) (name : String) : Counters :=
  if counters.get name ≤ 1 then counters.erase (Name.normalize name)
  else counters.put (Name.normalize name) (counters.get name - 1)

def apply (counters : Counters) : Change → Counters
  | .sets name => counters.increment name
  | .unsets name => counters.decrement name

def applyAll (counters : Counters) (changes : List Change) : Counters :=
  changes.foldl apply counters

def answer (counters : Counters) (query : Query) : Bool :=
  query.threshold ≤ counters.get query.name

def ofInts (initial : List (String × Int)) : Counters :=
  initial.foldl
    (fun counters entry =>
      if 0 < entry.2 then counters.put (Name.normalize entry.1) entry.2.toNat else counters) {}

def startOf (amount : Json) : Except Json.NumberFault (Option Nat) :=
  match amount with
  | .float x => if 0.0 < x then (Json.truncate x).map fun n => some n.toNat else .ok none
  | amount => amount.toInt.map fun n => if 0 < n then some n.toNat else none

/-- Counters that start with the positive ones of the given amounts; of two with one name the last
counts, at the place of the first. -/
def ofAmounts (initial : Fields) : Except Json.NumberFault Counters :=
  -- Names that differ only in case or blanks meet here, after equal ones have been put together.
  (Fields.update [] initial).foldlM
    (fun counters entry => do
      match ← startOf entry.2 with
      | some count => return counters.put (Name.normalize entry.1) count
      | none => return counters) {}

def display (counters : Counters) : List String :=
  (counters.entries.mergeSort fun a b => !(b.1 < a.1)).map fun entry =>
    if 1 < entry.2 then s!"{entry.1} ({entry.2})" else entry.1

end Counters

/-- Whatever keeps the counters during play: it answers questions and takes changes. -/
structure Keeper (σ : Type) where
  answer : σ → Oracle
  change : σ → Change → σ

def Counters.keeper : Keeper Counters := ⟨answer, apply⟩

def Keeper.idle (σ : Type) : Keeper σ := ⟨fun _ _ => false, fun state _ => state⟩

end Gamebook
