import Gamebook.Name
import Gamebook.Text.Digit

set_option autoImplicit false

namespace Gamebook

open Gamebook.Text

inductive Comparison where
  | atLeast
  | atMost
  | equal
  | unequal
  | above
  | below
  deriving DecidableEq, Repr

def Comparison.symbol : Comparison → String
  | .atLeast => ">="
  | .atMost => "<="
  | .equal => "=="
  | .unequal => "!="
  | .above => ">"
  | .below => "<"

def Comparison.compare : Comparison → Nat → Nat → Bool
  | .atLeast, a, b => b ≤ a
  | .atMost, a, b => a ≤ b
  | .equal, a, b => a == b
  | .unequal, a, b => a != b
  | .above, a, b => b < a
  | .below, a, b => a < b

structure Clause where
  name : String
  comparison : Comparison
  value : Nat
  deriving DecidableEq, Repr

inductive Query where
  | present (name : String)
  | reaches (name : String) (threshold : Nat)
  deriving DecidableEq, Repr

def Query.name : Query → String
  | .present name => name
  | .reaches name _ => name

def Query.threshold : Query → Nat
  | .present _ => 1
  | .reaches _ threshold => threshold

abbrev Oracle := Query → Bool

def Query.ofThreshold? (name : String) : Nat → Option Query
  | 0 => none
  | 1 => some (.present name)
  | n => some (.reaches name n)

def askReaches {m : Type → Type} [Monad m] (ask : Query → m Bool) (name : String) (threshold : Nat) :
    m Bool :=
  match Query.ofThreshold? name threshold with
  | none => pure true
  | some query => ask query

namespace Clause

/-- The counter reaches the value and not the next one; the second question needs a first yes. -/
def askEqual {m : Type → Type} [Monad m] (ask : Query → m Bool) (name : String) (value : Nat) :
    m Bool := do
  if ← askReaches ask name value then
    return !(← askReaches ask name (value + 1))
  else
    return false

def decideBy {m : Type → Type} [Monad m] (ask : Query → m Bool) (clause : Clause) : m Bool := do
  match clause.comparison with
  | .atLeast => askReaches ask clause.name clause.value
  | .below => return !(← askReaches ask clause.name clause.value)
  | .above => askReaches ask clause.name (clause.value + 1)
  | .atMost => return !(← askReaches ask clause.name (clause.value + 1))
  | .equal => askEqual ask clause.name clause.value
  | .unequal => return !(← askEqual ask clause.name clause.value)

end Clause

namespace Condition

def peel : List Char → List Char
  | '[' :: cs => if cs.getLast? == some ']' then trimChars cs.dropLast else '[' :: cs
  | cs => cs

def takeComparison? : List Char → Option (Comparison × List Char)
  | '>' :: '=' :: cs => some (.atLeast, cs)
  | '<' :: '=' :: cs => some (.atMost, cs)
  | '=' :: '=' :: cs => some (.equal, cs)
  | '!' :: '=' :: cs => some (.unequal, cs)
  | '>' :: cs => some (.above, cs)
  | '<' :: cs => some (.below, cs)
  | _ => none

def readComparison (name : String) (cs : List Char) : Except NumeralTooLong (Option Clause) :=
  match cs with
  | [] => .ok (some ⟨name, .atLeast, 1⟩)
  | cs =>
    match takeComparison? (dropBlanks cs) with
    | none => .ok none
    | some (comparison, rest) =>
      let digits := dropBlanks rest
      if digits.isEmpty || !digits.all isDigit then .ok none
      else (readNumeral digits).map fun value => some ⟨name, comparison, value⟩

def readClause (cs : List Char) : Except NumeralTooLong (Option Clause) :=
  match cs with
  | '!' :: cs =>
    match Name.take? (dropBlanks cs) with
    | some (name, []) => .ok (some ⟨String.ofList name, .below, 1⟩)
    | _ => .ok none
  | cs =>
    match Name.take? cs with
    | some (name, rest) => readComparison (String.ofList name) rest
    | none => .ok none

def readClauses : List (List Char) → Except NumeralTooLong (Option (List Clause))
  | [] => .ok (some [])
  | part :: parts => do
    match ← readClause (peel (trimChars part)) with
    | none => .ok none
    | some clause => return (← readClauses parts).map (clause :: ·)

def read (text : String) : Except NumeralTooLong (Option (List Clause)) :=
  readClauses (text.toList.splitOn '&')

def decideBy {m : Type → Type} [Monad m] (ask : Query → m Bool) (clauses : List Clause) : m Bool :=
  clauses.allM (Clause.decideBy ask)

def clauses? (text : String) : Option (List Clause) :=
  match read (trim text) with
  | .ok clauses => clauses
  | .error _ => none

def isReadable (text : String) : Bool := (read (trim text)).isOk

/-- Whether a condition holds. A malformed one never does. -/
def holds (ask : Oracle) (text : String) : Bool :=
  match clauses? text with
  | some clauses => Id.run (decideBy (fun query => pure (ask query)) clauses)
  | none => false

def askNoting (ask : Oracle) (query : Query) : StateM (List Query) Bool := do
  modify (· ++ [query])
  return ask query

def asked (ask : Oracle) (text : String) : List Query :=
  match clauses? text with
  | some clauses => ((decideBy (askNoting ask) clauses).run []).2
  | none => []

end Condition

end Gamebook
