import Gamebook.Line

set_option autoImplicit false

namespace Gamebook

inductive StepError where
  | loop (place : Coordinate)
  | noScene (label : String)
  deriving DecidableEq, Repr

namespace StepError

def kind : StepError → String
  | .loop _ => "loop-detected"
  | .noScene _ => "scene-not-found"

def line : StepError → Line
  | .loop place => { id := "error-loop", sender := .system, text := "Infinite loop detected: " ++ place.id }
  | .noScene label => { id := "error-scene", sender := .system, text := "Scene " ++ label ++ " not found" }

end StepError

/-- What a step comes to. The prelude is what the preamble told and no line has taken up. -/
inductive Outcome where
  | line (line : Line) (place : Coordinate) (prelude : List String)
  | wait (place : Coordinate) (prelude : List String)
  | finished (prelude : List String)
  | failed (error : StepError)
  deriving DecidableEq, Repr

def Outcome.prelude : Outcome → List String
  | .line _ _ prelude => prelude
  | .wait _ prelude => prelude
  | .finished prelude => prelude
  | .failed _ => []

/-- The outcome of a step, unless a numeral was too long to be read or written, and the counters after it. -/
structure Stepped (σ : Type) where
  outcome : Except Text.NumeralTooLong Outcome
  state : σ

end Gamebook
