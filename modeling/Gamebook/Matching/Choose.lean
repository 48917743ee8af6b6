import Gamebook.Matching.Words

set_option autoImplicit false

namespace Gamebook.Matching

structure SemanticMatch where
  matched : Bool := false
  index : Option Int := none
  confidence : Float := 0.0
  normalizedInput : Option String := none

/-- A matcher of meaning, with the state it keeps between calls. It may fail. -/
abbrev Matcher (σ : Type) := String → List Choice → StateM σ (Option SemanticMatch)

inductive Means where
  | exact (phrase : Option String)
  | keyword (phrase : Option String)
  | semantic (confidence : Float)

def Means.tier : Means → String
  | .exact _ => "exact"
  | .keyword _ => "keyword"
  | .semantic _ => "semantic"

def Means.phrase? : Means → Option String
  | .exact phrase => phrase
  | .keyword phrase => phrase
  | .semantic _ => none

def Means.confidence? : Means → Option Float
  | .semantic confidence => some confidence
  | _ => none

structure Chosen where
  index : Nat
  means : Means

structure Thresholds where
  confidence : Float := 0.7
  score : Int := 1

/-- The choice that an answer names, if there is one and the matcher is sure enough. -/
def SemanticMatch.accept? (answer : SemanticMatch) (count : Nat) (least : Float) : Option Chosen :=
  match answer.index with
  | none => none
  | some index =>
    if answer.matched && 0 ≤ index && index < count && least ≤ answer.confidence then
      some ⟨index.toNat, .semantic answer.confidence⟩
    else none

def byWords? (input : String) (choices : List Choice) (least : Int) : Option Chosen :=
  match exactHit? input choices with
  | some hit => some ⟨hit.index, .exact hit.phrase⟩
  | none => (keywordHit? input choices least).map fun hit => ⟨hit.index, .keyword hit.phrase⟩

def choose {σ : Type} (matcher : Option (Matcher σ)) (thresholds : Thresholds) (input : String)
    (choices : List Choice) : StateM σ (Option Chosen) := do
  if choices.isEmpty then return none
  match byWords? input choices thresholds.score with
  | some chosen => return some chosen
  | none =>
    match matcher with
    | none => return none
    | some ask =>
      match ← ask input choices with
      | none => return none
      | some answer => return answer.accept? choices.length thresholds.confidence

end Gamebook.Matching
