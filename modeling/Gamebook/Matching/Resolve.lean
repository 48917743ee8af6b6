import Gamebook.Matching.Choose
import Gamebook.Response
import Gamebook.Scene.Offers

set_option autoImplicit false

namespace Gamebook.Matching

structure Resolution where
  place : Coordinate
  optionText : String
  shown : List Shown
  changes : List Change
  means : Means
  suggestion : Option String

def nextPlace (place : Coordinate) : Option String → Coordinate
  | some target => ⟨target, 0⟩
  | none => place

def resolution (ask : Oracle) (place : Coordinate) (input : String) (offer : Offer) (means : Means) :
    Except Text.NumeralTooLong Resolution := do
  let (response, target) ← Response.ofBlock ask offer.response
  return {
    place := nextPlace place target
    optionText := offer.choice.text
    shown := response.shown
    changes := response.changes
    means
    suggestion :=
      match means with
      | .semantic _ => some (Text.trim input)
      | _ => none }

def resolve {σ : Type} (story : Story) (ask : Oracle) (matcher : Option (Matcher σ))
    (thresholds : Thresholds) (place : Coordinate) (input : String) :
    StateM σ (Except Text.NumeralTooLong (Option Resolution)) := do
  match story.offersAt ask place with
  | .error fault => return .error fault
  | .ok offers =>
    match ← choose matcher thresholds input (offers.map Offer.choice) with
    | none => return .ok none
    | some chosen =>
      match offers[chosen.index]? with
      | none => return .ok none
      | some offer => return (resolution ask place input offer chosen.means).map some

end Gamebook.Matching
