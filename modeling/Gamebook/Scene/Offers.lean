import Gamebook.Line
import Gamebook.Scene.Preamble

set_option autoImplicit false

namespace Gamebook

def nextOffers? : List Position → Option (List Offer)
  | [] => none
  | .wait offers :: _ => some offers
  | .beat (.jump _) :: _ => some []
  | _ :: positions => nextOffers? positions

def offersFrom (index : Nat) (positions : List Position) : List Offer :=
  (nextOffers? (positions.drop index)).getD (positions.flatMap Position.offers)

namespace Story

/-- The scene that a label stands for: a start without a header stands for where the script begins. -/
def resolve (story : Story) (label : String) : String :=
  if label == startLabel && !story.hasScene startLabel then
    match Script.implicitStart? story.script with
    | some start => if start.isEmpty then startLabel else start
    | none => startLabel
  else label

def offersAt (story : Story) (ask : Oracle) (place : Coordinate) :
    Except Text.NumeralTooLong (List Offer) :=
  match story.scenes.get? (story.resolve place.scene) with
  | none => .ok []
  | some begins =>
    if begins < 0 then .ok []
    else (layout? ask (story.body begins)).map (offersFrom place.index.toNat)

end Story

end Gamebook
