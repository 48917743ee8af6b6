import Gamebook.Step

set_option autoImplicit false

namespace Gamebook

inductive PassageFault where
  | numeralTooLong
  | lostPlace
  deriving DecidableEq, Repr

def placeAfterLine (id : String) : Except PassageFault Coordinate :=
  match Coordinate.ofId id with
  | .error _ => .error .numeralTooLong
  | .ok none => .error .lostPlace
  | .ok (some place) => .ok place.next

def passage {σ : Type} (story : Story) (keeper : Keeper σ) :
    Nat → σ → Coordinate → Except PassageFault (List Outcome) × σ
  | 0, state, _ => (.ok [], state)
  | count + 1, state, place =>
    let stepped := step story keeper state place
    match stepped.outcome with
    | .error _ => (.error .numeralTooLong, stepped.state)
    | .ok (.line line shownAt prelude) =>
      match placeAfterLine line.id with
      | .error fault => (.error fault, stepped.state)
      | .ok next =>
        let (outcomes, state) := passage story keeper count stepped.state next
        (outcomes.map (.line line shownAt prelude :: ·), state)
    | .ok outcome => (.ok [outcome], stepped.state)

end Gamebook
