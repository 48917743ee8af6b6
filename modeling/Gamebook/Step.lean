import Gamebook.Step.Progress

set_option autoImplicit false

namespace Gamebook

def Walk.run {σ : Type} (story : Story) (keeper : Keeper σ) (walk : Walk σ) : Stepped σ :=
  match moved : walk.move story keeper with
  | .inr stepped => stepped
  | .inl next =>
    have := Walk.remaining_lt (Walk.moves_of_move moved)
    next.run story keeper
termination_by walk.remaining story

/-- One step from a coordinate; a negative position is read as the first. -/
def step {σ : Type} (story : Story) (keeper : Keeper σ) (state : σ) (place : Coordinate) : Stepped σ :=
  Walk.run story keeper
    { scene := place.scene, index := place.index.toNat, visited := [], prelude := [], pending := true,
      state }

end Gamebook
