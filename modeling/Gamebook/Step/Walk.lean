import Gamebook.Scene.Preamble
import Gamebook.Step.Outcome

set_option autoImplicit false

namespace Gamebook

/-- A step on its way: where it is, where it has been, and whether the preamble is still to be run. -/
structure Walk (σ : Type) where
  scene : String
  index : Nat
  visited : List (String × Nat)
  prelude : List String
  pending : Bool
  state : σ

namespace Walk

def place {σ : Type} (walk : Walk σ) : Coordinate := ⟨walk.scene, walk.index⟩

def note {σ : Type} (walk : Walk σ) : Walk σ :=
  { walk with visited := (walk.scene, walk.index) :: walk.visited }

def stop {σ : Type} (walk : Walk σ) (outcome : Outcome) : Walk σ ⊕ Stepped σ :=
  .inr ⟨.ok outcome, walk.state⟩

def giveUp {σ : Type} (walk : Walk σ) : Walk σ ⊕ Stepped σ := .inr ⟨.error {}, walk.state⟩

/-- An outcome that names the place of the walk. -/
def naming {σ : Type} (walk : Walk σ) (outcome : Outcome) : Except Text.NumeralTooLong Outcome :=
  if walk.place.isWritable then .ok outcome else .error {}

def stopHere {σ : Type} (walk : Walk σ) (outcome : Outcome) : Walk σ ⊕ Stepped σ :=
  .inr ⟨walk.naming outcome, walk.state⟩

def tell {σ : Type} (walk : Walk σ) (text : String) : String :=
  "\n".intercalate (walk.prelude ++ [text])

/-- Follows a jump. A jump to the end is the end of the story, unless the end is a scene that has not
begun. -/
def follow {σ : Type} (story : Story) (walk : Walk σ) (target : String) : Walk σ ⊕ Stepped σ :=
  if target == endLabel && (walk.scene == endLabel || !story.hasScene endLabel) then
    walk.stop (.finished walk.prelude)
  else .inl { walk with scene := target, index := 0 }

def play {σ : Type} (story : Story) (keeper : Keeper σ) (walk : Walk σ) : Beat → Walk σ ⊕ Stepped σ
  | .change change =>
    .inl { walk with index := walk.index + 1, state := keeper.change walk.state change }
  | .jump target => walk.follow story target
  | .image url =>
    walk.stopHere (.line { id := walk.place.id, sender := .narrator, text := url, kind := .image }
      walk.place walk.prelude)
  | .narrative text =>
    walk.stopHere (.line { id := walk.place.id, sender := .narrator, text := walk.tell text } walk.place [])

/-- Plays the position at the place of a walk. Out of content a story waits where it is, and the scene of
the end ends. -/
def playPosition {σ : Type} (story : Story) (keeper : Keeper σ) (walk : Walk σ)
    (positions : List Position) : Walk σ ⊕ Stepped σ :=
  match positions[walk.index]? with
  | none =>
    if walk.scene == endLabel then walk.stop (.finished walk.prelude)
    else walk.stop (.wait walk.place walk.prelude)
  | some .skip => .inl { walk with index := walk.index + 1 }
  | some (.wait _) => walk.stop (.wait walk.place walk.prelude)
  | some (.beat beat) => walk.play story keeper beat

def playScene {σ : Type} (story : Story) (keeper : Keeper σ) (walk : Walk σ) (begins : Int) :
    Walk σ ⊕ Stepped σ :=
  match layout? (keeper.answer walk.state) (story.body begins) with
  | .error _ => walk.giveUp
  | .ok positions => walk.playPosition story keeper positions

/-- Plays on in a scene of the story; a start without a header begins where the script says. -/
def enter {σ : Type} (story : Story) (keeper : Keeper σ) (walk : Walk σ) (begins : Int) :
    Walk σ ⊕ Stepped σ :=
  if walk.scene == startLabel && !story.hasScene startLabel then
    match Script.implicitStart? story.script with
    -- The position is kept, so a coordinate in the start is one in the scene it stands for.
    | some start => .inl { walk with scene := start }
    | none => walk.playScene story keeper begins
  else walk.playScene story keeper begins

def openScene {σ : Type} (story : Story) (keeper : Keeper σ) (walk : Walk σ) (begins : Int) :
    Walk σ ⊕ Stepped σ :=
  let (telling, exit) := Script.runPreamble keeper walk.state story.script
  let walk :=
    { walk with prelude := walk.prelude ++ telling.told, pending := false, state := telling.state }
  match exit with
  | some .unreadable => walk.giveUp
  | some (.jump target) =>
    -- A jump to the scene being entered changes nothing.
    if target == walk.scene then walk.enter story keeper begins
    else .inl { walk with scene := target, index := 0 }
  | none => walk.enter story keeper begins

/-- One move of a step: to another place, or to its outcome. -/
def move {σ : Type} (story : Story) (keeper : Keeper σ) (walk : Walk σ) : Walk σ ⊕ Stepped σ :=
  if walk.visited.contains (walk.scene, walk.index) then walk.stopHere (.failed (.loop walk.place))
  else if walk.scene == endLabel && !story.hasScene endLabel then
    walk.note.stop (.finished walk.prelude)
  else
    match story.scenes.get? walk.scene with
    | none => walk.note.stop (.failed (.noScene walk.scene))
    | some begins =>
      if walk.index == 0 && walk.pending then walk.note.openScene story keeper begins
      else walk.note.enter story keeper begins

end Walk

end Gamebook
