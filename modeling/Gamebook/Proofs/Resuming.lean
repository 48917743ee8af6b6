import Gamebook.Proofs.Identifiers
import Gamebook.Proofs.StepEnds
import Gamebook.Step.Passage

set_option autoImplicit false

namespace Gamebook

def Outcome.told? : Outcome → Option Line
  | .line told _ _ => some told
  | _ => none

def Position.change? : Position → Option Change
  | .beat (.change change) => some change
  | _ => none

namespace Coordinate

def Findable (scene : String) (index : Nat) : Prop :=
  Nameable scene ∧ (Nat.toDigits 10 index).length ≤ Text.numeralLimit

theorem placeAfterLine_id (scene : String) (index : Nat) :
    (Findable scene index ∧ placeAfterLine (id ⟨scene, index⟩) = .ok ⟨scene, (index + 1 : Nat)⟩) ∨
      (¬Findable scene index ∧ ∃ fault, placeAfterLine (id ⟨scene, index⟩) = .error fault) := by
  unfold placeAfterLine Findable
  rw [ofId_id]
  by_cases named : Nameable scene
  next =>
    by_cases short : (Nat.toDigits 10 index).length ≤ Text.numeralLimit
    next => exact .inl ⟨⟨named, short⟩, by simp [named, short, next]⟩
    next => exact .inr ⟨by simp [short], by simp [named, short]⟩
  next => exact .inr ⟨by simp [named], by simp [named]⟩

end Coordinate

structure Story.Stands (story : Story) (scene : String) : Prop where
  known : ∃ begins, story.scenes.get? scene = some begins
  lasts : (scene == endLabel && !story.hasScene endLabel) = false
  settled : story.standIn? scene = none

theorem Story.stands_of_hasScene {story : Story} {scene : String} (has : story.hasScene scene = true) :
    story.Stands scene := by
  constructor
  next =>
    cases known : story.scenes.get? scene with
    | none => simp [Story.hasScene, known] at has
    | some begins => exact ⟨begins, rfl⟩
  next =>
    by_cases ending : scene = endLabel
    next => simp [← ending, has]
    next => simp [ending]
  next =>
    unfold Story.standIn?
    by_cases starting : scene = startLabel
    next => simp [← starting, has]
    next => simp [starting]

namespace Walk

variable {σ : Type} {story : Story} {keeper : Keeper σ}

-- The preamble leads to another scene, or breaks off.
def leaves (story : Story) (keeper : Keeper σ) (walk : Walk σ) : Bool :=
  match walk.exit? story keeper with
  | none => false
  | some .unreadable => true
  | some (.jump target) => target != walk.scene

def met? (story : Story) (keeper : Keeper σ) (walk : Walk σ) : Option Position :=
  if walk.leaves story keeper then none
  else
    (story.scenes.get? walk.scene).bind fun begins =>
      match layout? (keeper.answer (walk.opened story keeper).state) (story.body begins) with
      | .error _ => none
      | .ok positions => positions[walk.index]?

def lineOf? (walk : Walk σ) : Position → Option Line
  | .beat (.narrative text) =>
    if walk.place.isWritable then some { id := walk.place.id, sender := .narrator, text := walk.tell text } else none
  | .beat (.image url) =>
    if walk.place.isWritable then some { id := walk.place.id, sender := .narrator, text := url, kind := .image }
    else none
  | _ => none

def line? : Walk σ ⊕ Stepped σ → Option Line
  | .inl _ => none
  | .inr stepped => stepped.outcome.toOption.bind Outcome.told?

def jumps (story : Story) (keeper : Keeper σ) (walk : Walk σ) : Bool :=
  walk.leaves story keeper || ((walk.met? story keeper).bind Position.jump?).isSome

def resumed? (stepped : Stepped σ) : Option (Walk σ) :=
  match stepped.outcome with
  | .ok (.line line _ _) => (placeAfterLine line.id).toOption.map (start stepped.state)
  | _ => none

def sequel? (story : Story) (keeper : Keeper σ) (walk : Walk σ) : Option (Walk σ) :=
  match walk.move story keeper with
  | .inl next => if walk.jumps story keeper then none else some next
  | .inr stepped => resumed? stepped

def ahead? (story : Story) (keeper : Keeper σ) : Nat → Walk σ → Option (Walk σ)
  | 0, walk => some walk
  | count + 1, walk => (walk.sequel? story keeper).bind (ahead? story keeper count)

def trail (story : Story) (keeper : Keeper σ) : Nat → Walk σ → List (Walk σ)
  | 0, _ => []
  | count + 1, walk =>
    walk ::
      match walk.sequel? story keeper with
      | none => []
      | some next => trail story keeper count next

structure Inside (story : Story) (label : String) (walk : Walk σ) : Prop where
  stands : story.Stands label
  scene : walk.scene = label
  ahead : ∀ index, (label, index) ∈ walk.visited → index < walk.index

theorem Inside.comes {label : String} {walk : Walk σ} (inside : walk.Inside story label) :
    ∃ begins, walk.Comes story begins ∧ story.standIn? walk.scene = none := by
  obtain ⟨stands, scene, ahead⟩ := inside
  subst scene
  have fresh : (walk.scene, walk.index) ∉ walk.visited := by
    intro seen
    have := ahead walk.index seen
    omega
  obtain ⟨begins, known⟩ := stands.known
  exact ⟨begins, ⟨fresh, stands.lasts, known⟩, stands.settled⟩

theorem Inside.stays {label : String} {walk : Walk σ} (inside : walk.Inside story label)
    (keeps : walk.leaves story keeper = false) : ∃ begins, walk.Stays story keeper begins := by
  obtain ⟨begins, comes, settled⟩ := inside.comes
  refine ⟨begins, comes, settled, ?_⟩
  unfold leaves at keeps
  split at keeps
  next exit => exact .inl exit
  next => cases keeps
  next target exit =>
    have same : target = walk.scene := by simpa using keeps
    exact .inr (same ▸ exit)

-- A walk that is led away neither tells a line nor goes on.
theorem Inside.move_of_leaves {label : String} {walk : Walk σ} (inside : walk.Inside story label)
    (led : walk.leaves story keeper = true) :
    line? (walk.move story keeper) = none ∧ walk.sequel? story keeper = none := by
  obtain ⟨begins, comes, -⟩ := inside.comes
  have jumps : walk.jumps story keeper = true := by simp [jumps, led]
  have move : walk.move story keeper = _ := comes.move
  unfold leaves at led
  split at led
  next => cases led
  next exit =>
    rw [exit] at move
    simp [line?, sequel?, move, giveUp, resumed?, Except.toOption]
  next target exit =>
    have other : (target == walk.scene) = false := by simpa using led
    rw [exit] at move
    simp [line?, sequel?, move, other, jumps]

def onward? (keeper : Keeper σ) (walk : Walk σ) : Position → Option (Walk σ)
  | .skip => some { walk with index := walk.index + 1 }
  | .beat (.change change) =>
    some { walk with index := walk.index + 1, state := keeper.change walk.state change }
  | .beat (.narrative _) | .beat (.image _) => (placeAfterLine walk.place.id).toOption.map (start walk.state)
  | .beat (.jump _) | .wait _ => none

theorem line?_follow (walk : Walk σ) (target : String) : line? (walk.follow story target) = none := by
  unfold follow
  split <;> rfl

theorem line?_naming (walk : Walk σ) (line : Line) (shownAt : Coordinate) (prelude : List String) :
    line? (walk.stopHere (.line line shownAt prelude)) = if walk.place.isWritable then some line else none := by
  rw [stopHere, line?, naming]
  split <;> rfl

theorem line?_playPosition (walk : Walk σ) (positions : List Position) :
    line? (walk.playPosition story keeper positions) = positions[walk.index]?.bind walk.lineOf? := by
  unfold playPosition
  cases positions[walk.index]? with
  | none =>
    dsimp only
    split <;> rfl
  | some position =>
    cases position with
    | wait | skip => rfl
    | beat beat =>
      cases beat with
      | narrative | image => exact line?_naming walk _ _ _
      | change => rfl
      | jump target => exact line?_follow walk target

theorem resumed?_follow {walk : Walk σ} {target : String} {stepped : Stepped σ}
    (stops : walk.follow story target = .inr stepped) : resumed? stepped = none := by
  unfold follow at stops
  split at stops
  next =>
    cases stops
    rfl
  next => cases stops

-- A place that cannot be written is not found again either, so the identifier alone decides.
theorem resumed?_naming (walk : Walk σ) {line : Line} (same : line.id = walk.place.id) (shownAt : Coordinate)
    (prelude : List String) :
    resumed? ⟨walk.naming (.line line shownAt prelude), walk.state⟩ =
      (placeAfterLine walk.place.id).toOption.map (start walk.state) := by
  unfold naming
  split
  next => rw [← same, resumed?]
  next unwritten =>
    rcases Coordinate.placeAfterLine_id walk.scene walk.index with ⟨findable, -⟩ | ⟨-, fault, lost⟩
    next => exact absurd (decide_eq_true findable.2) unwritten
    next => simp [place, lost, resumed?, Except.toOption]

theorem sequel?_of_playPosition {walk after : Walk σ} {positions : List Position}
    (move : walk.move story keeper = after.playPosition story keeper positions)
    (jumps : walk.jumps story keeper = (positions[after.index]?.bind Position.jump?).isSome) :
    walk.sequel? story keeper = positions[after.index]?.bind (after.onward? keeper) := by
  unfold sequel?
  rw [move, jumps, playPosition]
  cases positions[after.index]? with
  | none =>
    dsimp only
    cases after.scene == endLabel <;> rfl
  | some position =>
    cases position with
    | wait | skip => rfl
    | beat beat =>
      cases beat with
      | narrative | image => exact resumed?_naming after rfl _ _
      | change => rfl
      | jump target =>
        rcases jumped : after.follow story target with next | stepped
        next => simp [play, jumped, Position.jump?, onward?]
        next => simp [play, jumped, resumed?_follow jumped, onward?]

theorem Stays.met?_eq {walk : Walk σ} {begins : Int} (stays : walk.Stays story keeper begins)
    (keeps : walk.leaves story keeper = false) :
    walk.met? story keeper =
      match layout? (keeper.answer (walk.opened story keeper).state) (story.body begins) with
      | .error _ => none
      | .ok positions => positions[walk.index]? := by
  rw [met?, keeps, stays.known]
  rfl

theorem Inside.line?_and_sequel? {label : String} {walk : Walk σ} (inside : walk.Inside story label) :
    line? (walk.move story keeper) = (walk.met? story keeper).bind (walk.opened story keeper).lineOf? ∧
      walk.sequel? story keeper = (walk.met? story keeper).bind ((walk.opened story keeper).onward? keeper) := by
  cases keeps : walk.leaves story keeper with
  | true =>
    obtain ⟨quiet, stops⟩ := inside.move_of_leaves keeps
    rw [quiet, stops, met?, keeps]
    exact ⟨rfl, rfl⟩
  | false =>
    obtain ⟨begins, stays⟩ := inside.stays keeps
    have move := stays.move
    have jumping : walk.jumps story keeper = ((walk.met? story keeper).bind Position.jump?).isSome := by
      rw [jumps, keeps, Bool.false_or]
    rw [stays.met?_eq keeps] at jumping ⊢
    rw [playScene] at move
    cases laid : layout? (keeper.answer (walk.opened story keeper).state) (story.body begins) with
    | error =>
      rw [laid] at move
      simp [line?, sequel?, move, giveUp, resumed?, Except.toOption]
    | ok positions =>
      rw [laid] at move jumping
      dsimp only at move jumping ⊢
      have here := @opened_index _ story keeper walk
      rw [← here] at jumping ⊢
      exact ⟨by rw [move, line?_playPosition], sequel?_of_playPosition move jumping⟩

-- What one position does to a run that goes on after it.
structure GoesPast (story : Story) (keeper : Keeper σ) (label : String) (walk next : Walk σ) : Prop where
  inside : next.Inside story label
  index : next.index = walk.index + 1
  state : next.state =
    ((walk.met? story keeper).bind Position.change?).toList.foldl keeper.change (walk.opened story keeper).state
  prelude : next.prelude =
    if (line? (walk.move story keeper)).isSome then [] else (walk.opened story keeper).prelude

theorem Inside.goesPast {label : String} {walk next : Walk σ} (inside : walk.Inside story label)
    (follows : walk.sequel? story keeper = some next) : GoesPast story keeper label walk next := by
  obtain ⟨tells, goes⟩ := @Inside.line?_and_sequel? _ story keeper label walk inside
  obtain ⟨stands, rfl, ahead⟩ := inside
  have noted : ∀ index, (walk.scene, index) ∈ (walk.opened story keeper).visited → index < walk.index + 1 := by
    intro index seen
    rw [opened_visited, List.mem_cons, Prod.mk.injEq] at seen
    rcases seen with ⟨-, rfl⟩ | before
    next => omega
    next => exact Nat.lt_succ_of_lt (ahead index before)
  rw [goes, Option.bind_eq_some_iff] at follows
  obtain ⟨position, met, onward⟩ := follows
  rw [met] at tells
  cases position with
  | wait => cases onward
  | skip =>
    cases onward
    exact ⟨⟨stands, opened_scene walk, by simpa using noted⟩, by simp, by simp [met, Position.change?],
      by simp [tells, lineOf?]⟩
  | beat beat =>
    cases beat with
    | jump => cases onward
    | change change =>
      cases onward
      exact ⟨⟨stands, opened_scene walk, by simpa using noted⟩, by simp, by simp [met, Position.change?],
        by simp [tells, lineOf?]⟩
    | narrative | image =>
      rw [onward?, opened_place, place] at onward
      rcases Coordinate.placeAfterLine_id walk.scene walk.index with ⟨findable, found⟩ | ⟨-, fault, lost⟩
      next =>
        have written : walk.place.isWritable = true := decide_eq_true findable.2
        rw [found] at onward
        cases onward
        exact ⟨⟨stands, rfl, fun _ seen => absurd seen List.not_mem_nil⟩, rfl, by simp [met, Position.change?, start],
          by simp [tells, lineOf?, written, start]⟩
      next =>
        rw [lost] at onward
        cases onward

theorem GoesPast.opened_eq {label : String} {walk next : Walk σ} (past : GoesPast story keeper label walk next) :
    next.opened story keeper = next.note := by
  have index := past.index
  exact opened_eq_note fun first => by omega

theorem trail_succ {walk next : Walk σ} (follows : walk.sequel? story keeper = some next) (count : Nat) :
    walk.trail story keeper (count + 1) = walk :: next.trail story keeper count := by
  rw [trail, follows]

/-- What a run has come to after some positions: their places, the lines told at them, and their changes made, each in
order. The preamble tells before the first of the lines. -/
structure InOrder (story : Story) (keeper : Keeper σ) (label : String) (first walk : Walk σ) (count : Nat) : Prop where
  inside : walk.Inside story label
  index : walk.index = first.index + count
  places : (first.trail story keeper count).map place =
    (List.range' first.index count).map fun index => ⟨label, index⟩
  lines : (first.trail story keeper count).filterMap (fun walk => line? (walk.move story keeper)) =
    (first.trail story keeper count).filterMap fun walk =>
      (walk.met? story keeper).bind (walk.opened story keeper).lineOf?
  state : (walk.opened story keeper).state =
    ((first.trail story keeper count).filterMap fun walk =>
      (walk.met? story keeper).bind Position.change?).foldl keeper.change (first.opened story keeper).state
  prelude : (walk.opened story keeper).prelude =
    if ((first.trail story keeper count).filterMap fun walk => line? (walk.move story keeper)).isEmpty then
      (first.opened story keeper).prelude
    else []

theorem Inside.inOrder {label : String} {first walk : Walk σ} {count : Nat} (inside : first.Inside story label)
    (reached : first.ahead? story keeper count = some walk) : InOrder story keeper label first walk count := by
  induction count generalizing first with
  | zero =>
    cases reached
    exact ⟨inside, rfl, rfl, rfl, rfl, rfl⟩
  | succ count ih =>
    obtain ⟨next, follows, reached⟩ := Option.bind_eq_some_iff.mp reached
    have past := inside.goesPast follows
    have rest := ih past.inside reached
    have opened_eq := past.opened_eq
    have further := past.index
    have index := rest.index
    refine ⟨rest.inside, by omega, ?_, ?_, ?_, ?_⟩ <;> rw [trail_succ follows]
    next =>
      rw [List.map_cons, rest.places, past.index, List.range'_succ, List.map_cons, place, inside.scene]
    next => rw [List.filterMap_cons, List.filterMap_cons, rest.lines, (inside.line?_and_sequel?).1]
    next =>
      rw [rest.state, opened_eq, note, past.state, List.filterMap_cons]
      cases (first.met? story keeper).bind Position.change? <;> rfl
    next =>
      rw [rest.prelude, opened_eq, note, past.prelude, List.filterMap_cons]
      cases line? (first.move story keeper) <;> simp

theorem resumed?_eq_some {stepped : Stepped σ} {next : Walk σ} (goes : resumed? stepped = some next) :
    ∃ line shownAt prelude place, stepped.outcome = .ok (.line line shownAt prelude) ∧
      placeAfterLine line.id = .ok place ∧ next = start stepped.state place := by
  unfold resumed? at goes
  split at goes
  next line shownAt prelude told =>
    cases found : placeAfterLine line.id with
    | error => simp [found, Except.toOption] at goes
    | ok place =>
      simp only [found, Except.toOption, Option.map_some, Option.some.injEq] at goes
      exact ⟨line, shownAt, prelude, place, told, found, goes.symm⟩
  next => cases goes

theorem passage_of_line {state : σ} {place next : Coordinate} {line : Line} {shownAt : Coordinate}
    {prelude : List String} (told : (step story keeper state place).outcome = .ok (.line line shownAt prelude))
    (found : placeAfterLine line.id = .ok next) (count : Nat) :
    passage story keeper (count + 1) state place =
      ((passage story keeper count (step story keeper state place).state next).1.map
          (.line line shownAt prelude :: ·),
        (passage story keeper count (step story keeper state place).state next).2) := by
  rw [passage]
  simp only [told, found]

theorem map_append_cons (outcome : Outcome) (outcomes : List Outcome) (rest : Except PassageFault (List Outcome)) :
    (rest.map (outcomes ++ ·)).map (outcome :: ·) = rest.map (outcome :: outcomes ++ ·) := by
  cases rest <;> rfl

-- The step that a walk belongs to began at some coordinate, and the steps before it came to the lines.
theorem passage_of_trail {first walk : Walk σ} {count : Nat} {state : σ} {place : Coordinate}
    (begun : step story keeper state place = first.run story keeper)
    (reached : first.ahead? story keeper count = some walk) :
    ∃ (outcomes : List Outcome) (counted : σ) (resumed : Coordinate),
      outcomes.map Outcome.told? =
        ((first.trail story keeper count).filterMap fun walk => line? (walk.move story keeper)).map some ∧
      step story keeper counted resumed = walk.run story keeper ∧
      ∀ more, passage story keeper (outcomes.length + more) state place =
        ((passage story keeper more counted resumed).1.map (outcomes ++ ·),
          (passage story keeper more counted resumed).2) := by
  induction count generalizing first state place with
  | zero =>
    cases reached
    refine ⟨[], state, place, rfl, begun, fun more => ?_⟩
    rw [List.length_nil, Nat.zero_add]
    rcases passage story keeper more state place with ⟨_ | _, _⟩ <;> rfl
  | succ count ih =>
    obtain ⟨next, follows, reached⟩ := Option.bind_eq_some_iff.mp reached
    rw [trail_succ follows, List.filterMap_cons]
    unfold sequel? at follows
    rcases move : first.move story keeper with after | stepped
    next =>
      rw [move] at follows
      obtain ⟨-, same⟩ := Option.ite_none_left_eq_some.mp follows
      cases same
      exact ih (begun.trans (run_of_inl move)) reached
    next =>
      rw [move] at follows
      obtain ⟨line, shownAt, prelude, after, told, found, rfl⟩ := resumed?_eq_some follows
      obtain ⟨outcomes, counted, resumed, lines, here, onward⟩ :=
        ih (step_eq_run story keeper stepped.state after) reached
      have stops : step story keeper state place = stepped := begun.trans (run_of_inr move)
      refine ⟨.line line shownAt prelude :: outcomes, counted, resumed, ?_, here, fun more => ?_⟩
      next =>
        rw [List.map_cons, lines]
        simp only [line?, told]
        rfl
      next =>
        rw [List.length_cons, Nat.add_right_comm, passage_of_line (stops ▸ told) found, stops, onward more,
          map_append_cons]

theorem Inside.state_of_stop {label : String} {walk : Walk σ} {stepped : Stepped σ}
    (inside : walk.Inside story label) (stops : walk.move story keeper = .inr stepped) :
    stepped.state = (walk.opened story keeper).state := by
  obtain ⟨begins, comes, settled⟩ := inside.comes
  by_cases broken : walk.exit? story keeper = some .unreadable
  next =>
    rw [comes.move, broken] at stops
    cases stops
    rfl
  next =>
    rw [(comes.stays_of_stop stops broken).move, playScene] at stops
    split at stops
    next =>
      cases stops
      rfl
    next =>
      obtain ⟨result, rfl, -⟩ := stops_of_playPosition stops
      rfl

end Walk

/-- A run ends at a position: at a wait, at a jump, and at a line that does not say where it stands. -/
def Position.Halts (label : String) (index : Nat) : Position → Prop
  | .wait _ | .beat (.jump _) => True
  | .beat (.narrative _) | .beat (.image _) => ¬Coordinate.Findable label index
  | .skip | .beat (.change _) => False

theorem Walk.Inside.sequel?_eq_none {σ : Type} {story : Story} {keeper : Keeper σ} {label : String} {walk : Walk σ}
    (inside : walk.Inside story label) :
    walk.sequel? story keeper = none ↔
      ∀ position, walk.met? story keeper = some position → position.Halts label walk.index := by
  have onward (position : Position) :
      (walk.opened story keeper).onward? keeper position = none ↔ position.Halts label walk.index := by
    cases position with
    | wait | skip => simp [onward?, Position.Halts]
    | beat beat =>
      cases beat with
      | jump | change => simp [onward?, Position.Halts]
      | narrative | image =>
        rw [onward?, opened_place, place, inside.scene]
        rcases Coordinate.placeAfterLine_id label walk.index with ⟨findable, found⟩ | ⟨lost, fault, failed⟩
        next => simp [found, findable, Position.Halts, Except.toOption]
        next => simp [failed, lost, Position.Halts, Except.toOption]
  rw [(inside.line?_and_sequel?).2, Option.bind_eq_none_iff]
  exact forall₂_congr fun position _ => onward position

theorem Walk.opened_start {σ : Type} (story : Story) (keeper : Keeper σ) (state : σ) (label : String) (index : Nat) :
    let opening : Telling σ := if index = 0 then (Script.runPreamble keeper state story.script).1 else ⟨[], state⟩
    ((start state ⟨label, index⟩).opened story keeper).prelude = opening.told ∧
      ((start state ⟨label, index⟩).opened story keeper).state = opening.state := by
  by_cases enters : index = 0 <;> simp [opened, start, note, enters]

/-- However many steps it takes, a run through a scene of the script meets the positions from the one it begins at,
one after the other and none twice. It tells the narratives and images it meets and makes the changes it meets, in
order, and goes on until it comes to a wait, to a jump or past the last position. -/
theorem positions_met_in_order {σ : Type} (story : Story) (keeper : Keeper σ) (state : σ) (label : String)
    (index count : Nat) (walk : Walk σ) (stands : story.hasScene label = true)
    (reached : (Walk.start state ⟨label, index⟩).ahead? story keeper count = some walk) :
    let trail := (Walk.start state ⟨label, index⟩).trail story keeper count
    let lines := trail.filterMap fun walk => Walk.line? (walk.move story keeper)
    let opening : Telling σ := if index = 0 then (Script.runPreamble keeper state story.script).1 else ⟨[], state⟩
    trail.map Walk.place = (List.range' index count).map (fun index => ⟨label, index⟩) ∧
    walk.place = ⟨label, (index + count : Nat)⟩ ∧
    (lines = trail.filterMap fun walk => (walk.met? story keeper).bind (walk.opened story keeper).lineOf?) ∧
    Walk.line? (walk.move story keeper) = (walk.met? story keeper).bind (walk.opened story keeper).lineOf? ∧
    (walk.opened story keeper).prelude = (if lines.isEmpty then opening.told else []) ∧
    (walk.opened story keeper).state =
      (trail.filterMap fun walk => (walk.met? story keeper).bind Position.change?).foldl keeper.change
        opening.state ∧
    (∀ stepped, walk.move story keeper = .inr stepped → stepped.state = (walk.opened story keeper).state) ∧
    (∃ outcomes counted resumed, outcomes.map Outcome.told? = lines.map some ∧
      step story keeper counted resumed = walk.run story keeper ∧
      ∀ more, passage story keeper (outcomes.length + more) state ⟨label, index⟩ =
        ((passage story keeper more counted resumed).1.map (outcomes ++ ·),
          (passage story keeper more counted resumed).2)) ∧
    (walk.sequel? story keeper = none ↔
      ∀ position, walk.met? story keeper = some position → position.Halts label (index + count)) := by
  intro trail lines opening
  have inside : (Walk.start state ⟨label, index⟩).Inside story label :=
    ⟨Story.stands_of_hasScene stands, rfl, nofun⟩
  obtain ⟨there, ahead, places, told, counted, prelude⟩ := inside.inOrder reached
  obtain ⟨opened, begun⟩ := Walk.opened_start story keeper state label index
  have first : (Walk.start state ⟨label, index⟩).index = index := Int.toNat_natCast index
  rw [first] at ahead places
  rw [begun] at counted
  rw [opened] at prelude
  refine ⟨places, ?_, told, (there.line?_and_sequel?).1, prelude, counted, fun _ => there.state_of_stop,
    Walk.passage_of_trail rfl reached, ahead ▸ there.sequel?_eq_none⟩
  rw [Walk.place, there.scene, ahead]

theorem positions_met_in_order_of_home :
    let story := Story.ofScript
      [.when "lamp" [.narrative "It is light."], .scene "HOME-2" none, .metadata "sets" "visits",
        .whenElse "visits" [.narrative "You are home.", .image "home.png"] [.narrative "You never came."],
        .metadata "unsets" "lamp", .option ⟨"sleep", none, none⟩ []]
    let first : Walk Counters := Walk.start ⟨[("lamp", 1)]⟩ ⟨"HOME-2", 0⟩
    ∃ walk, first.ahead? story Counters.keeper 5 = some walk ∧ walk.place = ⟨"HOME-2", 5⟩ ∧
      (walk.opened story Counters.keeper).state = ⟨[("visits", 1)]⟩ ∧
      ((first.trail story Counters.keeper 5).filterMap fun walk =>
        Walk.line? (walk.move story Counters.keeper)).map Line.text =
        ["It is light.\nYou are home.", "home.png"] := by
  intro story first
  have reaches : (first.ahead? story Counters.keeper 5).isSome = true := by decide +kernel
  obtain ⟨walk, reached⟩ := Option.isSome_iff_exists.mp reaches
  have ordered := positions_met_in_order story Counters.keeper ⟨[("lamp", 1)]⟩ "HOME-2" 0 5 walk (by decide) reached
  exact ⟨walk, reached, ordered.2.1, ordered.2.2.2.2.2.1.trans (by decide +kernel), by decide +kernel⟩

theorem line_lost_in_two_line_scene :
    let story := Story.ofScript [.scene "A\nB" none, .narrative "One.", .narrative "Two."]
    story.hasScene "A\nB" = true ∧
      (step story Counters.keeper {} ⟨"A\nB", 1⟩).outcome =
        .ok (.line ⟨"A\nB-1", .narrator, "Two.", .text⟩ ⟨"A\nB", 1⟩ []) ∧
      (passage story Counters.keeper 2 {} ⟨"A\nB", 0⟩).1 = .error .lostPlace := by
  decide +kernel

end Gamebook
