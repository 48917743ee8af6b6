import Gamebook.Proofs.Places
import Gamebook.Step

set_option autoImplicit false

namespace Gamebook

def Story.standIn? (story : Story) (label : String) : Option String :=
  if label == startLabel && !story.hasScene startLabel then Script.implicitStart? story.script else none

def Stepped.breaksOff {σ : Type} (stepped : Stepped σ) : Bool :=
  match stepped.outcome with
  | .error _ => true
  | .ok (.failed _) => true
  | .ok (.finished _) => true
  | .ok _ => false

namespace Walk

variable {σ : Type} {story : Story} {keeper : Keeper σ}

def start (state : σ) (place : Coordinate) : Walk σ :=
  { scene := place.scene, index := place.index.toNat, visited := [], prelude := [], pending := true, state }

theorem step_eq_run (story : Story) (keeper : Keeper σ) (state : σ) (place : Coordinate) :
    step story keeper state place = (start state place).run story keeper := rfl

theorem run_of_inr {walk : Walk σ} {stepped : Stepped σ} (stops : walk.move story keeper = .inr stepped) :
    walk.run story keeper = stepped := by
  rw [run]
  split
  next moved => exact Sum.inr.inj (moved.symm.trans stops)
  next moved => cases moved.symm.trans stops

theorem run_of_inl {walk next : Walk σ} (moves : walk.move story keeper = .inl next) :
    walk.run story keeper = next.run story keeper := by
  rw [run]
  split
  next moved => cases moved.symm.trans moves
  next moved =>
    cases moved.symm.trans moves
    rfl

def opened (story : Story) (keeper : Keeper σ) (walk : Walk σ) : Walk σ :=
  if walk.index == 0 && walk.pending then
    let telling := (Script.runPreamble keeper walk.state story.script).1
    { walk.note with prelude := walk.prelude ++ telling.told, pending := false, state := telling.state }
  else walk.note

@[simp]
theorem opened_scene (walk : Walk σ) : (walk.opened story keeper).scene = walk.scene := by
  unfold opened
  split <;> rfl

@[simp]
theorem opened_index (walk : Walk σ) : (walk.opened story keeper).index = walk.index := by
  unfold opened
  split <;> rfl

@[simp]
theorem opened_visited (walk : Walk σ) :
    (walk.opened story keeper).visited = (walk.scene, walk.index) :: walk.visited := by
  unfold opened
  split <;> rfl

@[simp]
theorem opened_place (walk : Walk σ) : (walk.opened story keeper).place = walk.place := by
  unfold opened
  split <;> rfl

theorem opened_eq_note {walk : Walk σ} (inside : walk.index = 0 → walk.pending = false) :
    walk.opened story keeper = walk.note := by
  unfold opened
  by_cases first : walk.index = 0
  next => simp [first, inside first]
  next => simp [first]

structure Arrives (story : Story) (keeper : Keeper σ) (walk : Walk σ) (body : List Entry) : Prop where
  fresh : (walk.scene, walk.index) ∉ walk.visited
  known : ∃ begins, story.scenes.get? walk.scene = some begins ∧ body = story.body begins
  settled : story.standIn? walk.scene = none
  move : walk.move story keeper =
    (walk.opened story keeper).playPosition story keeper
      (layout (keeper.answer (walk.opened story keeper).state) body)

inductive Course (story : Story) (keeper : Keeper σ) (walk : Walk σ) : Prop where
  | plays (body : List Entry) (arrives : walk.Arrives story keeper body)
  | turns (scene : String) (standIn : story.standIn? walk.scene = some scene)
      (move : walk.move story keeper = .inl { walk.opened story keeper with scene })
  | leaves (target : String) (enters : walk.index = 0 ∧ walk.pending = true)
      (move : walk.move story keeper = .inl { walk.opened story keeper with scene := target, index := 0 })
  | breaksOff (stepped : Stepped σ) (quiet : stepped.breaksOff = true)
      (move : walk.move story keeper = .inr stepped)

theorem enter_eq (walk : Walk σ) (begins : Int) :
    walk.enter story keeper begins =
      match story.standIn? walk.scene with
      | some scene => .inl { walk with scene }
      | none => walk.playScene story keeper begins := by
  unfold enter Story.standIn?
  split
  next => cases Script.implicitStart? story.script <;> rfl
  next => rfl

theorem course_of_enter {walk : Walk σ} {begins : Int} (fresh : (walk.scene, walk.index) ∉ walk.visited)
    (known : story.scenes.get? walk.scene = some begins)
    (move : walk.move story keeper = (walk.opened story keeper).enter story keeper begins) :
    Course story keeper walk := by
  rw [enter_eq, opened_scene] at move
  cases standIn : story.standIn? walk.scene with
  | some scene =>
    rw [standIn] at move
    exact .turns scene standIn move
  | none =>
    rw [standIn] at move
    unfold playScene at move
    cases laid : layout? (keeper.answer (walk.opened story keeper).state) (story.body begins) with
    | error =>
      simp only [laid] at move
      exact .breaksOff _ rfl move
    | ok positions =>
      simp only [laid] at move
      rw [layout?_eq_ok laid] at move
      exact .plays _ ⟨fresh, ⟨begins, known, rfl⟩, standIn, move⟩

theorem openScene_eq {walk : Walk σ} (begins : Int) (enters : (walk.index == 0 && walk.pending) = true) :
    walk.note.openScene story keeper begins =
      match (Script.runPreamble keeper walk.state story.script).2 with
      | some .unreadable => (walk.opened story keeper).giveUp
      | some (.jump target) =>
        if target == walk.scene then (walk.opened story keeper).enter story keeper begins
        else .inl { walk.opened story keeper with scene := target, index := 0 }
      | none => (walk.opened story keeper).enter story keeper begins := by
  unfold openScene opened
  rw [if_pos enters]
  rfl

theorem naming_eq_ok_iff {walk : Walk σ} {outcome other : Outcome} :
    walk.naming outcome = .ok other ↔ walk.place.isWritable = true ∧ outcome = other := by
  unfold naming
  split
  next written => simp [written]
  next unwritten => simp [unwritten]

theorem breaksOff_naming_failed (walk : Walk σ) (error : StepError) (state : σ) :
    (⟨walk.naming (.failed error), state⟩ : Stepped σ).breaksOff = true := by
  unfold naming
  split <;> rfl

theorem course (story : Story) (keeper : Keeper σ) (walk : Walk σ) : Course story keeper walk := by
  -- A walk stops for three reasons before it comes to a scene at all.
  by_cases seen : walk.visited.contains (walk.scene, walk.index) = true
  next => exact .breaksOff _ (breaksOff_naming_failed walk _ _) (if_pos seen)
  next =>
    have fresh : (walk.scene, walk.index) ∉ walk.visited := by simpa using seen
    by_cases finished : (walk.scene == endLabel && !story.hasScene endLabel) = true
    next => exact .breaksOff _ rfl ((if_neg seen).trans (if_pos finished))
    next =>
      have move : walk.move story keeper = _ := (if_neg seen).trans (if_neg finished)
      cases known : story.scenes.get? walk.scene with
      | none =>
        simp only [known] at move
        exact .breaksOff _ rfl move
      | some begins =>
        simp only [known] at move
        by_cases enters : (walk.index == 0 && walk.pending) = true
        next =>
          rw [if_pos enters, openScene_eq begins enters] at move
          have entered : walk.index = 0 ∧ walk.pending = true := by simpa using enters
          -- A jump of the preamble to the scene that is entered anyway counts as none.
          split at move
          next => exact .breaksOff _ rfl move
          next target _ =>
            split at move
            next => exact course_of_enter fresh known move
            next => exact .leaves target entered move
          next => exact course_of_enter fresh known move
        next =>
          rw [if_neg enters] at move
          have opened_eq : walk.opened story keeper = walk.note := if_neg enters
          rw [← opened_eq] at move
          exact course_of_enter fresh known move

structure Plays (story : Story) (keeper : Keeper σ) (walk : Walk σ) (place : Place) (beat : Beat) : Prop where
  found : ∃ body, walk.Arrives story keeper body ∧ (places body)[walk.index]? = some place
  site : place.site = .beat beat
  counts : place.counts (keeper.answer (walk.opened story keeper).state) = true

theorem Plays.move {walk : Walk σ} {place : Place} {beat : Beat} (plays : walk.Plays story keeper place beat) :
    walk.move story keeper = (walk.opened story keeper).play story keeper beat := by
  obtain ⟨body, arrives, found⟩ := plays.found
  rw [arrives.move, playPosition, getElem?_layout, opened_index, found]
  simp only [Option.map_some, Position.ofSlot, Place.slot, plays.counts, plays.site]

theorem Arrives.plays {walk : Walk σ} {body : List Entry} {beat : Beat} (arrives : walk.Arrives story keeper body)
    (met : (layout (keeper.answer (walk.opened story keeper).state) body)[walk.index]? = some (.beat beat)) :
    ∃ place, walk.Plays story keeper place beat := by
  rw [getElem?_layout, Option.map_eq_some_iff] at met
  obtain ⟨place, found, shown⟩ := met
  obtain ⟨site, live⟩ := Position.slot_of_beat shown
  exact ⟨place, ⟨body, arrives, found⟩, site, live⟩

def afterStep? (stepped : Stepped σ) : Option (Walk σ) :=
  match stepped.outcome with
  | .ok (.line _ place _) => some (start stepped.state place.next)
  | _ => none

theorem afterStep?_of_breaksOff {stepped : Stepped σ} (quiet : stepped.breaksOff = true) :
    afterStep? stepped = none := by
  unfold Stepped.breaksOff at quiet
  unfold afterStep?
  split at quiet <;> simp_all

theorem eq_of_afterStep?_naming {walk next : Walk σ} {line : Line} {shownAt : Coordinate} {prelude : List String}
    {state : σ} (follows : afterStep? ⟨walk.naming (.line line shownAt prelude), state⟩ = some next) :
    start state shownAt.next = next := by
  unfold naming at follows
  split at follows
  next => exact Option.some.inj follows
  next => cases follows

theorem breaksOff_of_follow {walk : Walk σ} {target : String} {stepped : Stepped σ}
    (stops : walk.follow story target = .inr stepped) : stepped.breaksOff = true := by
  unfold follow at stops
  split at stops
  next =>
    cases stops
    rfl
  next => cases stops

inductive Stops (walk : Walk σ) (positions : List Position) : Except Text.NumeralTooLong Outcome → Prop where
  | tells (text : String) (met : positions[walk.index]? = some (.beat (.narrative text))) :
      Stops walk positions <| walk.naming <|
        .line { id := walk.place.id, sender := .narrator, text := walk.tell text } walk.place []
  | shows (url : String) (met : positions[walk.index]? = some (.beat (.image url))) :
      Stops walk positions <| walk.naming <|
        .line { id := walk.place.id, sender := .narrator, text := url, kind := .image } walk.place walk.prelude
  | waits (met : positions[walk.index]? = none ∧ walk.scene ≠ endLabel ∨
        ∃ offers, positions[walk.index]? = some (.wait offers)) :
      Stops walk positions (.ok (.wait walk.place walk.prelude))
  | finishes (met : positions[walk.index]? = none ∧ walk.scene = endLabel ∨
        positions[walk.index]? = some (.beat (.jump endLabel))) :
      Stops walk positions (.ok (.finished walk.prelude))

theorem stops_of_playPosition {walk : Walk σ} {positions : List Position} {stepped : Stepped σ}
    (stops : walk.playPosition story keeper positions = .inr stepped) :
    ∃ result, stepped = ⟨result, walk.state⟩ ∧ walk.Stops positions result := by
  unfold playPosition at stops
  split at stops
  next past =>
    split at stops
    next ending =>
      cases stops
      exact ⟨_, rfl, .finishes (.inl ⟨past, eq_of_beq ending⟩)⟩
    next lasts =>
      cases stops
      exact ⟨_, rfl, .waits (.inl ⟨past, by simpa using lasts⟩)⟩
  next => cases stops
  next offers met =>
    cases stops
    exact ⟨_, rfl, .waits (.inr ⟨offers, met⟩)⟩
  next beat met =>
    cases beat with
    | narrative text =>
      cases stops
      exact ⟨_, rfl, .tells text met⟩
    | image url =>
      cases stops
      exact ⟨_, rfl, .shows url met⟩
    | change => cases stops
    | jump target =>
      rw [play, follow] at stops
      split at stops
      next closing =>
        cases stops
        rw [Bool.and_eq_true] at closing
        exact ⟨_, rfl, .finishes (.inr (eq_of_beq closing.1 ▸ met))⟩
      next => cases stops

-- How a position lets a walk go on.
inductive Passes (keeper : Keeper σ) (walk : Walk σ) (positions : List Position) : Walk σ → Prop where
  | skips (met : positions[walk.index]? = some .skip) :
      Passes keeper walk positions { walk with index := walk.index + 1 }
  | changes (change : Change) (met : positions[walk.index]? = some (.beat (.change change))) :
      Passes keeper walk positions
        { walk with index := walk.index + 1, state := keeper.change walk.state change }
  | jumps (target : String) (met : positions[walk.index]? = some (.beat (.jump target)))
      (goes : ¬(walk.scene = endLabel ∧ target = endLabel)) :
      Passes keeper walk positions { walk with scene := target, index := 0 }

theorem passes_of_playPosition {walk next : Walk σ} {positions : List Position}
    (moves : walk.playPosition story keeper positions = .inl next) : walk.Passes keeper positions next := by
  unfold playPosition at moves
  split at moves
  next => split at moves <;> cases moves
  next met =>
    cases moves
    exact .skips met
  next => cases moves
  next beat met =>
    cases beat with
    | narrative | image => cases moves
    | change change =>
      cases moves
      exact .changes change met
    | jump target =>
      rw [play, follow] at moves
      split at moves
      next => cases moves
      next goes =>
        cases moves
        exact .jumps target met fun both => goes (by simp [both.1, both.2])

theorem wait_of_playPosition {walk : Walk σ} {positions : List Position} {stepped : Stepped σ}
    {shownAt : Coordinate} {prelude : List String} (stops : walk.playPosition story keeper positions = .inr stepped)
    (waits : stepped.outcome = .ok (.wait shownAt prelude)) :
    shownAt = walk.place ∧ stepped.state = walk.state ∧
      (positions[walk.index]? = none ∧ walk.scene ≠ endLabel ∨
        ∃ offers, positions[walk.index]? = some (.wait offers)) := by
  obtain ⟨result, rfl, met⟩ := stops_of_playPosition stops
  cases met with
  | waits met =>
    cases waits
    exact ⟨rfl, rfl, met⟩
  | finishes => cases waits
  | tells | shows => cases (naming_eq_ok_iff.mp waits).2

/-- The walk that follows in one pass through a scene: the next one of the same step, or the first of a step
after a line. A pass ends at a wait, at the end, at an error and at a jump. -/
def next? (story : Story) (keeper : Keeper σ) (walk : Walk σ) : Option (Walk σ) :=
  match walk.move story keeper with
  | .inl next =>
    if next.place = walk.place.next ∨ story.standIn? walk.scene = some next.scene ∧ next.index = walk.index then
      some next
    else none
  | .inr stepped => afterStep? stepped

def later? (story : Story) (keeper : Keeper σ) : Nat → Walk σ → Option (Walk σ)
  | 0, walk => some walk
  | count + 1, walk => (walk.next? story keeper).bind (later? story keeper count)

def pass? (story : Story) (keeper : Keeper σ) (state : σ) (label : String) (count : Nat) : Option (Walk σ) :=
  later? story keeper count (start state ⟨label, 0⟩)

structure GoesOn (story : Story) (keeper : Keeper σ) (walk next : Walk σ) : Prop where
  scene : next.scene = walk.scene
  index : next.index = walk.index + 1
  settled : story.standIn? walk.scene = none
  state : next.state = (walk.opened story keeper).state ∨
    ∃ place change, walk.Plays story keeper place (.change change) ∧
      next.state = keeper.change (walk.opened story keeper).state change

theorem place_next_eq {walk next : Walk σ} (follows : next.place = walk.place.next) :
    next.scene = walk.scene ∧ next.index = walk.index + 1 := by
  simp only [place, Coordinate.next, Coordinate.mk.injEq] at follows
  exact ⟨follows.1, by omega⟩

theorem opened_pending {walk : Walk σ} (enters : walk.index = 0) : (walk.opened story keeper).pending = false := by
  unfold opened
  cases pending : walk.pending <;> simp [enters, pending, note]

theorem Arrives.goesOn {walk next : Walk σ} {body : List Entry} (arrives : walk.Arrives story keeper body)
    (follows : walk.next? story keeper = some next) : walk.GoesOn story keeper next := by
  have plays (beat : Beat) := @Arrives.plays _ _ _ _ _ beat arrives
  unfold next? at follows
  simp only [arrives.move, arrives.settled, playPosition, opened_index, reduceCtorEq, false_and,
    or_false] at follows
  -- Waits and the end of the scene end the pass too, so only gaps, changes and lines are left.
  generalize (layout _ body)[walk.index]? = position at plays follows
  match position with
  | none => by_cases finished : (walk.scene == endLabel) = true <;> simp [finished, stop, afterStep?] at follows
  | some (.wait _) => simp [stop, afterStep?] at follows
  | some .skip =>
    simp only [Option.ite_none_right_eq_some, Option.some.injEq] at follows
    obtain ⟨_, rfl⟩ := follows
    exact ⟨opened_scene walk, rfl, arrives.settled, .inl rfl⟩
  | some (.beat (.change change)) =>
    obtain ⟨place, plays⟩ := plays _ rfl
    simp only [play, Option.ite_none_right_eq_some, Option.some.injEq] at follows
    obtain ⟨_, rfl⟩ := follows
    exact ⟨opened_scene walk, by simp, arrives.settled, .inr ⟨place, change, plays, rfl⟩⟩
  | some (.beat (.jump target)) =>
    -- A jump leads to the first position of a scene, which follows none.
    simp only [play] at follows
    rcases jumped : (walk.opened story keeper).follow story target with after | stepped
    next =>
      simp only [jumped, Option.ite_none_right_eq_some, Option.some.injEq] at follows
      obtain ⟨sequel, rfl⟩ := follows
      have next := (place_next_eq sequel).2
      have first := (follow_inl jumped).2
      omega
    next =>
      have quiet := breaksOff_of_follow jumped
      simp [jumped, afterStep?_of_breaksOff quiet] at follows
  | some (.beat (.image url)) | some (.beat (.narrative text)) =>
    cases eq_of_afterStep?_naming follows
    exact ⟨opened_scene walk, by simp [start, Coordinate.next, Walk.place], arrives.settled, .inl rfl⟩

theorem goesOn_or_turns {walk next : Walk σ} (follows : walk.next? story keeper = some next) :
    walk.GoesOn story keeper next ∨
      story.standIn? walk.scene = some next.scene ∧ next.state = (walk.opened story keeper).state ∧
        (next.index = 0 → next.pending = false) := by
  cases walk.course story keeper with
  | breaksOff stepped quiet move => simp [next?, move, afterStep?_of_breaksOff quiet] at follows
  | turns scene standIn move =>
    simp only [next?, move, Option.ite_none_right_eq_some, Option.some.injEq] at follows
    obtain ⟨_, rfl⟩ := follows
    exact .inr ⟨standIn, rfl, fun enters => opened_pending (by simpa using enters)⟩
  | leaves target enters move =>
    simp only [next?, move, Option.ite_none_right_eq_some, Option.some.injEq] at follows
    obtain ⟨sequel | ⟨standIn, _⟩, rfl⟩ := follows
    next =>
      have := (place_next_eq sequel).2
      simp at this
    next => exact .inr ⟨standIn, rfl, fun _ => opened_pending enters.1⟩
  | plays body arrives => exact .inl (arrives.goesOn follows)

theorem GoesOn.opened_eq {walk next : Walk σ} (goesOn : walk.GoesOn story keeper next) :
    next.opened story keeper = next.note := by
  have index := goesOn.index
  exact opened_eq_note fun first => by omega

theorem later?_add (first second : Nat) (walk : Walk σ) :
    later? story keeper (first + second) walk =
      (later? story keeper first walk).bind (later? story keeper second) := by
  induction first generalizing walk with
  | zero => simp [later?]
  | succ first ih =>
    rw [Nat.succ_add, later?, later?, Option.bind_assoc]
    exact congrArg _ (funext ih)

theorem pass?_add {state : σ} {label : String} {walk after : Walk σ} {first second : Nat}
    (reached : pass? story keeper state label first = some walk)
    (onward : later? story keeper second walk = some after) :
    pass? story keeper state label (first + second) = some after := by
  unfold pass? at reached ⊢
  rw [later?_add, reached, Option.bind_some, onward]

theorem later?_of_pass? {state : σ} {label : String} {walk after : Walk σ} {first second : Nat}
    (le : first ≤ second) (reached : pass? story keeper state label first = some walk)
    (reachedToo : pass? story keeper state label second = some after) :
    later? story keeper (second - first) walk = some after := by
  unfold pass? at reached reachedToo
  rw [← Nat.add_sub_cancel' le, later?_add, reached] at reachedToo
  exact reachedToo

theorem place_of_later? {walk after : Walk σ} {count : Nat} (settled : story.standIn? walk.scene = none)
    (reached : later? story keeper count walk = some after) :
    after.scene = walk.scene ∧ after.index = walk.index + count := by
  induction count generalizing walk with
  | zero =>
    cases reached
    exact ⟨rfl, rfl⟩
  | succ count ih =>
    obtain ⟨next, follows, reached⟩ := Option.bind_eq_some_iff.mp reached
    rcases goesOn_or_turns follows with goesOn | ⟨turned, _⟩
    next =>
      obtain ⟨scene, index⟩ := ih (goesOn.scene ▸ settled) reached
      exact ⟨scene.trans goesOn.scene, by rw [index, goesOn.index]; omega⟩
    next => simp [settled] at turned

theorem change_between (holds : σ → Bool) {walk after : Walk σ} {count : Nat}
    (settled : story.standIn? walk.scene = none) (reached : later? story keeper count walk = some after)
    (before : holds (walk.opened story keeper).state = true)
    (noLonger : holds (after.opened story keeper).state = false) :
    ∃ (passed : Nat) (between : Walk σ) (place : Place) (change : Change),
      passed < count ∧ later? story keeper passed walk = some between ∧
      between.Plays story keeper place (.change change) ∧
      holds (between.opened story keeper).state = true ∧
      holds (keeper.change (between.opened story keeper).state change) = false := by
  induction count generalizing walk with
  | zero =>
    cases reached
    simp [before] at noLonger
  | succ count ih =>
    obtain ⟨next, follows, reached⟩ := Option.bind_eq_some_iff.mp reached
    rcases goesOn_or_turns follows with goesOn | ⟨turned, _⟩
    next =>
      cases still : holds next.state with
      | true =>
        obtain ⟨passed, between, place, change, fewer, met, turning⟩ :=
          ih (goesOn.scene ▸ settled) reached (by rw [goesOn.opened_eq]; exact still)
        refine ⟨passed + 1, between, place, change, by omega, ?_, turning⟩
        rw [later?, follows]
        exact met
      | false =>
        -- The counters differ here, so it is this walk that plays the change.
        rcases goesOn.state with same | ⟨place, change, plays, changed⟩
        next => simp [same, before] at still
        next => exact ⟨0, walk, place, change, by omega, rfl, plays, before, changed ▸ still⟩
    next => simp [settled] at turned

structure Accounted (story : Story) (keeper : Keeper σ) (walk : Walk σ) : Prop where
  played : ∀ place beat, walk.Plays story keeper place beat →
    walk.move story keeper = (walk.opened story keeper).play story keeper beat
  shown : ∀ line shownAt prelude state, walk.move story keeper = .inr ⟨.ok (.line line shownAt prelude), state⟩ →
    ∃ place beat, walk.Plays story keeper place beat
  changed : ∀ next, walk.next? story keeper = some next →
    next.state = (walk.opened story keeper).state ∨
      ∃ place change, walk.Plays story keeper place (.change change) ∧
        next.state = keeper.change (walk.opened story keeper).state change
  entered : ∀ next, walk.next? story keeper = some next → next.opened story keeper = next.note

theorem plays_of_line {walk : Walk σ} {line : Line} {shownAt : Coordinate} {prelude : List String} {state : σ}
    (shows : walk.move story keeper = .inr ⟨.ok (.line line shownAt prelude), state⟩) :
    ∃ place beat, walk.Plays story keeper place beat := by
  cases walk.course story keeper with
  | breaksOff stepped quiet move =>
    cases move.symm.trans shows
    simp [Stepped.breaksOff] at quiet
  | turns scene standIn move => cases move.symm.trans shows
  | leaves target enters move => cases move.symm.trans shows
  | plays body arrives =>
    have stops := arrives.move.symm.trans shows
    unfold playPosition at stops
    rw [opened_index] at stops
    split at stops
    next => split at stops <;> simp [stop] at stops
    next => cases stops
    next => simp [stop] at stops
    next beat met =>
      obtain ⟨place, plays⟩ := arrives.plays met
      exact ⟨place, beat, plays⟩

theorem Plays.shown {walk : Walk σ} {place : Place} {beat : Beat} {line : Line} {shownAt : Coordinate}
    {prelude : List String} {state : σ} (plays : walk.Plays story keeper place beat)
    (shows : walk.move story keeper = .inr ⟨.ok (.line line shownAt prelude), state⟩) :
    shownAt = walk.place ∧ line.id = walk.place.id ∧ walk.place.isWritable = true := by
  have told := plays.move.symm.trans shows
  cases beat with
  | narrative | image =>
    obtain ⟨named, -⟩ := Stepped.mk.inj (Sum.inr.inj told)
    obtain ⟨written, same⟩ := naming_eq_ok_iff.mp named
    cases same
    simpa using written
  | change => cases told
  | jump target =>
    have quiet := breaksOff_of_follow told
    simp [Stepped.breaksOff] at quiet

theorem accounted (story : Story) (keeper : Keeper σ) (walk : Walk σ) : walk.Accounted story keeper := by
  refine ⟨fun _ _ plays => plays.move, fun _ _ _ _ => plays_of_line, ?_, ?_⟩
  next =>
    intro next follows
    rcases goesOn_or_turns follows with goesOn | ⟨_, same, _⟩
    next => exact goesOn.state
    next => exact .inl same
  next =>
    intro next follows
    rcases goesOn_or_turns follows with goesOn | ⟨_, _, inside⟩
    next => exact goesOn.opened_eq
    next => exact opened_eq_note inside

end Walk

end Gamebook
