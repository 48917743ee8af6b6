import Mathlib.Data.List.Perm.Subperm
import Gamebook.Proofs.Moves

set_option autoImplicit false

namespace Gamebook

def Story.cells (story : Story) : List (String × Nat) :=
  story.scenes.flatMap fun scene =>
    (List.range (max 1 (layout (fun _ => false) (story.body scene.2)).length)).map fun index => (scene.1, index)

theorem Story.mem_cells {story : Story} {label : String} {begins : Int} {index : Nat}
    (known : story.scenes.get? label = some begins)
    (inside : index = 0 ∨ ∃ ask, index < (layout ask (story.body begins)).length) : (label, index) ∈ story.cells := by
  have member : (label, begins) ∈ story.scenes := Keyed.mem_of_lookup known
  refine List.mem_flatMap.mpr ⟨_, member, List.mem_map.mpr ⟨index, List.mem_range.mpr ?_, rfl⟩⟩
  rcases inside with first | ⟨ask, inside⟩
  next => omega
  next =>
    rw [length_layout ask fun _ => false] at inside
    exact Nat.lt_of_lt_of_le inside (Nat.le_max_right _ _)

/-- The indices of all places that a step from a coordinate can come to have numerals that can be written. -/
def Story.Numbers (story : Story) (place : Coordinate) : Prop :=
  Text.isWritable (max story.limit place.index.toNat : Nat) = true

theorem Story.Numbers.next {story : Story} {place : Coordinate} (numbers : story.Numbers place) {scene : String}
    {index : Nat} (inside : index < story.limit) : story.Numbers (Coordinate.next ⟨scene, index⟩) := by
  have later : (Coordinate.next ⟨scene, index⟩).index.toNat ≤ story.limit := inside
  exact Text.isWritable_of_le (Nat.max_le.mpr ⟨Nat.le_max_left _ _, Nat.le_trans later (Nat.le_max_left _ _)⟩) numbers

namespace Telling

variable {σ : Type} {keeper : Keeper σ}

def branch? (keeper : Keeper σ) (telling : Telling σ) : Entry → Option (String × List Entry)
  | .when condition body =>
    some (condition, if Condition.holds (keeper.answer telling.state) condition then body else [])
  | .whenElse condition body otherwise =>
    some (condition, if Condition.holds (keeper.answer telling.state) condition then body else otherwise)
  | _ => none

theorem runEntry_of_branch {telling : Telling σ} {entry : Entry} {condition : String} {block : List Entry}
    (branch : branch? keeper telling entry = some (condition, block)) :
    runEntry keeper telling entry =
      if Condition.isReadable condition then run keeper telling block else (telling, some .unreadable) := by
  cases entry with
  | when | whenElse =>
    cases branch
    rw [runEntry]
    cases Condition.isReadable condition <;> cases Condition.holds (keeper.answer telling.state) condition <;> rfl
  | narrative | scene | goto | option | image | metadata => cases branch

inductive Meets (keeper : Keeper σ) : Telling σ → List Entry → String → Prop where
  | here {telling : Telling σ} {entry : Entry} {entries block : List Entry} {condition : String}
      (branch : branch? keeper telling entry = some (condition, block)) :
      Meets keeper telling (entry :: entries) condition
  | inside {telling : Telling σ} {entry : Entry} {entries block : List Entry} {outer condition : String}
      (branch : branch? keeper telling entry = some (outer, block)) (readable : Condition.isReadable outer = true)
      (met : Meets keeper telling block condition) : Meets keeper telling (entry :: entries) condition
  | later {telling after : Telling σ} {entry : Entry} {entries : List Entry} {condition : String}
      (passed : runEntry keeper telling entry = (after, none)) (met : Meets keeper after entries condition) :
      Meets keeper telling (entry :: entries) condition

theorem run_of_meets {telling : Telling σ} {entries : List Entry} {condition : String}
    (met : Meets keeper telling entries condition) (unreadable : Condition.isReadable condition = false) :
    (run keeper telling entries).2 = some .unreadable := by
  induction met with
  | here branch => rw [run, runEntry_of_branch branch, unreadable, andThen]; rfl
  | inside branch readable _ ih =>
    rw [run, runEntry_of_branch branch, readable, if_pos rfl, andThen, ih unreadable]
  | later passed _ ih =>
    rw [run, passed]
    exact ih unreadable

theorem meets_of_branch {telling : Telling σ} {entry : Entry} {block : List Entry} {outer : String}
    (entries : List Entry) (branch : branch? keeper telling entry = some (outer, block))
    (stops : (runEntry keeper telling entry).2 = some .unreadable)
    (inner : (run keeper telling block).2 = some .unreadable →
      ∃ condition, Meets keeper telling block condition ∧ Condition.isReadable condition = false) :
    ∃ condition, Meets keeper telling (entry :: entries) condition ∧ Condition.isReadable condition = false := by
  rw [runEntry_of_branch branch] at stops
  cases readable : Condition.isReadable outer with
  | false => exact ⟨outer, .here branch, readable⟩
  | true =>
    rw [readable, if_pos rfl] at stops
    obtain ⟨condition, met, unreadable⟩ := inner stops
    exact ⟨condition, .inside branch readable met, unreadable⟩

mutual

theorem meets_of_runEntry {telling : Telling σ} (entry : Entry) (entries : List Entry)
    (stops : (runEntry keeper telling entry).2 = some .unreadable) :
    ∃ condition, Meets keeper telling (entry :: entries) condition ∧ Condition.isReadable condition = false := by
  cases entry with
  | when condition body =>
    refine meets_of_branch entries rfl stops ?_
    split
    next => exact meets_of_run body
    next => simp [run]
  | whenElse condition body otherwise =>
    refine meets_of_branch entries rfl stops ?_
    split
    next => exact meets_of_run body
    next => exact meets_of_run otherwise
  | metadata key value =>
    rw [runEntry] at stops
    split at stops <;> simp at stops
  | narrative | scene | goto | option | image => simp [runEntry] at stops

theorem meets_of_run {telling : Telling σ} (entries : List Entry)
    (stops : (run keeper telling entries).2 = some .unreadable) :
    ∃ condition, Meets keeper telling entries condition ∧ Condition.isReadable condition = false := by
  cases entries with
  | nil => simp [run] at stops
  | cons entry entries =>
    rw [run, andThen] at stops
    split at stops
    next exit stopped =>
      cases stops
      exact meets_of_runEntry entry entries stopped
    next passed =>
      obtain ⟨condition, met, unreadable⟩ := meets_of_run entries stops
      exact ⟨condition, .later (Prod.ext rfl passed) met, unreadable⟩

end

end Telling

namespace Walk

variable {σ : Type} {story : Story} {keeper : Keeper σ}

structure Comes (story : Story) (walk : Walk σ) (begins : Int) : Prop where
  fresh : (walk.scene, walk.index) ∉ walk.visited
  lasts : (walk.scene == endLabel && !story.hasScene endLabel) = false
  known : story.scenes.get? walk.scene = some begins

-- Why a walk that comes to no scene of the story stops where it is.
inductive Lost (story : Story) (walk : Walk σ) : Except Text.NumeralTooLong Outcome → Prop where
  | loops (seen : (walk.scene, walk.index) ∈ walk.visited) :
      Lost story walk (walk.naming (.failed (.loop walk.place)))
  | finishes (ending : walk.scene = endLabel) (headless : story.hasScene endLabel = false) :
      Lost story walk (.ok (.finished walk.prelude))
  | strays (missing : story.scenes.get? walk.scene = none) : Lost story walk (.ok (.failed (.noScene walk.scene)))

theorem move_of_not_comes (keeper : Keeper σ) {walk : Walk σ} (lost : ∀ begins, ¬walk.Comes story begins) :
    ∃ result, walk.move story keeper = .inr ⟨result, walk.state⟩ ∧ walk.Lost story result := by
  unfold move
  split
  next seen => exact ⟨_, rfl, .loops (by simpa using seen)⟩
  next unseen =>
    split
    next finished =>
      have ⟨ending, headless⟩ : walk.scene = endLabel ∧ story.hasScene endLabel = false := by simpa using finished
      exact ⟨_, rfl, .finishes ending headless⟩
    next lasts =>
      split
      next missing => exact ⟨_, rfl, .strays missing⟩
      next begins known => exact absurd ⟨by simpa using unseen, by simpa using lasts, known⟩ (lost begins)

-- Why the preamble stops, if it is run here.
def exit? (story : Story) (keeper : Keeper σ) (walk : Walk σ) : Option Exit :=
  if walk.index == 0 && walk.pending then (Script.runPreamble keeper walk.state story.script).2 else none

theorem Comes.move {walk : Walk σ} {begins : Int} (comes : walk.Comes story begins) :
    walk.move story keeper =
      match walk.exit? story keeper with
      | some .unreadable => (walk.opened story keeper).giveUp
      | some (.jump target) =>
        if target == walk.scene then (walk.opened story keeper).enter story keeper begins
        else .inl { walk.opened story keeper with scene := target, index := 0 }
      | none => (walk.opened story keeper).enter story keeper begins := by
  have unseen : ¬walk.visited.contains (walk.scene, walk.index) = true := by simpa using comes.fresh
  have lasts : ¬(walk.scene == endLabel && !story.hasScene endLabel) = true := by simp [comes.lasts]
  unfold Walk.move exit?
  rw [if_neg unseen, if_neg lasts, comes.known]
  dsimp only
  cases enters : walk.index == 0 && walk.pending with
  | true => exact openScene_eq begins enters
  | false =>
    have quiet : walk.opened story keeper = walk.note := by simp [opened, enters]
    rw [quiet]
    rfl

-- Neither the preamble nor a scene that stands in leads the walk elsewhere, so it plays on in its scene.
structure Stays (story : Story) (keeper : Keeper σ) (walk : Walk σ) (begins : Int) : Prop
    extends Comes story walk begins where
  settled : story.standIn? walk.scene = none
  kept : walk.exit? story keeper = none ∨ walk.exit? story keeper = some (.jump walk.scene)

theorem Stays.move {walk : Walk σ} {begins : Int} (stays : walk.Stays story keeper begins) :
    walk.move story keeper = (walk.opened story keeper).playScene story keeper begins := by
  have enter : (walk.opened story keeper).enter story keeper begins = _ := enter_eq _ begins
  rw [opened_scene, stays.settled] at enter
  rcases stays.kept with kept | kept <;> simp [stays.toComes.move, kept, enter]

theorem Comes.stays_of_stop {walk : Walk σ} {begins : Int} {stepped : Stepped σ} (comes : walk.Comes story begins)
    (stops : walk.move story keeper = .inr stepped) (readable : walk.exit? story keeper ≠ some .unreadable) :
    walk.Stays story keeper begins := by
  have enters : walk.move story keeper = (walk.opened story keeper).enter story keeper begins ∧
      (walk.exit? story keeper = none ∨ walk.exit? story keeper = some (.jump walk.scene)) := by
    rw [comes.move] at stops ⊢
    match exit : walk.exit? story keeper with
    | none => exact ⟨rfl, .inl rfl⟩
    | some .unreadable => exact absurd exit readable
    | some (.jump target) =>
      rw [exit] at stops
      by_cases same : target = walk.scene
      next => simp [same]
      next => simp [same] at stops
  refine ⟨comes, ?_, enters.2⟩
  rw [enters.1, enter_eq, opened_scene] at stops
  cases standIn : story.standIn? walk.scene with
  | none => rfl
  | some scene =>
    rw [standIn] at stops
    cases stops

/-- A walk evaluates a condition on its next move, in the preamble or to lay out its scene. -/
inductive Asks (story : Story) (keeper : Keeper σ) (walk : Walk σ) : String → Prop where
  | preamble {begins : Int} {condition : String} (comes : walk.Comes story begins)
      (enters : walk.index = 0 ∧ walk.pending = true)
      (met : Telling.Meets keeper ⟨[], walk.state⟩
        ((Script.preamble story.script).filter Script.isConditional) condition) :
      Asks story keeper walk condition
  | layout {begins : Int} {test : Test} (stays : walk.Stays story keeper begins)
      (member : test ∈ Test.ofBlock [] 0 (story.body begins))
      (taken : ∀ fork ∈ test.forks, fork.isTaken (keeper.answer (walk.opened story keeper).state) = true) :
      Asks story keeper walk test.condition

theorem readable_of_asks {walk : Walk σ} {stepped : Stepped σ} {outcome : Outcome} {condition : String}
    (stops : walk.move story keeper = .inr stepped) (ends : stepped.outcome = .ok outcome)
    (asks : walk.Asks story keeper condition) : Condition.isReadable condition = true := by
  cases asks with
  | preamble comes enters met =>
    rw [← Bool.not_eq_false]
    intro unreadable
    have exit : walk.exit? story keeper = some .unreadable := by
      simp only [exit?, enters.1, enters.2]
      exact Telling.run_of_meets met unreadable
    rw [comes.move, exit] at stops
    cases stops
    cases ends
  | layout stays member taken =>
    rw [stays.move, playScene] at stops
    split at stops
    next =>
      cases stops
      cases ends
    next positions laid => exact (layout?_isOk _ _).mp ⟨positions, laid⟩ _ member taken

/-- A walk writes its place on its next move: in the message of a loop, or in the identifier of a line. -/
inductive Names (story : Story) (keeper : Keeper σ) (walk : Walk σ) : Prop where
  | loops (seen : (walk.scene, walk.index) ∈ walk.visited) : Names story keeper walk
  | shows {begins : Int} {beat : Beat} (stays : walk.Stays story keeper begins)
      (met : (layout (keeper.answer (walk.opened story keeper).state) (story.body begins))[walk.index]? =
        some (.beat beat))
      (seen : (∃ text, beat = .narrative text) ∨ ∃ url, beat = .image url) : Names story keeper walk

theorem writable_of_names {walk : Walk σ} {stepped : Stepped σ} {outcome : Outcome}
    (stops : walk.move story keeper = .inr stepped) (ends : stepped.outcome = .ok outcome)
    (names : walk.Names story keeper) : walk.place.isWritable = true := by
  cases names with
  | loops seen =>
    rw [move, if_pos (by simpa using seen)] at stops
    cases stops
    exact (naming_eq_ok_iff.mp ends).1
  | shows stays met seen =>
    rw [stays.move, playScene] at stops
    split at stops
    next =>
      cases stops
      cases ends
    next positions laid =>
      rw [layout?_eq_ok laid, playPosition, opened_index, met] at stops
      rcases seen with ⟨text, rfl⟩ | ⟨url, rfl⟩ <;>
        cases stops <;> simpa using (naming_eq_ok_iff.mp ends).1

theorem outcome_of_readable {walk : Walk σ} {stepped : Stepped σ} (stops : walk.move story keeper = .inr stepped)
    (readable : ∀ condition, walk.Asks story keeper condition → Condition.isReadable condition = true)
    (written : walk.Names story keeper → walk.place.isWritable = true) :
    ∃ outcome, stepped.outcome = .ok outcome := by
  by_cases arrives : ∃ begins, walk.Comes story begins
  next =>
    obtain ⟨begins, comes⟩ := arrives
    have told : walk.exit? story keeper ≠ some .unreadable := by
      intro exit
      unfold exit? at exit
      split at exit
      next enters =>
        obtain ⟨condition, met, unreadable⟩ := Telling.meets_of_run _ exit
        have := readable condition (.preamble comes (by simpa using enters) met)
        simp [unreadable] at this
      next => cases exit
    have stays := comes.stays_of_stop stops told
    obtain ⟨positions, laid⟩ := (layout?_isOk _ _).mpr fun test member taken =>
      readable test.condition (.layout stays member taken)
    rw [stays.move, playScene, laid] at stops
    obtain ⟨result, rfl, met⟩ := stops_of_playPosition stops
    rw [layout?_eq_ok laid] at met
    cases met with
    | tells text met =>
      rw [opened_index] at met
      exact ⟨_, naming_eq_ok_iff.mpr ⟨by simpa using written (.shows stays met (.inl ⟨text, rfl⟩)), rfl⟩⟩
    | shows url met =>
      rw [opened_index] at met
      exact ⟨_, naming_eq_ok_iff.mpr ⟨by simpa using written (.shows stays met (.inr ⟨url, rfl⟩)), rfl⟩⟩
    | waits | finishes => exact ⟨_, rfl⟩
  next =>
    obtain ⟨result, move, lost⟩ := move_of_not_comes keeper (not_exists.mp arrives)
    cases move.symm.trans stops
    cases lost with
    | loops seen => exact ⟨_, naming_eq_ok_iff.mpr ⟨written (.loops seen), rfl⟩⟩
    | finishes | strays => exact ⟨_, rfl⟩

def moved? (story : Story) (keeper : Keeper σ) : Nat → Walk σ → Option (Walk σ)
  | 0, walk => some walk
  | count + 1, walk => (moved? story keeper count walk).bind fun last => (last.move story keeper).getLeft?

theorem run_of_moved? {count : Nat} {walk last : Walk σ} (reached : moved? story keeper count walk = some last) :
    walk.run story keeper = last.run story keeper := by
  induction count generalizing last with
  | zero =>
    cases reached
    rfl
  | succ count ih =>
    obtain ⟨middle, before, moves⟩ := Option.bind_eq_some_iff.mp reached
    rw [ih before, run_of_inl (Sum.getLeft?_eq_some_iff.mp moves)]

theorem moved?_of_inl {walk next : Walk σ} (moves : walk.move story keeper = .inl next) (count : Nat) :
    moved? story keeper (count + 1) walk = moved? story keeper count next := by
  induction count with
  | zero => simp [moved?, moves]
  | succ count ih => rw [moved?, ih, moved?]

theorem index_le_of_moved? {count : Nat} {walk last : Walk σ} (reached : moved? story keeper count walk = some last) :
    last.index ≤ max story.limit walk.index := by
  induction count generalizing last with
  | zero =>
    cases reached
    exact Nat.le_max_right _ _
  | succ count ih =>
    obtain ⟨middle, before, moves⟩ := Option.bind_eq_some_iff.mp reached
    have onward := (moves_of_move (Sum.getLeft?_eq_some_iff.mp moves)).bounded
    have earlier := ih before
    omega

theorem exists_last_moved? (story : Story) (keeper : Keeper σ) (walk : Walk σ) :
    ∃ count last, moved? story keeper count walk = some last ∧
      last.move story keeper = .inr (walk.run story keeper) := by
  induction walk using run.induct story keeper with
  | case1 walk stepped stops => exact ⟨0, walk, rfl, by rw [run_of_inr stops, stops]⟩
  | case2 walk next moves _ ih =>
    obtain ⟨count, last, reached, stops⟩ := ih
    exact ⟨count + 1, last, by rw [moved?_of_inl moves, reached], by rw [run_of_inl moves, stops]⟩

-- A scene that another stands in for is entered at its first position or where the step began, and left at once.
structure Tracked (story : Story) (first : String × Nat) (count : Nat) (walk : Walk σ) : Prop where
  length : walk.visited.length = count
  nodup : walk.visited.Nodup
  within : walk.visited ⊆ first :: story.cells
  entered : (walk.scene, walk.index) = first ∨ walk.index = 0 ∨ story.standIn? walk.scene = none ∨
    (walk.scene, walk.index) ∈ walk.visited

theorem eq_start_of_standIn {label scene : String} (standIn : story.standIn? label = some scene) :
    label = startLabel := by
  unfold Story.standIn? at standIn
  split at standIn
  next start =>
    rw [Bool.and_eq_true] at start
    exact eq_of_beq start.1
  next => cases standIn

theorem onward_of_playPosition {walk next : Walk σ} {positions : List Position}
    (moves : walk.playPosition story keeper positions = .inl next) :
    walk.index < positions.length ∧ (next.index = 0 ∨ next.scene = walk.scene) := by
  cases passes_of_playPosition moves with
  | skips met | changes _ met => exact ⟨(List.getElem?_eq_some_iff.mp met).1, .inr rfl⟩
  | jumps target met => exact ⟨(List.getElem?_eq_some_iff.mp met).1, .inl rfl⟩

theorem onward_of_move {walk next : Walk σ} (moves : walk.move story keeper = .inl next) :
    (story.standIn? walk.scene = none → (walk.scene, walk.index) ∈ story.cells) ∧
      (next.index = 0 ∨ story.standIn? next.scene = none ∨ (next.scene, next.index) ∈ next.visited) := by
  obtain ⟨known, fresh, noted, -⟩ := moves_of_move moves
  obtain ⟨begins, known⟩ := Option.isSome_iff_exists.mp known
  cases walk.course story keeper with
  | breaksOff stepped quiet move => cases move.symm.trans moves
  | leaves target enters move =>
    cases move.symm.trans moves
    exact ⟨fun _ => Story.mem_cells known (.inl enters.1), .inl rfl⟩
  | turns scene standIn move =>
    refine ⟨fun settled => by simp [settled] at standIn, .inr ?_⟩
    cases move.symm.trans moves
    -- Only the start has another scene stand in for it, so a second turn would lead back to it.
    cases again : story.standIn? scene with
    | none => exact .inl rfl
    | some other =>
      have same := (eq_start_of_standIn again).trans (eq_start_of_standIn standIn).symm
      simp [same]
  | plays body arrives =>
    obtain ⟨place, here, rfl⟩ := arrives.known
    obtain ⟨inside, onward⟩ := onward_of_playPosition (arrives.move.symm.trans moves)
    rw [opened_index] at inside
    refine ⟨fun _ => Story.mem_cells here (.inr ⟨_, inside⟩), onward.imp_right fun same => .inl ?_⟩
    rw [same, opened_scene]
    exact arrives.settled

theorem Tracked.move {first : String × Nat} {count : Nat} {walk next : Walk σ}
    (tracked : Tracked story first count walk) (moves : walk.move story keeper = .inl next) :
    Tracked story first (count + 1) next := by
  obtain ⟨known, fresh, noted, -⟩ := moves_of_move moves
  obtain ⟨begins, known⟩ := Option.isSome_iff_exists.mp known
  obtain ⟨cell, onward⟩ := onward_of_move moves
  have here : (walk.scene, walk.index) ∈ first :: story.cells := by
    rcases tracked.entered with same | enters | settled | seen
    next => exact same ▸ List.mem_cons_self
    next => exact List.mem_cons_of_mem _ (Story.mem_cells known (.inl enters))
    next => exact List.mem_cons_of_mem _ (cell settled)
    next => exact absurd seen fresh
  refine ⟨?_, ?_, ?_, .inr onward⟩
  next => rw [noted, List.length_cons, tracked.length]
  next =>
    rw [noted]
    exact List.nodup_cons.mpr ⟨fresh, tracked.nodup⟩
  next =>
    rw [noted]
    exact List.cons_subset.mpr ⟨here, tracked.within⟩

theorem tracked_of_moved? {count : Nat} {walk : Walk σ} {state : σ} {place : Coordinate}
    (reached : moved? story keeper count (start state place) = some walk) :
    Tracked story (place.scene, place.index.toNat) count walk := by
  induction count generalizing walk with
  | zero =>
    cases reached
    exact ⟨rfl, List.nodup_nil, List.nil_subset _, .inl rfl⟩
  | succ count ih =>
    obtain ⟨before, reached, moves⟩ := Option.bind_eq_some_iff.mp reached
    exact (ih reached).move (Sum.getLeft?_eq_some_iff.mp moves)

theorem Tracked.count_le {first : String × Nat} {count : Nat} {walk : Walk σ}
    (tracked : Tracked story first count walk) : count ≤ story.cells.length + 1 := by
  rw [← tracked.length]
  exact (tracked.nodup.subperm tracked.within).length_le

theorem stops_or_moves (story : Story) (keeper : Keeper σ) (walk : Walk σ) (count : Nat) :
    (∃ passed last stepped, moved? story keeper passed walk = some last ∧ last.move story keeper = .inr stepped) ∨
      ∃ last, moved? story keeper count walk = some last := by
  induction count with
  | zero => exact .inr ⟨walk, rfl⟩
  | succ count ih =>
    rcases ih with stops | ⟨last, reached⟩
    next => exact .inl stops
    next =>
      rcases move : last.move story keeper with next | stepped
      next => exact .inr ⟨next, by simp [moved?, reached, move]⟩
      next => exact .inl ⟨count, last, stepped, reached, move⟩

end Walk

/-- A step is over after at most one move for each position of a scene, one from where it began and the last. It has
an outcome exactly when all conditions that its last move evaluates can be read and the place that it names, if it
names one, can be written. -/
theorem step_ends {σ : Type} (story : Story) (keeper : Keeper σ) (state : σ) (place : Coordinate) :
    ∃ (count : Nat) (last : Walk σ), count ≤ story.cells.length + 1 ∧
      Walk.moved? story keeper count (Walk.start state place) = some last ∧
      last.move story keeper = .inr (step story keeper state place) ∧
      ((∃ outcome, (step story keeper state place).outcome = .ok outcome) ↔
        (∀ condition, last.Asks story keeper condition → Condition.isReadable condition = true) ∧
          (last.Names story keeper → last.place.isWritable = true)) := by
  -- More moves than there are places would go through one of them twice.
  rcases Walk.stops_or_moves story keeper (Walk.start state place) (story.cells.length + 2) with
    ⟨count, last, stepped, reached, stops⟩ | ⟨last, reached⟩
  next =>
    have ends : step story keeper state place = stepped := by
      rw [Walk.step_eq_run, Walk.run_of_moved? reached, Walk.run_of_inr stops]
    rw [ends]
    refine ⟨count, last, (Walk.tracked_of_moved? reached).count_le, reached, stops, ?_, ?_⟩
    next =>
      rintro ⟨outcome, ends⟩
      exact ⟨fun condition => Walk.readable_of_asks stops ends, Walk.writable_of_names stops ends⟩
    next => exact fun both => Walk.outcome_of_readable stops both.1 both.2
  next =>
    have := (Walk.tracked_of_moved? reached).count_le
    omega

theorem step_fails_far_out {index : Nat} (far : Text.isWritable index = false) :
    (step (.ofScript [.goto "START", .scene "A" none, .narrative "Hi."]) Counters.keeper {}
      ⟨"START", index⟩).outcome = .error {} := by
  obtain ⟨story, told⟩ : ∃ story, Story.ofScript [.goto "START", .scene "A" none, .narrative "Hi."] = story := ⟨_, rfl⟩
  rw [told, Walk.step_eq_run]
  let walk : Walk Counters := .start {} ⟨"START", index⟩
  have begun : (walk.index == 0) = false := by
    cases index with
    | zero => cases far
    | succ => rfl
  have turns : walk.move story Counters.keeper = .inl walk.note := by
    subst told
    rw [Walk.move, begun]
    rfl
  have returns : walk.note.move story Counters.keeper = .inr ⟨.error {}, {}⟩ := by
    have seen : walk.note.visited.contains (walk.note.scene, walk.note.index) = true := by simp [Walk.note]
    have unnamed : walk.note.place.isWritable = false := far
    rw [Walk.move, if_pos seen, Walk.stopHere, Walk.naming, unnamed]
    rfl
  rw [Walk.run_of_inl turns, Walk.run_of_inr returns]

theorem step_fails_on_long_numeral :
    let story := Story.ofScript
      [.when (String.ofList (longClause Text.numeralLimit)) [.narrative "You are rich."]]
    (step story Counters.keeper {} ⟨"START", 0⟩).outcome = .error {} ∧
      ∃ index : Nat, (step (.ofScript [.goto "START", .scene "A" none, .narrative "Hi."]) Counters.keeper {}
        ⟨"START", index⟩).outcome = .error {} := by
  have unreadable := Condition.isReadable_longClause (Nat.le_refl Text.numeralLimit)
  generalize String.ofList (longClause Text.numeralLimit) = condition at unreadable ⊢
  intro story
  have stays : (Walk.start {} ⟨"START", 0⟩).Stays story Counters.keeper 0 :=
    ⟨⟨List.not_mem_nil, rfl, rfl⟩, rfl, .inl rfl⟩
  have body : story.body 0 = [.when condition [.narrative "You are rich."]] := rfl
  have stops : (Walk.start {} ⟨"START", 0⟩).move story Counters.keeper = .inr ⟨.error {}, {}⟩ := by
    rw [stays.move, Walk.playScene, body, layout?, layoutReadable, entryReadable, unreadable]
    rfl
  obtain ⟨index, far⟩ := Text.exists_not_isWritable
  refine ⟨?_, index, step_fails_far_out far⟩
  rw [Walk.step_eq_run, Walk.run_of_inr stops]

end Gamebook
