import Gamebook.Proofs.StepEnds
import Mathlib.Order.Nat

set_option autoImplicit false

namespace Gamebook

namespace Script

mutual

def targetsOf : Entry → List String
  | .goto target => [Text.trim target]
  | .when _ body => targets body
  | .whenElse _ body otherwise => targets body ++ targets otherwise
  | _ => []

def targets : List Entry → List String
  | [] => []
  | entry :: entries => targetsOf entry ++ targets entries

end

theorem targetsOf_subset {entry : Entry} {entries : List Entry} (member : entry ∈ entries) :
    targetsOf entry ⊆ targets entries := by
  induction entries with
  | nil => cases member
  | cons other entries ih =>
    intro target named
    rw [targets, List.mem_append]
    rcases List.mem_cons.mp member with rfl | later
    next => exact .inl named
    next => exact .inr (ih later named)

theorem targets_subset_of_enter? {block inner : List Entry} {fork : Fork} (entered : fork.enter? block = some inner) :
    targets inner ⊆ targets block := by
  obtain ⟨entry, met, branch⟩ := Fork.enter?_eq_some_iff.mp entered
  refine List.Subset.trans ?_ (targetsOf_subset (List.mem_of_getElem? met))
  obtain ⟨index, condition, which⟩ := fork
  cases entry <;> cases which <;> cases branch <;> simp [targetsOf]

theorem targets_subset_of_blockAt? {script block : List Entry} {forks : List Fork}
    (found : blockAt? script forks = some block) : targets block ⊆ targets script := by
  induction forks generalizing script with
  | nil =>
    cases found
    exact List.Subset.refl _
  | cons fork forks ih =>
    obtain ⟨inner, entered, found⟩ := Option.bind_eq_some_iff.mp found
    exact List.Subset.trans (ih found) (targets_subset_of_enter? entered)

end Script

theorem target_of_layout {ask : Oracle} {body : List Entry} {index : Nat} {target : String}
    (met : (layout ask body)[index]? = some (.beat (.jump target))) : target ∈ Script.targets body := by
  rw [getElem?_layout, Option.map_eq_some_iff] at met
  obtain ⟨place, found, shown⟩ := met
  obtain ⟨block, reached, here⟩ := Place.standsIn_of_mem (List.mem_of_getElem? found)
  have jumps : place.site = .beat (.jump target) := (Position.slot_of_beat shown).1
  rw [jumps] at here
  obtain ⟨entry, met, beat⟩ := Option.bind_eq_some_iff.mp here
  apply Script.targets_subset_of_blockAt? reached
  apply Script.targetsOf_subset (List.mem_of_getElem? met)
  cases entry with
  | goto written =>
    cases beat
    exact List.mem_singleton_self _
  | metadata key value =>
    obtain ⟨change, -, same⟩ := Option.map_eq_some_iff.mp beat
    cases same
  | narrative | image | scene | option | when | whenElse => cases beat

namespace Telling

variable {σ : Type} {keeper : Keeper σ}

mutual

theorem target_of_runEntry {telling : Telling σ} {target : String} (entry : Entry)
    (jumps : (runEntry keeper telling entry).2 = some (.jump target)) : target ∈ Script.targetsOf entry := by
  cases entry with
  | goto written =>
    cases jumps
    exact List.mem_singleton_self _
  | when condition body =>
    rw [runEntry] at jumps
    split at jumps
    next => cases jumps
    next =>
      split at jumps
      next => exact target_of_run body jumps
      next => cases jumps
  | whenElse condition body otherwise =>
    rw [runEntry] at jumps
    rw [Script.targetsOf, List.mem_append]
    split at jumps
    next => cases jumps
    next =>
      split at jumps
      next => exact .inl (target_of_run body jumps)
      next => exact .inr (target_of_run otherwise jumps)
  | metadata key value =>
    rw [runEntry] at jumps
    split at jumps <;> cases jumps
  | narrative | scene | option | image => simp [runEntry] at jumps

theorem target_of_run {telling : Telling σ} {target : String} (entries : List Entry)
    (jumps : (run keeper telling entries).2 = some (.jump target)) : target ∈ Script.targets entries := by
  cases entries with
  | nil => simp [run] at jumps
  | cons entry entries =>
    rw [Script.targets, List.mem_append]
    rw [run, andThen] at jumps
    split at jumps
    next exit stopped =>
      cases jumps
      exact .inl (target_of_runEntry entry stopped)
    next => exact .inr (target_of_run entries jumps)

end

end Telling

/-- Every jump in a scene that can be played leads to a lower rank, but for a jump to the end from the end itself,
which is over then. A start without a header stands for a scene of lower rank. -/
structure Story.Ranked {α : Type} [Preorder α] (story : Story) (rank : String → α) : Prop where
  jumps : ∀ label begins, story.scenes.get? label = some begins →
    (label = endLabel → story.hasScene endLabel = true) →
    ∀ target ∈ Script.targets (story.body begins), ¬(label = endLabel ∧ target = endLabel) → rank target < rank label
  start : ∀ label, story.standIn? startLabel = some label → rank label < rank startLabel

namespace Walk

variable {σ α : Type} [Preorder α] {story : Story} {keeper : Keeper σ} {rank : String → α}

def Descends (rank : String → α) (walk : Walk σ) : Walk σ ⊕ Stepped σ → Prop
  | .inl next => rank next.scene < rank walk.scene ∨ next.scene = walk.scene ∧ walk.index < next.index
  | .inr stepped => ∀ place, stepped.outcome ≠ .ok (.failed (.loop place))

theorem descends_playPosition {walk : Walk σ} {positions : List Position}
    (lower : ∀ target, positions[walk.index]? = some (.beat (.jump target)) →
      ¬(walk.scene = endLabel ∧ target = endLabel) → rank target < rank walk.scene) :
    Descends rank walk (walk.playPosition story keeper positions) := by
  cases moved : walk.playPosition story keeper positions with
  | inr stepped =>
    obtain ⟨result, rfl, stops⟩ := stops_of_playPosition moved
    intro place loops
    cases stops with
    | tells | shows => cases (naming_eq_ok_iff.mp loops).2
    | waits | finishes => cases loops
  | inl next =>
    cases passes_of_playPosition moved with
    | skips | changes => exact .inr ⟨rfl, Nat.lt_succ_self _⟩
    | jumps target met goes => exact .inl (lower target met goes)

theorem descends_enter (ranked : story.Ranked rank) {walk : Walk σ} {begins : Int}
    (known : story.scenes.get? walk.scene = some begins)
    (lasts : (walk.scene == endLabel && !story.hasScene endLabel) = false) :
    Descends rank walk (walk.enter story keeper begins) := by
  rw [enter_eq]
  split
  next scene standIn =>
    have starts := eq_start_of_standIn standIn
    rw [starts] at standIn
    exact .inl (starts ▸ ranked.start scene standIn)
  next =>
    unfold playScene
    split
    next =>
      intro place loops
      cases loops
    next positions laid =>
      refine descends_playPosition fun target met other => ?_
      rw [layout?_eq_ok laid] at met
      refine ranked.jumps _ begins known (fun ending => ?_) target (target_of_layout met) other
      simpa [ending] using lasts

theorem descends_move (quiet : Script.targets ((Script.preamble story.script).filter Script.isConditional) = [])
    (ranked : story.Ranked rank) {walk : Walk σ} (fresh : (walk.scene, walk.index) ∉ walk.visited) :
    Descends rank walk (walk.move story keeper) := by
  by_cases comes : ∃ begins, walk.Comes story begins
  next =>
    obtain ⟨begins, comes⟩ := comes
    have enters : Descends rank walk ((walk.opened story keeper).enter story keeper begins) := by
      have inside : Descends rank (walk.opened story keeper) ((walk.opened story keeper).enter story keeper begins) :=
        descends_enter ranked (by simpa using comes.known) (by simpa using comes.lasts)
      unfold Descends at inside ⊢
      simpa only [opened_scene, opened_index] using inside
    rw [comes.move]
    split
    next =>
      intro place loops
      cases loops
    next target exit =>
      -- The preamble would have to jump.
      obtain ⟨-, left⟩ := Option.ite_none_right_eq_some.mp exit
      have named := Telling.target_of_run _ left
      rw [quiet] at named
      cases named
    next => exact enters
  next =>
    obtain ⟨result, stops, lost⟩ := move_of_not_comes keeper (not_exists.mp comes)
    rw [stops]
    intro place loops
    cases lost with
    | loops seen => exact fresh seen
    | finishes | strays => cases loops

def Below (rank : String → α) (walk : Walk σ) : Prop :=
  ∀ place ∈ walk.visited, rank walk.scene < rank place.1 ∨ walk.scene = place.1 ∧ place.2 < walk.index

theorem Below.fresh {walk : Walk σ} (below : walk.Below rank) : (walk.scene, walk.index) ∉ walk.visited := by
  intro seen
  rcases below _ seen with lower | ⟨-, later⟩
  next => exact lt_irrefl _ lower
  next => exact Nat.lt_irrefl _ later

theorem Below.move {walk next : Walk σ} (below : walk.Below rank) (moves : walk.move story keeper = .inl next)
    (descends : rank next.scene < rank walk.scene ∨ next.scene = walk.scene ∧ walk.index < next.index) :
    next.Below rank := by
  intro place seen
  rw [(moves_of_move moves).noted] at seen
  rcases List.mem_cons.mp seen with rfl | earlier
  next => exact descends
  next =>
    rcases descends with lower | ⟨same, later⟩
    next =>
      left
      rcases below place earlier with above | ⟨here, -⟩
      next => exact lt_trans lower above
      next => exact here ▸ lower
    next =>
      rw [same]
      rcases below place earlier with above | ⟨here, before⟩
      next => exact .inl above
      next => exact .inr ⟨here, Nat.lt_trans before later⟩

theorem run_of_below (quiet : Script.targets ((Script.preamble story.script).filter Script.isConditional) = [])
    (ranked : story.Ranked rank) (walk : Walk σ) (below : walk.Below rank) (place : Coordinate) :
    (walk.run story keeper).outcome ≠ .ok (.failed (.loop place)) := by
  have descends (walk : Walk σ) (below : walk.Below rank) := @descends_move σ α _ story keeper rank quiet ranked walk
    below.fresh
  induction walk using run.induct story keeper with
  | case1 walk stepped stops =>
    have safe := descends walk below
    rw [stops] at safe
    rw [run_of_inr stops]
    exact safe place
  | case2 walk next moves _ ih =>
    have lower := descends walk below
    rw [moves] at lower
    rw [run_of_inl moves]
    exact ih (below.move moves lower)

end Walk

/-- A story whose conditionals before the first header do not jump, and whose scenes are ranked, is never taken for a
loop, wherever a step starts and whatever the counters say. -/
theorem ranked_story_never_loops {σ α : Type} [Preorder α] (story : Story) (rank : String → α)
    (quiet : Script.targets ((Script.preamble story.script).filter Script.isConditional) = [])
    (ranked : story.Ranked rank) (keeper : Keeper σ) (state : σ) (start place : Coordinate) :
    (step story keeper state start).outcome ≠ .ok (.failed (.loop place)) := by
  rw [Walk.step_eq_run]
  exact Walk.run_of_below quiet ranked _ (fun _ seen => absurd seen List.not_mem_nil) place

theorem ranked_story_never_loops_in_cellar :
    let story := Story.ofScript
      [.when "seen" [.narrative "Once more."], .goto "HALL",
        .scene "HALL" none, .metadata "sets" "seen", .whenElse "lamp" [.goto "CELLAR"] [.option ⟨"light", none, none⟩
          [.goto "HALL"]], .goto "END",
        .scene "CELLAR" none, .metadata "unsets" "lamp", .when "!lamp" [.goto " END "],
        .scene "END" none, .goto "END"]
    (∀ counters start place,
      (step story Counters.keeper counters start).outcome ≠ .ok (.failed (.loop place))) ∧
    (step story Counters.keeper ⟨[("lamp", 1), ("seen", 1)]⟩ ⟨"START", 0⟩).outcome =
      .ok (.finished ["Once more."]) := by
  intro story
  let rank : String → Nat := fun label =>
    if label = "START" then 3 else if label = "HALL" then 2 else if label = "CELLAR" then 1 else 0
  have ranked : story.Ranked rank := by
    have lower : ∀ scene ∈ story.scenes, ∀ target ∈ Script.targets (story.body scene.2),
        ¬(scene.1 = endLabel ∧ target = endLabel) → rank target < rank scene.1 := by decide +kernel
    refine ⟨fun label begins known _ target named => ?_, fun label stands => ?_⟩
    next =>
      obtain ⟨before, after, split, -⟩ := List.lookup_eq_some_iff.mp known
      exact lower (label, begins) (split ▸ List.mem_append_right before List.mem_cons_self) target named
    next =>
      have standIn : story.standIn? startLabel = some "HALL" := by decide +kernel
      cases standIn.symm.trans stands
      decide
  exact ⟨fun counters start place =>
      ranked_story_never_loops story rank rfl ranked Counters.keeper counters start place,
    by decide +kernel⟩

end Gamebook
