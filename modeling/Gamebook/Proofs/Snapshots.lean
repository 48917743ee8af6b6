import Gamebook.Proofs.Counting
import Gamebook.Proofs.Legible
import Gamebook.Proofs.NormalNames
import Gamebook.Service

set_option autoImplicit false

namespace Gamebook

namespace Counters

structure Kept (counters : Counters) : Prop where
  named : ∀ entry ∈ counters.entries, Name.normalize entry.1 = entry.1
  positive : ∀ entry ∈ counters.entries, 0 < entry.2
  distinct : (counters.entries.map Prod.fst).Nodup

namespace Kept

variable {counters : Counters}

theorem put (kept : Kept counters) {key : String} {count : Nat} (named : Name.normalize key = key)
    (positive : 0 < count) : Kept (counters.put key count) := by
  refine ⟨fun entry member => ?_, fun entry member => ?_, ?_⟩
  next =>
    rcases Keyed.mem_put member with old | rfl
    next => exact kept.named entry old
    next => exact named
  next =>
    rcases Keyed.mem_put member with old | rfl
    next => exact kept.positive entry old
    next => exact positive
  next => exact Keyed.nodup_put kept.distinct key count

theorem erase (kept : Kept counters) (key : String) : Kept (counters.erase key) := by
  have within : (counters.erase key).entries.Sublist counters.entries := List.filter_sublist
  exact ⟨fun entry member => kept.named entry (within.subset member),
    fun entry member => kept.positive entry (within.subset member), (within.map Prod.fst).nodup kept.distinct⟩

theorem apply (kept : Kept counters) (change : Change) : Kept (counters.apply change) := by
  cases change with
  | sets name => exact kept.put (Text.normalize_normalize name) (Nat.succ_pos _)
  | unsets name =>
    rw [Counters.apply, decrement]
    split
    next => exact kept.erase _
    next many => exact kept.put (Text.normalize_normalize name) (by omega)

end Kept

theorem kept_ofInts (initial : List (String × Int)) : Kept (ofInts initial) := by
  unfold ofInts
  have empty : Kept {} := ⟨nofun, nofun, List.nodup_nil⟩
  generalize ({} : Counters) = counters at empty
  induction initial generalizing counters with
  | nil => exact empty
  | cons entry initial ih =>
    rw [List.foldl_cons]
    split
    next counted => exact ih _ (empty.put (Text.normalize_normalize entry.1) (by omega))
    next => exact ih _ empty

def snapshot (counters : Counters) : List (String × Int) :=
  counters.entries.map fun entry => (entry.1, (entry.2 : Int))

end Counters

section

variable {σ : Type} {keeper : Keeper σ} {P : σ → Prop}

mutual

theorem Telling.keeps_runEntry (closed : ∀ state change, P state → P (keeper.change state change))
    {telling : Telling σ} (holds : P telling.state) (entry : Entry) : P (runEntry keeper telling entry).1.state := by
  cases entry with
  | when condition body =>
    rw [runEntry]
    split
    next => exact holds
    next =>
      split
      next => exact Telling.keeps_run closed holds body
      next => exact holds
  | whenElse condition body otherwise =>
    rw [runEntry]
    split
    next => exact holds
    next =>
      split
      next => exact Telling.keeps_run closed holds body
      next => exact Telling.keeps_run closed holds otherwise
  | metadata key value =>
    rw [runEntry]
    split
    next change _ => exact closed _ change holds
    next => exact holds
  | narrative | scene | goto | option | image => exact holds

theorem Telling.keeps_run (closed : ∀ state change, P state → P (keeper.change state change))
    {telling : Telling σ} (holds : P telling.state) (entries : List Entry) :
    P (run keeper telling entries).1.state := by
  cases entries with
  | nil => exact holds
  | cons entry entries =>
    have first := Telling.keeps_runEntry closed holds entry
    rw [run, andThen]
    split
    next => exact first
    next => exact Telling.keeps_run closed first entries

end

namespace Walk

variable {story : Story}

def stateOf : Walk σ ⊕ Stepped σ → σ
  | .inl next => next.state
  | .inr stepped => stepped.state

theorem stateOf_playPosition (walk : Walk σ) (positions : List Position) :
    stateOf (walk.playPosition story keeper positions) = walk.state ∨
      ∃ change, stateOf (walk.playPosition story keeper positions) = keeper.change walk.state change := by
  unfold playPosition
  split
  next => split <;> exact .inl rfl
  next => exact .inl rfl
  next => exact .inl rfl
  next beat _ =>
    cases beat with
    | change change => exact .inr ⟨change, rfl⟩
    | narrative | image => exact .inl rfl
    | jump target =>
      rw [play, follow]
      split <;> exact .inl rfl

theorem stateOf_enter (walk : Walk σ) (begins : Int) :
    stateOf (walk.enter story keeper begins) = walk.state ∨
      ∃ change, stateOf (walk.enter story keeper begins) = keeper.change walk.state change := by
  rw [enter_eq]
  split
  next => exact .inl rfl
  next =>
    unfold playScene
    split
    next => exact .inl rfl
    next positions _ => exact stateOf_playPosition walk positions

theorem keeps_move (closed : ∀ state change, P state → P (keeper.change state change)) {walk : Walk σ}
    (holds : P walk.state) : P (stateOf (walk.move story keeper)) := by
  have opened : P (walk.opened story keeper).state := by
    unfold Walk.opened
    split
    next => exact Telling.keeps_run closed holds _
    next => exact holds
  have entered (begins : Int) : P (stateOf ((walk.opened story keeper).enter story keeper begins)) := by
    rcases stateOf_enter (walk.opened story keeper) begins with same | ⟨change, changed⟩
    next => exact same ▸ opened
    next => exact changed ▸ closed _ change opened
  by_cases comes : ∃ begins, walk.Comes story begins
  next =>
    obtain ⟨begins, comes⟩ := comes
    rw [comes.move]
    split
    next => exact opened
    next =>
      split
      next => exact entered begins
      next => exact opened
    next => exact entered begins
  next =>
    obtain ⟨outcome, stops, -⟩ := move_of_not_comes keeper (not_exists.mp comes)
    rw [stops]
    exact holds

theorem keeps_run (closed : ∀ state change, P state → P (keeper.change state change)) (walk : Walk σ)
    (holds : P walk.state) : P (walk.run story keeper).state := by
  induction walk using run.induct story keeper with
  | case1 walk stepped stops =>
    have kept := @keeps_move _ _ _ story closed walk holds
    rw [run_of_inr stops]
    rw [stops] at kept
    exact kept
  | case2 walk next moves _ ih =>
    have kept := @keeps_move _ _ _ story closed walk holds
    rw [run_of_inl moves]
    rw [moves] at kept
    exact ih kept

end Walk

end

theorem Counters.Kept.step {counters : Counters} (kept : Kept counters) (story : Story) (place : Coordinate) :
    Kept (step story keeper counters place).state := by
  rw [Walk.step_eq_run]
  exact Walk.keeps_run (fun _ change kept => kept.apply change) (Walk.start counters place) kept

/-- Where a playthrough goes on after an outcome: after the line that was told, or where it was. -/
def Outcome.placeAfter (outcome : Outcome) (place : Coordinate) : Coordinate :=
  match outcome with
  | .line _ shownAt _ => shownAt.next
  | _ => place

namespace Service

def placeAfter (reply : Json) (place : Coordinate) : Coordinate :=
  let part (key : String) := (reply.field? "result").bind fun result => result.field? key
  match part "kind", part "scene_id", part "line_idx" with
  | some (.str "continue"), some (.str scene), some (.int index) => ⟨scene, index + 1⟩
  | _, _, _ => place

def told (result : Outcome × Counters) : Json :=
  .obj [("result", .obj result.1.record), ("variables", result.2.record)]

end Service

end Gamebook
