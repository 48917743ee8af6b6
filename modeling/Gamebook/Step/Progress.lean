import Gamebook.Step.Walk

set_option autoImplicit false

namespace Gamebook

def Story.limit (story : Story) : Nat :=
  (story.scenes.map fun scene => (layout (fun _ => false) (story.body scene.2)).length).foldr max 0

theorem Story.le_limit {story : Story} {label : String} {begins : Int} (ask : Oracle)
    (known : story.scenes.get? label = some begins) :
    (layout ask (story.body begins)).length ≤ story.limit := by
  rw [length_layout ask fun _ => false]
  unfold limit
  have member : (label, begins) ∈ story.scenes := Keyed.mem_of_lookup known
  generalize story.scenes = scenes at member
  induction scenes with
  | nil => cases member
  | cons scene scenes ih =>
    rw [List.map_cons, List.foldr_cons]
    rcases List.mem_cons.mp member with rfl | later
    next => exact Nat.le_max_left _ _
    next => exact Nat.le_trans (ih later) (Nat.le_max_right _ _)

def Story.spots (story : Story) (bound : Nat) : List (String × Nat) :=
  (List.range bound).flatMap fun index => story.scenes.map fun scene => (scene.1, index)

theorem Story.spots_sublist (story : Story) {bound limit : Nat} (within : bound ≤ limit) :
    (story.spots bound).Sublist (story.spots limit) := by
  obtain ⟨more, rfl⟩ := Nat.le.dest within
  unfold spots
  rw [List.range_add, List.flatMap_append]
  exact List.sublist_append_left _ _

theorem Story.mem_spots {story : Story} {label : String} {begins : Int} {index bound : Nat}
    (known : story.scenes.get? label = some begins) (within : index < bound) : (label, index) ∈ story.spots bound :=
  List.mem_flatMap.mpr ⟨index, List.mem_range.mpr within, List.mem_map.mpr ⟨_, Keyed.mem_of_lookup known, rfl⟩⟩

namespace Walk

variable {σ : Type} {story : Story} {keeper : Keeper σ} {walk next : Walk σ}

/-- How many places of a story a walk could still pass. -/
def remaining (story : Story) (walk : Walk σ) : Nat :=
  ((story.spots (max story.limit walk.index + 1)).filter fun place => !walk.visited.contains place).length

structure Moves (story : Story) (walk next : Walk σ) : Prop where
  known : (story.scenes.get? walk.scene).isSome
  fresh : (walk.scene, walk.index) ∉ walk.visited
  noted : next.visited = (walk.scene, walk.index) :: walk.visited
  bounded : next.index ≤ max story.limit walk.index

theorem follow_inl {target : String} (moves : walk.follow story target = .inl next) :
    next.visited = walk.visited ∧ next.index = 0 := by
  unfold follow stop at moves
  split at moves
  next => cases moves
  next =>
    cases moves
    exact ⟨rfl, rfl⟩

theorem play_inl {beat : Beat} (moves : walk.play story keeper beat = .inl next) :
    next.visited = walk.visited ∧ next.index ≤ walk.index + 1 := by
  cases beat with
  | narrative | image => cases moves
  | change =>
    cases moves
    exact ⟨rfl, Nat.le_refl _⟩
  | jump target =>
    obtain ⟨visited, index⟩ := follow_inl moves
    exact ⟨visited, by omega⟩

theorem playPosition_inl {positions : List Position} (moves : walk.playPosition story keeper positions = .inl next) :
    next.visited = walk.visited ∧ next.index ≤ positions.length := by
  unfold playPosition stop at moves
  split at moves
  next => split at moves <;> cases moves
  next skipped =>
    have inside := (List.getElem?_eq_some_iff.mp skipped).1
    cases moves
    exact ⟨rfl, inside⟩
  next => cases moves
  next met =>
    have inside := (List.getElem?_eq_some_iff.mp met).1
    obtain ⟨visited, index⟩ := play_inl moves
    exact ⟨visited, by omega⟩

theorem playScene_inl {label : String} {begins : Int} (known : story.scenes.get? label = some begins)
    (moves : walk.playScene story keeper begins = .inl next) :
    next.visited = walk.visited ∧ next.index ≤ story.limit := by
  unfold playScene at moves
  split at moves
  next => cases moves
  next positions laid =>
    obtain ⟨visited, index⟩ := playPosition_inl moves
    refine ⟨visited, Nat.le_trans index ?_⟩
    unfold layout? at laid
    split at laid
    next =>
      cases laid
      exact Story.le_limit _ known
    next => cases laid

theorem enter_inl {label : String} {begins : Int} (known : story.scenes.get? label = some begins)
    (moves : walk.enter story keeper begins = .inl next) :
    next.visited = walk.visited ∧ next.index ≤ max story.limit walk.index := by
  have played (moves : walk.playScene story keeper begins = .inl next) :
      next.visited = walk.visited ∧ next.index ≤ max story.limit walk.index := by
    obtain ⟨visited, index⟩ := playScene_inl known moves
    exact ⟨visited, Nat.le_trans index (Nat.le_max_left _ _)⟩
  unfold enter at moves
  split at moves
  next =>
    split at moves
    next =>
      cases moves
      exact ⟨rfl, Nat.le_max_right _ _⟩
    next => exact played moves
  next => exact played moves

theorem openScene_inl {label : String} {begins : Int} (known : story.scenes.get? label = some begins)
    (moves : walk.openScene story keeper begins = .inl next) :
    next.visited = walk.visited ∧ next.index ≤ max story.limit walk.index := by
  unfold openScene at moves
  simp only at moves
  split at moves
  next => cases moves
  next =>
    split at moves
    next =>
      have entered := enter_inl known moves
      exact entered
    next =>
      cases moves
      exact ⟨rfl, Nat.zero_le _⟩
  next =>
    have entered := enter_inl known moves
    exact entered

theorem moves_of_move (moves : walk.move story keeper = .inl next) : Moves story walk next := by
  unfold move stop at moves
  split at moves
  next => cases moves
  next fresh =>
    split at moves
    next => cases moves
    next =>
      split at moves
      next => cases moves
      next begins known =>
        have onward : next.visited = walk.note.visited ∧ next.index ≤ max story.limit walk.note.index := by
          split at moves
          next => exact openScene_inl known moves
          next => exact enter_inl known moves
        exact ⟨by simp [known], by simpa using fresh, onward.1, onward.2⟩

theorem filter_length_lt {α : Type} {p q : α → Bool} {short long : List α} {a : α} (sub : short.Sublist long)
    (weaker : ∀ a, q a → p a) (member : a ∈ long) (holds : p a) (fails : ¬q a) :
    (short.filter q).length < (long.filter p).length := by
  have narrowed : long.filter q = (long.filter p).filter q := by
    rw [List.filter_filter]
    refine List.filter_congr fun a _ => ?_
    cases held : q a with
    | false => rfl
    | true => simp [weaker a held]
  calc (short.filter q).length ≤ (long.filter q).length := (sub.filter q).length_le
    _ < (long.filter p).length := by
      rw [narrowed, List.length_filter_lt_length_iff_exists]
      exact ⟨a, List.mem_filter.mpr ⟨member, holds⟩, fails⟩

theorem remaining_lt (moves : Moves story walk next) : next.remaining story < walk.remaining story := by
  obtain ⟨begins, known⟩ := Option.isSome_iff_exists.mp moves.known
  have bounded := moves.bounded
  have here : (walk.scene, walk.index) ∈ story.spots (max story.limit walk.index + 1) :=
    Story.mem_spots known (Nat.lt_succ_of_le (Nat.le_max_right _ _))
  refine filter_length_lt (story.spots_sublist (by omega)) ?_ here ?_ ?_
  next => simp +contextual [moves.noted]
  next => simpa using moves.fresh
  next => simp [moves.noted]

end Walk

end Gamebook
