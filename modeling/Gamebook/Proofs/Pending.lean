import Gamebook.Proofs.StepEnds
import Gamebook.Scene.Offers

set_option autoImplicit false

namespace Gamebook

theorem nextOffers?_drop_wait {positions : List Position} {index : Nat} {offers : List Offer}
    (met : positions[index]? = some (.wait offers)) : nextOffers? (positions.drop index) = some offers := by
  obtain ⟨inside, same⟩ := List.getElem?_eq_some_iff.mp met
  rw [List.drop_eq_getElem_cons inside, same]
  rfl

theorem offersFrom_past {positions : List Position} {index : Nat} (past : positions[index]? = none) :
    offersFrom index positions = positions.flatMap Position.offers := by
  have left : positions.drop index = [] := List.drop_eq_nil_iff.mpr (List.getElem?_eq_none_iff.mp past)
  rw [offersFrom, left]
  rfl

theorem SceneMap.nonneg_of_get? {script : List Entry} {label : String} {begins : Int}
    (known : (ofScript script).get? label = some begins) (other : label ≠ endLabel) : 0 ≤ begins := by
  simp only [get?, ofScript, List.lookup_cons, beq_eq_false_iff_ne.mpr other] at known
  split at known
  next =>
    cases known
    cases (Script.headers script).lookup startLabel <;> simp
  next =>
    obtain ⟨header, -, same⟩ := List.mem_map.mp (Keyed.mem_of_lookup known)
    cases same
    exact Int.natCast_nonneg header.2

theorem Story.nonneg_of_hasScene {story : Story} {label : String} {begins : Int} (has : story.hasScene label = true)
    (known : story.scenes.get? label = some begins) : 0 ≤ begins := by
  rw [← Int.not_lt]
  intro negative
  simp [hasScene, known, entryAt?, negative] at has

theorem Story.resolve_eq_self {story : Story} {label : String} (settled : story.standIn? label = none) :
    story.resolve label = label := by
  unfold standIn? at settled
  unfold resolve
  split
  next start =>
    rw [if_pos start] at settled
    rw [settled]
    rw [Bool.and_eq_true] at start
    exact (eq_of_beq start.1).symm
  next => rfl

namespace Walk

variable {σ : Type} {story : Story} {keeper : Keeper σ}

theorem exists_last (story : Story) (keeper : Keeper σ) (walk : Walk σ) :
    ∃ last : Walk σ, last.move story keeper = .inr (walk.run story keeper) := by
  obtain ⟨_, last, -, stops⟩ := exists_last_moved? story keeper walk
  exact ⟨last, stops⟩

structure Waits (story : Story) (keeper : Keeper σ) (walk : Walk σ) (stepped : Stepped σ) (begins : Int)
    (positions : List Position) : Prop extends Stays story keeper walk begins where
  laid : layout? (keeper.answer stepped.state) (story.body begins) = .ok positions
  position : positions[walk.index]? = none ∨ ∃ offers, positions[walk.index]? = some (.wait offers)

theorem waits_of_move {walk : Walk σ} {stepped : Stepped σ} {shownAt : Coordinate} {prelude : List String}
    (stops : walk.move story keeper = .inr stepped) (waits : stepped.outcome = .ok (.wait shownAt prelude)) :
    shownAt = walk.place ∧ ∃ begins positions, walk.Waits story keeper stepped begins positions := by
  by_cases arrives : ∃ begins, walk.Comes story begins
  next =>
    obtain ⟨begins, comes⟩ := arrives
    have told : walk.exit? story keeper ≠ some .unreadable := by
      intro exit
      rw [comes.move, exit] at stops
      cases stops
      cases waits
    have stays := comes.stays_of_stop stops told
    rw [stays.move, playScene] at stops
    split at stops
    next =>
      cases stops
      cases waits
    next positions laid =>
      obtain ⟨rfl, state, position⟩ := wait_of_playPosition stops waits
      rw [opened_index] at position
      exact ⟨by simp [place], begins, positions, stays, state ▸ laid, position.imp_left And.left⟩
  next =>
    obtain ⟨result, move, lost⟩ := move_of_not_comes keeper (not_exists.mp arrives)
    cases move.symm.trans stops
    cases lost with
    | loops => cases (naming_eq_ok_iff.mp waits).2
    | finishes | strays => cases waits

end Walk

theorem Story.offersAt_of_standIn {story : Story} {ask : Oracle} {place : Coordinate} {begins : Int}
    {positions : List Position} (settled : story.standIn? place.scene = none)
    (known : story.scenes.get? place.scene = some begins) (nonneg : 0 ≤ begins)
    (laid : layout? ask (story.body begins) = .ok positions) :
    story.offersAt ask place = .ok (offersFrom place.index.toNat positions) := by
  rw [offersAt, resolve_eq_self settled, known]
  dsimp only
  rw [if_neg (Int.not_lt.mpr nonneg), laid]
  rfl

/-- Where a step waits, what is on offer under the counters it leaves is what it waits with: the options of the
position, or past the last position those of all waits of the scene. -/
theorem offersAt_of_wait {σ : Type} (script : List Entry) (keeper : Keeper σ) (state : σ) (place : Coordinate)
    (shownAt : Coordinate) (prelude : List String)
    (waits : (step (Story.ofScript script) keeper state place).outcome = .ok (.wait shownAt prelude)) :
    let story := Story.ofScript script
    let ask := keeper.answer (step story keeper state place).state
    ∃ begins positions, story.scenes.get? shownAt.scene = some begins ∧
      layout? ask (story.body begins) = .ok positions ∧ 0 ≤ shownAt.index ∧
      match positions[shownAt.index.toNat]? with
      | some position => ∃ offers, position = .wait offers ∧ story.offersAt ask shownAt = .ok offers
      | none => story.offersAt ask shownAt = .ok (positions.flatMap Position.offers) := by
  intro story ask
  obtain ⟨last, stops⟩ := Walk.exists_last story keeper (Walk.start state place)
  obtain ⟨rfl, begins, positions, waiting⟩ := Walk.waits_of_move stops waits
  -- Only the end can have a negative place, when it has no header, and then no step waits there.
  have nonneg : 0 ≤ begins := by
    by_cases ending : last.scene = endLabel
    next =>
      have has : story.hasScene last.scene = true := by
        have lasts := waiting.lasts
        rw [ending] at lasts ⊢
        simpa using lasts
      exact Story.nonneg_of_hasScene has waiting.known
    next => exact SceneMap.nonneg_of_get? waiting.known ending
  have offered : story.offersAt ask last.place = .ok (offersFrom last.index positions) :=
    Story.offersAt_of_standIn waiting.settled waiting.known nonneg waiting.laid
  refine ⟨begins, positions, waiting.known, waiting.laid, Int.natCast_nonneg _, ?_⟩
  have index : last.place.index.toNat = last.index := rfl
  rw [index]
  rcases waiting.position with past | ⟨offers, met⟩
  next =>
    rw [past]
    dsimp only
    rw [offered, offersFrom_past past]
  next =>
    rw [met]
    refine ⟨offers, rfl, ?_⟩
    rw [offered, offersFrom, nextOffers?_drop_wait met]
    rfl

theorem offersAt_of_wait_of_home :
    let script : List Entry :=
      [.scene "HALL" none, .metadata "sets" "lamp", .goto "HOME",
        .scene "HOME" none, .when "lamp" [.option ⟨"read", none, none⟩ []], .option ⟨"sleep", none, some "lamp"⟩ [],
        .narrative "Night falls.", .option ⟨"dream", none, none⟩ []]
    let story := Story.ofScript script
    let entered := step story Counters.keeper {} ⟨"START", 0⟩
    let stayed := step story Counters.keeper entered.state ⟨"HOME", 9⟩
    entered.outcome = .ok (.wait ⟨"HOME", 0⟩ []) ∧
      story.offersAt entered.state.answer ⟨"HOME", 0⟩ =
        .ok [⟨⟨"read", none, none⟩, []⟩, ⟨⟨"sleep", none, some "lamp"⟩, []⟩] ∧
      stayed.outcome = .ok (.wait ⟨"HOME", 9⟩ []) ∧
      story.offersAt stayed.state.answer ⟨"HOME", 9⟩ =
        .ok [⟨⟨"read", none, none⟩, []⟩, ⟨⟨"sleep", none, some "lamp"⟩, []⟩, ⟨⟨"dream", none, none⟩, []⟩] := by
  intro script story entered stayed
  have waits : entered.outcome = .ok (.wait ⟨"HOME", 0⟩ []) := by decide +kernel
  have waitsOn : stayed.outcome = .ok (.wait ⟨"HOME", 9⟩ []) := by decide +kernel
  have counted : entered.state = ⟨[("lamp", 1)]⟩ := by decide +kernel
  have kept : stayed.state = ⟨[("lamp", 1)]⟩ := by decide +kernel
  obtain ⟨begins, positions, known, laid, -, offered⟩ := offersAt_of_wait script Counters.keeper _ _ _ _ waits
  obtain ⟨place, others, found, laidOn, -, offeredOn⟩ := offersAt_of_wait script Counters.keeper _ _ _ _ waitsOn
  cases known
  cases found
  change layout? (Counters.keeper.answer entered.state) (story.body 3) = .ok positions at laid
  change layout? (Counters.keeper.answer stayed.state) (story.body 3) = .ok others at laidOn
  rw [counted] at laid
  rw [kept] at laidOn
  cases laid
  cases laidOn
  obtain ⟨offers, same, offered⟩ := offered
  cases same
  exact ⟨waits, offered, waitsOn, offeredOn⟩

end Gamebook
