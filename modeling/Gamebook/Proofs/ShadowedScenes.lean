import Gamebook.Proofs.Gates
import Gamebook.Proofs.SceneBounds
import Mathlib.Data.List.TakeWhile

set_option autoImplicit false

namespace Gamebook

namespace Script

/-- A header with the label of an earlier one. -/
def Repeats (script : List Entry) (place : Nat) : Prop :=
  ∃ label, labelAt? script place = some label ∧ ∃ earlier < place, labelAt? script earlier = some label

/-- A place after a header that repeats an earlier one, and before the next header. -/
def Shadowed (script : List Entry) (place : Nat) : Prop :=
  ∃ header < place, Repeats script header ∧ ∀ i, header < i → i ≤ place → labelAt? script i = none

/-- A script with other entries at shadowed places, none of them a header. -/
structure Rewritten (script other : List Entry) : Prop where
  length : other.length = script.length
  quiet : ∀ place, Shadowed script place → labelAt? other place = none
  same : ∀ place, ¬Shadowed script place → other[place]? = script[place]?

def Opens (script : List Entry) (start : Nat) : Prop :=
  start = 0 ∨ ∃ label header, header? script label = some header ∧ start = header + 1

theorem labelAt?_of_header? {script : List Entry} {label : String} {place : Nat}
    (found : header? script label = some place) :
    labelAt? script place = some label ∧ ∀ earlier < place, labelAt? script earlier ≠ some label := by
  obtain ⟨inside, same, before⟩ := List.findIdx?_eq_some_iff_getElem.mp found
  refine ⟨?_, fun earlier sooner labelled => ?_⟩
  next =>
    rw [labelAt?, List.getElem?_eq_getElem inside]
    exact eq_of_beq same
  next =>
    rw [labelAt?, List.getElem?_eq_getElem (Nat.lt_trans sooner inside)] at labelled
    exact before earlier sooner (beq_iff_eq.mpr labelled)

theorem isSome_header?_iff (script : List Entry) (label : String) :
    (header? script label).isSome = true ↔ ∃ entry ∈ script, entry.label? = some label := by
  simp [header?]

theorem not_repeats_of_header? {script : List Entry} {label : String} {place : Nat}
    (found : header? script label = some place) : ¬Repeats script place := by
  obtain ⟨labelled, first⟩ := labelAt?_of_header? found
  rintro ⟨other, same, earlier, sooner, before⟩
  cases labelled.symm.trans same
  exact first earlier sooner before

theorem not_shadowed_of_opens {script : List Entry} {start place : Nat} (opens : Opens script start)
    (after : start ≤ place) (clear : ∀ i, start ≤ i → i ≤ place → labelAt? script i = none) : ¬Shadowed script place := by
  rintro ⟨header, before, repeats, alone⟩
  obtain ⟨label, labelled, -⟩ := id repeats
  -- The header that casts the shadow stands before the scene, and so at the scene's own header or before it.
  have outside : header < start := by
    by_contra within
    have none := clear header (Nat.le_of_not_lt within) (Nat.le_of_lt before)
    cases labelled.symm.trans none
  rcases opens with rfl | ⟨own, first, found, rfl⟩
  next => exact absurd outside (Nat.not_lt_zero _)
  next =>
    rcases Nat.lt_or_eq_of_le (Nat.le_of_lt_succ outside) with sooner | rfl
    next => cases (labelAt?_of_header? found).1.symm.trans (alone first sooner (by omega))
    next => exact not_repeats_of_header? found repeats

theorem takeWhile_zipIdx {α : Type} (keep : α → Bool) (start : Nat) (items : List α) :
    ((items.zipIdx start).takeWhile fun numbered => keep numbered.1) = (items.takeWhile keep).zipIdx start := by
  induction items generalizing start with
  | nil => rfl
  | cons item items ih =>
    rw [List.zipIdx_cons, List.takeWhile_cons, List.takeWhile_cons, ih]
    cases keep item <;> rfl

def numberedBody (script : List Entry) (start : Nat) (preambleEnd : Int) : List (Entry × Nat) :=
  ((stretch script start).zipIdx start).filter
    fun numbered => !(numbered.2 < preambleEnd && opensPreamble numbered.1)

theorem sceneBody_eq (script : List Entry) (start preambleEnd : Int) :
    sceneBody script start preambleEnd = (numberedBody script start.toNat preambleEnd).map Prod.fst := by
  have front := takeWhile_zipIdx (fun entry : Entry => !entry.isScene) start.toNat (script.drop start.toNat)
  rw [sceneBody, bodyFrom_eq, front]
  rfl

theorem getElem?_stretch {script : List Entry} {start k : Nat} {entry : Entry}
    (met : (stretch script start)[k]? = some entry) : script[start + k]? = some entry ∧ entry.label? = none := by
  unfold stretch at met
  have plain := List.mem_takeWhile_imp (List.mem_of_getElem? met)
  obtain ⟨inside, here⟩ := List.getElem?_eq_some_iff.mp met
  have whole := List.prefix_iff_getElem?.mp (List.takeWhile_prefix fun entry : Entry => !entry.isScene) k inside
  rw [here, List.getElem?_drop] at whole
  rw [Entry.isScene_eq] at plain
  exact ⟨whole, by simpa using plain⟩

theorem labelAt?_stretch {script : List Entry} {start k : Nat} (inside : k < (stretch script start).length) (i : Nat)
    (after : start ≤ i) (before : i ≤ start + k) : labelAt? script i = none := by
  obtain ⟨j, rfl⟩ := Nat.exists_eq_add_of_le after
  have within : j < (stretch script start).length := by omega
  obtain ⟨met, plain⟩ := getElem?_stretch (List.getElem?_eq_getElem within)
  rw [labelAt?, met]
  exact plain

theorem not_shadowed_of_mem {script : List Entry} {start : Nat} {preambleEnd : Int} (opens : Opens script start)
    {entry : Entry} {place : Nat} (member : (entry, place) ∈ numberedBody script start preambleEnd) :
    script[place]? = some entry ∧ ¬Shadowed script place := by
  obtain ⟨k, inside, same⟩ := List.mem_iff_getElem.mp (List.mem_filter.mp member).1
  rw [List.getElem_zipIdx, Prod.mk.injEq] at same
  obtain ⟨rfl, rfl⟩ := same
  rw [List.length_zipIdx] at inside
  refine ⟨(getElem?_stretch (List.getElem?_eq_getElem inside)).1, ?_⟩
  exact not_shadowed_of_opens opens (Nat.le_add_right _ _) (labelAt?_stretch inside)

theorem pairwise_numberedBody (script : List Entry) (start : Nat) (preambleEnd : Int) :
    ((numberedBody script start preambleEnd).map Prod.snd).Pairwise (· < ·) := by
  have whole : (((stretch script start).zipIdx start).map Prod.snd).Pairwise (· < ·) := by
    rw [List.zipIdx_map_snd]
    exact List.pairwise_lt_range'
  exact whole.sublist (List.filter_sublist.map _)

theorem header?_of_head {script : List Entry} {entry : Entry} {label : String} (met : script[0]? = some entry)
    (labelled : entry.label? = some label) : header? script label = some 0 := by
  cases script with
  | nil => cases met
  | cons first rest =>
    cases met
    simp [header?, List.findIdx?_cons, labelled]

theorem opens_scanStart {script : List Entry} {label : String} {begins : Int}
    (known : (SceneMap.ofScript script).get? label = some begins) :
    Opens script ((Story.ofScript script).scanStart begins).toNat := by
  rw [SceneMap.get?_ofScript] at known
  cases found : header? script label with
  | some place =>
    rw [found] at known
    cases known
    obtain ⟨entry, met, labelled⟩ := entry_of_header? found
    rw [Story.scanStart_of_isScene met (isScene_of_label? labelled)]
    exact .inr ⟨label, place, found, rfl⟩
  | none =>
    rw [found] at known
    dsimp only at known
    split at known
    next =>
      cases known
      by_cases headed : ∃ entry, script[0]? = some entry ∧ entry.isScene = true
      next =>
        obtain ⟨entry, met, header⟩ := headed
        have begins := Story.scanStart_of_isScene met header
        rw [Entry.isScene_eq, Option.isSome_iff_exists] at header
        obtain ⟨own, labelled⟩ := header
        exact .inr ⟨own, 0, header?_of_head met labelled, congrArg Int.toNat begins⟩
      next =>
        have plain : (Story.ofScript script).scanStart 0 = 0 := Story.scanStart_zero fun entry met => by
          rw [Bool.eq_false_iff]
          exact fun header => headed ⟨entry, met, header⟩
        exact .inl (congrArg Int.toNat plain)
    next =>
      split at known
      next =>
        cases known
        exact .inl rfl
      next => cases known

namespace Rewritten

variable {script other : List Entry}

theorem labelAt?_eq (rewritten : Rewritten script other) (place : Nat) :
    labelAt? other place = labelAt? script place := by
  by_cases shadowed : Shadowed script place
  next =>
    obtain ⟨header, before, -, alone⟩ := id shadowed
    rw [rewritten.quiet place shadowed, alone place before (Nat.le_refl _)]
  next => rw [labelAt?, labelAt?, rewritten.same place shadowed]

theorem map_label? (rewritten : Rewritten script other) : other.map Entry.label? = script.map Entry.label? := by
  refine List.ext_getElem (by simp [rewritten.length]) fun place inside within => ?_
  have same := rewritten.labelAt?_eq place
  rw [List.length_map] at inside within
  rw [labelAt?, labelAt?, List.getElem?_eq_getElem inside, List.getElem?_eq_getElem within] at same
  rw [List.getElem_map, List.getElem_map]
  exact same

end Rewritten

theorem length_stretch (script : List Entry) (start : Nat) :
    (stretch script start).length = (((script.map Entry.label?).drop start).takeWhile Option.isNone).length := by
  rw [← List.map_drop, List.takeWhile_map, List.length_map, stretch]
  congr 2
  funext entry
  simp [Entry.isScene_eq]

namespace Rewritten

variable {script other : List Entry}

theorem stretch_eq (rewritten : Rewritten script other) {start : Nat} (opens : Opens script start) :
    stretch other start = stretch script start := by
  have long : (stretch other start).length = (stretch script start).length := by
    rw [length_stretch, length_stretch, rewritten.map_label?]
  refine List.ext_getElem long fun k inside within => ?_
  have here := (getElem?_stretch (List.getElem?_eq_getElem inside)).1
  have there := (getElem?_stretch (List.getElem?_eq_getElem within)).1
  have clear := not_shadowed_of_opens opens (Nat.le_add_right start k) (labelAt?_stretch within)
  rw [rewritten.same _ clear] at here
  exact Option.some.inj (here.symm.trans there)

theorem preamble_eq (rewritten : Rewritten script other) : preamble other = preamble script := by
  have same := Story.firstScene?_of_labels rewritten.map_label?
  cases first : firstScene? script with
  | none => simp [preamble, preambleSize, same, first]
  | some place =>
    rw [← takeWhile_eq_preamble first, ← takeWhile_eq_preamble (same.trans first)]
    exact rewritten.stretch_eq (.inl rfl)

theorem implicitStart?_eq (rewritten : Rewritten script other) : implicitStart? other = implicitStart? script := by
  have labels : (fun place => (other[place]?).bind Entry.label?) = fun place => (script[place]?).bind Entry.label? :=
    funext rewritten.labelAt?_eq
  rw [implicitStart?, implicitStart?, entryPoint?, entryPoint?, rewritten.preamble_eq,
    Story.firstScene?_of_labels rewritten.map_label?, labels]

end Rewritten

end Script

namespace Story

/-- Two stories that cannot be told apart by playing them. -/
structure PlaysAlike (story other : Story) : Prop where
  scenes : other.scenes = story.scenes
  hasScene : ∀ label, other.hasScene label = story.hasScene label
  preamble : Script.preamble other.script = Script.preamble story.script
  implicitStart : Script.implicitStart? other.script = Script.implicitStart? story.script
  body : ∀ label begins, story.scenes.get? label = some begins → other.body begins = story.body begins

theorem playsAlike_of_rewritten {script other : List Entry} (rewritten : Script.Rewritten script other) :
    PlaysAlike (ofScript script) (ofScript other) where
  scenes := scenes_of_labels rewritten.map_label?
  hasScene := hasScene_of_labels rewritten.map_label?
  preamble := rewritten.preamble_eq
  implicitStart := rewritten.implicitStart?_eq
  body label begins known := by
    have opens := Script.opens_scanStart known
    change Script.sceneBody other _ (Script.preambleSize other) = Script.sceneBody script _ (Script.preambleSize script)
    rw [scanStart_of_labels rewritten.map_label?, preambleSize_of_labels rewritten.map_label?, Script.sceneBody_eq,
      Script.sceneBody_eq, Script.numberedBody, rewritten.stretch_eq opens]
    rfl

end Story

namespace Walk

variable {σ : Type} {story other : Story} (keeper : Keeper σ)

theorem follow_alike (alike : story.PlaysAlike other) (walk : Walk σ) (target : String) :
    walk.follow other target = walk.follow story target := by
  rw [follow, alike.hasScene, follow]

theorem playPosition_alike (alike : story.PlaysAlike other) (walk : Walk σ) (positions : List Position) :
    walk.playPosition other keeper positions = walk.playPosition story keeper positions := by
  unfold playPosition
  rcases positions[walk.index]? with _ | beat | _ | _
  next => rfl
  next =>
    cases beat with
    | jump target => exact follow_alike alike walk target
    | narrative | image | change => rfl
  next => rfl
  next => rfl

theorem enter_alike (alike : story.PlaysAlike other) (walk : Walk σ) {label : String} {begins : Int}
    (known : story.scenes.get? label = some begins) :
    walk.enter other keeper begins = walk.enter story keeper begins := by
  have scene : walk.playScene other keeper begins = walk.playScene story keeper begins := by
    rw [playScene, alike.body label begins known, playScene]
    cases layout? (keeper.answer walk.state) (story.body begins) with
    | error => rfl
    | ok positions => exact playPosition_alike keeper alike walk positions
  rw [enter, alike.hasScene, alike.implicitStart, scene, enter]

theorem openScene_alike (alike : story.PlaysAlike other) (walk : Walk σ) {label : String} {begins : Int}
    (known : story.scenes.get? label = some begins) :
    walk.openScene other keeper begins = walk.openScene story keeper begins := by
  have told : Script.runPreamble keeper walk.state other.script = Script.runPreamble keeper walk.state story.script := by
    rw [Script.runPreamble, alike.preamble, Script.runPreamble]
  unfold openScene
  simp only [told, enter_alike keeper alike _ known]

theorem move_alike (alike : story.PlaysAlike other) (walk : Walk σ) :
    walk.move other keeper = walk.move story keeper := by
  unfold move
  rw [alike.hasScene, alike.scenes]
  cases known : story.scenes.get? walk.scene with
  | none => rfl
  | some begins => simp only [openScene_alike keeper alike _ known, enter_alike keeper alike _ known]

theorem run_alike (alike : story.PlaysAlike other) (walk : Walk σ) : walk.run other keeper = walk.run story keeper := by
  fun_induction Walk.run story keeper walk with
  | case1 walk stepped stops => exact run_of_inr ((move_alike keeper alike walk).trans stops)
  | case2 walk next moves _ ih => rw [run_of_inl ((move_alike keeper alike walk).trans moves), ih]

end Walk

theorem Story.offersAt_alike {story other : Story} (alike : story.PlaysAlike other) (ask : Oracle) (place : Coordinate) :
    other.offersAt ask place = story.offersAt ask place := by
  have resolved : other.resolve place.scene = story.resolve place.scene := by
    rw [resolve, alike.hasScene, alike.implicitStart, resolve]
  unfold offersAt
  rw [resolved, alike.scenes]
  cases known : story.scenes.get? (story.resolve place.scene) with
  | none => rfl
  | some begins =>
    dsimp only
    rw [alike.body _ begins known]

theorem firstOfEach_subset (headers : List (String × Nat)) : firstOfEach headers ⊆ headers := by
  induction headers with
  | nil => exact List.Subset.refl _
  | cons header headers ih =>
    rw [firstOfEach]
    exact List.cons_subset_cons header fun other member => ih (List.mem_filter.mp member).1

theorem nodup_firstOfEach (headers : List (String × Nat)) : ((firstOfEach headers).map Prod.fst).Nodup := by
  induction headers with
  | nil => exact List.nodup_nil
  | cons header headers ih =>
    rw [firstOfEach, List.map_cons, List.nodup_cons]
    refine ⟨?_, ih.sublist (List.filter_sublist.map _)⟩
    intro member
    obtain ⟨other, kept, same⟩ := List.mem_map.mp member
    have apart := (List.mem_filter.mp kept).2
    rw [same, bne_self_eq_false] at apart
    cases apart

namespace SceneMap

theorem nodup_keys (script : List Entry) : ((ofScript script).map Prod.fst).Nodup := by
  have apart : ∀ label, label = startLabel ∨ label = endLabel →
      label ∉ ((firstOfEach ((Script.headers script).filter fun header =>
        header.1 != startLabel && header.1 != endLabel)).map Prod.fst) := by
    intro label special member
    obtain ⟨header, kept, same⟩ := List.mem_map.mp member
    have plain := (List.mem_filter.mp (firstOfEach_subset _ kept)).2
    rcases special with rfl | rfl <;> simp [same] at plain
  simp only [ofScript, List.map_cons, List.map_map, Function.comp_def, List.nodup_cons, List.mem_cons, not_or]
  exact ⟨⟨by decide, apart _ (.inl rfl)⟩, apart _ (.inr rfl), nodup_firstOfEach _⟩

theorem mem_keys_iff (script : List Entry) (label : String) :
    label ∈ (ofScript script).map Prod.fst ↔
      label = startLabel ∨ label = endLabel ∨ ∃ entry ∈ script, entry.label? = some label := by
  have listed : label ∈ (ofScript script).map Prod.fst ↔ ((ofScript script).get? label).isSome = true := by
    rw [get?, List.lookup_isSome_iff, List.mem_map]
    constructor
    next =>
      rintro ⟨scene, member, rfl⟩
      exact ⟨scene, member, beq_self_eq_true _⟩
    next =>
      rintro ⟨scene, member, same⟩
      exact ⟨scene, member, (eq_of_beq same).symm⟩
  rw [listed, get?_ofScript, ← Script.isSome_header?_iff]
  cases Script.header? script label with
  | some place => simp
  | none =>
    by_cases start : label = startLabel
    next => simp [start]
    next =>
      dsimp only
      rw [if_neg start]
      by_cases final : label = endLabel
      next => simp [final]
      next => simp [start, final]

end SceneMap

/-- A label is that of a scene exactly if a header has it, and then leads to the first such header. The map knows the
start, the end and the labels of headers, each once, and without headers the start is the beginning of the script and the
end nowhere. So shadowed entries are in no scene: the entries that are laid out for a label stand at places that are not
shadowed, and with other entries at shadowed places every step and everything on offer is the same. -/
theorem labels_lead_to_first_headers (script : List Entry) :
    let story := Story.ofScript script
    (∀ label, story.hasScene label = true ↔ ∃ entry ∈ script, entry.label? = some label) ∧
    (∀ label, story.hasScene label = true → ∃ place : Nat, story.scenes.get? label = some (place : Int) ∧
      Script.labelAt? script place = some label ∧ ∀ earlier < place, Script.labelAt? script earlier ≠ some label) ∧
    (∀ label, label ∈ story.scenes.map Prod.fst ↔
      label = startLabel ∨ label = endLabel ∨ ∃ entry ∈ script, entry.label? = some label) ∧
    (story.scenes.map Prod.fst).Nodup ∧
    (story.hasScene startLabel = false → story.scenes.get? startLabel = some 0) ∧
    (story.hasScene endLabel = false → story.scenes.get? endLabel = some (-1)) ∧
    (∀ label begins, story.scenes.get? label = some begins →
      ∃ numbered : List (Entry × Nat), story.body begins = numbered.map Prod.fst ∧
        (numbered.map Prod.snd).Pairwise (· < ·) ∧
        ∀ entry place, (entry, place) ∈ numbered → script[place]? = some entry ∧ ¬Script.Shadowed script place) ∧
    ∀ other, Script.Rewritten script other →
      (∀ (σ : Type) (keeper : Keeper σ) (state : σ) (place : Coordinate),
        step (Story.ofScript other) keeper state place = step story keeper state place) ∧
      ∀ (ask : Oracle) (place : Coordinate), (Story.ofScript other).offersAt ask place = story.offersAt ask place := by
  intro story
  have knows : ∀ label, story.hasScene label = (Script.header? script label).isSome := Story.hasScene_ofScript script
  have leads : ∀ label, story.scenes.get? label = _ := SceneMap.get?_ofScript script
  refine ⟨?_, ?_, SceneMap.mem_keys_iff script, SceneMap.nodup_keys script, ?_, ?_, ?_, ?_⟩
  next =>
    intro label
    rw [knows, Script.isSome_header?_iff]
  next =>
    intro label known
    rw [knows, Option.isSome_iff_exists] at known
    obtain ⟨place, found⟩ := known
    exact ⟨place, by rw [leads, found], Script.labelAt?_of_header? found⟩
  next =>
    intro headless
    rw [knows, Option.isSome_eq_false_iff, Option.isNone_iff_eq_none] at headless
    rw [leads, headless]
    rfl
  next =>
    intro headless
    rw [knows, Option.isSome_eq_false_iff, Option.isNone_iff_eq_none] at headless
    rw [leads, headless]
    rfl
  next =>
    intro label begins known
    have opens := Script.opens_scanStart known
    exact ⟨_, Script.sceneBody_eq script _ _, Script.pairwise_numberedBody _ _ _,
      fun entry place => Script.not_shadowed_of_mem opens⟩
  next =>
    intro other rewritten
    have alike := Story.playsAlike_of_rewritten rewritten
    exact ⟨fun σ keeper state place => Walk.run_alike keeper alike _, Story.offersAt_alike alike⟩

theorem labels_lead_to_first_headers_in_hall :
    let script : List Entry :=
      [.scene "HALL" none, .narrative "A hall.", .scene " HALL " none, .narrative "Another.", .goto "CELLAR",
        .scene "CELLAR" none, .narrative "Dark."]
    let other : List Entry :=
      [.scene "HALL" none, .narrative "A hall.", .scene " HALL " none, .option ⟨"leave", none, none⟩ [], .image "hall.png",
        .scene "CELLAR" none, .narrative "Dark."]
    let story := Story.ofScript script
    story.hasScene "HALL" = true ∧ story.scenes.get? "HALL" = some 0 ∧ story.scenes.get? startLabel = some 0 ∧
      story.scenes.get? endLabel = some (-1) ∧ Script.Shadowed script 3 ∧ Script.Shadowed script 4 ∧
      (∃ numbered : List (Entry × Nat), story.body 0 = numbered.map Prod.fst ∧
        ∀ entry place, (entry, place) ∈ numbered → script[place]? = some entry ∧ ¬Script.Shadowed script place) ∧
      ∀ (state : Counters) (place : Coordinate),
        step (Story.ofScript other) Counters.keeper state place = step story Counters.keeper state place := by
  intro script other story
  have shadowed : ∀ place, place = 3 ∨ place = 4 → Script.Shadowed script place := by
    rintro place (rfl | rfl)
    next =>
      refine ⟨2, by decide, ⟨"HALL", rfl, 0, by decide, rfl⟩, fun i after before => ?_⟩
      obtain rfl : i = 3 := by omega
      rfl
    next =>
      refine ⟨2, by decide, ⟨"HALL", rfl, 0, by decide, rfl⟩, fun i after before => ?_⟩
      obtain rfl | rfl : i = 3 ∨ i = 4 := by omega
      next => rfl
      next => rfl
  have rewritten : Script.Rewritten script other := by
    refine ⟨rfl, ?_, ?_⟩
    next =>
      rintro place ⟨header, before, -, alone⟩
      rw [← alone place before (Nat.le_refl _)]
      rcases place with _ | _ | _ | _ | _ | _ | _ | place <;> rfl
    next =>
      intro place clear
      rcases place with _ | _ | _ | _ | _ | _ | _ | place
      case succ.succ.succ.zero => exact absurd (shadowed 3 (.inl rfl)) clear
      case succ.succ.succ.succ.zero => exact absurd (shadowed 4 (.inr rfl)) clear
      all_goals rfl
  obtain ⟨known, leads, -, -, begins, ends, laid, replays⟩ := labels_lead_to_first_headers script
  have hall : story.hasScene "HALL" = true := (known "HALL").mpr ⟨_, .head _, rfl⟩
  have lies : story.scenes.get? "HALL" = some 0 := rfl
  obtain ⟨numbered, body, -, clear⟩ := laid "HALL" 0 lies
  exact ⟨hall, lies, begins rfl, ends rfl, shadowed 3 (.inl rfl), shadowed 4 (.inr rfl), ⟨numbered, body, clear⟩,
    (replays other rewritten).1 Counters Counters.keeper⟩

end Gamebook
