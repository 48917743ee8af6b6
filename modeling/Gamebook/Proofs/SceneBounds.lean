import Gamebook.Proofs.Pending

set_option autoImplicit false

namespace Gamebook

theorem lookup_headersFrom (label : String) (index : Nat) (entries : List Entry) :
    (Script.headersFrom index entries).lookup label =
      (entries.findIdx? fun entry => entry.label? == some label).map (index + ·) := by
  induction entries generalizing index with
  | nil => rfl
  | cons entry entries ih =>
    rw [Script.headersFrom, List.findIdx?_cons]
    cases found : entry.label? with
    | none => simp [ih, Function.comp_def, Nat.add_assoc, Nat.add_comm 1]
    | some other =>
      by_cases same : label = other
      next => simp [same]
      next =>
        simp [List.lookup_cons, beq_eq_false_iff_ne.mpr same, Ne.symm same, ih, Function.comp_def, Nat.add_assoc,
          Nat.add_comm 1]

theorem lookup_filter_of_keep {keep : String × Nat → Bool} {label : String}
    (keeps : ∀ place, keep (label, place) = true)
    (headers : List (String × Nat)) : (headers.filter keep).lookup label = headers.lookup label := by
  induction headers with
  | nil => rfl
  | cons header headers ih =>
    obtain ⟨other, place⟩ := header
    rw [List.filter_cons, List.lookup_cons]
    by_cases same : label = other
    next => simp [← same, keeps]
    next => split <;> simp [List.lookup_cons, beq_eq_false_iff_ne.mpr same, ih]

theorem lookup_firstOfEach (label : String) (headers : List (String × Nat)) :
    (firstOfEach headers).lookup label = headers.lookup label := by
  induction headers with
  | nil => rfl
  | cons header headers ih =>
    obtain ⟨other, place⟩ := header
    rw [firstOfEach, List.lookup_cons, List.lookup_cons]
    by_cases same : label = other
    next => simp [same]
    next =>
      rw [lookup_filter_of_keep fun _ => by simpa using same, ih]

theorem lookup_map_natCast (label : String) (headers : List (String × Nat)) :
    (headers.map fun header => (header.1, (header.2 : Int))).lookup label =
      (headers.lookup label).map Int.ofNat := by
  induction headers with
  | nil => rfl
  | cons header headers ih =>
    rw [List.map_cons, List.lookup_cons, List.lookup_cons, ih]
    split <;> rfl

def Script.header? (script : List Entry) (label : String) : Option Nat :=
  script.findIdx? fun entry => entry.label? == some label

theorem SceneMap.get?_ofScript (script : List Entry) (label : String) :
    (ofScript script).get? label =
      match Script.header? script label with
      | some place => some (place : Int)
      | none => if label = startLabel then some 0 else if label = endLabel then some (-1) else none := by
  have found : ∀ label, (Script.headers script).lookup label = Script.header? script label := fun label => by
    simp [Script.headers, lookup_headersFrom, Script.header?]
  rw [get?, ofScript, List.lookup_cons, List.lookup_cons]
  by_cases start : label = startLabel
  next =>
    subst start
    rw [found]
    cases Script.header? script startLabel <;> rfl
  next =>
    rw [beq_eq_false_iff_ne.mpr start, found endLabel]
    by_cases final : label = endLabel
    next =>
      subst final
      cases Script.header? script endLabel <;> simp [start]
    next =>
      have keeps : ∀ place : Nat, ((label, place).1 != startLabel && (label, place).1 != endLabel) = true := fun _ => by
        simp [start, final]
      rw [beq_eq_false_iff_ne.mpr final, lookup_map_natCast, lookup_firstOfEach, lookup_filter_of_keep keeps,
        found label]
      cases Script.header? script label <;> simp [start, final]

namespace Script

def stretch (script : List Entry) (start : Nat) : List Entry :=
  (script.drop start).takeWhile fun entry => !entry.isScene

def BeginsAt (script : List Entry) (label : String) (start : Nat) : Prop :=
  match header? script label with
  | some place => start = place + 1
  | none => label = startLabel ∧ start = 0

theorem entry_of_header? {script : List Entry} {label : String} {place : Nat}
    (found : header? script label = some place) :
    ∃ entry, script[place]? = some entry ∧ entry.label? = some label := by
  obtain ⟨inside, same, -⟩ := List.findIdx?_eq_some_iff_getElem.mp found
  exact ⟨script[place], List.getElem?_eq_getElem inside, eq_of_beq same⟩

theorem isScene_of_label? {entry : Entry} {label : String} (labelled : entry.label? = some label) :
    entry.isScene = true := by
  cases entry <;> first | rfl | cases labelled

theorem preambleSize_le {script : List Entry} {place : Nat} {entry : Entry} (met : script[place]? = some entry)
    (header : entry.isScene = true) : preambleSize script ≤ place := by
  obtain ⟨inside, same⟩ := List.getElem?_eq_some_iff.mp met
  unfold preambleSize firstScene?
  cases first : script.findIdx? Entry.isScene with
  | none => exact Nat.zero_le _
  | some other =>
    obtain ⟨_, -, before⟩ := List.findIdx?_eq_some_iff_getElem.mp first
    rw [Option.getD_some, ← Nat.not_lt]
    intro later
    have no := before place later
    rw [same, header] at no
    exact no rfl

theorem bodyFrom_past {limit : Int} {place : Nat} (past : limit ≤ place) (entries : List Entry) :
    bodyFrom limit place entries = entries.takeWhile fun entry => !entry.isScene := by
  induction entries generalizing place with
  | nil => rfl
  | cons entry entries ih =>
    have outside : ¬ (place : Int) < limit := by omega
    rw [bodyFrom, List.takeWhile_cons, ih (by omega)]
    cases entry.isScene <;> simp [outside]

theorem bodyFrom_before {limit : Int} {place : Nat} {entries : List Entry}
    (before : place + (entries.takeWhile fun entry => !entry.isScene).length ≤ limit) :
    bodyFrom limit place entries =
      (entries.takeWhile fun entry => !entry.isScene).filter fun entry => !opensPreamble entry := by
  induction entries generalizing place with
  | nil => rfl
  | cons entry entries ih =>
    rw [bodyFrom, List.takeWhile_cons]
    cases header : entry.isScene with
    | true => rfl
    | false =>
      rw [List.takeWhile_cons, header] at before
      simp only [Bool.not_false, if_true, List.length_cons] at before
      have inside : (place : Int) < limit := by omega
      rw [ih (by omega)]
      cases opens : opensPreamble entry <;> simp [inside, opens]

theorem takeWhile_eq_preamble {script : List Entry} {place : Nat} (first : firstScene? script = some place) :
    (script.takeWhile fun entry => !entry.isScene) = preamble script := by
  obtain ⟨inside, headed⟩ := List.findIdx?_eq_some_iff_findIdx_eq.mp first
  rw [List.takeWhile_eq_take_findIdx_not, preamble, preambleSize, first]
  simp [headed]

theorem isScene_of_firstScene? {script : List Entry} {place : Nat} (first : firstScene? script = some place) :
    ∃ entry, script[place]? = some entry ∧ entry.isScene = true := by
  obtain ⟨inside, same, -⟩ := List.findIdx?_eq_some_iff_getElem.mp first
  exact ⟨script[place], List.getElem?_eq_getElem inside, same⟩

end Script

namespace Story

theorem entryAt?_natCast (story : Story) (place : Nat) : story.entryAt? place = story.script[place]? := by
  have ahead : ¬ (place : Int) < 0 := by omega
  rw [entryAt?, if_neg ahead, Int.toNat_natCast]

theorem scanStart_of_isScene {script : List Entry} {place : Nat} {entry : Entry} (met : script[place]? = some entry)
    (header : entry.isScene = true) : (ofScript script).scanStart place = (place + 1 : Nat) := by
  rw [scanStart, entryAt?_natCast, ofScript, met]
  simp [header]

theorem body_of_isScene {script : List Entry} {place : Nat} {entry : Entry} (met : script[place]? = some entry)
    (header : entry.isScene = true) : (ofScript script).body place = Script.stretch script (place + 1) := by
  have past : (Script.preambleSize script : Int) ≤ (place + 1 : Nat) := by
    have := Script.preambleSize_le met header
    omega
  rw [body, scanStart_of_isScene met header]
  exact Script.bodyFrom_past past _

theorem scanStart_zero {story : Story} (plain : ∀ entry, story.script[0]? = some entry → entry.isScene = false) :
    story.scanStart 0 = 0 := by
  unfold scanStart
  split
  next entry met => rw [plain entry ((entryAt?_natCast story 0).symm.trans met), if_neg Bool.false_ne_true]
  next => rfl

theorem body_zero (script : List Entry) :
    (ofScript script).body 0 =
      match Script.firstScene? script with
      | none => Script.stretch script 0
      | some 0 => Script.stretch script 1
      | some _ => (Script.preamble script).filter fun entry => !Script.opensPreamble entry := by
  cases first : Script.firstScene? script with
  | none =>
    have plain : (ofScript script).scanStart 0 = 0 := by
      apply scanStart_zero
      intro entry met
      exact List.findIdx?_eq_none_iff.mp first entry (List.mem_of_getElem? met)
    rw [body, plain]
    exact Script.bodyFrom_past (by simp [Script.preambleSize, ofScript, first]) _
  | some place =>
    obtain ⟨header, met, headed⟩ := Script.isScene_of_firstScene? first
    cases place with
    | zero => exact body_of_isScene met headed
    | succ place =>
      have size : Script.preambleSize script = place + 1 := by rw [Script.preambleSize, first, Option.getD_some]
      have plain : (ofScript script).scanStart 0 = 0 := by
        apply scanStart_zero
        intro entry met
        by_contra other
        have early : Script.preambleSize script ≤ 0 := Script.preambleSize_le met (eq_true_of_ne_false other)
        omega
      have whole := Script.takeWhile_eq_preamble first
      rw [body, plain, ← whole]
      refine Script.bodyFrom_before ?_
      have short : (Script.preamble script).length ≤ Script.preambleSize script := by
        rw [Script.preamble, List.length_take]
        exact Nat.min_le_left _ _
      simpa [ofScript, whole] using short

theorem hasScene_ofScript (script : List Entry) (label : String) :
    (ofScript script).hasScene label = (Script.header? script label).isSome := by
  rw [hasScene, ofScript, SceneMap.get?_ofScript]
  cases found : Script.header? script label with
  | some place =>
    obtain ⟨entry, met, labelled⟩ := Script.entry_of_header? found
    simp [entryAt?_natCast, met, labelled]
  | none =>
    by_cases start : label = startLabel
    next =>
      simp only [start, if_true, Option.bind_some, Option.isSome_none]
      split
      next entry met =>
        have member := List.mem_of_getElem? ((entryAt?_natCast _ 0).symm.trans met)
        exact List.findIdx?_eq_none_iff.mp (start ▸ found) entry member
      next => rfl
    next =>
      by_cases final : label = endLabel
      next => rw [if_neg start, if_pos final, Option.bind_some, entryAt?, if_pos (by decide), Option.isSome_none]
      next => rw [if_neg start, if_neg final, Option.bind_none, Option.isSome_none]

end Story

theorem Entry.isScene_eq (entry : Entry) : entry.isScene = entry.label?.isSome := by
  cases entry <;> rfl

namespace Script

def labelAt? (script : List Entry) (place : Nat) : Option String := (script[place]?).bind Entry.label?

theorem headersFrom_eq (index : Nat) (entries : List Entry) :
    headersFrom index entries =
      ((entries.map Entry.label?).zipIdx index).filterMap fun numbered => numbered.1.map (·, numbered.2) := by
  induction entries generalizing index with
  | nil => rfl
  | cons entry entries ih =>
    rw [headersFrom, List.map_cons, List.zipIdx_cons, List.filterMap_cons, ih]
    cases entry.label? <;> rfl

theorem firstScene?_eq (script : List Entry) :
    firstScene? script = (script.map Entry.label?).findIdx? Option.isSome := by
  rw [firstScene?, List.findIdx?_map]
  congr 1
  funext entry
  exact entry.isScene_eq

theorem header?_eq (script : List Entry) (label : String) :
    header? script label = (script.map Entry.label?).findIdx? (· == some label) := by
  rw [List.findIdx?_map]
  rfl

theorem labelAt?_eq (script : List Entry) (place : Nat) :
    labelAt? script place = ((script.map Entry.label?)[place]?).join := by
  rw [labelAt?, List.getElem?_map]
  cases script[place]? <;> rfl

end Script

namespace Story

theorem scanStart_eq (script : List Entry) (place : Int) :
    (ofScript script).scanStart place =
      if 0 ≤ place ∧ (Script.labelAt? script place.toNat).isSome then place + 1 else place := by
  unfold scanStart entryAt? Script.labelAt?
  by_cases behind : place < 0
  next => simp [behind, Int.not_le.mpr behind]
  next =>
    have ahead : 0 ≤ place := Int.not_lt.mp behind
    rw [if_neg behind, ofScript]
    cases script[place.toNat]? with
    | none => simp
    | some entry => simp [ahead, Entry.isScene_eq]

-- Scripts with the same labels have the same scenes, and these begin at the same places.
section SameLabels

variable {script other : List Entry} (same : other.map Entry.label? = script.map Entry.label?)
include same

theorem labelAt?_of_labels (place : Nat) : Script.labelAt? other place = Script.labelAt? script place := by
  rw [Script.labelAt?_eq, same, Script.labelAt?_eq]

theorem firstScene?_of_labels : Script.firstScene? other = Script.firstScene? script := by
  rw [Script.firstScene?_eq, same, Script.firstScene?_eq]

theorem preambleSize_of_labels : Script.preambleSize other = Script.preambleSize script := by
  rw [Script.preambleSize, firstScene?_of_labels same, Script.preambleSize]

theorem scenes_of_labels : (ofScript other).scenes = (ofScript script).scenes := by
  simp only [ofScript, SceneMap.ofScript, Script.headers, Script.headersFrom_eq, same]

theorem hasScene_of_labels (label : String) : (ofScript other).hasScene label = (ofScript script).hasScene label := by
  rw [hasScene_ofScript, Script.header?_eq, same, ← Script.header?_eq, ← hasScene_ofScript]

theorem scanStart_of_labels (place : Int) : (ofScript other).scanStart place = (ofScript script).scanStart place := by
  rw [scanStart_eq, labelAt?_of_labels same, scanStart_eq]

end SameLabels

end Story

end Gamebook
