import Gamebook.Proofs.LineForms
import Gamebook.Proofs.Parts
import Gamebook.Proofs.ToldLines

set_option autoImplicit false

namespace Gamebook

open Gamebook.Text

def Condition.Legible (condition : String) : Prop := ∃ clauses, clauses? condition = some clauses

def Entry.Legible : Entry → Prop
  | .when condition _ | .whenElse condition _ _ => Condition.Legible condition
  | .option choice _ => ∀ condition ∈ choice.requires, Condition.Legible condition
  | .scene label _ => Coordinate.Nameable (trim label)
  | _ => True

def Script.Legible (script : List Entry) : Prop := ∀ bare, Item.entry bare ∈ items script → bare.Legible

theorem Text.trimChars_trimChars (cs : List Char) : trimChars (trimChars cs) = trimChars cs := by
  by_cases empty : trimChars cs = []
  next =>
    rw [empty]
    rfl
  next => exact (solid_trimChars empty).trimmed

namespace Condition

theorem legible_of_form {cs : List Char} {clauses : List Clause} (stripped : trimChars cs = cs)
    (form : PartsForm cs clauses) : Legible (String.ofList cs) := by
  refine ⟨clauses, ?_⟩
  rw [clauses?, trim, String.toList_ofList, stripped, read_of_form form]

theorem isReadable_of_legible {condition : String} (legible : Legible condition) : isReadable condition = true := by
  obtain ⟨clauses, found⟩ := legible
  exact isReadable_of_clauses found

theorem form_of_clause {cs : List Char} {clause : Clause} (stripped : trimChars cs = cs) (plain : '&' ∉ cs)
    (unbracketed : cs.head? ≠ some '[') (form : Clause.ClauseForm cs clause) : PartsForm cs [clause] := by
  have single : cs.splitOn '&' = [cs] := by
    rw [List.splitOn_eq_splitOnP]
    refine List.splitOnP_eq_singleton fun c member => ?_
    rw [beq_eq_false_iff_ne]
    rintro rfl
    exact plain member
  rw [PartsForm, single]
  refine .cons ?_ .nil
  rw [PartForm, stripped, peel_eq_self unbracketed]
  exact form

end Condition

theorem Gate.Term.legible {written term : List Char} (named : Term written term) :
    Condition.Legible (String.ofList term) := by
  have ampersand {name : List Char} (named : Name.isName name = true) : '&' ∉ name :=
    Name.not_mem_of_isName named (by decide) (by decide)
  cases named with
  | name named =>
    have bracket : '[' ∉ written := Name.not_mem_of_isName named (by decide) (by decide)
    have solid := Name.solid_of_isName named
    have form := Condition.form_of_clause solid.trimmed (ampersand named)
      (fun first => bracket (List.mem_of_mem_head? first)) (.named named)
    exact Condition.legible_of_form solid.trimmed form
  | @negated gap name blank named =>
    have solid : Solid ('!' :: name) :=
      solid_of_opens_closes ⟨'!', name, rfl, by decide⟩ ((Name.solid_of_isName named).closes.append ['!'])
    have plain : '&' ∉ '!' :: name := by simpa using ampersand named
    have form := Condition.form_of_clause solid.trimmed plain (by simp) (.absent allBlank_nil named)
    exact Condition.legible_of_form solid.trimmed form

theorem Gate.GateForm.legible {cs term : List Char} (form : GateForm cs term) : Condition.Legible (String.ofList term) := by
  cases form with
  | marked _ _ named | bracketed _ _ named => exact named.legible

theorem Choice.WordsForm.legible {cs : List Char} {choice : Choice} (form : WordsForm cs choice) :
    ∀ condition ∈ choice.requires, Condition.Legible condition := by
  cases form with
  | ungated => nofun
  | gated parts written gate =>
    rintro condition ⟨⟩
    exact gate.legible

theorem EntryLine.legible_of_form {text : List Char} {entry : Entry} (form : LineForm text entry) : entry.Legible := by
  cases form with
  | @header gap label rest allows blank opens oneLine =>
    have solid : Solid (trimChars label) := solid_dropBlanksEnd (by rwa [opens.dropBlanks_eq])
    rw [Entry.Legible, trim, String.toList_ofList]
    refine ⟨?_, ?_⟩
    next => simpa using solid.nonempty
    next =>
      rw [String.toList_ofList]
      exact fun member => oneLine (mem_of_mem_trimChars member)
  | conditional shape form => exact Condition.legible_of_form (trimChars_trimChars _) form
  | option other form => exact form.legible
  | jump | markedJump | set | unset | image | remark | field => trivial

theorem Script.legible_of_read {lines : List String} {script : List Entry} (reads : read lines = .ok script) :
    Legible script := by
  intro bare member
  obtain ⟨text, -, fits⟩ := exists_of_forall₂ (fits_of_read reads) member
  rcases fits with form | ⟨rfl, -⟩
  next => exact EntryLine.legible_of_form form
  next => trivial

/-- Every condition of a script can be evaluated. -/
def Script.Readable (script : List Entry) : Prop :=
  ∀ condition ∈ conditions script, Condition.isReadable condition = true

theorem Script.Legible.readable {script : List Entry} (legible : Legible script) : Readable script := by
  intro condition member
  obtain ⟨item, inside, here⟩ := List.mem_flatMap.mp member
  cases item with
  | otherwise => cases here
  | entry bare =>
    have shaped := legible bare inside
    apply Condition.isReadable_of_legible
    cases bare with
    | when => exact List.mem_singleton.mp here ▸ shaped
    | option choice => exact shaped condition (Option.mem_toList.mp here)
    | narrative | scene | goto | image | metadata | whenElse => cases here

namespace Script.Readable

variable {script : List Entry}

theorem mono {part : List Entry} (readable : Readable script) (within : items part ⊆ items script) : Readable part :=
  fun condition member => readable condition (conditions_subset within member)

theorem not_holds (readable : Readable script) : ¬Holds script .unreadable := by
  rintro ⟨condition, member, unreadable⟩
  have reads := readable condition (mem_conditions_of_when member)
  simp [unreadable] at reads

mutual

theorem entryReadable (ask : Oracle) (entry : Entry) (readable : Readable [entry]) :
    Gamebook.entryReadable ask entry = true := by
  have block {inner : List Entry} (member : inner ∈ entry.blocks) : Readable inner :=
    readable.mono (by simpa using items_block_subset member)
  cases entry with
  | option choice response =>
    rw [Gamebook.entryReadable, Choice.isReadable]
    split
    next => rfl
    next condition gated =>
      have here : Item.entry (.option choice []) ∈ items [.option choice response] := by simp [itemsOf]
      rw [readable condition (mem_conditions_of_option here gated)]
      exact Bool.or_true _
  | when condition body =>
    have here := readable condition (mem_conditions_of_when (by simp [itemsOf]))
    have inside := layoutReadable ask body (block List.mem_cons_self)
    simp [Gamebook.entryReadable, here, inside]
  | whenElse condition body otherwise =>
    have here := readable condition (mem_conditions_of_when (by simp [itemsOf]))
    have inside := layoutReadable ask body (block List.mem_cons_self)
    have beside := layoutReadable ask otherwise (block (List.mem_cons_of_mem _ List.mem_cons_self))
    simp [Gamebook.entryReadable, here, inside, beside]
  | narrative | scene | goto | image | metadata => rfl

theorem layoutReadable (ask : Oracle) (entries : List Entry) (readable : Readable entries) :
    Gamebook.layoutReadable ask entries = true := by
  cases entries with
  | nil => rfl
  | cons entry entries =>
    have first := entryReadable ask entry (readable.mono (by simp))
    have rest := layoutReadable ask entries (readable.mono (by simp))
    simp [Gamebook.layoutReadable, first, rest]

end

theorem layout? (readable : Readable script) (ask : Oracle) (begins : Int) :
    Gamebook.layout? ask ((Story.ofScript script).body begins) =
      .ok (layout ask ((Story.ofScript script).body begins)) := by
  have within := items_body_subset (Story.ofScript script) begins
  exact if_pos (layoutReadable ask _ (readable.mono within))

theorem isReadable_of_asks (readable : Readable script) {σ : Type} {keeper : Keeper σ} {walk : Walk σ}
    {condition : String} (asks : walk.Asks (Story.ofScript script) keeper condition) :
    Condition.isReadable condition = true := by
  cases asks with
  | preamble comes enters met =>
    by_contra unreadable
    have exit := Telling.run_of_meets met ((Bool.not_eq_true _).mp unreadable)
    exact readable.not_holds ((Telling.holds_of_run _ exit).mono (items_conditionals_subset script))
  | layout stays member taken => exact (layout?_isOk _ _).mp ⟨_, readable.layout? _ _⟩ _ member taken

/-- The last move of a step fails only by a place that it has to write. -/
theorem ends (readable : Readable script) {σ : Type} (keeper : Keeper σ) (state : σ) (place : Coordinate) :
    let story := Story.ofScript script
    ∃ (count : Nat) (last : Walk σ), Walk.moved? story keeper count (Walk.start state place) = some last ∧
      last.move story keeper = .inr (step story keeper state place) ∧
      ((∃ outcome, (step story keeper state place).outcome = .ok outcome) ↔
        (last.Names story keeper → last.place.isWritable = true)) := by
  intro story
  obtain ⟨count, last, reached, stops⟩ := Walk.exists_last_moved? story keeper (Walk.start state place)
  refine ⟨count, last, reached, stops, ?_, ?_⟩
  next =>
    rintro ⟨outcome, came⟩
    exact Walk.writable_of_names stops came
  next => exact Walk.outcome_of_readable stops fun condition => readable.isReadable_of_asks

theorem outcome (readable : Readable script) {σ : Type} (keeper : Keeper σ) (state : σ) {place : Coordinate}
    (numbers : (Story.ofScript script).Numbers place) :
    ∃ outcome, (step (Story.ofScript script) keeper state place).outcome = .ok outcome := by
  obtain ⟨count, last, reached, -, fine⟩ := readable.ends keeper state place
  exact fine.mpr fun _ => isWritable_of_le (Walk.index_le_of_moved? reached) numbers

theorem offersAt (readable : Readable script) (ask : Oracle) (place : Coordinate) :
    ∃ offers, (Story.ofScript script).offersAt ask place = .ok offers ∧
      ∀ offer ∈ offers, ∃ found, Response.ofBlock ask offer.response = .ok found := by
  have laid : ∃ offers, (Story.ofScript script).offersAt ask place = .ok offers := by
    unfold Story.offersAt
    split
    next => exact ⟨[], rfl⟩
    next =>
      split
      next => exact ⟨[], rfl⟩
      next =>
        rw [readable.layout?]
        exact ⟨_, rfl⟩
  obtain ⟨offers, offered⟩ := laid
  refine ⟨offers, offered, fun offer member => ?_⟩
  have response : Readable offer.response := readable.mono (Story.items_response_subset offered member)
  unfold Response.ofBlock
  split
  next stops => exact absurd (Response.holds_of_run _ (congrArg Prod.snd stops)) response.not_holds
  next => exact ⟨_, rfl⟩
  next => exact ⟨_, rfl⟩

end Script.Readable

namespace Script.Legible

variable {script : List Entry}

theorem nameable (legible : Legible script) {label : String} {begins : Int}
    (known : (Story.ofScript script).scenes.get? label = some begins) : Coordinate.Nameable label := by
  rw [Story.ofScript, SceneMap.get?_ofScript] at known
  cases found : header? script label with
  | some place =>
    obtain ⟨entry, met, labelled⟩ := entry_of_header? found
    cases entry with
    | scene written allows =>
      cases labelled
      exact legible (.scene written allows) (itemsOf_subset (List.mem_of_getElem? met) (by simp [itemsOf]))
    | narrative | goto | option | image | metadata | when | whenElse => cases labelled
  | none =>
    rw [found] at known
    dsimp only at known
    split at known
    next start =>
      rw [start]
      decide
    next =>
      obtain ⟨final, -⟩ := Option.ite_none_right_eq_some.mp known
      rw [final]
      decide

theorem outcome (legible : Legible script) {σ : Type} (keeper : Keeper σ) (state : σ) {place : Coordinate}
    (numbers : (Story.ofScript script).Numbers place) :
    ∃ outcome, (step (Story.ofScript script) keeper state place).outcome = .ok outcome :=
  legible.readable.outcome keeper state numbers

theorem offersAt (legible : Legible script) (ask : Oracle) (place : Coordinate) :
    ∃ offers, (Story.ofScript script).offersAt ask place = .ok offers ∧
      ∀ offer ∈ offers, ∃ found, Response.ofBlock ask offer.response = .ok found :=
  legible.readable.offersAt ask place

end Script.Legible

namespace Matching

theorem index_lt_of_exactHit? {input : String} {choices : List Choice} {hit : Hit}
    (found : exactHit? input choices = some hit) : hit.index < choices.length := by
  unfold exactHit? at found
  obtain ⟨-, found⟩ := Option.ite_none_left_eq_some.mp found
  obtain ⟨⟨choice, index⟩, member, called⟩ := List.exists_of_findSome?_eq_some found
  obtain ⟨phrase, -, rfl⟩ := Option.map_eq_some_iff.mp called
  exact (List.mem_zipIdx' member).1

theorem index_lt_of_better {words : List (List Char)} {numbered : List (Choice × Nat)} {best : Option Hit} {count : Nat}
    (each : ∀ next ∈ numbered, next.2 < count) (before : ∀ hit ∈ best, hit.index < count) :
    ∀ hit ∈ numbered.foldl (better words) best, hit.index < count := by
  induction numbered generalizing best with
  | nil => exact before
  | cons next numbered ih =>
    obtain ⟨here, later⟩ := List.forall_mem_cons.mp each
    refine ih later ?_
    unfold better
    dsimp only
    split
    next =>
      rintro hit ⟨⟩
      exact here
    next => exact before

theorem index_lt_of_keywordHit? {input : String} {choices : List Choice} {least : Int} {hit : Hit}
    (found : keywordHit? input choices least = some hit) : hit.index < choices.length := by
  obtain ⟨best, -⟩ := Option.filter_eq_some_iff.mp found
  exact index_lt_of_better (fun next member => (List.mem_zipIdx' member).1) (by simp) hit best

theorem index_lt_of_accept? {answer : SemanticMatch} {count : Nat} {least : Float} {chosen : Chosen}
    (accepted : answer.accept? count least = some chosen) : chosen.index < count := by
  unfold SemanticMatch.accept? at accepted
  split at accepted
  next => cases accepted
  next index _ =>
    obtain ⟨sure, same⟩ := Option.ite_none_right_eq_some.mp accepted
    cases same
    simp only [Bool.and_eq_true, decide_eq_true_eq] at sure
    exact (Int.toNat_lt sure.1.1.2).mpr sure.1.2

theorem index_lt_of_byWords? {input : String} {choices : List Choice} {least : Int} {chosen : Chosen}
    (named : byWords? input choices least = some chosen) : chosen.index < choices.length := by
  unfold byWords? at named
  split at named
  next exact_hit =>
    cases named
    exact index_lt_of_exactHit? exact_hit
  next =>
    obtain ⟨hit, keyword, rfl⟩ := Option.map_eq_some_iff.mp named
    exact index_lt_of_keywordHit? keyword

theorem index_lt_of_choose {σ : Type} {matcher : Option (Matcher σ)} {thresholds : Thresholds} {input : String}
    {choices : List Choice} {state : σ} {chosen : Chosen}
    (picked : ((choose matcher thresholds input choices).run state).1 = some chosen) :
    chosen.index < choices.length := by
  unfold choose at picked
  split at picked
  next => cases picked
  next =>
    split at picked
    next hit byWords =>
      cases picked
      exact index_lt_of_byWords? byWords
    next =>
      split at picked
      next => cases picked
      next ask =>
        rw [StateT.run_bind] at picked
        rcases said : (ask input choices).run state with ⟨answer, after⟩
        rw [said] at picked
        cases answer with
        | none => cases picked
        | some answer => exact index_lt_of_accept? picked

/-- What the player types is answered: by nothing if no choice is found, else by the option at the index chosen. -/
def Resolves {σ : Type} (story : Story) (ask : Oracle) (matcher : Option (Matcher σ)) (thresholds : Thresholds)
    (place : Coordinate) (input : String) (state : σ) : Prop :=
  ∃ offers, story.offersAt ask place = .ok offers ∧
    match (choose matcher thresholds input (offers.map Offer.choice)).run state with
    | (none, after) => (resolve story ask matcher thresholds place input).run state = (.ok none, after)
    | (some chosen, after) => ∃ offer found, offers[chosen.index]? = some offer ∧
      resolution ask place input offer chosen.means = .ok found ∧
      (resolve story ask matcher thresholds place input).run state = (.ok (some found), after)

theorem resolves_of_offersAt {σ : Type} {story : Story} {ask : Oracle} {place : Coordinate} {offers : List Offer}
    (offered : story.offersAt ask place = .ok offers)
    (answered : ∀ offer ∈ offers, ∃ found, Response.ofBlock ask offer.response = .ok found)
    (matcher : Option (Matcher σ)) (thresholds : Thresholds) (input : String) (state : σ) :
    Resolves story ask matcher thresholds place input state := by
  refine ⟨offers, offered, ?_⟩
  rcases picked : (choose matcher thresholds input (offers.map Offer.choice)).run state with ⟨pick, after⟩
  unfold resolve
  rw [offered]
  dsimp only
  rw [StateT.run_bind, picked]
  cases pick with
  | none => rfl
  | some chosen =>
    have inside : chosen.index < offers.length := by
      simpa using index_lt_of_choose (congrArg Prod.fst picked)
    have called := List.getElem?_eq_getElem inside
    obtain ⟨found, response⟩ := answered offers[chosen.index] (List.getElem_mem inside)
    have resolved : ∃ found, resolution ask place input offers[chosen.index] chosen.means = .ok found := by
      unfold resolution
      rw [response]
      exact ⟨_, rfl⟩
    obtain ⟨found, resolved⟩ := resolved
    refine ⟨_, found, called, resolved, ?_⟩
    simp only [bind, called, resolved, StateT.run_pure]
    rfl

end Matching

theorem Walk.position_of_line {σ : Type} {story : Story} {keeper : Keeper σ} {walk : Walk σ} {line : Line}
    {shownAt : Coordinate} {prelude : List String} {state : σ}
    (shows : walk.move story keeper = .inr ⟨.ok (.line line shownAt prelude), state⟩) :
    ∃ (scene : String) (index : Nat), shownAt = ⟨scene, index⟩ ∧ line.id = shownAt.id ∧ shownAt.isWritable = true ∧
      index < story.limit ∧ ∃ begins, story.scenes.get? scene = some begins := by
  obtain ⟨place, beat, plays⟩ := plays_of_line shows
  obtain ⟨rfl, same, written⟩ := plays.shown shows
  obtain ⟨body, arrives, found⟩ := plays.found
  obtain ⟨begins, known, rfl⟩ := arrives.known
  have inside : walk.index < story.limit := by
    have met := getElem?_layout (keeper.answer (walk.opened story keeper).state) (story.body begins) walk.index
    rw [found] at met
    exact Nat.lt_of_lt_of_le (List.getElem?_eq_some_iff.mp met).1 (Story.le_limit _ known)
  exact ⟨walk.scene, walk.index, rfl, same, written, inside, begins, known⟩

theorem position_of_step {σ : Type} {story : Story} {keeper : Keeper σ} {state : σ} {place shownAt : Coordinate}
    {line : Line} {prelude : List String}
    (shows : (step story keeper state place).outcome = .ok (.line line shownAt prelude)) :
    ∃ (scene : String) (index : Nat), shownAt = ⟨scene, index⟩ ∧ line.id = shownAt.id ∧ shownAt.isWritable = true ∧
      index < story.limit ∧ ∃ begins, story.scenes.get? scene = some begins := by
  obtain ⟨last, stops⟩ := Walk.exists_last story keeper (Walk.start state place)
  rw [← Walk.step_eq_run] at stops
  generalize step story keeper state place = stepped at shows stops
  obtain ⟨outcome, after⟩ := stepped
  cases shows
  exact Walk.position_of_line stops

theorem numbers_of_step {σ : Type} {story : Story} {keeper : Keeper σ} {state : σ} {place shownAt : Coordinate}
    {line : Line} {prelude : List String} (numbers : story.Numbers place)
    (shows : (step story keeper state place).outcome = .ok (.line line shownAt prelude)) :
    story.Numbers shownAt.next := by
  obtain ⟨scene, index, rfl, -, -, inside, -⟩ := position_of_step shows
  exact numbers.next inside

namespace Script.Legible

variable {script : List Entry}

theorem ofId_of_step (legible : Legible script) {σ : Type} {keeper : Keeper σ} {state : σ} {place shownAt : Coordinate}
    {line : Line} {prelude : List String}
    (shows : (step (Story.ofScript script) keeper state place).outcome = .ok (.line line shownAt prelude)) :
    Coordinate.ofId line.id = .ok (some shownAt) := by
  obtain ⟨scene, index, rfl, same, written, -, begins, known⟩ := position_of_step shows
  rw [same, Coordinate.ofId_id, if_pos (legible.nameable known)]
  exact if_pos (of_decide_eq_true written)

theorem recordLine (legible : Legible script) {play : Playthrough} {state : Counters} {place shownAt : Coordinate}
    {line : Line} {prelude : List String}
    (shows : (step (Story.ofScript script) Counters.keeper state place).outcome = .ok (.line line shownAt prelude)) :
    play.recordLine line = (.ok (), { play.record line with place := shownAt.next }) := by
  unfold Playthrough.recordLine
  rw [legible.ofId_of_step shows]

theorem playSteps (legible : Legible script) (count : Nat) (play : Playthrough)
    (same : play.story = Story.ofScript script) {fault : Playthrough.Fault}
    (fails : (play.playSteps count).1 = .error fault) :
    fault = .numeralTooLong ∧ ¬(Story.ofScript script).Numbers play.place := by
  induction count generalizing play with
  | zero => cases fails
  | succ count ih =>
    rw [Playthrough.playSteps, same] at fails
    cases came : (step (Story.ofScript script) Counters.keeper play.counters play.place).outcome with
    | error =>
      rw [came] at fails
      cases fails
      refine ⟨rfl, fun numbers => ?_⟩
      obtain ⟨outcome, comes⟩ := legible.outcome Counters.keeper play.counters numbers
      cases came.symm.trans comes
    | ok outcome =>
      rw [came] at fails
      cases outcome with
      | line line shownAt prelude =>
        have notes := Playthrough.notes_sayAll { play with
          story := Story.ofScript script
          counters := (step (Story.ofScript script) Counters.keeper play.counters play.place).state } prelude
        dsimp only [Outcome.prelude] at fails
        rw [legible.recordLine came] at fails
        obtain ⟨kind, far⟩ := ih _ (by exact notes.story) fails
        exact ⟨kind, fun numbers => far (numbers_of_step numbers came)⟩
      | wait | finished | failed => cases fails

theorem advance (legible : Legible script) {play : Playthrough} (same : play.story = Story.ofScript script)
    {fault : Playthrough.Fault} (fails : play.advance.1 = .error fault) :
    (∃ setting, fault = .badSetting setting) ∨
      fault = .numeralTooLong ∧ ¬(Story.ofScript script).Numbers play.place := by
  unfold Playthrough.advance at fails
  split at fails
  next => cases fails
  next =>
    dsimp only at fails
    split at fails
    next setting _ =>
      cases fails
      exact .inl ⟨setting, rfl⟩
    next count _ =>
      split at fails
      next => cases fails
      next found after played =>
        cases fails
        exact .inr (legible.playSteps count.toNat { play with status := .running } same (congrArg Prod.fst played))

end Script.Legible

end Gamebook
