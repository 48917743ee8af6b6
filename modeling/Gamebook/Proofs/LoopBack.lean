import Gamebook.Proofs.LearntStories
import Gamebook.Proofs.Reached

set_option autoImplicit false

namespace Gamebook

def Place.isRun (place : Place) : Bool :=
  match place.site with
  | .run _ => true
  | .beat _ => false

/-- A wait is open before a position: a run of options counts there, and no beat between the two does. -/
def GateOpen (ask : Oracle) (spots : List Place) (i : Nat) : Prop :=
  ∃ (h : Nat) (place : Place), h < i ∧ spots[h]? = some place ∧ place.isRun = true ∧ place.counts ask = true ∧
    ∀ (k : Nat) (other : Place), h < k → k < i → spots[k]? = some other →
      other.isRun = true ∨ other.counts ask = false

theorem gateOpen_succ {ask : Oracle} {spots : List Place} {i : Nat} {last : Place} (found : spots[i]? = some last) :
    GateOpen ask spots (i + 1) ↔ if last.counts ask then last.isRun = true else GateOpen ask spots i := by
  constructor
  next =>
    rintro ⟨h, place, before, here, run, counts, quiet⟩
    -- The run that opened the wait is the last place or comes before it.
    by_cases same : h = i
    next =>
      subst same
      cases here.symm.trans found
      rw [if_pos counts]
      exact run
    next =>
      have lastQuiet := quiet i last (by omega) (by omega) found
      split
      next live => simpa [live] using lastQuiet
      next =>
        exact ⟨h, place, by omega, here, run, counts, fun k other after below found =>
          quiet k other after (by omega) found⟩
  next =>
    intro opens
    split at opens
    next live => exact ⟨i, last, by omega, found, opens, live, fun k other after below _ => by omega⟩
    next idle =>
      obtain ⟨h, place, before, here, run, counts, quiet⟩ := opens
      refine ⟨h, place, by omega, here, run, counts, ?_⟩
      intro k other after below there
      by_cases same : k = i
      next =>
        subst same
        cases there.symm.trans found
        exact .inr (Bool.not_eq_true _ ▸ idle)
      next => exact quiet k other after (by omega) there

theorem waitingAfter_iff_gateOpen (ask : Oracle) (spots : List Place) {i : Nat} (inside : i ≤ spots.length) :
    waitingAfter false ((spots.map (Place.slot ask)).take i) = true ↔ GateOpen ask spots i := by
  induction i with
  | zero => simp [waitingAfter, GateOpen]
  | succ i ih =>
    have found : spots[i]? = some spots[i] := List.getElem?_eq_getElem inside
    -- One place more closes an open wait, opens one, or changes nothing.
    rw [gateOpen_succ found, ← ih (by omega), List.take_add_one, List.getElem?_map, found, waitingAfter,
      List.foldl_append]
    generalize spots[i] = last
    obtain ⟨forks, index, site⟩ := last
    cases live : Place.counts ask ⟨forks, index, site⟩ <;> cases site <;>
      simp [live, Place.slot, Place.isRun, waitingAfter]

theorem gateOpen_learn (ask : Oracle) (spots : List Place) (optionText new : String) (i : Nat) :
    GateOpen ask (spots.map (Place.learn optionText new)) i ↔ GateOpen ask spots i := by
  have run : ∀ place : Place, (place.learn optionText new).isRun = place.isRun := by
    rintro ⟨forks, index, site⟩
    cases site <;> rfl
  have counts : ∀ place : Place, (place.learn optionText new).counts ask = place.counts ask := fun _ => rfl
  simp only [GateOpen, List.getElem?_map, Option.map_eq_some_iff]
  constructor
  next =>
    rintro ⟨h, _, before, ⟨place, here, rfl⟩, opens, live, quiet⟩
    refine ⟨h, place, before, here, run place ▸ opens, live, ?_⟩
    intro k other after below found
    rw [← run, ← counts]
    exact quiet k _ after below ⟨other, found, rfl⟩
  next =>
    rintro ⟨h, place, before, here, opens, live, quiet⟩
    refine ⟨h, _, before, ⟨place, here, rfl⟩, run place ▸ opens, live, ?_⟩
    rintro k _ after below ⟨other, found, rfl⟩
    rw [run, counts]
    exact quiet k other after below found

def Story.bodyOf? (story : Story) (label : String) : Option (List Entry) :=
  if (label == endLabel && !story.hasScene endLabel) || (story.standIn? label).isSome then none
  else (story.scenes.get? label).map story.body

theorem Story.bodyOf?_learn (optionText new : String) (script : List Entry) (label : String) :
    (Story.ofScript (Alias.learn optionText new script)).bodyOf? label =
      ((Story.ofScript script).bodyOf? label).map (Alias.learn optionText new) := by
  have same := Alias.map_label?_learn optionText new script
  rw [bodyOf?, bodyOf?, hasScene_of_labels same, Alias.standIn?_learn, scenes_of_labels same]
  split
  next => rfl
  next =>
    rw [Option.map_map]
    congr 1
    exact funext (Alias.body_ofScript_learn optionText new script)

theorem Script.runPreamble_plain {σ : Type} (keeper : Keeper σ) (state : σ) {script : List Entry}
    (plain : ∀ entry ∈ preamble script, isConditional entry = false) :
    runPreamble keeper state script = (⟨[], state⟩, none) := by
  have nothing : (preamble script).filter isConditional = [] := by
    rw [List.filter_eq_nil_iff]
    intro entry member
    simp [plain entry member]
  rw [runPreamble, nothing, Telling.run]

namespace Walk

variable {σ : Type} {story : Story} {keeper : Keeper σ}

theorem opened_plain {walk : Walk σ}
    (plain : ∀ entry ∈ Script.preamble story.script, Script.isConditional entry = false) :
    (walk.opened story keeper).state = walk.state ∧ (walk.opened story keeper).prelude = walk.prelude := by
  unfold opened
  rw [Script.runPreamble_plain keeper walk.state plain]
  split <;> simp [note]

theorem move_of_bodyOf? {walk : Walk σ} {body : List Entry} (fresh : (walk.scene, walk.index) ∉ walk.visited)
    (scene : story.bodyOf? walk.scene = some body)
    (plain : ∀ entry ∈ Script.preamble story.script, Script.isConditional entry = false) :
    walk.move story keeper =
      match layout? (keeper.answer walk.state) body with
      | .error _ => (walk.opened story keeper).giveUp
      | .ok positions => (walk.opened story keeper).playPosition story keeper positions := by
  unfold Story.bodyOf? at scene
  split at scene
  next => cases scene
  next own =>
    rw [Bool.or_eq_true, not_or, Bool.not_eq_true, Option.not_isSome_iff_eq_none] at own
    obtain ⟨begins, known, rfl⟩ := Option.map_eq_some_iff.mp scene
    have notSeen : ¬walk.visited.contains (walk.scene, walk.index) = true := by simpa using fresh
    have enters : (walk.opened story keeper).enter story keeper begins = _ := enter_eq _ begins
    rw [opened_scene, own.2] at enters
    unfold playScene at enters
    rw [(opened_plain plain).1] at enters
    refine Eq.trans ?_ enters
    rw [move, if_neg notSeen, own.1, if_neg Bool.false_ne_true, known]
    dsimp only
    split
    next first => rw [openScene_eq begins first, Script.runPreamble_plain keeper walk.state plain]
    next later =>
      have : walk.opened story keeper = walk.note := if_neg later
      rw [this]

theorem wait_of_move {walk : Walk σ} {stepped : Stepped σ} {shownAt : Coordinate} {prelude : List String}
    (stops : walk.move story keeper = .inr stepped) (waits : stepped.outcome = .ok (.wait shownAt prelude)) :
    shownAt = walk.place ∧ (walk.scene, walk.index) ∉ walk.visited := by
  cases walk.course story keeper with
  | breaksOff other quiet move =>
    cases move.symm.trans stops
    simp [Stepped.breaksOff, waits] at quiet
  | turns scene standIn move => cases move.symm.trans stops
  | leaves target enters move => cases move.symm.trans stops
  | plays body arrives =>
    obtain ⟨here, -⟩ := wait_of_playPosition (arrives.move.symm.trans stops) waits
    exact ⟨here.trans (by simp [place]), arrives.fresh⟩

theorem fresh_of_wait {walk : Walk σ} {shownAt : Coordinate} {prelude : List String}
    (waits : (walk.run story keeper).outcome = .ok (.wait shownAt prelude)) :
    (shownAt.scene, shownAt.index.toNat) ∉ walk.visited := by
  fun_induction Walk.run story keeper walk with
  | case1 walk stepped moved =>
    obtain ⟨rfl, fresh⟩ := wait_of_move moved waits
    exact fresh
  | case2 walk next moved _ ih =>
    have noted := (moves_of_move moved).noted
    have fresh := ih waits
    rw [noted] at fresh
    exact fun seen => fresh (List.mem_cons_of_mem _ seen)

end Walk

/-- A run of options stands directly in a scene, and the preamble has no conditional. -/
structure RunAt (story : Story) (label : String) (i : Nat) (body : List Entry) : Prop where
  plain : ∀ entry ∈ Script.preamble story.script, Script.isConditional entry = false
  scene : story.bodyOf? label = some body
  run : ∃ index offers, (places body)[i]? = some ⟨[], index, .run offers⟩

namespace RunAt

variable {story : Story} {label : String} {i : Nat} {body : List Entry}

theorem learn {script : List Entry} (runAt : RunAt (.ofScript script) label i body) (optionText new : String) :
    RunAt (.ofScript (Alias.learn optionText new script)) label i (Alias.learn optionText new body) := by
  obtain ⟨plain, scene, index, offers, found⟩ := runAt
  refine ⟨?_, ?_, index, offers.map (Offer.learn optionText new), ?_⟩
  next =>
    intro entry member
    change entry ∈ Script.preamble (Alias.learn optionText new script) at member
    rw [Alias.preamble_learn, Alias.learn_eq_map] at member
    obtain ⟨before, listed, rfl⟩ := List.mem_map.mp member
    rw [Alias.isConditional_learnEntry]
    exact plain before listed
  next => rw [Story.bodyOf?_learn, scene, Option.map_some]
  next =>
    rw [Alias.places_learn, List.getElem?_map, found]
    rfl

theorem position (runAt : RunAt story label i body) (ask : Oracle) :
    (GateOpen ask (places body) i → (layout ask body)[i]? = some .skip) ∧
      (¬GateOpen ask (places body) i → ∃ offers, (layout ask body)[i]? = some (.wait offers)) := by
  obtain ⟨index, offers, found⟩ := runAt.run
  have inside : i ≤ (places body).length := by
    have := (List.getElem?_eq_some_iff.mp found).1
    omega
  have live : Place.counts ask ⟨[], index, .run offers⟩ = true := rfl
  rw [getElem?_layout, found, ← waitingAfter_iff_gateOpen ask (places body) inside]
  cases waitingAfter false (((places body).map (Place.slot ask)).take i) <;>
    simp [Position.ofSlot, Place.slot, live]

theorem move_eq (runAt : RunAt story label i body) (counters : Counters) :
    (Walk.start counters ⟨label, i⟩).move story Counters.keeper =
      match layout? counters.answer body with
      | .error _ => ((Walk.start counters ⟨label, i⟩).opened story Counters.keeper).giveUp
      | .ok positions =>
        ((Walk.start counters ⟨label, i⟩).opened story Counters.keeper).playPosition story Counters.keeper positions :=
  Walk.move_of_bodyOf? List.not_mem_nil runAt.scene runAt.plain

theorem step_waits (runAt : RunAt story label i body) {counters : Counters}
    (readable : layoutReadable counters.answer body = true)
    (closed : ¬GateOpen counters.answer (places body) i) :
    step story Counters.keeper counters ⟨label, i⟩ = ⟨.ok (.wait ⟨label, i⟩ []), counters⟩ := by
  have move := runAt.move_eq counters
  have laid : layout? counters.answer body = .ok (layout counters.answer body) := if_pos readable
  have index : (Walk.start counters ⟨label, i⟩).index = i := Int.toNat_natCast i
  obtain ⟨offers, waits⟩ := (runAt.position counters.answer).2 closed
  obtain ⟨state, prelude⟩ := @Walk.opened_plain _ story Counters.keeper (Walk.start counters ⟨label, i⟩) runAt.plain
  rw [laid] at move
  simp only [Walk.playPosition, Walk.opened_index, index, waits] at move
  rw [Walk.step_eq_run, Walk.run_of_inr move, state, prelude, Walk.place, Walk.opened_scene, Walk.opened_index, index]
  rfl

theorem step_moves_on (runAt : RunAt story label i body) {counters : Counters}
    (blocked : ¬(layoutReadable counters.answer body = true ∧ ¬GateOpen counters.answer (places body) i))
    (prelude : List String) :
    (step story Counters.keeper counters ⟨label, i⟩).outcome ≠ .ok (.wait ⟨label, i⟩ prelude) := by
  have move := runAt.move_eq counters
  have index : (Walk.start counters ⟨label, i⟩).index = i := Int.toNat_natCast i
  intro waits
  rw [Walk.step_eq_run] at waits
  by_cases readable : layoutReadable counters.answer body = true
  next =>
    have laid : layout? counters.answer body = .ok (layout counters.answer body) := if_pos readable
    have opens : GateOpen counters.answer (places body) i :=
      Classical.byContradiction fun closed => blocked ⟨readable, closed⟩
    have skipped := (runAt.position counters.answer).1 opens
    rw [laid] at move
    simp only [Walk.playPosition, Walk.opened_index, index, skipped] at move
    -- The place has been left, and a step does not come back to wait there.
    rw [Walk.run_of_inl move] at waits
    have fresh := Walk.fresh_of_wait waits
    simp [Walk.start] at fresh
  next =>
    have laid : layout? counters.answer body = .error {} := if_neg readable
    rw [laid] at move
    rw [Walk.run_of_inr move] at waits
    cases waits

end RunAt

namespace Playthrough

def StaysAt (play final : Playthrough) : Prop :=
  final.status = .waiting ∧ final.place = play.place ∧ final.history = play.history

theorem playSteps_stays {play : Playthrough} (count : Nat)
    (waits : step play.story Counters.keeper play.counters play.place = ⟨.ok (.wait play.place []), play.counters⟩) :
    playSteps (count + 1) play = (.ok (), { play with status := .waiting }) := by
  rw [playSteps, waits]
  rfl

theorem history_recordLine (play : Playthrough) (line : Line) :
    (play.recordLine line).2.history = play.history ++ [line] := by
  unfold recordLine
  split <;> rfl

-- A line that has been told is in the history for good.
theorem length_lt_of_line {play : Playthrough} (count : Nat) {line : Line} {shownAt : Coordinate}
    {prelude : List String}
    (told : (step play.story Counters.keeper play.counters play.place).outcome = .ok (.line line shownAt prelude)) :
    play.history.length < (playSteps (count + 1) play).2.history.length := by
  rw [playSteps]
  simp only [told]
  have said := (tells_sayAll { play with counters := (step play.story Counters.keeper play.counters play.place).state }
    (Outcome.line line shownAt prelude).prelude).history.length_le
  have longer := congrArg List.length (history_recordLine
    ({ play with counters := (step play.story Counters.keeper play.counters play.place).state }.sayAll
      (Outcome.line line shownAt prelude).prelude) line)
  rw [List.length_append, List.length_singleton] at longer
  dsimp only at said
  split
  next after shown =>
    rw [shown] at longer
    dsimp only at longer
    have grown := (grows_playSteps count after).history.length_le
    omega
  next => omega

theorem playSteps_moves_on {play : Playthrough} (count : Nat) (busy : play.status ≠ .waiting)
    (elsewhere : ∀ prelude, (step play.story Counters.keeper play.counters play.place).outcome ≠
      .ok (.wait play.place prelude)) : ¬play.StaysAt (playSteps count play).2 := by
  rintro ⟨status, place, history⟩
  cases count with
  | zero => cases status
  | succ count =>
    have same := congrArg List.length history
    rw [playSteps] at status place
    cases came : (step play.story Counters.keeper play.counters play.place).outcome with
    | error =>
      simp only [came] at status
      exact busy status
    | ok outcome =>
      simp only [came] at status place
      cases outcome with
      | line line shownAt prelude =>
        have longer := length_lt_of_line count came
        omega
      | wait shownAt prelude =>
        dsimp only at place
        subst place
        exact elsewhere prelude came
      | finished => cases status
      | failed => cases status

theorem advance_running (play : Playthrough) :
    { play with status := .running }.advance =
      match play.config.maxSteps.toInt with
      | .error fault => (.error (.badSetting fault), { play with status := .running })
      | .ok count =>
        match playSteps count.toNat { play with status := .running } with
        | (.ok (), after) => (.ok (after.history.drop play.history.length), after)
        | (.error fault, after) => (.error fault, after) := by
  unfold advance
  exact if_neg (by simp)

theorem solid_heard (text : String) : Text.Solid (heard text).toList := by
  unfold heard
  split
  next => decide
  next spoken =>
    have left : Text.trimChars text.toList ≠ [] := by simpa [Text.trim] using spoken
    simpa [Text.trim] using Text.solid_trimChars left

structure Answer where
  offer : Offer
  means : Matching.Means
  response : Response

def Answer.resolution (answer : Answer) (place : Coordinate) (input : String) : Matching.Resolution where
  place
  optionText := answer.offer.choice.text
  shown := answer.response.shown
  changes := answer.response.changes
  means := answer.means
  suggestion :=
    match answer.means with
    | .semantic _ => some (Text.trim input)
    | _ => none

/-- Words that only their meaning told fit the lines they are added to. -/
def Answer.Fits (answer : Answer) (input : String) (lines : List String) : Prop :=
  (∃ confidence, answer.means = .semantic confidence) →
    ∀ line ∈ contents lines, Alias.Fits answer.offer.choice.text input line

/-- The words match an option that is on offer, and its response does not jump. -/
structure Answers {σ : Type} (play : Playthrough) (matcher : Option (Matching.Matcher σ)) (state : σ) (input : String)
    (answer : Answer) : Prop where
  matched : ∃ thresholds offers index, play.config.thresholds = .ok thresholds ∧
    play.story.offersAt play.counters.answer play.place = .ok offers ∧
    ((Matching.choose matcher thresholds input (offers.map Offer.choice)).run state).1 =
      some ⟨index, answer.means⟩ ∧
    offers[index]? = some answer.offer
  response : Response.ofBlock play.counters.answer answer.offer.response = .ok (answer.response, none)

theorem submit_of_answers {σ : Type} {play : Playthrough} {matcher : Option (Matching.Matcher σ)} {state : σ}
    {text : String} {answer : Answer} (waits : play.status = .waiting)
    (answers : play.Answers matcher state (heard text) answer) :
    let resolution := answer.resolution play.place (heard text)
    let applied := (play.asked text).apply (heard text) resolution
    ((play.submit matcher text).run state).1 = (applied.1.map fun () => some resolution, applied.2) := by
  intro resolution applied
  obtain ⟨thresholds, offers, index, limits, offered, chosen, called⟩ := answers.matched
  have resolved : ((Matching.resolve play.story play.counters.answer matcher thresholds play.place
      (heard text)).run state).1 = .ok (some resolution) := by
    unfold Matching.resolve
    rw [offered]
    dsimp only
    rw [StateT.run_bind]
    rcases picked : (Matching.choose matcher thresholds (heard text) (offers.map Offer.choice)).run state
      with ⟨pick, after⟩
    rw [picked] at chosen
    dsimp only at chosen
    subst chosen
    simp only [bind, called, StateT.run_pure, Matching.resolution, answers.response]
    rfl
  rw [run_submit waits, limits]
  dsimp only
  rcases came : (Matching.resolve play.story play.counters.answer matcher thresholds play.place
    (heard text)).run state with ⟨result, after⟩
  rw [came] at resolved
  dsimp only at resolved
  subst resolved
  rfl

theorem reply_eq_of_words (play : Playthrough) (input : String) {resolution : Matching.Resolution}
    (words : ∀ confidence, resolution.means ≠ .semantic confidence) :
    play.reply input resolution =
      (.ok (), { play with counters := play.counters.applyAll resolution.changes }.display resolution.shown) := by
  unfold reply learn
  split
  next confidence _ means _ => exact absurd means (words confidence)
  next => rfl

theorem reply_of_words (play : Playthrough) (input : String) {resolution : Matching.Resolution}
    (words : ∀ confidence, resolution.means ≠ .semantic confidence) :
    (play.reply input resolution).1 = .ok () ∧ (play.reply input resolution).2.story = play.story := by
  rw [reply_eq_of_words play input words]
  exact ⟨rfl, (sameScript_display _ _).story⟩

theorem reply_of_fits {play : Playthrough} {input : String} {resolution : Matching.Resolution} {script : List Entry}
    {confidence : Float} (reads : Script.read play.lines = .ok script) (means : resolution.means = .semantic confidence)
    (words : resolution.suggestion = some (Text.trim input)) (solid : Text.Solid input.toList)
    (fits : ∀ line ∈ contents play.lines, Alias.Fits resolution.optionText input line) :
    (play.reply input resolution).1 = .ok () ∧
      (play.reply input resolution).2.story = .ofScript (Alias.learn resolution.optionText input script) := by
  have trimmed : Text.trim input = input := by simp [Text.trim, solid.trimmed]
  have spoken : ¬input = "" := by simpa using solid.nonempty
  have learnt := (Alias.read_addToLine_iff solid reads).mpr fits
  unfold reply learn
  rw [means, words, trimmed]
  simp only [String.isEmpty_iff, spoken, if_false, updateScript, Alias.add, trimmed, (sameScript_display _ _).lines,
    learnt]
  exact ⟨trivial, rfl⟩

theorem reply_of_current {play : Playthrough} {text : String} {answer : Answer} (current : play.Current)
    (fits : answer.Fits (heard text) play.lines) :
    let told := (play.asked text).reply (heard text) (answer.resolution play.place (heard text))
    told.1 = .ok () ∧ (told.2.story = play.story ∨ ∃ script, play.story = .ofScript script ∧
      told.2.story = .ofScript (Alias.learn answer.offer.choice.text (heard text) script)) := by
  intro told
  obtain ⟨script, reads, before⟩ := current
  by_cases meaning : ∃ confidence, answer.means = .semantic confidence
  next =>
    obtain ⟨confidence, means⟩ := meaning
    have suggested : (answer.resolution play.place (heard text)).suggestion = some (Text.trim (heard text)) := by
      simp [Answer.resolution, means]
    obtain ⟨learnt, after⟩ := @reply_of_fits (play.asked text) (heard text)
      (answer.resolution play.place (heard text)) script confidence reads means suggested (solid_heard text)
      (fits ⟨confidence, means⟩)
    exact ⟨learnt, .inr ⟨script, before, after⟩⟩
  next =>
    have words : ∀ confidence, answer.means ≠ .semantic confidence := not_exists.mp meaning
    obtain ⟨learnt, same⟩ := @reply_of_words (play.asked text) (heard text)
      (answer.resolution play.place (heard text)) words
    exact ⟨learnt, .inl same⟩

/-- Nothing keeps a playthrough from waiting on: what was learnt can be read, there is a step left to play, and
no wait has opened before the one it was at. -/
structure LoopsBack (told : Played Unit) (body : List Entry) (i : Nat) : Prop where
  learnt : told.1 = .ok ()
  canStep : CanStep told.2.config
  readable : layoutReadable told.2.counters.answer body = true
  closed : ¬GateOpen told.2.counters.answer (places body) i

theorem loopsBack_learn {told : Played Unit} {body : List Entry} {i : Nat} (optionText new : String) :
    LoopsBack told (Alias.learn optionText new body) i ↔ LoopsBack told body i := by
  constructor
  next =>
    rintro ⟨learnt, canStep, readable, closed⟩
    rw [Alias.layoutReadable_learn] at readable
    rw [Alias.places_learn, gateOpen_learn] at closed
    exact ⟨learnt, canStep, readable, closed⟩
  next =>
    rintro ⟨learnt, canStep, readable, closed⟩
    refine ⟨learnt, canStep, ?_, ?_⟩
    next => rwa [Alias.layoutReadable_learn]
    next => rwa [Alias.places_learn, gateOpen_learn]

theorem apply_stays {play : Playthrough} {input label : String} {i : Nat} {resolution : Matching.Resolution}
    {body : List Entry} (here : resolution.place = ⟨label, i⟩)
    (runAt : RunAt (play.reply input resolution).2.story label i body)
    (loops : LoopsBack (play.reply input resolution) body i) :
    play.apply input resolution =
      (.ok (), { (play.reply input resolution).2 with place := resolution.place, status := .waiting }) := by
  rw [apply_eq]
  generalize play.reply input resolution = reply at runAt loops ⊢
  obtain ⟨result, told⟩ := reply
  obtain ⟨learnt, ⟨count, limit, positive⟩, readable, closed⟩ := loops
  dsimp only at runAt learnt limit readable closed
  subst learnt
  have waits := runAt.step_waits readable closed
  rw [← here] at waits
  obtain ⟨steps, counted⟩ : ∃ steps, count.toNat = steps + 1 := ⟨count.toNat - 1, by omega⟩
  have advanced := advance_running { told with place := resolution.place }
  dsimp only at advanced
  rw [limit] at advanced
  dsimp only at advanced
  rw [counted, playSteps_stays steps waits] at advanced
  dsimp only
  rw [advanced]

theorem apply_moves_on {play : Playthrough} {input label : String} {i : Nat} {resolution : Matching.Resolution}
    {body : List Entry} (here : resolution.place = ⟨label, i⟩) (same : play.place = resolution.place)
    (busy : play.status ≠ .waiting) (runAt : RunAt (play.reply input resolution).2.story label i body)
    (blocked : ¬LoopsBack (play.reply input resolution) body i) :
    ¬(play.reply input resolution).2.StaysAt (play.apply input resolution).2 := by
  have tells := tells_reply play input resolution
  rw [apply_eq]
  generalize play.reply input resolution = reply at tells runAt blocked ⊢
  obtain ⟨result, told⟩ := reply
  dsimp only at tells runAt blocked ⊢
  rcases result with fault | ⟨⟨⟩⟩
  next =>
    rintro ⟨status, _⟩
    exact busy (tells.status.symm.trans status)
  next =>
    have advanced := advance_running { told with place := resolution.place }
    dsimp only at advanced ⊢
    rw [advanced]
    cases limit : told.config.maxSteps.toInt with
    | error fault =>
      rintro ⟨status, _⟩
      cases status
    | ok count =>
      -- Without a step to play the story stops with an error; with one it has left the place for good.
      have leaves : ¬({ told with place := resolution.place, status := .running } : Playthrough).StaysAt
          (playSteps count.toNat { told with place := resolution.place, status := .running }).2 := by
        by_cases positive : 0 < count
        next =>
          refine playSteps_moves_on count.toNat nofun fun prelude => ?_
          rw [here]
          exact runAt.step_moves_on (fun ⟨readable, closed⟩ =>
            blocked ⟨rfl, ⟨count, limit, positive⟩, readable, closed⟩) prelude
        next =>
          rw [Int.toNat_of_nonpos (by omega)]
          rintro ⟨status, _⟩
          cases status
      dsimp only
      rintro ⟨status, place, history⟩
      apply leaves
      rw [tells.place, same] at place
      rcases played : playSteps count.toNat { told with place := resolution.place, status := .running }
        with ⟨_ | _, after⟩ <;>
        · rw [played] at status place history
          exact ⟨status, place, history⟩

theorem submit_of_runAt {σ : Type} {matcher : Option (Matching.Matcher σ)} {state : σ} {play : Playthrough}
    {text label : String} {i : Nat} {answer : Answer} {body : List Entry} (waits : play.status = .waiting)
    (here : play.place = ⟨label, i⟩) (answers : play.Answers matcher state (heard text) answer) :
    let resolution := answer.resolution play.place (heard text)
    let told := (play.asked text).reply (heard text) resolution
    let final := ((play.submit matcher text).run state).1
    RunAt told.2.story label i body →
      (LoopsBack told body i →
        final = (.ok (some resolution), { told.2 with place := play.place, status := .waiting })) ∧
      (¬LoopsBack told body i → ¬told.2.StaysAt final.2) := by
  intro resolution told final runAt
  have submitted : final = _ := submit_of_answers waits answers
  constructor
  next =>
    intro loops
    rw [submitted, apply_stays here runAt loops]
    rfl
  next =>
    intro blocked
    rw [submitted]
    exact apply_moves_on here rfl nofun runAt blocked

/-- After a choice whose response does not jump a playthrough waits on at the coordinate it was at, exactly if
nothing keeps it from that; else it goes on elsewhere or shows more than the response. -/
theorem waits_on_iff_loops_back {σ : Type} (matcher : Option (Matching.Matcher σ)) (state : σ) (play : Playthrough)
    (text label : String) (i : Nat) (answer : Answer) (waits : play.status = .waiting)
    (here : play.place = ⟨label, i⟩) (answers : play.Answers matcher state (heard text) answer) :
    let resolution := answer.resolution play.place (heard text)
    let told := (play.asked text).reply (heard text) resolution
    let final := ((play.submit matcher text).run state).1
    told.2.counters = play.counters.applyAll answer.response.changes ∧ told.2.place = play.place ∧
    ((∀ confidence, answer.means ≠ .semantic confidence) → told.1 = .ok () ∧ told.2.story = play.story) ∧
    (play.Reached → CanStep told.2.config) ∧
    (play.Current → answer.Fits (heard text) play.lines → told.1 = .ok ()) ∧
    ∀ body,
      (RunAt told.2.story label i body ∨
        play.Current ∧ answer.Fits (heard text) play.lines ∧ RunAt play.story label i body) →
      (LoopsBack told body i →
        final = (.ok (some resolution), { told.2 with place := play.place, status := .waiting })) ∧
      (¬LoopsBack told body i → ¬told.2.StaysAt final.2) := by
  intro resolution told final
  have tells := tells_reply (play.asked text) (heard text) resolution
  refine ⟨tells.counters, tells.place, @reply_of_words (play.asked text) (heard text) resolution, ?_, ?_, ?_⟩
  next =>
    intro reached
    have can := canStep_of_reached reached waits
    rw [tells.config]
    exact can
  next =>
    intro current fits
    exact (reply_of_current current fits).1
  next =>
    rintro body (runAt | ⟨current, fits, runAt⟩)
    next => exact submit_of_runAt waits here answers runAt
    next =>
      -- The story has at most learnt, and learning moves nothing.
      obtain ⟨-, same | ⟨script, before, after⟩⟩ := @reply_of_current play text answer current fits
      next => exact submit_of_runAt waits here answers (same ▸ runAt)
      next =>
        rw [before] at runAt
        have learnt := runAt.learn answer.offer.choice.text (heard text)
        rw [← loopsBack_learn]
        exact submit_of_runAt waits here answers (after ▸ learnt)

theorem waits_on_of_lamp :
    let lines := ["@H", "when lit", "  if look", "    You look.", "You stand here.", "if light lamp", "  +lit",
      "Dark no more."]
    let script : List Entry :=
      [.scene "H" none, .when "lit" [.option ⟨"look", none, none⟩ [.narrative "You look."]],
        .narrative "You stand here.", .option ⟨"light lamp", none, none⟩ [.metadata "sets" "lit"],
        .narrative "Dark no more."]
    let begun : Playthrough := { config := {}, lines, story := .ofScript script }
    let play := begun.advance.2
    let final := ((play.submit (none : Option (Matching.Matcher Unit)) " Light lamp ").run ()).1
    Playthrough.start {} {} lines = .ok begun ∧ play.status = .waiting ∧ play.place = ⟨"H", 2⟩ ∧
      final.2.status = .waiting ∧ final.2.place = ⟨"H", 2⟩ ∧ final.2.counters = ⟨[("lit", 1)]⟩ := by
  intro lines script begun play final
  let answer : Answer :=
    ⟨⟨⟨"light lamp", none, none⟩, [.metadata "sets" "lit"]⟩, .exact none, { changes := [.sets "lit"] }⟩
  have reads : Script.read lines = .ok script := rfl
  have started : Playthrough.start {} {} lines = .ok begun := by rw [Playthrough.start, reads]
  obtain ⟨waiting, place, counters⟩ : play.status = .waiting ∧ play.place = ⟨"H", 2⟩ ∧ play.counters = {} := by
    decide +kernel
  have same : SameScript begun play := sameScript_advance begun
  have current : play.Current := ⟨script, same.lines ▸ reads, same.story⟩
  have config : play.config = {} := (grows_advance begun).config
  have answers : play.Answers (none : Option (Matching.Matcher Unit)) () (heard " Light lamp ") answer := by
    constructor
    next =>
      rw [config, same.story, counters, place]
      exact ⟨_, _, 0, rfl, rfl, rfl, rfl⟩
    next =>
      rw [counters]
      rfl
  have runAt : RunAt begun.story "H" 2 (begun.story.body 0) := ⟨by decide, rfl, 2, _, rfl⟩
  obtain ⟨counted, _, _, reached, learnt, outcome⟩ := waits_on_iff_loops_back
    (none : Option (Matching.Matcher Unit)) () play " Light lamp " "H" 2 answer waiting place answers
  have fits : answer.Fits (heard " Light lamp ") play.lines := by
    rintro ⟨_, means⟩
    cases means
  have closed : ¬GateOpen (Counters.answer ⟨[("lit", 1)]⟩) (places (begun.story.body 0)) 2 := by
    rw [← waitingAfter_iff_gateOpen _ _ (by decide)]
    decide
  rw [counters] at counted
  have loops := (outcome (begun.story.body 0) (.inr ⟨current, fits, same.story.symm ▸ runAt⟩)).1
    ⟨learnt current fits, reached (.act (.start started) (.advance begun)), by rw [counted]; rfl,
      by rw [counted]; exact closed⟩
  have final_eq : final = _ := loops
  rw [final_eq]
  exact ⟨started, waiting, place, rfl, place, counted⟩

theorem moves_on_of_lamp :
    let lines := ["@H", "when lit", "  if look", "    You look.", "if light lamp", "  +lit", "Dark no more."]
    let script : List Entry :=
      [.scene "H" none, .when "lit" [.option ⟨"look", none, none⟩ [.narrative "You look."]],
        .option ⟨"light lamp", none, none⟩ [.metadata "sets" "lit"], .narrative "Dark no more."]
    let begun : Playthrough := { config := {}, lines, story := .ofScript script }
    let play := begun.advance.2
    let answer : Answer :=
      ⟨⟨⟨"light lamp", none, none⟩, [.metadata "sets" "lit"]⟩, .exact none, { changes := [.sets "lit"] }⟩
    let final := ((play.submit (none : Option (Matching.Matcher Unit)) "light lamp").run ()).1
    Playthrough.start {} {} lines = .ok begun ∧ play.status = .waiting ∧ play.place = ⟨"H", 1⟩ ∧
      RunAt play.story "H" 1 (play.story.body 0) ∧
      play.Answers (none : Option (Matching.Matcher Unit)) () (heard "light lamp") answer ∧
      final.2.status = .waiting ∧ final.2.place = ⟨"H", 3⟩ := by
  intro lines script begun play answer final
  obtain ⟨waiting, place, counters⟩ : play.status = .waiting ∧ play.place = ⟨"H", 1⟩ ∧ play.counters = {} := by
    decide +kernel
  have played : final.2.status = .waiting ∧ final.2.place = ⟨"H", 3⟩ := by decide +kernel
  have config : play.config = {} := (grows_advance begun).config
  have story : play.story = begun.story := (sameScript_advance begun).story
  have runAt : RunAt begun.story "H" 1 (begun.story.body 0) := ⟨by decide, rfl, 1, _, rfl⟩
  refine ⟨rfl, waiting, place, ?_, ⟨?_, ?_⟩, played⟩
  next =>
    rw [story]
    exact runAt
  next =>
    rw [config, story, place, counters]
    exact ⟨_, _, 0, rfl, rfl, rfl, rfl⟩
  next =>
    rw [counters]
    rfl

end Playthrough

end Gamebook
