import Mathlib.Logic.Relation
import Gamebook.Proofs.Legible
import Gamebook.Scene.Problem

set_option autoImplicit false

namespace Gamebook

namespace Script

def Item.target? : Item → Option String
  | .entry (.goto target) => some (Text.trim target)
  | _ => none

mutual

theorem jumpTargetsOf_eq (entry : Entry) : jumpTargetsOf entry = (itemsOf entry).filterMap Item.target? := by
  cases entry with
  | option choice response =>
    rw [jumpTargetsOf, itemsOf, jumpTargets_eq response]
    rfl
  | when condition body =>
    rw [jumpTargetsOf, itemsOf, jumpTargets_eq body]
    rfl
  | whenElse condition body otherwise =>
    rw [jumpTargetsOf, itemsOf, jumpTargets_eq body, jumpTargets_eq otherwise, List.filterMap_cons,
      List.filterMap_append, List.filterMap_cons]
    rfl
  | narrative | scene | goto | image | metadata => rfl

theorem jumpTargets_eq (entries : List Entry) : jumpTargets entries = (items entries).filterMap Item.target? := by
  cases entries with
  | nil => simp [jumpTargets]
  | cons entry entries =>
    rw [jumpTargets, items_cons, List.filterMap_append, jumpTargetsOf_eq entry, jumpTargets_eq entries]

end

theorem mem_jumpTargets_of_holds {script : List Entry} {target : String} (holds : Holds script (.jump target)) :
    target ∈ jumpTargets script := by
  obtain ⟨written, member, rfl⟩ := holds
  rw [jumpTargets_eq]
  exact List.mem_filterMap.mpr ⟨_, member, rfl⟩

end Script

namespace Story

def Knows (story : Story) (label : String) : Prop := (story.scenes.get? label).isSome

/-- No jump leads to a scene that is missing. -/
def Clean (story : Story) : Prop := ∀ target, Problem.missingScene target ∉ story.problems

theorem knows_start (script : List Entry) : (ofScript script).Knows startLabel := by
  rw [Knows, ofScript, SceneMap.get?_ofScript]
  cases Script.header? script startLabel <;> rfl

theorem knows_end (script : List Entry) : (ofScript script).Knows endLabel := by
  rw [Knows, ofScript, SceneMap.get?_ofScript]
  cases Script.header? script endLabel <;> rfl

theorem knows_label {script : List Entry} {entry : Entry} {label : String} (member : entry ∈ script)
    (labelled : entry.label? = some label) : (ofScript script).Knows label := by
  rw [Knows, ofScript, SceneMap.get?_ofScript]
  have found : (Script.header? script label).isSome := by
    rw [Script.header?, List.findIdx?_isSome, List.any_eq_true]
    exact ⟨entry, member, by simp [labelled]⟩
  obtain ⟨place, found⟩ := Option.isSome_iff_exists.mp found
  rw [found]
  rfl

theorem Clean.knows {script : List Entry} (clean : (ofScript script).Clean) {target : String}
    (holds : Script.Holds script (.jump target)) : (ofScript script).Knows target := by
  by_contra missing
  have other : target ≠ endLabel := by
    rintro rfl
    exact missing (knows_end script)
  apply clean target
  rw [problems, List.mem_append]
  right
  rw [missingScenes]
  refine List.mem_map.mpr ⟨target, ?_, rfl⟩
  rw [List.mem_eraseDups, List.mem_filter]
  refine ⟨Script.mem_jumpTargets_of_holds holds, ?_⟩
  simpa [other, Knows] using missing

theorem Clean.knows_entryPoint {script : List Entry} (clean : (ofScript script).Clean) {target : String}
    (enters : Script.entryPoint? script = some target) : (ofScript script).Knows target := by
  obtain ⟨entry, member, jumps⟩ := List.exists_of_findSome?_eq_some enters
  cases entry with
  | goto written =>
    cases jumps
    have here : Script.Holds [Entry.goto written] (.jump (Text.trim written)) :=
      ⟨written, by simp [Script.itemsOf], rfl⟩
    refine clean.knows (here.mono (List.Subset.trans ?_ (Script.items_preamble_subset script)))
    exact Script.items_subset (by simpa using member)
  | narrative | scene | option | image | metadata | when | whenElse => cases jumps

theorem Clean.knows_standIn {script : List Entry} (clean : (ofScript script).Clean) {label scene : String}
    (standIn : (ofScript script).standIn? label = some scene) : (ofScript script).Knows scene := by
  obtain ⟨-, starts⟩ := Option.ite_none_right_eq_some.mp standIn
  unfold Script.implicitStart? at starts
  split at starts
  next target enters =>
    cases starts
    exact clean.knows_entryPoint enters
  next =>
    split at starts
    next => cases starts
    next first met =>
      obtain ⟨-, same⟩ := Option.ite_none_left_eq_some.mp starts
      cases same
      obtain ⟨place, -, inside⟩ := Option.bind_eq_some_iff.mp met
      obtain ⟨entry, found, labelled⟩ := Option.bind_eq_some_iff.mp inside
      exact knows_label (List.mem_of_getElem? found) labelled

end Story

theorem holds_of_layout {ask : Oracle} {body : List Entry} {index : Nat} {target : String}
    (met : (layout ask body)[index]? = some (.beat (.jump target))) : Script.Holds body (.jump target) := by
  rw [getElem?_layout, Option.map_eq_some_iff] at met
  obtain ⟨place, found, shown⟩ := met
  exact (Place.standsIn_of_mem (List.mem_of_getElem? found)).jump (Position.slot_of_beat shown).1

namespace Walk

variable {σ : Type} {keeper : Keeper σ} {script : List Entry}

def Safe (story : Story) : Walk σ ⊕ Stepped σ → Prop
  | .inl next => story.Knows next.scene
  | .inr stepped => ∀ label, stepped.outcome ≠ .ok (.failed (.noScene label))

theorem safe_playPosition {story : Story} {walk : Walk σ} {positions : List Position} (known : story.Knows walk.scene)
    (jumps : ∀ target, positions[walk.index]? = some (.beat (.jump target)) → story.Knows target) :
    Safe story (walk.playPosition story keeper positions) := by
  cases moved : walk.playPosition story keeper positions with
  | inr stepped =>
    obtain ⟨result, rfl, stops⟩ := stops_of_playPosition moved
    intro label strays
    cases stops with
    | tells | shows => cases (naming_eq_ok_iff.mp strays).2
    | waits | finishes => cases strays
  | inl next =>
    cases passes_of_playPosition moved with
    | skips | changes => exact known
    | jumps target met => exact jumps target met

theorem safe_enter (clean : (Story.ofScript script).Clean) {walk : Walk σ} (begins : Int)
    (known : (Story.ofScript script).Knows walk.scene) :
    Safe (Story.ofScript script) (walk.enter (Story.ofScript script) keeper begins) := by
  rw [enter_eq]
  split
  next scene standIn => exact clean.knows_standIn standIn
  next =>
    unfold playScene
    split
    next => exact nofun
    next positions laid =>
      refine safe_playPosition known fun target met => ?_
      rw [layout?_eq_ok laid] at met
      exact clean.knows ((holds_of_layout met).mono (Script.items_body_subset _ begins))

theorem safe_move (clean : (Story.ofScript script).Clean) (keeper : Keeper σ) {walk : Walk σ}
    (known : (Story.ofScript script).Knows walk.scene) :
    Safe (Story.ofScript script) (walk.move (Story.ofScript script) keeper) := by
  have enters (begins : Int) : Safe (Story.ofScript script)
      ((walk.opened (Story.ofScript script) keeper).enter (Story.ofScript script) keeper begins) :=
    safe_enter clean begins (by simpa using known)
  by_cases comes : ∃ begins, walk.Comes (Story.ofScript script) begins
  next =>
    obtain ⟨begins, comes⟩ := comes
    rw [comes.move]
    split
    next => exact nofun
    next target exit =>
      split
      next => exact enters begins
      next =>
        -- A jump of the preamble stands in one of its conditionals.
        obtain ⟨-, exit⟩ := Option.ite_none_right_eq_some.mp exit
        exact clean.knows ((Telling.holds_of_run _ exit).mono (Script.items_conditionals_subset script))
    next => exact enters begins
  next =>
    obtain ⟨result, stops, lost⟩ := move_of_not_comes keeper (not_exists.mp comes)
    rw [stops]
    intro label strays
    cases lost with
    | loops => cases (naming_eq_ok_iff.mp strays).2
    | finishes => cases strays
    | strays missing =>
      rw [Story.Knows, missing] at known
      cases known

theorem safe_run (clean : (Story.ofScript script).Clean) (walk : Walk σ)
    (known : (Story.ofScript script).Knows walk.scene) :
    Safe (Story.ofScript script) (.inr (walk.run (Story.ofScript script) keeper) : Walk σ ⊕ Stepped σ) := by
  induction walk using run.induct (Story.ofScript script) keeper with
  | case1 walk stepped stops =>
    rw [run_of_inr stops, ← stops]
    exact safe_move clean keeper known
  | case2 walk next moves _ ih =>
    rw [run_of_inl moves]
    have safe := safe_move clean keeper known
    rw [moves] at safe
    exact ih safe

end Walk

namespace Story

structure Charts (story : Story) (line : Line) : Prop where
  found : line.id ≠ "error-scene"
  known : ∀ place, Coordinate.ofId line.id = .ok (some place) → story.Knows place.scene

theorem charts_of_numbered (story : Story) {line : Line} {sender : Sender} {count : Nat}
    (numbered : line.id = sender.name ++ ":" ++ toString count) : story.Charts line := by
  constructor
  next =>
    intro lost
    have colon : ':' ∈ "error-scene".toList := by
      rw [← lost, numbered]
      simp
    exact absurd colon (by decide)
  next =>
    intro place other
    rw [numbered, Playthrough.ofId_numbered] at other
    cases other

theorem charts_of_step {script : List Entry} (legible : Script.Legible script) {σ : Type} {keeper : Keeper σ}
    {state : σ} {place shownAt : Coordinate} {line : Line} {prelude : List String}
    (shows : (step (ofScript script) keeper state place).outcome = .ok (.line line shownAt prelude)) :
    (ofScript script).Charts line := by
  have found := legible.ofId_of_step shows
  obtain ⟨scene, index, rfl, -, -, -, begins, known⟩ := position_of_step shows
  constructor
  next =>
    -- The identifier of the line is a coordinate, and that of the error is none.
    intro lost
    have other : Coordinate.ofId "error-scene" = .ok none := by decide
    rw [lost, other] at found
    cases found
  next =>
    intro place same
    rw [found] at same
    cases same
    exact Option.isSome_iff_exists.mpr ⟨begins, known⟩

theorem knows_placeAfter {script : List Entry} {lines : List Line} {place : Coordinate}
    (charted : ∀ line ∈ lines, (ofScript script).Charts line) (ends : Playthrough.placeAfter lines = .ok place) :
    (ofScript script).Knows place.scene := by
  induction lines with
  | nil =>
    cases ends
    exact knows_start script
  | cons line earlier ih =>
    obtain ⟨here, before⟩ := List.forall_mem_cons.mp charted
    rw [Playthrough.placeAfter] at ends
    split at ends
    next => cases ends
    next place found =>
      cases ends
      exact here.known place found
    next => exact ih before ends

end Story

theorem Matching.knows_of_resolve {script : List Entry} (clean : (Story.ofScript script).Clean) {ask : Oracle}
    {σ : Type} {matcher : Option (Matcher σ)} {thresholds : Thresholds} {place : Coordinate} {input : String} {state : σ}
    {found : Resolution} (known : (Story.ofScript script).Knows place.scene)
    (matched : ((resolve (Story.ofScript script) ask matcher thresholds place input).run state).1 = .ok (some found)) :
    (Story.ofScript script).Knows found.place.scene := by
  obtain ⟨offers, chosen, offer, offered, -, called, answered⟩ := offer_of_resolve matched
  have within := Story.items_response_subset offered (List.mem_of_getElem? called)
  unfold resolution at answered
  cases responded : Response.ofBlock ask offer.response with
  | error =>
    rw [responded] at answered
    cases answered
  | ok result =>
    rw [responded] at answered
    cases answered
    unfold Response.ofBlock at responded
    split at responded
    next => cases responded
    next response target stops =>
      cases responded
      exact clean.knows ((Response.holds_of_run _ (congrArg Prod.snd stops)).mono within)
    next =>
      cases responded
      exact known

namespace Playthrough

/-- What a player without a matcher of meaning can do. -/
inductive Unaided : Playthrough → Playthrough → Prop where
  | advance (play : Playthrough) : Unaided play play.advance.2
  | submit {σ : Type} (play : Playthrough) (state : σ) (text : String) :
      Unaided play ((play.submit (none : Option (Matching.Matcher σ)) text).run state).1.2
  | restart (play : Playthrough) : Unaided play play.restart.2
  | jumpTo (play : Playthrough) (index : Int) : Unaided play (play.jumpTo index).2
  | jumpBack (play : Playthrough) : Unaided play play.jumpBack.2

structure Charted (script : List Entry) (play : Playthrough) : Prop where
  story : play.story = .ofScript script
  place : (Story.ofScript script).Knows play.place.scene
  lines : ∀ line ∈ play.history, (Story.ofScript script).Charts line

namespace Charted

variable {script : List Entry} {play : Playthrough}

theorem record (charted : Charted script play) {line : Line} (charts : (Story.ofScript script).Charts line) :
    Charted script (play.record line) := by
  refine ⟨charted.story, charted.place, fun other member => ?_⟩
  rcases List.mem_append.mp member with earlier | last
  next => exact charted.lines other earlier
  next => exact List.mem_singleton.mp last ▸ charts

theorem say (charted : Charted script play) (sender : Sender) (text : String) (kind : LineKind) :
    Charted script (play.say sender text kind) := by
  have charts := @Story.charts_of_numbered (.ofScript script) ⟨_, sender, text, kind⟩ sender play.numbered rfl
  have recorded := charted.record charts
  exact ⟨recorded.story, recorded.place, recorded.lines⟩

theorem sayAll (charted : Charted script play) (texts : List String) : Charted script (play.sayAll texts) := by
  induction texts generalizing play with
  | nil => exact charted
  | cons text texts ih => exact ih (charted.say .narrator text .text)

theorem display (charted : Charted script play) (shown : List Shown) : Charted script (play.display shown) := by
  induction shown generalizing play with
  | nil => exact charted
  | cons first shown ih =>
    cases first with
    | text text => exact ih (charted.say .narrator text .text)
    | image url => exact ih (charted.say .narrator url .image)

theorem recordLine (charted : Charted script play) {line : Line} (charts : (Story.ofScript script).Charts line) :
    Charted script (play.recordLine line).2 := by
  have recorded := charted.record charts
  unfold Playthrough.recordLine
  split
  next => exact recorded
  next => exact recorded
  next place found => exact ⟨recorded.story, charts.known place found, recorded.lines⟩

theorem playSteps (legible : Script.Legible script) (clean : (Story.ofScript script).Clean) (count : Nat)
    (charted : Charted script play) : Charted script (play.playSteps count).2 := by
  induction count generalizing play with
  | zero =>
    have told := charted.say .system "Stopped: too many lines without a choice" .text
    exact ⟨told.story, told.place, told.lines⟩
  | succ count ih =>
    have safe := @Walk.safe_run _ Counters.keeper _ clean (Walk.start play.counters play.place) charted.place
    rw [← Walk.step_eq_run] at safe
    rw [Playthrough.playSteps, charted.story]
    have counted : Charted script
        { play with
          story := .ofScript script
          counters := (step (.ofScript script) Counters.keeper play.counters play.place).state } :=
      ⟨rfl, charted.place, charted.lines⟩
    cases came : (step (.ofScript script) Counters.keeper play.counters play.place).outcome with
    | error => exact counted
    | ok outcome =>
      have told := counted.sayAll outcome.prelude
      cases outcome with
      | line line shownAt prelude =>
        have recorded := told.recordLine (Story.charts_of_step legible came)
        dsimp only
        split
        next after shown =>
          rw [shown] at recorded
          exact ih recorded
        next => exact recorded
      | wait shownAt prelude =>
        obtain ⟨begins, -, -, -, known, -⟩ := waitsAt_of_step came
        exact ⟨told.story, Option.isSome_iff_exists.mpr ⟨begins, known⟩, told.lines⟩
      | finished => exact ⟨told.story, told.place, told.lines⟩
      | failed error =>
        cases error with
        | noScene label => exact absurd came (safe label)
        | loop place =>
          have other : Coordinate.ofId "error-loop" = .ok none := by decide
          have charts : (Story.ofScript script).Charts (StepError.loop place).line := by
            refine ⟨show "error-loop" ≠ "error-scene" by decide, fun place found => ?_⟩
            cases other.symm.trans found
          have noted := told.record charts
          exact ⟨noted.story, noted.place, noted.lines⟩

theorem advance (legible : Script.Legible script) (clean : (Story.ofScript script).Clean)
    (charted : Charted script play) : Charted script play.advance.2 := by
  have running : Charted script { play with status := .running } := ⟨charted.story, charted.place, charted.lines⟩
  exact advance_elim (P := Charted script) (fun _ => charted) running fun count => playSteps legible clean count running

theorem restart (legible : Script.Legible script) (clean : (Story.ofScript script).Clean)
    (charted : Charted script play) : Charted script play.restart.2 :=
  advance legible clean ⟨charted.story, Story.knows_start script, nofun⟩

theorem jumpTo (legible : Script.Legible script) (clean : (Story.ofScript script).Clean) (charted : Charted script play)
    (index : Int) : Charted script (play.jumpTo index).2 := by
  have kept : ∀ line ∈ play.history.take (index.toNat + 1), (Story.ofScript script).Charts line :=
    fun line member => charted.lines line (List.mem_of_mem_take member)
  unfold Playthrough.jumpTo
  split
  next => exact charted
  next =>
    dsimp only
    split
    next => exact ⟨charted.story, charted.place, kept⟩
    next place ends =>
      have known := Story.knows_placeAfter (fun line member => kept line (List.mem_reverse.mp member)) ends
      exact advance legible clean ⟨charted.story, known, kept⟩

theorem jumpBack (legible : Script.Legible script) (clean : (Story.ofScript script).Clean)
    (charted : Charted script play) : Charted script play.jumpBack.2 := by
  unfold Playthrough.jumpBack
  split
  next => exact charted
  next => exact charted.restart legible clean
  next index _ => exact charted.jumpTo legible clean index

theorem submit (legible : Script.Legible script) (clean : (Story.ofScript script).Clean) (charted : Charted script play)
    {σ : Type} (state : σ) (text : String) :
    Charted script ((play.submit (none : Option (Matching.Matcher σ)) text).run state).1.2 := by
  by_cases waits : play.status = .waiting
  next =>
    have said := charted.say .player (heard text) .text
    have asked : Charted script (play.asked text) := ⟨said.story, said.place, said.lines⟩
    rw [run_submit waits]
    split
    next => exact asked
    next thresholds _ =>
      split
      next => exact asked
      next => exact ⟨asked.story, asked.place, asked.lines⟩
      next resolution after came =>
        have words := @means_of_resolve _ _ _ _ _ _ state resolution (by rw [came])
        rw [charted.story] at came
        have known := Matching.knows_of_resolve clean charted.place (congrArg Prod.fst came)
        let counted : Playthrough :=
          { play.asked text with counters := (play.asked text).counters.applyAll resolution.changes }
        have shown := @display _ counted ⟨asked.story, asked.place, asked.lines⟩ resolution.shown
        have played := @advance _
          { counted.display resolution.shown with place := resolution.place, status := .running } legible clean
          ⟨shown.story, known, shown.lines⟩
        dsimp only
        rw [snd_apply_ok (reply_eq_of_words _ _ words)]
        exact played
  next =>
    unfold Playthrough.submit
    rw [if_pos waits]
    exact charted

theorem unaided (legible : Script.Legible script) (clean : (Story.ofScript script).Clean) {after : Playthrough}
    (charted : Charted script play) (acts : Unaided play after) : Charted script after := by
  cases acts with
  | advance => exact charted.advance legible clean
  | submit _ state text => exact charted.submit legible clean state text
  | restart => exact charted.restart legible clean
  | jumpTo _ index => exact charted.jumpTo legible clean index
  | jumpBack => exact charted.jumpBack legible clean

theorem reached (legible : Script.Legible script) (clean : (Story.ofScript script).Clean) {after : Playthrough}
    (charted : Charted script play) (reached : Relation.ReflTransGen Unaided play after) : Charted script after := by
  induction reached with
  | refl => exact charted
  | tail _ acts ih => exact ih.unaided legible clean acts

theorem start {config : Config} {counters : Counters} {lines : List String}
    (begun : Playthrough.start config counters lines = .ok play) :
    ∃ script, Script.Legible script ∧ Charted script play := by
  unfold Playthrough.start at begun
  split at begun
  next script reads =>
    cases begun
    exact ⟨script, Script.legible_of_read reads, rfl, Story.knows_start script, nofun⟩
  next => cases begun

end Charted

end Playthrough

/-- If no jump of a script leads to a missing scene, then no scene is missing when it is played without a matcher of
meaning: the coordinate is always in a scene of the story, every step from there finds its scenes, and none of the steps
taken has left a line that says otherwise. -/
theorem clean_story_misses_no_scene {config : Config} {counters : Counters} {lines : List String}
    {play after : Playthrough} (begun : Playthrough.start config counters lines = .ok play)
    (clean : ∀ target, Problem.missingScene target ∉ play.story.problems)
    (reached : Relation.ReflTransGen Playthrough.Unaided play after) :
    after.story = play.story ∧ (after.story.scenes.get? after.place.scene).isSome ∧
    (∀ (state : Counters) (place : Coordinate) (label : String), (after.story.scenes.get? place.scene).isSome →
      (step after.story Counters.keeper state place).outcome ≠ .ok (.failed (.noScene label))) ∧
    ∀ label, (StepError.noScene label).line ∉ after.history := by
  obtain ⟨script, legible, charted⟩ := Playthrough.Charted.start begun
  rw [charted.story] at clean ⊢
  have later := charted.reached legible clean reached
  rw [later.story]
  refine ⟨rfl, later.place, fun state place label known => ?_, fun label lost => (later.lines _ lost).found rfl⟩
  exact Walk.safe_run clean (Walk.start state place) known label

theorem clean_story_misses_no_scene_in_cellar :
    let lines := ["when torch >= 1", "  goto @CELLAR", "goto @HALL", "@HALL", "You stand in a hall.", "if go down",
      "  goto @CELLAR", "@CELLAR", "It is dark.", "if go up", "  goto @HALL"]
    ∃ play after, Playthrough.start {} ⟨[("torch", 1)]⟩ lines = .ok play ∧
      (∀ target, Problem.missingScene target ∉ play.story.problems) ∧
      Relation.ReflTransGen Playthrough.Unaided play after ∧
      after.place = ⟨"CELLAR", 1⟩ ∧ (after.story.scenes.get? after.place.scene).isSome ∧
      ∀ label, (StepError.noScene label).line ∉ after.history := by
  intro lines
  have reads : Script.read lines = .ok
      [.when "torch >= 1" [.goto "CELLAR"], .goto "HALL", .scene "HALL" none, .narrative "You stand in a hall.",
        .option ⟨"go down", none, none⟩ [.goto "CELLAR"], .scene "CELLAR" none, .narrative "It is dark.",
        .option ⟨"go up", none, none⟩ [.goto "HALL"]] := rfl
  obtain ⟨play, begun, same⟩ : ∃ play, Playthrough.start {} ⟨[("torch", 1)]⟩ lines = .ok play ∧ play =
      { config := {}, lines, story := .ofScript _, counters := ⟨[("torch", 1)]⟩ } := by
    rw [Playthrough.start, reads]
    exact ⟨_, rfl, rfl⟩
  have clean : play.story.problems = [] := by
    rw [same]
    decide +kernel
  have there : (play.advance.2.jumpTo 0).2.place = ⟨"CELLAR", 1⟩ := by
    rw [same]
    decide +kernel
  have first := Relation.ReflTransGen.single (Playthrough.Unaided.advance play)
  have second := first.tail (.jumpTo _ 0)
  obtain ⟨-, known, -, found⟩ := clean_story_misses_no_scene begun (by simp [clean]) second
  exact ⟨play, _, begun, by simp [clean], second, there, known, found⟩

end Gamebook
