import Gamebook.Proofs.Counting
import Gamebook.Proofs.Legible

set_option autoImplicit false

namespace Gamebook

def Script.mentions (script : List Entry) : List String := (conditions script).flatMap Condition.names

def Oracle.AgreesOn (ask other : Oracle) (entries : List Entry) : Prop :=
  ∀ name ∈ Script.mentions entries, ask.Agrees other name

namespace Oracle.AgreesOn

variable {ask other : Oracle} {entries : List Entry}

theorem mono {part : List Entry} (agrees : ask.AgreesOn other entries)
    (within : Script.items part ⊆ Script.items entries) : ask.AgreesOn other part := by
  intro name member
  obtain ⟨condition, inside, mentioned⟩ := List.mem_flatMap.mp member
  exact agrees name (List.mem_flatMap.mpr ⟨condition, Script.conditions_subset within inside, mentioned⟩)

theorem names (agrees : ask.AgreesOn other entries) {condition : String}
    (member : condition ∈ Script.conditions entries) :
    ∀ name ∈ Condition.names condition, ask.Agrees other name :=
  fun name mentioned => agrees name (List.mem_flatMap.mpr ⟨condition, member, mentioned⟩)

theorem holds (agrees : ask.AgreesOn other entries) {condition : String}
    (member : condition ∈ Script.conditions entries) :
    Condition.holds ask condition = Condition.holds other condition :=
  Condition.holds_congr (agrees.names member)

theorem isAvailable (agrees : ask.AgreesOn other entries) {choice : Choice}
    (member : Item.entry (.option choice []) ∈ Script.items entries) :
    choice.isAvailable ask = choice.isAvailable other := by
  unfold Choice.isAvailable
  cases gate : choice.requires with
  | none => rfl
  | some condition =>
    dsimp only
    rw [agrees.holds (Script.mem_conditions_of_option member gate)]

theorem after (agrees : ask.AgreesOn other entries) (changes : List Change) :
    (ask.after changes).AgreesOn (other.after changes) entries := by
  rintro name member query rfl _
  unfold Oracle.after
  cases asks : query.before? changes with
  | none => rfl
  | some before =>
    unfold Query.before? at asks
    rcases Nat.eq_zero_or_pos (query.threshold - shiftOf changes query.name).toNat with nothing | positive
    next =>
      rw [nothing] at asks
      cases asks
    next =>
      obtain ⟨other, found, named, counted⟩ := Query.exists_ofThreshold query.name positive
      cases found.symm.trans asks
      exact agrees query.name member before named (counted ▸ positive)

theorem block {entry : Entry} (agrees : ask.AgreesOn other [entry]) {inner : List Entry}
    (member : inner ∈ entry.blocks) : ask.AgreesOn other inner :=
  agrees.mono (by simpa using Script.items_block_subset member)

theorem head {entry : Entry} (agrees : ask.AgreesOn other (entry :: entries)) : ask.AgreesOn other [entry] :=
  agrees.mono (by simp)

theorem tail {entry : Entry} (agrees : ask.AgreesOn other (entry :: entries)) : ask.AgreesOn other entries :=
  agrees.mono (by simp)

end Oracle.AgreesOn

theorem Position.ofSlots_congr {ask other : Oracle} (waiting : Bool) {slots : List Slot}
    (same : ∀ offer ∈ slots.flatMap Slot.offers, offer.choice.isAvailable ask = offer.choice.isAvailable other) :
    ofSlots ask waiting slots = ofSlots other waiting slots := by
  induction slots generalizing waiting with
  | nil => rfl
  | cons slot slots ih =>
    obtain ⟨site, live⟩ := slot
    rw [List.flatMap_cons] at same
    have rest (waiting : Bool) := ih waiting fun offer later => same offer (List.mem_append_right _ later)
    cases live with
    | false => simp only [ofSlots, rest]
    | true =>
      cases site with
      | beat => simp only [ofSlots, rest]
      | run offers =>
        have ahead : offersAhead slots ⊆ slots.flatMap Slot.offers := by
          intro offer member
          obtain ⟨slot, inside, offered⟩ := List.mem_flatMap.mp member
          exact List.mem_flatMap.mpr ⟨slot, List.takeWhile_subset _ inside, offered⟩
        have kept : (offers ++ offersAhead slots).filter (·.choice.isAvailable ask) =
            (offers ++ offersAhead slots).filter (·.choice.isAvailable other) := by
          refine List.filter_congr fun offer member => same offer ?_
          rcases List.mem_append.mp member with own | later
          next => exact List.mem_append_left _ own
          next => exact List.mem_append_right _ (ahead later)
        simp only [ofSlots, rest, kept]

namespace Oracle.AgreesOn

variable {ask other : Oracle} {body : List Entry}

theorem slot (agrees : ask.AgreesOn other body) {place : Place} (member : place ∈ places body) :
    place.slot ask = place.slot other := by
  obtain ⟨block, found, -⟩ := Place.standsIn_of_mem member
  have taken : ∀ fork ∈ place.forks, fork.isTaken ask = fork.isTaken other := by
    intro fork inside
    have same := agrees.holds (Script.mem_conditions_of_when ((Script.written_of_blockAt? found).2 fork inside))
    unfold Fork.isTaken
    rw [same]
  have counted : place.counts ask = place.counts other := by
    rw [Place.counts, Place.counts, Bool.eq_iff_iff, List.all_eq_true, List.all_eq_true]
    exact forall₂_congr fun fork inside => by rw [taken fork inside]
  rw [Place.slot, Place.slot, counted]

theorem layout (agrees : ask.AgreesOn other body) : Gamebook.layout ask body = Gamebook.layout other body := by
  have slots : Slot.ofEntries ask true body = Slot.ofEntries other true body :=
    calc Slot.ofEntries ask true body
      _ = (places body).map (Place.slot ask) := (Place.map_slot_ofRest ask [] 0 body).symm
      _ = (places body).map (Place.slot other) := List.map_congr_left fun place member => agrees.slot member
      _ = Slot.ofEntries other true body := Place.map_slot_ofRest other [] 0 body
  rw [Gamebook.layout, Gamebook.layout, slots]
  refine Position.ofSlots_congr false fun offer member => agrees.isAvailable ?_
  rw [Slot.flatMap_offers_ofEntries] at member
  exact (mem_openOffers_iff.mp member).items_subset (by simp [Script.itemsOf])

mutual

theorem entryReadable (entry : Entry) (agrees : ask.AgreesOn other [entry]) :
    Gamebook.entryReadable ask entry = Gamebook.entryReadable other entry := by
  cases entry with
  | when condition body =>
    have inside := layoutReadable body (agrees.block List.mem_cons_self)
    have asks : condition ∈ Script.conditions [.when condition body] :=
      Script.mem_conditions_of_when (by simp [Script.itemsOf])
    simp only [Gamebook.entryReadable, inside, agrees.holds asks]
  | whenElse condition body otherwise =>
    have inside := layoutReadable body (agrees.block List.mem_cons_self)
    have beside := layoutReadable otherwise (agrees.block (List.mem_cons_of_mem _ List.mem_cons_self))
    have asks : condition ∈ Script.conditions [.whenElse condition body otherwise] :=
      Script.mem_conditions_of_when (by simp [Script.itemsOf])
    simp only [Gamebook.entryReadable, inside, beside, agrees.holds asks]
  | narrative | scene | goto | option | image | metadata => rfl

theorem layoutReadable (entries : List Entry) (agrees : ask.AgreesOn other entries) :
    Gamebook.layoutReadable ask entries = Gamebook.layoutReadable other entries := by
  cases entries with
  | nil => rfl
  | cons entry entries =>
    rw [Gamebook.layoutReadable, Gamebook.layoutReadable, entryReadable entry agrees.head,
      layoutReadable entries agrees.tail]

end

theorem layout? (agrees : ask.AgreesOn other body) : Gamebook.layout? ask body = Gamebook.layout? other body := by
  rw [Gamebook.layout?, Gamebook.layout?, agrees.layout, layoutReadable body agrees]

theorem offersAt {story : Story} (agrees : ask.AgreesOn other story.script) (place : Coordinate) :
    story.offersAt ask place = story.offersAt other place := by
  unfold Story.offersAt
  cases story.scenes.get? (story.resolve place.scene) with
  | none => rfl
  | some begins =>
    dsimp only
    rw [(agrees.mono (Script.items_body_subset story begins)).layout?]

theorem noteCondition (agrees : ask.AgreesOn other body) {condition : String}
    (member : condition ∈ Script.conditions body) (response : Response) :
    response.noteCondition ask condition = response.noteCondition other condition := by
  rw [Response.noteCondition, Response.noteCondition,
    Condition.asked_congr ((agrees.after response.changes).names member)]

mutual

theorem runEntry (response : Response) (entry : Entry) (agrees : ask.AgreesOn other [entry]) :
    Response.runEntry ask response entry = Response.runEntry other response entry := by
  cases entry with
  | when condition body =>
    have inside (response : Response) := run response body (agrees.block List.mem_cons_self)
    have asks : condition ∈ Script.conditions [.when condition body] :=
      Script.mem_conditions_of_when (by simp [Script.itemsOf])
    simp only [Response.runEntry, inside, agrees.noteCondition asks, (agrees.after response.changes).holds asks]
  | whenElse condition body otherwise =>
    have inside (response : Response) := run response body (agrees.block List.mem_cons_self)
    have beside (response : Response) :=
      run response otherwise (agrees.block (List.mem_cons_of_mem _ List.mem_cons_self))
    have asks : condition ∈ Script.conditions [.whenElse condition body otherwise] :=
      Script.mem_conditions_of_when (by simp [Script.itemsOf])
    simp only [Response.runEntry, inside, beside, agrees.noteCondition asks, (agrees.after response.changes).holds asks]
  | narrative | scene | goto | option | image | metadata => rfl

theorem run (response : Response) (entries : List Entry) (agrees : ask.AgreesOn other entries) :
    Response.run ask response entries = Response.run other response entries := by
  cases entries with
  | nil => rfl
  | cons entry entries =>
    rw [Response.run, Response.run, runEntry response entry agrees.head]
    unfold Response.andThen
    split
    next => rfl
    next => exact run _ entries agrees.tail

end

theorem resolution (agrees : ask.AgreesOn other body) {offer : Offer}
    (within : Script.items offer.response ⊆ Script.items body) (place : Coordinate) (input : String)
    (means : Matching.Means) :
    Matching.resolution ask place input offer means = Matching.resolution other place input offer means := by
  have same : Response.ofBlock ask offer.response = Response.ofBlock other offer.response := by
    rw [Response.ofBlock, Response.ofBlock, run {} _ (agrees.mono within)]
  unfold Matching.resolution
  rw [same]

theorem resolve {σ : Type} {story : Story} (agrees : ask.AgreesOn other story.script)
    (matcher : Option (Matching.Matcher σ)) (thresholds : Matching.Thresholds) (place : Coordinate) (input : String) :
    Matching.resolve story ask matcher thresholds place input =
      Matching.resolve story other matcher thresholds place input := by
  unfold Matching.resolve
  rw [agrees.offersAt place]
  cases offered : story.offersAt other place with
  | error => rfl
  | ok offers =>
    refine congrArg (bind _) (funext fun chosen => ?_)
    cases chosen with
    | none => rfl
    | some chosen =>
      dsimp only
      cases called : offers[chosen.index]? with
      | none => rfl
      | some offer =>
        have within := Story.items_response_subset offered (List.mem_of_getElem? called)
        dsimp only
        rw [agrees.resolution within]

end Oracle.AgreesOn

/-- Two sets of counters agree on all that a script mentions. -/
def Counters.Agree (script : List Entry) (one other : Counters) : Prop :=
  ∀ name ∈ Script.mentions script, one.get name = other.get name

namespace Counters.Agree

variable {script : List Entry} {one other : Counters}

theorem agreesOn (agree : one.Agree script other) {part : List Entry}
    (within : Script.items part ⊆ Script.items script) : Oracle.AgreesOn one.answer other.answer part := by
  have whole : Oracle.AgreesOn one.answer other.answer script := fun name member => agrees_of_get (agree name member)
  exact whole.mono within

theorem apply (agree : one.Agree script other) (change : Change) :
    (one.apply change).Agree script (other.apply change) := by
  intro name member
  rw [get_apply, get_apply, agree name member]

end Counters.Agree

namespace Telling

structure Echoes (script : List Entry) (first second : Telling Counters × Option Exit) : Prop where
  told : first.1.told = second.1.told
  state : first.1.state.Agree script second.1.state
  exit : first.2 = second.2

mutual

theorem echoes_runEntry {script : List Entry} {first second : Telling Counters} (told : first.told = second.told)
    (state : first.state.Agree script second.state) (entry : Entry)
    (within : Script.items [entry] ⊆ Script.items script) :
    Echoes script (runEntry Counters.keeper first entry) (runEntry Counters.keeper second entry) := by
  have block {inner : List Entry} (member : inner ∈ entry.blocks) : Script.items inner ⊆ Script.items script :=
    List.Subset.trans (by simpa using Script.items_block_subset member) within
  have agrees := state.agreesOn within
  cases entry with
  | narrative text => exact ⟨congrArg (· ++ [text]) told, state, rfl⟩
  | when condition body =>
    have asks : condition ∈ Script.conditions [.when condition body] :=
      Script.mem_conditions_of_when (by simp [Script.itemsOf])
    have holds : Condition.holds (Counters.keeper.answer first.state) condition =
        Condition.holds (Counters.keeper.answer second.state) condition := agrees.holds asks
    rw [runEntry, runEntry, holds]
    split
    next => exact ⟨told, state, rfl⟩
    next =>
      split
      next => exact echoes_run told state body (block List.mem_cons_self)
      next => exact ⟨told, state, rfl⟩
  | whenElse condition body otherwise =>
    have asks : condition ∈ Script.conditions [.whenElse condition body otherwise] :=
      Script.mem_conditions_of_when (by simp [Script.itemsOf])
    have holds : Condition.holds (Counters.keeper.answer first.state) condition =
        Condition.holds (Counters.keeper.answer second.state) condition := agrees.holds asks
    rw [runEntry, runEntry, holds]
    split
    next => exact ⟨told, state, rfl⟩
    next =>
      split
      next => exact echoes_run told state body (block List.mem_cons_self)
      next => exact echoes_run told state otherwise (block (List.mem_cons_of_mem _ List.mem_cons_self))
  | metadata key value =>
    rw [runEntry, runEntry]
    cases Change.ofField? key value with
    | none => exact ⟨told, state, rfl⟩
    | some change => exact ⟨told, state.apply change, rfl⟩
  | scene | goto | option | image => exact ⟨told, state, rfl⟩

theorem echoes_run {script : List Entry} {first second : Telling Counters} (told : first.told = second.told)
    (state : first.state.Agree script second.state) (entries : List Entry)
    (within : Script.items entries ⊆ Script.items script) :
    Echoes script (run Counters.keeper first entries) (run Counters.keeper second entries) := by
  cases entries with
  | nil => exact ⟨told, state, rfl⟩
  | cons entry entries =>
    rw [Script.items_cons, List.append_subset] at within
    have head := echoes_runEntry told state entry (by simpa using within.1)
    rw [run, run, andThen, andThen, ← head.exit]
    split
    next => exact ⟨head.told, head.state, rfl⟩
    next => exact echoes_run head.told head.state entries within.2

end

end Telling

structure Stepped.Coincide (script : List Entry) (first second : Stepped Counters) : Prop where
  outcome : first.outcome = second.outcome
  state : first.state.Agree script second.state

namespace Walk

structure Twin (script : List Entry) (first second : Walk Counters) : Prop where
  state : first.state.Agree script second.state
  same : second = { first with state := second.state }

def TwinMoves (script : List Entry) : (first second : Walk Counters ⊕ Stepped Counters) → Prop :=
  Sum.LiftRel (Twin script) (Stepped.Coincide script)

variable {story : Story}

theorem twinMoves_stop {walk : Walk Counters} {other : Counters} (agree : walk.state.Agree story.script other)
    (outcome : Outcome) : TwinMoves story.script (walk.stop outcome) ({ walk with state := other }.stop outcome) :=
  .inr ⟨rfl, agree⟩

theorem twinMoves_stopHere {walk : Walk Counters} {other : Counters} (agree : walk.state.Agree story.script other)
    (outcome : Outcome) :
    TwinMoves story.script (walk.stopHere outcome) ({ walk with state := other }.stopHere outcome) :=
  .inr ⟨rfl, agree⟩

theorem twinMoves_follow {walk : Walk Counters} {other : Counters} (agree : walk.state.Agree story.script other)
    (target : String) :
    TwinMoves story.script (walk.follow story target) ({ walk with state := other }.follow story target) := by
  unfold follow
  split
  next => exact twinMoves_stop agree _
  next => exact .inl ⟨agree, rfl⟩

theorem twinMoves_play {walk : Walk Counters} {other : Counters} (agree : walk.state.Agree story.script other)
    (beat : Beat) :
    TwinMoves story.script (walk.play story Counters.keeper beat)
      ({ walk with state := other }.play story Counters.keeper beat) := by
  cases beat with
  | change change => exact .inl ⟨agree.apply change, rfl⟩
  | jump target => exact twinMoves_follow agree target
  | image | narrative => exact twinMoves_stopHere agree _

theorem twinMoves_playPosition {walk : Walk Counters} {other : Counters} (agree : walk.state.Agree story.script other)
    (positions : List Position) :
    TwinMoves story.script (walk.playPosition story Counters.keeper positions)
      ({ walk with state := other }.playPosition story Counters.keeper positions) := by
  unfold playPosition
  dsimp only
  split
  next => split <;> exact twinMoves_stop agree _
  next => exact .inl ⟨agree, rfl⟩
  next => exact twinMoves_stop agree _
  next beat _ => exact twinMoves_play agree beat

theorem twinMoves_playScene {walk : Walk Counters} {other : Counters} (agree : walk.state.Agree story.script other)
    (begins : Int) :
    TwinMoves story.script (walk.playScene story Counters.keeper begins)
      ({ walk with state := other }.playScene story Counters.keeper begins) := by
  have laid : layout? (Counters.keeper.answer walk.state) (story.body begins) =
      layout? (Counters.keeper.answer other) (story.body begins) :=
    (agree.agreesOn (Script.items_body_subset story begins)).layout?
  unfold playScene
  rw [laid]
  dsimp only
  split
  next => exact .inr ⟨rfl, agree⟩
  next positions _ => exact twinMoves_playPosition agree positions

theorem twinMoves_enter {walk : Walk Counters} {other : Counters} (agree : walk.state.Agree story.script other)
    (begins : Int) :
    TwinMoves story.script (walk.enter story Counters.keeper begins)
      ({ walk with state := other }.enter story Counters.keeper begins) := by
  rw [enter_eq, enter_eq]
  dsimp only
  split
  next => exact .inl ⟨agree, rfl⟩
  next => exact twinMoves_playScene agree begins

theorem twinMoves_openScene {walk : Walk Counters} {other : Counters} (agree : walk.state.Agree story.script other)
    (begins : Int) :
    TwinMoves story.script (walk.openScene story Counters.keeper begins)
      ({ walk with state := other }.openScene story Counters.keeper begins) := by
  have told : Telling.Echoes story.script (Script.runPreamble Counters.keeper walk.state story.script)
      (Script.runPreamble Counters.keeper other story.script) :=
    @Telling.echoes_run story.script ⟨[], walk.state⟩ ⟨[], other⟩ rfl agree _
      (Script.items_conditionals_subset story.script)
  unfold openScene
  dsimp only
  rw [← told.exit, ← told.told]
  split
  next => exact .inr ⟨rfl, told.state⟩
  next target _ =>
    split
    next => exact twinMoves_enter told.state begins
    next => exact .inl ⟨told.state, rfl⟩
  next => exact twinMoves_enter told.state begins

theorem twinMoves_move {walk other : Walk Counters} (twin : walk.Twin story.script other) :
    TwinMoves story.script (walk.move story Counters.keeper) (other.move story Counters.keeper) := by
  obtain ⟨state, same⟩ := twin
  rw [same]
  unfold move
  dsimp only
  split
  next => exact twinMoves_stopHere state _
  next =>
    split
    next => exact .inr ⟨rfl, state⟩
    next =>
      split
      next => exact .inr ⟨rfl, state⟩
      next begins _ =>
        split
        next => exact @twinMoves_openScene story walk.note _ state begins
        next => exact @twinMoves_enter story walk.note _ state begins

theorem coincide_run {walk other : Walk Counters} (twin : walk.Twin story.script other) :
    Stepped.Coincide story.script (walk.run story Counters.keeper) (other.run story Counters.keeper) := by
  induction walk using run.induct story Counters.keeper generalizing other with
  | case1 walk stepped stops =>
    have moves := twinMoves_move twin
    rw [stops] at moves
    cases stopsToo : other.move story Counters.keeper with
    | inl =>
      rw [stopsToo] at moves
      cases moves
    | inr =>
      rw [stopsToo] at moves
      rw [run_of_inr stops, run_of_inr stopsToo]
      cases moves with
      | inr ends => exact ends
  | case2 walk next goes _ ih =>
    have moves := twinMoves_move twin
    rw [goes] at moves
    cases goesToo : other.move story Counters.keeper with
    | inl =>
      rw [goesToo] at moves
      rw [run_of_inl goes, run_of_inl goesToo]
      cases moves with
      | inl twin => exact ih twin
    | inr =>
      rw [goesToo] at moves
      cases moves

end Walk

theorem Script.Readable.resolves {script : List Entry} (readable : Readable script) {σ : Type} (ask : Oracle)
    (matcher : Option (Matching.Matcher σ)) (thresholds : Matching.Thresholds) (place : Coordinate) (input : String)
    (state : σ) :
    ∃ found after, (Matching.resolve (Story.ofScript script) ask matcher thresholds place input).run state =
      (.ok found, after) := by
  obtain ⟨offers, offered, answered⟩ := readable.offersAt ask place
  obtain ⟨_, -, answers⟩ := Matching.resolves_of_offersAt offered answered matcher thresholds input state
  split at answers
  next => exact ⟨none, _, answers⟩
  next =>
    obtain ⟨offer, found, -, -, same⟩ := answers
    exact ⟨some found, _, same⟩

/-- Counters that no condition of a script and no gate mentions do not interfere with play. From counters that agree
on all others a step comes to the same and leaves counters that agree on them again, and words are matched to the same
choice with the same response. If all conditions of the script can be evaluated, there is an answer, and an outcome as long
as all indices have numerals. -/
theorem unmentioned_do_not_interfere (script : List Entry) (one other : Counters)
    (agree : ∀ name ∈ Script.mentions script, one.get name = other.get name) (place : Coordinate) :
    let story := Story.ofScript script
    let first := step story Counters.keeper one place
    let second := step story Counters.keeper other place
    first.outcome = second.outcome ∧
      (∀ name ∈ Script.mentions script, first.state.get name = second.state.get name) ∧
      (∀ {σ : Type} (matcher : Option (Matching.Matcher σ)) (thresholds : Matching.Thresholds) (input : String)
        (state : σ), (Matching.resolve story one.answer matcher thresholds place input).run state =
          (Matching.resolve story other.answer matcher thresholds place input).run state) ∧
      (Script.Readable script →
        (story.Numbers place → ∃ outcome, first.outcome = .ok outcome) ∧
        ∀ {σ : Type} (matcher : Option (Matching.Matcher σ)) (thresholds : Matching.Thresholds) (input : String)
          (state : σ), ∃ found after,
            (Matching.resolve story one.answer matcher thresholds place input).run state = (.ok found, after)) := by
  intro story first second
  have agreed : one.Agree story.script other := agree
  have steps : Stepped.Coincide story.script first second :=
    Walk.coincide_run (show (Walk.start one place).Twin story.script (Walk.start other place) from ⟨agreed, rfl⟩)
  refine ⟨steps.outcome, steps.state, ?_, ?_⟩
  next =>
    intro σ matcher thresholds input state
    rw [(agreed.agreesOn (List.Subset.refl _)).resolve matcher thresholds place input]
  next =>
    intro readable
    refine ⟨readable.outcome Counters.keeper one, ?_⟩
    intro σ matcher thresholds input state
    exact readable.resolves one.answer matcher thresholds place input state

-- The counters differ in what the script counts and in what it never does, and the lamp is spelt in two ways.
theorem unmentioned_do_not_interfere_by_lamplight :
    let script : List Entry :=
      [.when "Lamp" [.narrative "It burns.", .metadata "sets" "light"], .scene "HALL" none, .metadata "unsets" "lamp",
        .metadata "sets" "gold", .option ⟨"rest", none, some "!lamp"⟩ [.when "Lamp >= 2" [.goto "END"]]]
    let one : Counters := ⟨[("lamp", 1), ("gold", 4)]⟩
    let other : Counters := ⟨[("stars", 7), ("lamp", 1)]⟩
    let story := Story.ofScript script
    Script.mentions script = ["Lamp", "lamp", "Lamp"] ∧
      (step story Counters.keeper one ⟨"START", 0⟩).outcome = .ok (.wait ⟨"HALL", 2⟩ ["It burns."]) ∧
      (step story Counters.keeper other ⟨"START", 0⟩).outcome = .ok (.wait ⟨"HALL", 2⟩ ["It burns."]) ∧
      (step story Counters.keeper one ⟨"START", 0⟩).state = ⟨[("gold", 5), ("light", 1)]⟩ ∧
      (step story Counters.keeper other ⟨"START", 0⟩).state.get "lamp" = 0 := by
  intro script one other story
  have mentioned : Script.mentions script = ["Lamp", "lamp", "Lamp"] := by decide +kernel
  have agree : ∀ name ∈ Script.mentions script, one.get name = other.get name := by
    rw [mentioned]
    decide +kernel
  have outcome : (step story Counters.keeper one ⟨"START", 0⟩).outcome = .ok (.wait ⟨"HALL", 2⟩ ["It burns."]) := by
    decide +kernel
  have state : (step story Counters.keeper one ⟨"START", 0⟩).state = ⟨[("gold", 5), ("light", 1)]⟩ := by
    decide +kernel
  obtain ⟨same, left, -⟩ := unmentioned_do_not_interfere script one other agree ⟨"START", 0⟩
  refine ⟨mentioned, outcome, same.symm.trans outcome, state, ?_⟩
  have kept := left "lamp" (by rw [mentioned]; decide)
  exact kept.symm.trans (congrArg (Counters.get · "lamp") state)

end Gamebook
