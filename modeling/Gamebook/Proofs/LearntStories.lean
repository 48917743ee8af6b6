import Gamebook.Proofs.LearntAliases
import Gamebook.Proofs.SceneBounds

set_option autoImplicit false

namespace Gamebook

def Offer.learn (optionText new : String) (offer : Offer) : Offer :=
  ⟨offer.choice.learn optionText new, Alias.learn optionText new offer.response⟩

def Site.learn (optionText new : String) : Site → Site
  | .beat shown => .beat shown
  | .run offers => .run (offers.map (Offer.learn optionText new))

def Place.learn (optionText new : String) (place : Place) : Place :=
  { place with site := place.site.learn optionText new }

theorem Choice.requires_learn (optionText new : String) (choice : Choice) :
    (choice.learn optionText new).requires = choice.requires := by
  unfold Choice.learn
  split <;> rfl

namespace Alias

variable (optionText new : String)

theorem label?_learnEntry (entry : Entry) : (learnEntry optionText new entry).label? = entry.label? := by
  cases entry <;> simp [learnEntry, Entry.label?]

theorem isScene_learnEntry (entry : Entry) : (learnEntry optionText new entry).isScene = entry.isScene := by
  cases entry <;> simp [learnEntry, Entry.isScene]

theorem isJump_learnEntry (entry : Entry) : (learnEntry optionText new entry).isJump = entry.isJump := by
  cases entry <;> simp [learnEntry, Entry.isJump]

theorem isOption_learnEntry (entry : Entry) : (learnEntry optionText new entry).isOption = entry.isOption := by
  cases entry <;> simp [learnEntry, Entry.isOption]

theorem opensPreamble_learnEntry (entry : Entry) :
    Script.opensPreamble (learnEntry optionText new entry) = Script.opensPreamble entry := by
  cases entry <;> simp [learnEntry, Script.opensPreamble]

theorem isConditional_learnEntry (entry : Entry) :
    Script.isConditional (learnEntry optionText new entry) = Script.isConditional entry := by
  cases entry <;> simp [learnEntry, Script.isConditional]

theorem playsBeforeScenes_learnEntry (entry : Entry) :
    Script.playsBeforeScenes (learnEntry optionText new entry) = Script.playsBeforeScenes entry := by
  cases entry <;> simp [learnEntry, Script.playsBeforeScenes]

theorem map_label?_learn (script : List Entry) :
    (learn optionText new script).map Entry.label? = script.map Entry.label? := by
  rw [learn_eq_map, List.map_map]
  exact List.map_congr_left fun entry _ => label?_learnEntry optionText new entry

theorem preamble_learn (script : List Entry) :
    Script.preamble (learn optionText new script) = learn optionText new (Script.preamble script) := by
  rw [Script.preamble, Script.preamble, Story.preambleSize_of_labels (map_label?_learn optionText new script),
    learn_eq_map, learn_eq_map, List.map_take]

theorem implicitStart?_learn (script : List Entry) :
    Script.implicitStart? (learn optionText new script) = Script.implicitStart? script := by
  have same := map_label?_learn optionText new script
  have points : Script.entryPoint? (learn optionText new script) = Script.entryPoint? script := by
    rw [Script.entryPoint?, Script.entryPoint?, preamble_learn, learn_eq_map, List.findSome?_map]
    congr 1
    funext entry
    cases entry <;> simp [learnEntry]
  have plays : (Script.preamble (learn optionText new script)).any Script.playsBeforeScenes =
      (Script.preamble script).any Script.playsBeforeScenes := by
    rw [preamble_learn, learn_eq_map, List.any_map]
    congr 1
    exact funext (playsBeforeScenes_learnEntry optionText new)
  have labels : (fun place => ((learn optionText new script)[place]?).bind Entry.label?) =
      fun place => (script[place]?).bind Entry.label? := funext (Story.labelAt?_of_labels same)
  rw [Script.implicitStart?, Script.implicitStart?, points, plays, Story.firstScene?_of_labels same, labels]

theorem bodyFrom_learn (limit : Int) (place : Nat) (entries : List Entry) :
    Script.bodyFrom limit place (learn optionText new entries) =
      learn optionText new (Script.bodyFrom limit place entries) := by
  induction entries generalizing place with
  | nil => simp [learn, Script.bodyFrom]
  | cons entry entries ih =>
    rw [learn, Script.bodyFrom, Script.bodyFrom, isScene_learnEntry, opensPreamble_learnEntry, ih]
    split
    next => rw [learn]
    next =>
      split
      next => rfl
      next => rw [learn]

theorem standIn?_learn (script : List Entry) (label : String) :
    (Story.ofScript (learn optionText new script)).standIn? label = (Story.ofScript script).standIn? label := by
  rw [Story.standIn?, Story.standIn?, Story.hasScene_of_labels (map_label?_learn optionText new script)]
  exact congrArg (ite _ · none) (implicitStart?_learn optionText new script)

theorem body_ofScript_learn (script : List Entry) (begins : Int) :
    (Story.ofScript (learn optionText new script)).body begins =
      learn optionText new ((Story.ofScript script).body begins) := by
  have same := map_label?_learn optionText new script
  change Script.sceneBody (learn optionText new script) _ (Script.preambleSize (learn optionText new script)) = _
  rw [Story.scanStart_of_labels same, Story.preambleSize_of_labels same, Script.sceneBody, learn_eq_map,
    ← List.map_drop, ← learn_eq_map, bodyFrom_learn]
  rfl

theorem leadingOffers_learn (entries : List Entry) :
    Script.leadingOffers (learn optionText new entries) =
      (Script.leadingOffers entries).map (Offer.learn optionText new) := by
  induction entries with
  | nil => simp [learn, Script.leadingOffers]
  | cons entry entries ih =>
    rw [learn]
    cases entry with
    | option choice response => simp [learnEntry, Script.leadingOffers, ih, Offer.learn]
    | narrative | scene | goto | image | metadata | when | whenElse => simp [learnEntry, Script.leadingOffers]

theorem ofRun_learn (forks : List Fork) (index : Nat) (entries : List Entry) :
    Place.ofRun forks index (learn optionText new entries) =
      (Place.ofRun forks index entries).map (Place.learn optionText new) := by
  rw [Place.ofRun, Place.ofRun, leadingOffers_learn]
  cases Script.leadingOffers entries <;> rfl

mutual

theorem ofEntry_learn (forks : List Fork) (index : Nat) (entry : Entry) :
    Place.ofEntry forks index (learnEntry optionText new entry) =
      (Place.ofEntry forks index entry).map (Place.learn optionText new) := by
  cases entry with
  | when condition body =>
    rw [learnEntry, Place.ofEntry, Place.ofEntry, ofRun_learn, ofRest_learn, List.map_append]
  | whenElse condition body otherwise =>
    rw [learnEntry, Place.ofEntry, Place.ofEntry, ofRun_learn, ofRun_learn, ofRest_learn, ofRest_learn,
      List.map_append, List.map_append, List.map_append]
  | option => simp [learnEntry, Place.ofEntry, Entry.beat?]
  | metadata key value =>
    cases change : Change.ofField? key value <;>
      simp [learnEntry, Place.ofEntry, Entry.beat?, Place.learn, Site.learn, change]
  | narrative | scene | goto | image => simp [learnEntry, Place.ofEntry, Entry.beat?, Place.learn, Site.learn]

theorem ofRest_learn (forks : List Fork) (index : Nat) (entries : List Entry) :
    Place.ofRest forks index (learn optionText new entries) =
      (Place.ofRest forks index entries).map (Place.learn optionText new) := by
  match entries with
  | [] => simp [learn, Place.ofRest]
  | entry :: entries =>
    rw [learn, Place.ofRest, Place.ofRest, isJump_learnEntry, isOption_learnEntry, ofEntry_learn, ofRun_learn,
      ofRest_learn forks (index + 1) entries]
    split
    next => rfl
    next => split <;> simp

end

/-- Learning moves nothing: what stood at a position still stands there, behind the same conditions. -/
theorem places_learn (body : List Entry) :
    places (learn optionText new body) = (places body).map (Place.learn optionText new) := by
  rw [places, places, Place.ofBlock, Place.ofBlock, ofRun_learn, ofRest_learn, List.map_append]

mutual

theorem entryReadable_learn (ask : Oracle) (entry : Entry) :
    entryReadable ask (learnEntry optionText new entry) = entryReadable ask entry := by
  cases entry with
  | option choice response =>
    rw [learnEntry, entryReadable, entryReadable, Choice.isReadable, Choice.isReadable, Choice.requires_learn]
  | when condition body => rw [learnEntry, entryReadable, entryReadable, layoutReadable_learn]
  | whenElse condition body otherwise =>
    rw [learnEntry, entryReadable, entryReadable, layoutReadable_learn, layoutReadable_learn]
  | narrative | scene | goto | image | metadata => simp [learnEntry]

theorem layoutReadable_learn (ask : Oracle) (entries : List Entry) :
    layoutReadable ask (learn optionText new entries) = layoutReadable ask entries := by
  match entries with
  | [] => rw [learn]
  | entry :: entries =>
    rw [learn, layoutReadable, layoutReadable, entryReadable_learn, isJump_learnEntry,
      layoutReadable_learn ask entries]

end

end Alias

end Gamebook
