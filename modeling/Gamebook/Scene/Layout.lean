import Gamebook.Condition
import Gamebook.Scene.Map

set_option autoImplicit false

namespace Gamebook

inductive Beat where
  | narrative (text : String)
  | image (url : String)
  | change (change : Change)
  | jump (target : String)
  deriving DecidableEq, Repr

inductive Site where
  | beat (beat : Beat)
  | run (offers : List Offer)
  deriving BEq, Repr

structure Slot where
  site : Site
  live : Bool
  deriving BEq, Repr

inductive Position where
  | beat (beat : Beat)
  | wait (offers : List Offer)
  | skip
  deriving BEq, Repr

def Choice.isAvailable (ask : Oracle) (choice : Choice) : Bool :=
  match choice.requires with
  | none => true
  | some condition => condition.isEmpty || Condition.holds ask condition

def Choice.isReadable (choice : Choice) : Bool :=
  match choice.requires with
  | none => true
  | some condition => condition.isEmpty || Condition.isReadable condition

namespace Entry

def beat? : Entry → Option Beat
  | .narrative text => some (.narrative text)
  | .image url => some (.image url)
  | .goto target => some (.jump (Text.trim target))
  | .metadata key value => (Change.ofField? key value).map .change
  | _ => none

def isJump : Entry → Bool
  | .goto _ => true
  | _ => false

def isOption : Entry → Bool
  | .option _ _ => true
  | _ => false

end Entry

namespace Slot

def join (inRun : Bool) (slots others : List Slot) : List Slot :=
  match inRun, slots, others with
  | true, [⟨.run offers, live⟩], ⟨.run more, _⟩ :: rest => ⟨.run (offers ++ more), live⟩ :: rest
  | _, slots, others => slots ++ others

mutual

def ofEntry (ask : Oracle) (live : Bool) : Entry → List Slot
  | .option choice response => [⟨.run [⟨choice, response⟩], live⟩]
  | .when condition body => ofEntries ask (live && Condition.holds ask condition) body
  | .whenElse condition body otherwise =>
    ofEntries ask (live && Condition.holds ask condition) body
      ++ ofEntries ask (live && !Condition.holds ask condition) otherwise
  | entry => (entry.beat?.map fun beat => ⟨.beat beat, live⟩).toList

/-- The slots of a block. Nothing after a jump can be reached. -/
def ofEntries (ask : Oracle) (live : Bool) : List Entry → List Slot
  | [] => []
  | entry :: entries =>
    if entry.isJump then ofEntry ask live entry
    else
      join (entry.isOption && entries.head?.any Entry.isOption)
        (ofEntry ask live entry) (ofEntries ask live entries)

end

def happens (slot : Slot) : Bool :=
  match slot.site with
  | .beat _ => slot.live
  | .run _ => false

def offers (slot : Slot) : List Offer :=
  match slot.site with
  | .beat _ => []
  | .run offers => if slot.live then offers else []

def joinSites (inRun : Bool) (sites others : List Site) : List Site :=
  match inRun, sites, others with
  | true, [.run offers], .run more :: rest => .run (offers ++ more) :: rest
  | _, sites, others => sites ++ others

theorem map_site_join (inRun : Bool) (slots others : List Slot) :
    (join inRun slots others).map site = joinSites inRun (slots.map site) (others.map site) := by
  cases inRun with
  | false => simp [join, joinSites]
  | true =>
    match slots, others with
    | [⟨.run _, _⟩], ⟨.run _, _⟩ :: _ => simp [join, joinSites]
    | [], _ => simp [join, joinSites]
    | [⟨.run _, _⟩], [] => simp [join, joinSites]
    | [⟨.run _, _⟩], ⟨.beat _, _⟩ :: _ => simp [join, joinSites]
    | ⟨.beat _, _⟩ :: _, _ => simp [join, joinSites]
    | ⟨.run _, _⟩ :: _ :: _, _ => simp [join, joinSites]

mutual

theorem map_site_ofEntry (ask other : Oracle) (live alive : Bool) (entry : Entry) :
    (ofEntry ask live entry).map site = (ofEntry other alive entry).map site := by
  cases entry with
  | when condition body =>
    simp only [ofEntry]
    exact map_site_ofEntries ask other _ _ body
  | whenElse condition body otherwise =>
    simp only [ofEntry, List.map_append]
    rw [map_site_ofEntries ask other _ (alive && Condition.holds other condition) body,
      map_site_ofEntries ask other _ (alive && !Condition.holds other condition) otherwise]
  | option => simp [ofEntry]
  | narrative | scene | goto | image | metadata =>
    simp only [ofEntry]
    cases Entry.beat? _ <;> rfl

theorem map_site_ofEntries (ask other : Oracle) (live alive : Bool) (entries : List Entry) :
    (ofEntries ask live entries).map site = (ofEntries other alive entries).map site := by
  match entries with
  | [] => simp [ofEntries]
  | entry :: entries =>
    simp only [ofEntries]
    split
    · exact map_site_ofEntry ask other live alive entry
    · rw [map_site_join, map_site_join, map_site_ofEntry ask other live alive entry,
        map_site_ofEntries ask other live alive entries]

end

theorem length_ofEntries (ask other : Oracle) (live alive : Bool) (entries : List Entry) :
    (ofEntries ask live entries).length = (ofEntries other alive entries).length := by
  simpa using congrArg List.length (map_site_ofEntries ask other live alive entries)

end Slot

/-- The options that join a wait: all that count before the next beat that happens. -/
def offersAhead (slots : List Slot) : List Offer :=
  (slots.takeWhile fun slot => !slot.happens).flatMap Slot.offers

namespace Position

def ofSlots (ask : Oracle) : Bool → List Slot → List Position
  | _, [] => []
  | waiting, ⟨site, live⟩ :: slots =>
    match live, site with
    -- A gap closes no wait.
    | false, _ => .skip :: ofSlots ask waiting slots
    | true, .beat event => .beat event :: ofSlots ask false slots
    | true, .run offers =>
      if waiting then .skip :: ofSlots ask true slots
      else
        .wait ((offers ++ offersAhead slots).filter (·.choice.isAvailable ask)) ::
          ofSlots ask true slots

theorem length_ofSlots (ask : Oracle) (waiting : Bool) (slots : List Slot) :
    (ofSlots ask waiting slots).length = slots.length := by
  fun_induction ofSlots ask waiting slots <;> simp_all

def jump? : Position → Option String
  | .beat (.jump target) => some target
  | _ => none

def offers : Position → List Offer
  | .wait offers => offers
  | _ => []

end Position

def layout (ask : Oracle) (body : List Entry) : List Position :=
  Position.ofSlots ask false (Slot.ofEntries ask true body)

theorem length_layout (ask other : Oracle) (body : List Entry) :
    (layout ask body).length = (layout other body).length := by
  simp only [layout, Position.length_ofSlots]
  exact Slot.length_ofEntries ask other true true body

mutual

def entryReadable (ask : Oracle) : Entry → Bool
  | .option choice _ => choice.isReadable
  | .when condition body =>
    Condition.isReadable condition && (!Condition.holds ask condition || layoutReadable ask body)
  | .whenElse condition body otherwise =>
    Condition.isReadable condition
      && (if Condition.holds ask condition then layoutReadable ask body
          else layoutReadable ask otherwise)
  | _ => true

def layoutReadable (ask : Oracle) : List Entry → Bool
  | [] => true
  | entry :: entries => entryReadable ask entry && (entry.isJump || layoutReadable ask entries)

end

/-- The positions of a block, if all conditions they depend on can be evaluated. -/
def layout? (ask : Oracle) (body : List Entry) : Except Text.NumeralTooLong (List Position) :=
  if layoutReadable ask body then .ok (layout ask body) else .error {}

namespace Script

def opensPreamble : Entry → Bool
  | .when _ _ => true
  | .whenElse _ _ _ => true
  | .goto _ => true
  | _ => false

def bodyFrom (preambleEnd : Int) : Nat → List Entry → List Entry
  | _, [] => []
  | place, entry :: entries =>
    if entry.isScene then []
    else if place < preambleEnd && opensPreamble entry then bodyFrom preambleEnd (place + 1) entries
    else entry :: bodyFrom preambleEnd (place + 1) entries

def sceneBody (script : List Entry) (start preambleEnd : Int) : List Entry :=
  bodyFrom preambleEnd start.toNat (script.drop start.toNat)

end Script

def Story.body (story : Story) (place : Int) : List Entry :=
  Script.sceneBody story.script (story.scanStart place) (Script.preambleSize story.script)

end Gamebook
