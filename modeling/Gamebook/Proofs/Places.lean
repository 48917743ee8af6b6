import Gamebook.Proofs.Conditions
import Gamebook.Scene.Layout

set_option autoImplicit false

namespace Gamebook

inductive Branch where
  | body
  | otherwise
  deriving DecidableEq, Repr

structure Fork where
  index : Nat
  condition : String
  branch : Branch
  deriving DecidableEq, Repr

namespace Fork

def isTaken (ask : Oracle) (fork : Fork) : Bool :=
  match fork.branch with
  | .body => Condition.holds ask fork.condition
  | .otherwise => !Condition.holds ask fork.condition

def enter? (block : List Entry) (fork : Fork) : Option (List Entry) :=
  match block[fork.index]?, fork.branch with
  | some (.when condition body), .body => if condition = fork.condition then some body else none
  | some (.whenElse condition body _), .body => if condition = fork.condition then some body else none
  | some (.whenElse condition _ otherwise), .otherwise =>
    if condition = fork.condition then some otherwise else none
  | _, _ => none

end Fork

def Entry.branch? : Branch → Entry → Option (String × List Entry)
  | .body, .when condition body => some (condition, body)
  | .body, .whenElse condition body _ => some (condition, body)
  | .otherwise, .whenElse condition _ otherwise => some (condition, otherwise)
  | _, _ => none

theorem Fork.enter?_eq_some_iff {block inner : List Entry} {fork : Fork} :
    fork.enter? block = some inner ↔
      ∃ entry, block[fork.index]? = some entry ∧ entry.branch? fork.branch = some (fork.condition, inner) := by
  obtain ⟨index, condition, branch⟩ := fork
  cases met : block[index]? with
  | none => simp [enter?, met]
  | some entry => cases entry <;> cases branch <;> simp [enter?, Entry.branch?, met]

namespace Script

def blockAt? (script : List Entry) (forks : List Fork) : Option (List Entry) :=
  forks.foldlM Fork.enter? script

def leadingOffers : List Entry → List Offer
  | .option choice response :: entries => ⟨choice, response⟩ :: leadingOffers entries
  | _ => []

end Script

/-- A place of a script: the forks that lead to its block, the outermost first, and what begins at an index
of the block. -/
structure Place where
  forks : List Fork
  index : Nat
  site : Site

namespace Place

def counts (ask : Oracle) (place : Place) : Bool := place.forks.all (Fork.isTaken ask)

def slot (ask : Oracle) (place : Place) : Slot := ⟨place.site, place.counts ask⟩

def ofRun (forks : List Fork) (index : Nat) (entries : List Entry) : List Place :=
  match Script.leadingOffers entries with
  | [] => []
  | offers => [⟨forks, index, .run offers⟩]

mutual

def ofEntry (forks : List Fork) (index : Nat) : Entry → List Place
  | .when condition body =>
    ofRun (forks ++ [⟨index, condition, .body⟩]) 0 body
      ++ ofRest (forks ++ [⟨index, condition, .body⟩]) 0 body
  | .whenElse condition body otherwise =>
    (ofRun (forks ++ [⟨index, condition, .body⟩]) 0 body
        ++ ofRest (forks ++ [⟨index, condition, .body⟩]) 0 body)
      ++ (ofRun (forks ++ [⟨index, condition, .otherwise⟩]) 0 otherwise
        ++ ofRest (forks ++ [⟨index, condition, .otherwise⟩]) 0 otherwise)
  | entry => (entry.beat?.map fun beat => ⟨forks, index, .beat beat⟩).toList

def ofRest (forks : List Fork) (index : Nat) : List Entry → List Place
  | [] => []
  | entry :: entries =>
    if entry.isJump then ofEntry forks index entry
    else
      ofEntry forks index entry
        -- A run begins only after something that is no option.
        ++ (if entry.isOption then [] else ofRun forks (index + 1) entries)
        ++ ofRest forks (index + 1) entries

end

def ofBlock (forks : List Fork) (block : List Entry) : List Place :=
  ofRun forks 0 block ++ ofRest forks 0 block

end Place

def places (body : List Entry) : List Place := Place.ofBlock [] body

theorem Script.any_isOption_head? (entries : List Entry) :
    entries.head?.any Entry.isOption = !(leadingOffers entries).isEmpty := by
  match entries with
  | [] => rfl
  | .option _ _ :: _ => rfl
  | .narrative _ :: _ | .scene _ _ :: _ | .goto _ :: _ | .image _ :: _ | .metadata _ _ :: _
  | .when _ _ :: _ | .whenElse _ _ _ :: _ => rfl

theorem Script.leadingOffers_cons {entry : Entry} (entries : List Entry) (plain : entry.isOption = false) :
    leadingOffers (entry :: entries) = [] := by
  cases entry <;> first | rfl | simp [Entry.isOption] at plain

namespace Place

theorem all_isTaken_body (ask : Oracle) (forks : List Fork) (index : Nat) (condition : String) :
    (forks ++ [(⟨index, condition, .body⟩ : Fork)]).all (Fork.isTaken ask) =
      (forks.all (Fork.isTaken ask) && Condition.holds ask condition) := by
  simp [Fork.isTaken]

theorem all_isTaken_otherwise (ask : Oracle) (forks : List Fork) (index : Nat) (condition : String) :
    (forks ++ [(⟨index, condition, .otherwise⟩ : Fork)]).all (Fork.isTaken ask) =
      (forks.all (Fork.isTaken ask) && !Condition.holds ask condition) := by
  simp [Fork.isTaken]

theorem ofRun_cons {entry : Entry} (forks : List Fork) (index : Nat) (entries : List Entry)
    (plain : entry.isOption = false) : ofRun forks index (entry :: entries) = [] := by
  simp [ofRun, Script.leadingOffers_cons entries plain]

theorem map_slot_option {ask : Oracle} {forks : List Fork} {index : Nat} {entries : List Entry}
    (choice : Choice) (response : List Entry)
    (rest : (ofRun forks (index + 1) entries ++ ofRest forks (index + 1) entries).map (slot ask) =
      Slot.ofEntries ask (forks.all (Fork.isTaken ask)) entries) :
    (ofRun forks index (.option choice response :: entries)
        ++ ofRest forks index (.option choice response :: entries)).map (slot ask) =
      Slot.ofEntries ask (forks.all (Fork.isTaken ask)) (.option choice response :: entries) := by
  have joins := Script.any_isOption_head? entries
  rw [Slot.ofEntries, ← rest]
  cases leads : Script.leadingOffers entries <;>
    simp [leads, joins, ofRun, ofRest, ofEntry, Script.leadingOffers, Entry.beat?, Entry.isJump,
      Entry.isOption, Slot.join, Slot.ofEntry, slot, counts]

mutual

theorem map_slot_ofEntry (ask : Oracle) (forks : List Fork) (index : Nat) (entry : Entry)
    (plain : entry.isOption = false) :
    (ofEntry forks index entry).map (slot ask) =
      Slot.ofEntry ask (forks.all (Fork.isTaken ask)) entry := by
  cases entry with
  | when condition body =>
    have taken := map_slot_ofRest ask (forks ++ [⟨index, condition, .body⟩]) 0 body
    rw [all_isTaken_body] at taken
    exact taken
  | whenElse condition body otherwise =>
    have taken := map_slot_ofRest ask (forks ++ [⟨index, condition, .body⟩]) 0 body
    have other := map_slot_ofRest ask (forks ++ [⟨index, condition, .otherwise⟩]) 0 otherwise
    rw [all_isTaken_body] at taken
    rw [all_isTaken_otherwise] at other
    rw [ofEntry, List.map_append, taken, other]
    rfl
  | option => simp [Entry.isOption] at plain
  | narrative | scene | goto | image | metadata =>
    simp only [ofEntry, Slot.ofEntry]
    cases Entry.beat? _ <;> rfl

theorem map_slot_ofRest (ask : Oracle) (forks : List Fork) (index : Nat) (entries : List Entry) :
    (ofRun forks index entries ++ ofRest forks index entries).map (slot ask) =
      Slot.ofEntries ask (forks.all (Fork.isTaken ask)) entries := by
  match entries with
  | [] => rfl
  | entry :: entries =>
    have rest := map_slot_ofRest ask forks (index + 1) entries
    -- An option is one slot with the options after it; all else is before them.
    cases plain : entry.isOption with
    | true =>
      cases entry <;> simp [Entry.isOption] at plain
      exact map_slot_option _ _ rest
    | false =>
      have first := map_slot_ofEntry ask forks index entry plain
      rw [List.map_append] at rest
      by_cases jump : entry.isJump = true <;>
        simp [Slot.ofEntries, ofRest, ofRun_cons, jump, plain, first, Slot.join, rest]

end

end Place

def Position.ofSlot (ask : Oracle) (waiting : Bool) (slot : Slot) (later : List Slot) : Position :=
  match slot.live, slot.site with
  | false, _ => .skip
  | true, .beat event => .beat event
  | true, .run offers =>
    if waiting then .skip else .wait ((offers ++ offersAhead later).filter (·.choice.isAvailable ask))

theorem Position.slot_of_beat {ask : Oracle} {waiting : Bool} {slot : Slot} {later : List Slot} {beat : Beat}
    (shown : ofSlot ask waiting slot later = .beat beat) : slot.site = .beat beat ∧ slot.live = true := by
  unfold ofSlot at shown
  split at shown
  next => cases shown
  next live site =>
    cases shown
    exact ⟨site, live⟩
  next => split at shown <;> cases shown

def waitingAfter (waiting : Bool) (slots : List Slot) : Bool :=
  slots.foldl
    (fun waiting slot =>
      match slot.live, slot.site with
      | false, _ => waiting
      | true, .beat _ => false
      | true, .run _ => true) waiting

theorem Position.ofSlots_cons (ask : Oracle) (waiting : Bool) (slot : Slot) (slots : List Slot) :
    ofSlots ask waiting (slot :: slots) =
      ofSlot ask waiting slot slots :: ofSlots ask (waitingAfter waiting [slot]) slots := by
  obtain ⟨site, live⟩ := slot
  cases live <;> cases site <;> cases waiting <;> simp [ofSlots, ofSlot, waitingAfter]

theorem Position.getElem?_ofSlots (ask : Oracle) (waiting : Bool) (slots : List Slot) (i : Nat) :
    (ofSlots ask waiting slots)[i]? =
      slots[i]?.map fun slot => ofSlot ask (waitingAfter waiting (slots.take i)) slot (slots.drop (i + 1)) := by
  induction slots generalizing waiting i with
  | nil => simp [ofSlots]
  | cons slot slots ih =>
    rw [ofSlots_cons]
    cases i with
    | zero => simp [waitingAfter]
    | succ i => simp [waitingAfter, ih]

def Place.StandsIn (script : List Entry) (place : Place) : Prop :=
  ∃ block, Script.blockAt? script place.forks = some block ∧
    match place.site with
    | .beat beat => block[place.index]?.bind Entry.beat? = some beat
    | .run offers =>
      Script.leadingOffers (block.drop place.index) = offers ∧ offers ≠ [] ∧
        (block.take place.index).getLast?.all fun entry => !entry.isOption

theorem Script.blockAt?_concat {script block : List Entry} {forks : List Fork}
    (found : blockAt? script forks = some block) (fork : Fork) :
    blockAt? script (forks ++ [fork]) = fork.enter? block := by
  unfold blockAt? at found ⊢
  rw [List.foldlM_append, found]
  simp

namespace Place

theorem standsIn_ofRun {script block : List Entry} {forks : List Fork} {index : Nat}
    (found : Script.blockAt? script forks = some block)
    (first : (block.take index).getLast?.all fun entry => !entry.isOption) :
    ∀ place ∈ ofRun forks index (block.drop index), place.StandsIn script := by
  intro place member
  cases leads : Script.leadingOffers (block.drop index) with
  | nil => simp [ofRun, leads] at member
  | cons offer offers =>
    simp only [ofRun, leads, List.mem_singleton] at member
    subst member
    exact ⟨block, found, leads, by simp, first⟩

mutual

theorem standsIn_ofEntry {script block : List Entry} {forks : List Fork} {index : Nat}
    (found : Script.blockAt? script forks = some block) (entry : Entry)
    (here : block[index]? = some entry) :
    ∀ place ∈ ofEntry forks index entry, place.StandsIn script := by
  intro place member
  cases entry with
  | when condition body =>
    have inside : Script.blockAt? script (forks ++ [⟨index, condition, .body⟩]) = some body := by
      rw [Script.blockAt?_concat found]
      simp [Fork.enter?, here]
    simp only [ofEntry, List.mem_append] at member
    rcases member with run | rest
    next => exact standsIn_ofRun inside (by simp) place run
    next => exact standsIn_ofRest inside body (by simp) place rest
  | whenElse condition body otherwise =>
    have inside : Script.blockAt? script (forks ++ [⟨index, condition, .body⟩]) = some body := by
      rw [Script.blockAt?_concat found]
      simp [Fork.enter?, here]
    have beside : Script.blockAt? script (forks ++ [⟨index, condition, .otherwise⟩]) = some otherwise := by
      rw [Script.blockAt?_concat found]
      simp [Fork.enter?, here]
    simp only [ofEntry, List.mem_append] at member
    rcases member with (run | rest) | (run | rest)
    next => exact standsIn_ofRun inside (by simp) place run
    next => exact standsIn_ofRest inside body (by simp) place rest
    next => exact standsIn_ofRun beside (by simp) place run
    next => exact standsIn_ofRest beside otherwise (by simp) place rest
  | option => simp [ofEntry, Entry.beat?] at member
  | narrative | scene | goto | image | metadata =>
    simp only [ofEntry, Option.mem_toList, Option.map_eq_some_iff] at member
    obtain ⟨beat, stands, rfl⟩ := member
    exact ⟨block, found, by simp [here, stands]⟩

theorem standsIn_ofRest {script block : List Entry} {forks : List Fork} {index : Nat}
    (found : Script.blockAt? script forks = some block) (entries : List Entry)
    (left : block.drop index = entries) :
    ∀ place ∈ ofRest forks index entries, place.StandsIn script := by
  intro place member
  match entries with
  | [] => simp [ofRest] at member
  | entry :: entries =>
    have here : block[index]? = some entry := by
      -- The block is found whole, so the entries left in it are told by their index.
      have := congrArg List.head? left
      simpa using this
    have later : block.drop (index + 1) = entries := by
      have := congrArg List.tail left
      simpa using this
    rw [ofRest] at member
    split at member
    next => exact standsIn_ofEntry found entry here place member
    next =>
      simp only [List.mem_append] at member
      rcases member with (first | run) | rest
      next => exact standsIn_ofEntry found entry here place first
      next =>
        split at run
        next => simp at run
        next plain =>
          rw [← later] at run
          refine standsIn_ofRun found ?_ place run
          rw [List.take_add_one, here]
          simpa using plain
      next => exact standsIn_ofRest found entries later place rest

end

theorem standsIn_of_mem {body : List Entry} {place : Place} (member : place ∈ places body) :
    place.StandsIn body := by
  simp only [places, ofBlock, List.mem_append] at member
  have whole : Script.blockAt? body [] = some body := rfl
  rcases member with run | rest
  next => exact standsIn_ofRun whole (by simp) place run
  next => exact standsIn_ofRest whole body (by simp) place rest

end Place

structure Test where
  forks : List Fork
  condition : String

namespace Test

mutual

def ofEntry (forks : List Fork) (index : Nat) : Entry → List Test
  | .option choice _ =>
    match choice.requires with
    | none => []
    | some condition => if condition.isEmpty then [] else [⟨forks, condition⟩]
  | .when condition body =>
    ⟨forks, condition⟩ :: ofBlock (forks ++ [⟨index, condition, .body⟩]) 0 body
  | .whenElse condition body otherwise =>
    ⟨forks, condition⟩ ::
      (ofBlock (forks ++ [⟨index, condition, .body⟩]) 0 body
        ++ ofBlock (forks ++ [⟨index, condition, .otherwise⟩]) 0 otherwise)
  | _ => []

def ofBlock (forks : List Fork) (index : Nat) : List Entry → List Test
  | [] => []
  | entry :: entries =>
    ofEntry forks index entry ++ (if entry.isJump then [] else ofBlock forks (index + 1) entries)

end

def passes (ask : Oracle) (test : Test) : Bool :=
  !test.forks.all (Fork.isTaken ask) || Condition.isReadable test.condition

mutual

theorem passes_ofEntry (ask : Oracle) (forks : List Fork) (index : Nat) (entry : Entry)
    (idle : forks.all (Fork.isTaken ask) = false) : (ofEntry forks index entry).all (passes ask) = true := by
  cases entry with
  | option choice =>
    rw [ofEntry]
    split
    next => rfl
    next => split <;> simp [passes, idle]
  | when condition body =>
    have inside := passes_ofBlock ask (forks ++ [⟨index, condition, .body⟩]) 0 body
      (by rw [Place.all_isTaken_body, idle, Bool.false_and])
    simp [ofEntry, passes, idle, inside]
  | whenElse condition body otherwise =>
    have inside := passes_ofBlock ask (forks ++ [⟨index, condition, .body⟩]) 0 body
      (by rw [Place.all_isTaken_body, idle, Bool.false_and])
    have beside := passes_ofBlock ask (forks ++ [⟨index, condition, .otherwise⟩]) 0 otherwise
      (by rw [Place.all_isTaken_otherwise, idle, Bool.false_and])
    simp [ofEntry, passes, idle, inside, beside]
  | narrative | scene | goto | image | metadata => rfl

theorem passes_ofBlock (ask : Oracle) (forks : List Fork) (index : Nat) (entries : List Entry)
    (idle : forks.all (Fork.isTaken ask) = false) : (ofBlock forks index entries).all (passes ask) = true := by
  match entries with
  | [] => rfl
  | entry :: entries =>
    have first := passes_ofEntry ask forks index entry idle
    have rest := passes_ofBlock ask forks (index + 1) entries idle
    rw [ofBlock, List.all_append, first]
    split <;> simp [rest]

end

mutual

theorem entryReadable_eq (ask : Oracle) (forks : List Fork) (index : Nat) (entry : Entry)
    (taken : forks.all (Fork.isTaken ask) = true) :
    entryReadable ask entry = (ofEntry forks index entry).all (passes ask) := by
  cases entry with
  | option choice =>
    rw [entryReadable, Choice.isReadable, ofEntry]
    cases choice.requires with
    | none => rfl
    | some condition => cases blank : condition.isEmpty <;> simp [blank, passes, taken]
  | when condition body =>
    rw [entryReadable, ofEntry, List.all_cons, passes, taken, Bool.not_true, Bool.false_or]
    -- Of a branch that is not selected nothing is asked, so all of it passes.
    have inside := Place.all_isTaken_body ask forks index condition
    cases holds : Condition.holds ask condition with
    | true =>
      rw [taken, holds, Bool.true_and] at inside
      rw [layoutReadable_eq ask _ 0 body inside, Bool.not_true, Bool.false_or]
    | false =>
      rw [taken, holds, Bool.true_and] at inside
      rw [passes_ofBlock ask _ 0 body inside, Bool.not_false, Bool.true_or]
  | whenElse condition body otherwise =>
    rw [entryReadable, ofEntry, List.all_cons, passes, taken, Bool.not_true, Bool.false_or, List.all_append]
    have inside := Place.all_isTaken_body ask forks index condition
    have beside := Place.all_isTaken_otherwise ask forks index condition
    cases holds : Condition.holds ask condition with
    | true =>
      rw [taken, holds, Bool.true_and] at inside beside
      rw [layoutReadable_eq ask _ 0 body inside, passes_ofBlock ask _ 0 otherwise beside, if_pos rfl,
        Bool.and_true]
    | false =>
      rw [taken, holds, Bool.true_and] at inside beside
      rw [passes_ofBlock ask _ 0 body inside, layoutReadable_eq ask _ 0 otherwise beside,
        if_neg Bool.false_ne_true, Bool.true_and]
  | narrative | scene | goto | image | metadata => rfl

theorem layoutReadable_eq (ask : Oracle) (forks : List Fork) (index : Nat) (entries : List Entry)
    (taken : forks.all (Fork.isTaken ask) = true) :
    layoutReadable ask entries = (ofBlock forks index entries).all (passes ask) := by
  match entries with
  | [] => rfl
  | entry :: entries =>
    rw [layoutReadable, ofBlock, List.all_append, entryReadable_eq ask forks index entry taken,
      layoutReadable_eq ask forks (index + 1) entries taken]
    cases entry.isJump <;> simp

end

end Test

theorem layout_eq (ask : Oracle) (body : List Entry) :
    layout ask body = Position.ofSlots ask false ((places body).map (Place.slot ask)) := by
  rw [layout, places, Place.ofBlock, Place.map_slot_ofRest ask [] 0 body]
  rfl

theorem getElem?_layout (ask : Oracle) (body : List Entry) (i : Nat) :
    (layout ask body)[i]? =
      (places body)[i]?.map fun place =>
        Position.ofSlot ask (waitingAfter false (((places body).map (Place.slot ask)).take i)) (place.slot ask)
          (((places body).map (Place.slot ask)).drop (i + 1)) := by
  rw [layout_eq, Position.getElem?_ofSlots, List.getElem?_map, Option.map_map]
  rfl

/-- What a position shows of a place: a run is a wait or a gap, and a beat happens exactly when every fork
on the way to it is taken. -/
def Place.Shows (ask : Oracle) (place : Place) (position : Position) : Prop :=
  match place.site with
  | .run _ => position = .skip ∨ ∃ offers, position = .wait offers
  | .beat beat =>
    (position = .beat beat ∨ position = .skip) ∧
      (position ≠ .skip ↔ ∀ fork ∈ place.forks, fork.isTaken ask = true)

theorem Place.shows_ofSlot (ask : Oracle) (waiting : Bool) (place : Place) (later : List Slot) :
    place.Shows ask (Position.ofSlot ask waiting (place.slot ask) later) := by
  have taken : place.counts ask = true ↔ ∀ fork ∈ place.forks, fork.isTaken ask = true := by
    simp [counts]
  obtain ⟨forks, index, site⟩ := place
  cases site with
  | beat beat =>
    refine ⟨?_, Iff.trans ?_ taken⟩ <;>
      cases counted : counts ask ⟨forks, index, .beat beat⟩ <;> simp [Position.ofSlot, slot, counted]
  | run offers =>
    cases counted : counts ask ⟨forks, index, .run offers⟩ <;> cases waiting <;>
      simp [Shows, Position.ofSlot, slot, counted]

theorem layout?_eq_ok {ask : Oracle} {body : List Entry} {positions : List Position}
    (laid : layout? ask body = .ok positions) : positions = layout ask body := by
  unfold layout? at laid
  split at laid
  · cases laid; rfl
  · cases laid

theorem layout?_isOk (ask : Oracle) (body : List Entry) :
    (∃ positions, layout? ask body = .ok positions) ↔
      ∀ test ∈ Test.ofBlock [] 0 body,
        (∀ fork ∈ test.forks, fork.isTaken ask = true) → Condition.isReadable test.condition = true := by
  have readable := Test.layoutReadable_eq ask [] 0 body rfl
  unfold layout?
  rw [readable]
  constructor
  next =>
    rintro ⟨positions, laid⟩ test member taken
    split at laid
    next passed =>
      have passed := List.all_eq_true.mp passed test member
      simpa [Test.passes, List.all_eq_true.mpr taken] using passed
    next => cases laid
  next =>
    intro passed
    refine ⟨layout ask body, if_pos (List.all_eq_true.mpr fun test member => ?_)⟩
    cases taken : test.forks.all (Fork.isTaken ask) with
    | false => simp [Test.passes, taken]
    | true => simp [Test.passes, passed test member (List.all_eq_true.mp taken)]

/-- A scene has its positions exactly when the conditions it asks for can be read. Then they stand for the
same places whatever the counters say. -/
theorem layouts_share_places (script : List Entry) (start preambleEnd : Int) (ask other : Oracle) :
    let body := Script.sceneBody script start preambleEnd
    ((∃ positions, layout? ask body = .ok positions) ↔
      ∀ test ∈ Test.ofBlock [] 0 body,
        (∀ fork ∈ test.forks, fork.isTaken ask = true) → Condition.isReadable test.condition = true) ∧
    ∀ positions others, layout? ask body = .ok positions → layout? other body = .ok others →
      positions.length = others.length ∧
      ∀ (i : Nat) (position another : Position), positions[i]? = some position → others[i]? = some another →
        ∃ place, (places body)[i]? = some place ∧ place.StandsIn body ∧
          place.Shows ask position ∧ place.Shows other another := by
  intro body
  refine ⟨layout?_isOk ask body, ?_⟩
  intro positions others laid laidOther
  rw [layout?_eq_ok laid, layout?_eq_ok laidOther]
  refine ⟨length_layout ask other body, ?_⟩
  intro i position another here there
  rw [getElem?_layout, Option.map_eq_some_iff] at here there
  obtain ⟨place, found, rfl⟩ := here
  obtain ⟨same, foundAgain, rfl⟩ := there
  have : same = place := Option.some.inj (foundAgain.symm.trans found)
  subst this
  exact ⟨same, found, Place.standsIn_of_mem (List.mem_of_getElem? found),
    Place.shows_ofSlot ask _ same _, Place.shows_ofSlot other _ same _⟩

theorem layouts_share_places_of_visit :
    let script : List Entry :=
      [.scene "HOME" none,
        .whenElse "seen" [.narrative "Again."] [.narrative "At last.", .option ⟨"look", none, none⟩ []],
        .option ⟨"leave", none, some "seen"⟩ [.goto "END"], .narrative "Night falls."]
    ∃ positions others, layout? (fun _ => true) (Script.sceneBody script 1 0) = .ok positions ∧
      layout? (fun _ => false) (Script.sceneBody script 1 0) = .ok others ∧
      positions.length = others.length ∧ positions.length = 5 := by
  intro script
  have laid : layout? (fun _ => true) (Script.sceneBody script 1 0) =
      .ok (layout (fun _ => true) (Script.sceneBody script 1 0)) := rfl
  have laidOther : layout? (fun _ => false) (Script.sceneBody script 1 0) =
      .ok (layout (fun _ => false) (Script.sceneBody script 1 0)) := rfl
  exact ⟨_, _, laid, laidOther, ((layouts_share_places script 1 0 _ _).2 _ _ laid laidOther).1, rfl⟩

theorem layout_fails_on_long_numeral :
    let body := Script.sceneBody
      [.when "a" [.when (String.ofList (longClause Text.numeralLimit)) [.narrative "You are rich."]]] 0 0
    layout? (fun _ => false) body = .ok [.skip] ∧ layout? (fun _ => true) body = .error {} := by
  intro body
  have unreadable := Condition.isReadable_longClause (Nat.le_refl Text.numeralLimit)
  refine ⟨rfl, if_neg ?_⟩
  have asked : Condition.holds (fun _ => true) "a" = true := by decide
  simp [body, Script.sceneBody, Script.bodyFrom, Entry.isScene, layoutReadable, entryReadable, asked,
    unreadable]

end Gamebook
