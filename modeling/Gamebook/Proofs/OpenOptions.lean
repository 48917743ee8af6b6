import Gamebook.Matching.Resolve
import Gamebook.Proofs.SceneBounds

set_option autoImplicit false

namespace Gamebook

def Entry.selected? (ask : Oracle) : Entry → Option (List Entry)
  | .when condition body => if Condition.holds ask condition then some body else none
  | .whenElse condition body otherwise => some (if Condition.holds ask condition then body else otherwise)
  | _ => none

/-- An option lies open in a block: it stands in it or in the selected branch of a conditional of it, with no jump
before it in its own block and none before the conditionals on the way. -/
inductive LiesOpen (ask : Oracle) (offer : Offer) : List Entry → Prop where
  | here {before after : List Entry} (reached : ∀ entry ∈ before, entry.isJump = false) :
      LiesOpen ask offer (before ++ .option offer.choice offer.response :: after)
  | within {before after block : List Entry} {entry : Entry} (reached : ∀ entry ∈ before, entry.isJump = false)
      (selected : entry.selected? ask = some block) (lies : LiesOpen ask offer block) :
      LiesOpen ask offer (before ++ entry :: after)

mutual

def openOffersOf (ask : Oracle) : Entry → List Offer
  | .option choice response => [⟨choice, response⟩]
  | .when condition body => if Condition.holds ask condition then openOffers ask body else []
  | .whenElse condition body otherwise =>
    if Condition.holds ask condition then openOffers ask body else openOffers ask otherwise
  | _ => []

def openOffers (ask : Oracle) : List Entry → List Offer
  | [] => []
  | entry :: entries => openOffersOf ask entry ++ if entry.isJump then [] else openOffers ask entries

end

theorem LiesOpen.cons {ask : Oracle} {offer : Offer} {entry : Entry} {entries : List Entry}
    (goes : entry.isJump = false) (lies : LiesOpen ask offer entries) : LiesOpen ask offer (entry :: entries) := by
  cases lies with
  | @here before after reached => exact @here ask offer (entry :: before) after (by simpa [goes] using reached)
  | @within before after block inner reached selected lies =>
    exact @within ask offer (entry :: before) after block inner (by simpa [goes] using reached) selected lies

theorem LiesOpen.head {ask : Oracle} {offer : Offer} {entry : Entry} {block : List Entry}
    (selected : entry.selected? ask = some block) (lies : LiesOpen ask offer block) (entries : List Entry) :
    LiesOpen ask offer (entry :: entries) :=
  @within ask offer [] entries block entry nofun selected lies

mutual

theorem liesOpen_of_mem_openOffersOf {ask : Oracle} {offer : Offer} (entry : Entry) (entries : List Entry)
    (member : offer ∈ openOffersOf ask entry) : LiesOpen ask offer (entry :: entries) := by
  cases entry with
  | option choice response =>
    rw [openOffersOf, List.mem_singleton] at member
    subst member
    exact @LiesOpen.here ask ⟨choice, response⟩ [] entries nofun
  | when condition body =>
    rw [openOffersOf] at member
    split at member
    next holds => exact .head (by rw [Entry.selected?, if_pos holds]) (liesOpen_of_mem_openOffers body member) entries
    next => cases member
  | whenElse condition body otherwise =>
    rw [openOffersOf] at member
    split at member
    next holds => exact .head (by rw [Entry.selected?, if_pos holds]) (liesOpen_of_mem_openOffers body member) entries
    next fails =>
      exact .head (by rw [Entry.selected?, if_neg fails]) (liesOpen_of_mem_openOffers otherwise member) entries
  | narrative | scene | goto | image | metadata => simp [openOffersOf] at member

theorem liesOpen_of_mem_openOffers {ask : Oracle} {offer : Offer} (entries : List Entry)
    (member : offer ∈ openOffers ask entries) : LiesOpen ask offer entries := by
  cases entries with
  | nil => simp [openOffers] at member
  | cons entry entries =>
    rw [openOffers, List.mem_append] at member
    rcases member with first | later
    next => exact liesOpen_of_mem_openOffersOf entry entries first
    next =>
      split at later
      next => cases later
      next goes => exact .cons (by simpa using goes) (liesOpen_of_mem_openOffers entries later)

end

theorem openOffers_append {ask : Oracle} {before : List Entry} (reached : ∀ entry ∈ before, entry.isJump = false)
    (after : List Entry) :
    openOffers ask (before ++ after) = before.flatMap (openOffersOf ask) ++ openOffers ask after := by
  induction before with
  | nil => rfl
  | cons entry before ih =>
    have goes := reached entry List.mem_cons_self
    have rest := ih fun entry member => reached entry (List.mem_cons_of_mem _ member)
    simp [openOffers, goes, rest]

theorem mem_openOffers_iff {ask : Oracle} {offer : Offer} {entries : List Entry} :
    offer ∈ openOffers ask entries ↔ LiesOpen ask offer entries := by
  constructor
  next => exact liesOpen_of_mem_openOffers entries
  next =>
    intro lies
    induction lies with
    | here reached => simp [openOffers_append reached, openOffers, openOffersOf]
    | @within before after block entry reached selected _ ih =>
      have inside : offer ∈ openOffersOf ask entry := by
        cases entry with
        | when condition body =>
          rw [Entry.selected?, Option.ite_none_right_eq_some] at selected
          obtain ⟨holds, same⟩ := selected
          rw [Option.some.injEq] at same
          rwa [openOffersOf, if_pos holds, same]
        | whenElse condition body otherwise =>
          rw [Entry.selected?, Option.some.injEq] at selected
          rwa [openOffersOf, ← apply_ite (openOffers ask), selected]
        | narrative | scene | goto | option | image | metadata => simp [Entry.selected?] at selected
      simp [openOffers_append reached, openOffers, inside]

namespace Slot

theorem flatMap_offers_join {inRun : Bool} {slots others : List Slot}
    (same : ∀ first ∈ slots, ∀ next ∈ others.head?, inRun = true → next.live = first.live) :
    (join inRun slots others).flatMap offers = slots.flatMap offers ++ others.flatMap offers := by
  unfold join
  split
  next offers live more other rest =>
    have alive : other = live := same _ List.mem_cons_self _ rfl rfl
    subst alive
    cases other <;> simp [Slot.offers]
  next => rw [List.flatMap_append]

theorem live_of_option (ask : Oracle) (live : Bool) {entries : List Entry}
    (leads : entries.head?.any Entry.isOption = true) :
    ∀ slot ∈ (ofEntries ask live entries).head?, slot.live = live := by
  match entries with
  | .option choice response :: entries =>
    rw [ofEntries, if_neg (by simp [Entry.isJump]), ofEntry, join.eq_def]
    split <;> simp_all

mutual

theorem flatMap_offers_ofEntry (ask : Oracle) (live : Bool) (entry : Entry) :
    (ofEntry ask live entry).flatMap offers = if live then openOffersOf ask entry else [] := by
  cases entry with
  | when condition body =>
    rw [ofEntry, flatMap_offers_ofEntries, openOffersOf]
    cases live <;> cases Condition.holds ask condition <;> rfl
  | whenElse condition body otherwise =>
    rw [ofEntry, List.flatMap_append, flatMap_offers_ofEntries, flatMap_offers_ofEntries, openOffersOf]
    cases live <;> cases Condition.holds ask condition <;> simp
  | option => cases live <;> simp [ofEntry, offers, openOffersOf]
  | narrative | scene | goto | image | metadata =>
    rw [ofEntry]
    · cases Entry.beat? _ <;> simp [offers, openOffersOf]
    all_goals nofun

theorem flatMap_offers_ofEntries (ask : Oracle) (live : Bool) (entries : List Entry) :
    (ofEntries ask live entries).flatMap offers = if live then openOffers ask entries else [] := by
  match entries with
  | [] => cases live <;> simp [ofEntries, openOffers]
  | entry :: entries =>
    have first := flatMap_offers_ofEntry ask live entry
    have rest := flatMap_offers_ofEntries ask live entries
    rw [ofEntries, openOffers]
    split
    next jumps => cases live <;> simp [first]
    next goes =>
      have together : ∀ slot ∈ ofEntry ask live entry, ∀ next ∈ (ofEntries ask live entries).head?,
          (entry.isOption && entries.head?.any Entry.isOption) = true → next.live = slot.live := by
        intro slot member next leads joins
        rw [Bool.and_eq_true] at joins
        rw [live_of_option ask live joins.2 next leads]
        cases entry with
        | option choice response =>
          rw [ofEntry, List.mem_singleton] at member
          rw [member]
        | narrative | scene | goto | image | metadata | when | whenElse => simp [Entry.isOption] at joins
      rw [flatMap_offers_join together, first, rest]
      cases live <;> rfl

end

end Slot

theorem Position.flatMap_offers_ofSlots (ask : Oracle) (waiting : Bool) (slots : List Slot) :
    (ofSlots ask waiting slots).flatMap offers =
      ((if waiting then slots.dropWhile fun slot => !slot.happens else slots).flatMap Slot.offers).filter
        (·.choice.isAvailable ask) := by
  induction slots generalizing waiting with
  | nil => cases waiting <;> rfl
  | cons slot slots ih =>
    obtain ⟨site, live⟩ := slot
    cases live with
    | false =>
      cases site <;> cases waiting <;> simp [ofSlots, offers, ih, Slot.offers, Slot.happens]
    | true =>
      cases site with
      | beat => cases waiting <;> simp [ofSlots, offers, ih, Slot.offers, Slot.happens]
      | run choices =>
        cases waiting with
        | true => simp [ofSlots, offers, ih, Slot.happens]
        | false =>
          have parts := congrArg (List.flatMap Slot.offers)
            (@List.takeWhile_append_dropWhile _ (fun slot : Slot => !slot.happens) slots)
          rw [List.flatMap_append] at parts
          simp [ofSlots, offers, ih, Slot.offers, offersAhead, ← parts]

/-- The options of all waits of a scene are those that lie open in it and whose gates hold. -/
theorem flatMap_offers_layout (ask : Oracle) (body : List Entry) :
    (layout ask body).flatMap Position.offers = (openOffers ask body).filter (·.choice.isAvailable ask) := by
  rw [layout, Position.flatMap_offers_ofSlots]
  simp [Slot.flatMap_offers_ofEntries]

theorem mem_of_nextOffers? {positions : List Position} {offers : List Offer} {offer : Offer}
    (found : nextOffers? positions = some offers) (member : offer ∈ offers) :
    offer ∈ positions.flatMap Position.offers := by
  induction positions with
  | nil => cases found
  | cons position positions ih =>
    rw [List.flatMap_cons, List.mem_append]
    cases position with
    | wait =>
      cases found
      exact .inl member
    | skip => exact .inr (ih found)
    | beat beat =>
      cases beat with
      | jump =>
        cases found
        cases member
      | narrative | image | change => exact .inr (ih found)

theorem offersFrom_subset (index : Nat) (positions : List Position) :
    offersFrom index positions ⊆ positions.flatMap Position.offers := by
  intro offer member
  unfold offersFrom at member
  cases found : nextOffers? (positions.drop index) with
  | none => rwa [found] at member
  | some offers =>
    rw [found] at member
    obtain ⟨position, later, offered⟩ := List.mem_flatMap.mp (mem_of_nextOffers? found member)
    exact List.mem_flatMap.mpr ⟨position, List.mem_of_mem_drop later, offered⟩

theorem Choice.holds_of_isAvailable {ask : Oracle} {choice : Choice} (available : choice.isAvailable ask = true)
    {condition : String} (gated : choice.requires = some condition) (written : condition ≠ "") :
    Condition.holds ask condition = true := by
  rw [isAvailable, gated] at available
  simpa [written] using available

theorem Story.open_of_mem_offersAt {story : Story} {ask : Oracle} {place : Coordinate} {offers : List Offer}
    {offer : Offer} (offered : story.offersAt ask place = .ok offers) (member : offer ∈ offers) :
    ∃ begins, story.scenes.get? (story.resolve place.scene) = some begins ∧ 0 ≤ begins ∧
      LiesOpen ask offer (story.body begins) ∧ offer.choice.isAvailable ask = true := by
  unfold offersAt at offered
  split at offered
  next =>
    cases offered
    cases member
  next begins known =>
    split at offered
    next =>
      cases offered
      cases member
    next ahead =>
      refine ⟨begins, known, Int.not_lt.mp ahead, ?_⟩
      unfold layout? at offered
      split at offered
      next =>
        cases offered
        have somewhere := offersFrom_subset _ _ member
        rw [flatMap_offers_layout, List.mem_filter] at somewhere
        exact ⟨mem_openOffers_iff.mp somewhere.1, somewhere.2⟩
      next => cases offered

-- Of a block without conditionals and jumps only its own options lie open.
theorem LiesOpen.mem_of_plain {ask : Oracle} {offer : Offer} {entries : List Entry}
    (plain : ∀ entry ∈ entries, Script.opensPreamble entry = false) (lies : LiesOpen ask offer entries) :
    .option offer.choice offer.response ∈ entries := by
  cases lies with
  | here => simp
  | @within before after block entry reached selected =>
    have here := plain entry (by simp)
    cases entry with
    | when | whenElse => simp [Script.opensPreamble] at here
    | narrative | scene | goto | option | image | metadata => simp [Entry.selected?] at selected

theorem LiesOpen.of_mem {ask : Oracle} {offer : Offer} {entries : List Entry}
    (straight : ∀ entry ∈ entries, entry.isJump = false) (member : .option offer.choice offer.response ∈ entries) :
    LiesOpen ask offer entries := by
  obtain ⟨before, after, rfl⟩ := List.append_of_mem member
  exact .here fun entry earlier => straight entry (List.mem_append_left _ earlier)

namespace Script

theorem isJump_of_entryPoint? {script : List Entry} (none : entryPoint? script = none) :
    ∀ entry ∈ preamble script, entry.isJump = false := by
  intro entry member
  have no := List.findSome?_eq_none_iff.mp none entry member
  cases entry with
  | goto => cases no
  | narrative | scene | option | image | metadata | when | whenElse => rfl

theorem preamble_zero {script : List Entry} {place : Nat} (first : firstScene? script = some place) :
    preamble script = script.take place := by
  rw [preamble, preambleSize, first, Option.getD_some]

theorem implicitStart?_of_settled {script : List Entry} (missing : header? script startLabel = none)
    (settled : (Story.ofScript script).resolve startLabel = startLabel) :
    implicitStart? script = none ∨ implicitStart? script = some "" ∨ implicitStart? script = some startLabel := by
  rw [Story.resolve, Story.hasScene_ofScript, missing] at settled
  cases begins : implicitStart? script with
  | none => exact .inl rfl
  | some start =>
    simp only [beq_self_eq_true, Option.isSome_none, Bool.not_false, Bool.and_true, if_true, Story.ofScript,
      begins] at settled
    split at settled
    next blank => exact .inr (.inl (by simpa using blank))
    next => exact .inr (.inr (by rw [settled]))

theorem label_of_firstScene? {script : List Entry} {place : Nat} (first : firstScene? script = some place) :
    ∃ label, (script[place]?).bind Entry.label? = some label ∧ label ∈ script.filterMap Entry.label? := by
  obtain ⟨entry, met, headed⟩ := isScene_of_firstScene? first
  cases entry with
  | scene label allows =>
    refine ⟨Text.trim label, by rw [met]; rfl, ?_⟩
    exact List.mem_filterMap.mpr ⟨_, List.mem_of_getElem? met, rfl⟩
  | narrative | goto | option | image | metadata | when | whenElse => cases headed

theorem ne_of_header?_eq_none {script : List Entry} {label other : String} (missing : header? script label = none)
    (member : other ∈ script.filterMap Entry.label?) : other ≠ label := by
  obtain ⟨entry, there, labelled⟩ := List.mem_filterMap.mp member
  have no := List.findIdx?_eq_none_iff.mp missing entry there
  rw [labelled] at no
  simpa using no

theorem beginsAt_of_first_header {script : List Entry} (missing : header? script startLabel = none)
    (first : firstScene? script = some 0) : BeginsAt script ((implicitStart? script).getD startLabel) 1 := by
  obtain ⟨label, met, member⟩ := label_of_firstScene? first
  have other : label ≠ startLabel := ne_of_header?_eq_none missing member
  have nothing : preamble script = [] := by rw [preamble_zero first, List.take_zero]
  have begins : implicitStart? script = some label := by
    simp [implicitStart?, entryPoint?, nothing, first, met, other]
  have found : header? script label = some 0 := by
    obtain ⟨entry, here, labelled⟩ := Option.bind_eq_some_iff.mp met
    obtain ⟨entries, rfl⟩ : ∃ entries, script = entry :: entries := by
      cases script with
      | nil => cases here
      | cons => exact ⟨_, by cases here; rfl⟩
    simp [header?, List.findIdx?_cons, labelled]
  rw [begins, BeginsAt, Option.getD_some, found]

end Script

theorem LiesOpen.of_headless {script : List Entry} {ask : Oracle} {offer : Offer}
    (missing : Script.header? script startLabel = none)
    (settled : (Story.ofScript script).resolve startLabel = startLabel)
    (lies : LiesOpen ask offer ((Story.ofScript script).body 0)) :
    (∃ start, Script.BeginsAt script ((Script.implicitStart? script).getD startLabel) start ∧
      LiesOpen ask offer (Script.stretch script start)) ∨
    ((Script.entryPoint? script = some "" ∨ Script.entryPoint? script = some startLabel) ∧
      .option offer.choice offer.response ∈ Script.preamble script) := by
  have beginning : Script.BeginsAt script startLabel 0 := by
    rw [Script.BeginsAt, missing]
    exact ⟨rfl, rfl⟩
  rw [Story.body_zero] at lies
  cases first : Script.firstScene? script with
  | none =>
    rw [first] at lies
    have alone : Script.implicitStart? script = none := by
      simp [Script.implicitStart?, Script.entryPoint?, Script.preamble, Script.preambleSize, first]
    exact .inl ⟨0, by rwa [alone, Option.getD_none], lies⟩
  | some place =>
    rw [first] at lies
    cases place with
    | zero => exact .inl ⟨1, Script.beginsAt_of_first_header missing first, lies⟩
    | succ place =>
      have told := lies.mem_of_plain fun entry member => by simpa using (List.mem_filter.mp member).2
      have member := (List.mem_filter.mp told).1
      cases enters : Script.entryPoint? script with
      | none =>
        have plays : (Script.preamble script).any Script.playsBeforeScenes = true :=
          List.any_eq_true.mpr ⟨_, member, rfl⟩
        have alone : Script.implicitStart? script = none := by
          obtain ⟨label, met, -⟩ := Script.label_of_firstScene? first
          simp only [Script.implicitStart?, enters, first, Option.bind_some, met, plays, Bool.true_or, if_true]
        refine .inl ⟨0, by rwa [alone, Option.getD_none], ?_⟩
        rw [Script.stretch, List.drop_zero, Script.takeWhile_eq_preamble first]
        exact .of_mem (Script.isJump_of_entryPoint? enters) member
      | some target =>
        have begins : Script.implicitStart? script = some target := by rw [Script.implicitStart?, enters]
        have back := Script.implicitStart?_of_settled missing settled
        rw [begins] at back
        exact .inr ⟨by simpa using back, member⟩

namespace Story

theorem eq_start_of_resolve {story : Story} {label : String} (starts : story.resolve label = startLabel) :
    label = startLabel := by
  unfold resolve at starts
  split at starts
  next heads =>
    rw [Bool.and_eq_true] at heads
    exact eq_of_beq heads.1
  next => exact starts

theorem standIn?_of_headless {script : List Entry} (missing : Script.header? script startLabel = none) :
    (ofScript script).standIn? startLabel = Script.implicitStart? script := by
  rw [standIn?, hasScene_ofScript, missing]
  rfl

-- A label with a header of its own stands for itself, and so does what stands in for the start.
theorem getD_standIn?_of_header {script : List Entry} {label : String} {place : Nat}
    (found : Script.header? script ((ofScript script).resolve label) = some place) :
    ((ofScript script).standIn? label).getD label = (ofScript script).resolve label := by
  unfold standIn?
  by_cases heads : (label == startLabel && !(ofScript script).hasScene startLabel) = true
  next =>
    obtain ⟨starts, headless⟩ := (Bool.and_eq_true _ _).mp heads
    rw [resolve, if_pos heads] at found ⊢
    rw [if_pos heads, eq_of_beq starts]
    cases begins : Script.implicitStart? script with
    | none => simp [ofScript, begins]
    | some start =>
      simp only [ofScript, begins] at found ⊢
      split at found
      next blank =>
        rw [hasScene_ofScript, found] at headless
        cases headless
      next named => rw [Option.getD_some, if_neg named]
  next => rw [resolve, if_neg heads, if_neg heads, Option.getD_none]

theorem liesOpen_in_scene {script : List Entry} {ask : Oracle} {label : String} {begins : Int} {offer : Offer}
    (known : (ofScript script).scenes.get? ((ofScript script).resolve label) = some begins) (ahead : 0 ≤ begins)
    (lies : LiesOpen ask offer ((ofScript script).body begins)) :
    (∃ start, Script.BeginsAt script (((ofScript script).standIn? label).getD label) start ∧
      LiesOpen ask offer (Script.stretch script start)) ∨
    (label = startLabel ∧ (ofScript script).hasScene startLabel = false ∧
      (Script.entryPoint? script = some "" ∨ Script.entryPoint? script = some startLabel) ∧
      .option offer.choice offer.response ∈ Script.preamble script) := by
  rw [ofScript, SceneMap.get?_ofScript] at known
  cases found : Script.header? script ((ofScript script).resolve label) with
  | some place =>
    rw [← ofScript, found] at known
    cases known
    obtain ⟨entry, met, labelled⟩ := Script.entry_of_header? found
    rw [body_of_isScene met (Script.isScene_of_label? labelled)] at lies
    refine .inl ⟨place + 1, ?_, lies⟩
    rw [Script.BeginsAt, getD_standIn?_of_header found, found]
  | none =>
    rw [← ofScript, found] at known
    have starts : (ofScript script).resolve label = startLabel := by
      by_contra other
      simp only [if_neg other] at known
      split at known
      next =>
        cases known
        contradiction
      next => cases known
    have same := eq_start_of_resolve starts
    subst same
    rw [starts] at found
    simp only [starts, if_true, Option.some.injEq] at known
    subst known
    have headless : (ofScript script).hasScene startLabel = false := by
      rw [hasScene_ofScript, found, Option.isSome_none]
    rw [standIn?_of_headless found]
    rcases lies.of_headless found starts with inside | ⟨back, member⟩
    next => exact .inl inside
    next => exact .inr ⟨rfl, headless, back, member⟩

end Story

theorem Matching.offer_of_resolve {σ : Type} {story : Story} {ask : Oracle} {matcher : Option (Matcher σ)}
    {thresholds : Thresholds} {place : Coordinate} {input : String} {state : σ} {found : Resolution}
    (matched : ((resolve story ask matcher thresholds place input).run state).1 = .ok (some found)) :
    ∃ offers chosen offer, story.offersAt ask place = .ok offers ∧
      ((choose matcher thresholds input (offers.map Offer.choice)).run state).1 = some chosen ∧
      offers[chosen.index]? = some offer ∧ resolution ask place input offer chosen.means = .ok found := by
  unfold resolve at matched
  cases offered : story.offersAt ask place with
  | error =>
    rw [offered] at matched
    cases matched
  | ok offers =>
    rw [offered] at matched
    dsimp only at matched
    rw [StateT.run_bind] at matched
    rcases picked : (choose matcher thresholds input (offers.map Offer.choice)).run state with ⟨pick, after⟩
    rw [picked] at matched
    cases pick with
    | none => cases matched
    | some chosen =>
      cases called : offers[chosen.index]? with
      | none =>
        simp only [bind, called, StateT.run_pure] at matched
        cases matched
      | some offer =>
        simp only [bind, called, StateT.run_pure] at matched
        refine ⟨offers, chosen, offer, rfl, by rw [picked], called, ?_⟩
        cases answer : resolution ask place input offer chosen.means with
        | error =>
          rw [answer] at matched
          cases matched
        | ok answered =>
          rw [answer] at matched
          cases matched
          rfl

/-- Whatever the player types and whatever a matcher of meaning says, a choice is made of an option that lies open in
the scene, and its gate holds. -/
theorem chosen_lies_open {σ : Type} (script : List Entry) (ask : Oracle) (matcher : Option (Matching.Matcher σ))
    (thresholds : Matching.Thresholds) (place : Coordinate) (input : String) (state : σ)
    (found : Matching.Resolution)
    (matched : ((Matching.resolve (Story.ofScript script) ask matcher thresholds place input).run state).1 =
      .ok (some found)) :
    ∃ offers chosen offer, (Story.ofScript script).offersAt ask place = .ok offers ∧
      ((Matching.choose matcher thresholds input (offers.map Offer.choice)).run state).1 = some chosen ∧
      offers[chosen.index]? = some offer ∧
      Matching.resolution ask place input offer chosen.means = .ok found ∧
      (∀ condition, offer.choice.requires = some condition → condition ≠ "" → Condition.holds ask condition = true) ∧
      ((∃ start, Script.BeginsAt script (((Story.ofScript script).standIn? place.scene).getD place.scene) start ∧
        LiesOpen ask offer (Script.stretch script start)) ∨
      (place.scene = startLabel ∧ (Story.ofScript script).hasScene startLabel = false ∧
        (Script.entryPoint? script = some "" ∨ Script.entryPoint? script = some startLabel) ∧
        .option offer.choice offer.response ∈ Script.preamble script)) := by
  obtain ⟨offers, chosen, offer, offered, picked, called, answered⟩ := Matching.offer_of_resolve matched
  obtain ⟨begins, known, ahead, lies, available⟩ :=
    Story.open_of_mem_offersAt offered (List.mem_of_getElem? called)
  exact ⟨offers, chosen, offer, offered, picked, called, answered,
    fun condition gated written => Choice.holds_of_isAvailable available gated written,
    Story.liesOpen_in_scene known ahead lies⟩

theorem chosen_lies_open_of_lamp :
    let script : List Entry :=
      [.scene "CELLAR" none, .when "lamp" [.option ⟨"open the door", some ["door"], some "key"⟩ [.goto "HALL"]],
        .option ⟨"go back", none, none⟩ [], .goto "HALL", .scene "HALL" none]
    let counters : Counters := ⟨[("lamp", 1), ("key", 1)]⟩
    ∃ found offer means start,
      ((Matching.resolve (Story.ofScript script) counters.answer (none : Option (Matching.Matcher Unit)) {}
        ⟨"CELLAR", 0⟩ " Door ").run ()).1 = .ok (some found) ∧
      found.optionText = "open the door" ∧
      Matching.resolution counters.answer ⟨"CELLAR", 0⟩ " Door " offer means = .ok found ∧
      Script.BeginsAt script "CELLAR" start ∧ LiesOpen counters.answer offer (Script.stretch script start) := by
  intro script counters
  let answer := ((Matching.resolve (Story.ofScript script) counters.answer (none : Option (Matching.Matcher Unit)) {}
    ⟨"CELLAR", 0⟩ " Door ").run ()).1
  have opens : (answer.toOption.bind fun found => found.map (·.optionText)) = some "open the door" := by decide +kernel
  obtain ⟨pick, answered, named⟩ := Option.bind_eq_some_iff.mp opens
  obtain ⟨found, rfl, text⟩ := Option.map_eq_some_iff.mp named
  have matched : answer = .ok (some found) := by
    cases came : answer with
    | error => simp [came, Except.toOption] at answered
    | ok other => simpa [came, Except.toOption] using answered
  obtain ⟨offers, chosen, offer, -, -, -, resolved, -, lies⟩ :=
    chosen_lies_open script counters.answer none {} ⟨"CELLAR", 0⟩ " Door " () found matched
  rcases lies with ⟨start, begins, lies⟩ | ⟨starts, -⟩
  next => exact ⟨found, offer, chosen.means, start, matched, text, resolved, begins, lies⟩
  next => exact absurd starts (by decide)

theorem option_past_jump_chosen :
    let script : List Entry :=
      [.goto "START", .option ⟨"go", none, none⟩ [.narrative "You went."], .scene "A" none, .narrative "Hi."]
    let story := Story.ofScript script
    let counters : Counters := {}
    (((Matching.resolve story counters.answer (none : Option (Matching.Matcher Unit)) {} ⟨startLabel, 0⟩
      "go").run ()).1.toOption.bind fun found => found.map (·.optionText)) = some "go" ∧
    (∀ offer start, Script.BeginsAt script startLabel start →
      ¬LiesOpen counters.answer offer (Script.stretch script start)) ∧
    (step story Counters.keeper counters ⟨startLabel, 0⟩).outcome = .ok (.failed (.loop ⟨startLabel, 0⟩)) := by
  intro script story counters
  refine ⟨by decide +kernel, ?_, by decide +kernel⟩
  intro offer start begins lies
  have first : start = 0 := begins.2
  subst first
  exact List.not_mem_nil (mem_openOffers_iff.mpr lies)

end Gamebook
