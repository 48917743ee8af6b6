import Mathlib.Data.List.Flatten
import Gamebook.Proofs.OpenOptions

set_option autoImplicit false

namespace Gamebook

theorem Script.bodyFrom_eq (preambleEnd : Int) (place : Nat) (entries : List Entry) :
    bodyFrom preambleEnd place entries =
      (((entries.zipIdx place).takeWhile fun numbered => !numbered.1.isScene).filter
        fun numbered => !(numbered.2 < preambleEnd && opensPreamble numbered.1)).map Prod.fst := by
  induction entries generalizing place with
  | nil => rfl
  | cons entry entries ih =>
    rw [bodyFrom, List.zipIdx_cons, List.takeWhile_cons]
    cases heads : entry.isScene with
    | true => rfl
    | false =>
      rw [if_neg Bool.false_ne_true, ih, Bool.not_false, if_pos rfl, List.filter_cons]
      cases (decide ((place : Int) < preambleEnd) && opensPreamble entry) <;> rfl

def Branch.rank : Branch → Nat
  | .body => 0
  | .otherwise => 1

theorem Branch.exists_iff {p : Branch → Prop} : (∃ branch, p branch) ↔ p .body ∨ p .otherwise :=
  ⟨fun ⟨branch, holds⟩ => by cases branch <;> simp [holds],
    fun either => either.elim (fun holds => ⟨_, holds⟩) fun holds => ⟨_, holds⟩⟩

structure Occurrence where
  forks : List Fork
  index : Nat
  offer : Offer

namespace Occurrence

def path (option : Occurrence) : List Nat :=
  option.forks.flatMap (fun fork => [fork.index, fork.branch.rank]) ++ [option.index]

-- The index of the entry that the option is, or of the outermost conditional around it.
def lead (option : Occurrence) : Nat := (option.forks.head?.map Fork.index).getD option.index

def under (fork : Fork) (option : Occurrence) : Occurrence := { option with forks := fork :: option.forks }

def StandsIn (block : List Entry) (option : Occurrence) : Prop :=
  ∃ own, Script.blockAt? block option.forks = some own ∧
    own[option.index]? = some (.option option.offer.choice option.offer.response)

/-- An option lies open where it stands: the branches around it are selected, and in its own block and in each around
it no jump comes first. -/
structure IsOpen (ask : Oracle) (block : List Entry) (option : Occurrence) : Prop where
  stands : option.StandsIn block
  taken : ∀ fork ∈ option.forks, fork.isTaken ask = true
  reached : ∀ outer inner around, option.forks = outer ++ inner → Script.blockAt? block outer = some around →
    ∀ entry ∈ around.take { option with forks := inner }.lead, entry.isJump = false

theorem isOpen_bare {ask : Oracle} {block : List Entry} {index : Nat} {offer : Offer} :
    IsOpen ask block ⟨[], index, offer⟩ ↔
      block[index]? = some (.option offer.choice offer.response) ∧
        ∀ entry ∈ block.take index, entry.isJump = false := by
  constructor
  next =>
    rintro ⟨⟨own, found, here⟩, -, reached⟩
    cases found
    exact ⟨here, reached [] [] _ rfl rfl⟩
  next =>
    rintro ⟨here, clear⟩
    refine ⟨⟨block, rfl, here⟩, nofun, ?_⟩
    intro outer inner around split found
    obtain ⟨rfl, rfl⟩ := List.append_eq_nil_iff.mp split.symm
    cases found
    exact clear

theorem isOpen_under {ask : Oracle} {block : List Entry} {fork : Fork} {option : Occurrence} :
    (option.under fork).IsOpen ask block ↔
      fork.isTaken ask = true ∧ (∀ entry ∈ block.take fork.index, entry.isJump = false) ∧
        ∃ inner, fork.enter? block = some inner ∧ option.IsOpen ask inner := by
  have enters (forks : List Fork) :
      Script.blockAt? block (fork :: forks) = (fork.enter? block).bind (Script.blockAt? · forks) := rfl
  constructor
  next =>
    rintro ⟨⟨own, found, here⟩, taken, reached⟩
    rw [under, enters] at found
    obtain ⟨inner, entered, found⟩ := Option.bind_eq_some_iff.mp found
    refine ⟨taken fork List.mem_cons_self, reached [] _ block rfl rfl, inner, entered, ⟨own, found, here⟩,
      fun other later => taken other (List.mem_cons_of_mem _ later), ?_⟩
    intro outer deeper around split found
    exact reached (fork :: outer) deeper around (congrArg (fork :: ·) split) (by rw [enters, entered]; exact found)
  next =>
    rintro ⟨goes, clear, inner, entered, ⟨own, found, here⟩, taken, reached⟩
    refine ⟨⟨own, ?_, here⟩, List.forall_mem_cons.mpr ⟨goes, taken⟩, ?_⟩
    · rw [under, enters, entered]
      exact found
    intro outer deeper around split found
    -- The jumps before the fork itself, or those inside the branch that it leads to.
    cases outer with
    | nil =>
      cases found
      cases split
      exact clear
    | cons first outer =>
      obtain ⟨rfl, rest⟩ := List.cons.inj split
      rw [enters, entered] at found
      exact reached outer deeper around rest found

theorem IsOpen.clear {ask : Oracle} {block : List Entry} {option : Occurrence} (lies : option.IsOpen ask block) :
    ∀ entry ∈ block.take option.lead, entry.isJump = false :=
  lies.reached [] option.forks block rfl rfl

theorem IsOpen.lead_lt {ask : Oracle} {block : List Entry} {option : Occurrence} (lies : option.IsOpen ask block) :
    option.lead < block.length := by
  obtain ⟨forks, index, offer⟩ := option
  cases forks with
  | nil => exact (List.getElem?_eq_some_iff.mp (isOpen_bare.mp lies).1).1
  | cons fork forks =>
    obtain ⟨-, -, inner, entered, -⟩ := (@isOpen_under ask block fork ⟨forks, index, offer⟩).mp lies
    obtain ⟨entry, met, -⟩ := Fork.enter?_eq_some_iff.mp entered
    exact (List.getElem?_eq_some_iff.mp met).1

-- What lies open at an index of a block is the option there, or lies open in the branch of a conditional there.
theorem isOpen_at {ask : Oracle} {block : List Entry} {index : Nat} {entry : Entry} (here : block[index]? = some entry)
    (clear : ∀ earlier ∈ block.take index, earlier.isJump = false) {option : Occurrence} :
    option.IsOpen ask block ∧ option.lead = index ↔
      (∃ offer, entry = .option offer.choice offer.response ∧ option = ⟨[], index, offer⟩) ∨
      ∃ (which : Branch) (condition : String) (inner : List Entry) (rest : Occurrence),
        entry.branch? which = some (condition, inner) ∧
        Fork.isTaken ask ⟨index, condition, which⟩ = true ∧ rest.IsOpen ask inner ∧
        rest.under ⟨index, condition, which⟩ = option := by
  constructor
  next =>
    rintro ⟨lies, rfl⟩
    obtain ⟨forks, index, offer⟩ := option
    cases forks with
    | nil => exact .inl ⟨offer, Option.some.inj (here.symm.trans (isOpen_bare.mp lies).1), rfl⟩
    | cons fork forks =>
      obtain ⟨goes, -, inner, entered, inside⟩ := (@isOpen_under ask block fork ⟨forks, index, offer⟩).mp lies
      obtain ⟨same, met, branch⟩ := Fork.enter?_eq_some_iff.mp entered
      cases met.symm.trans here
      exact .inr ⟨fork.branch, fork.condition, inner, ⟨forks, index, offer⟩, branch, goes, inside, rfl⟩
  next =>
    rintro (⟨offer, rfl, rfl⟩ | ⟨which, condition, inner, rest, branch, goes, inside, rfl⟩)
    next => exact ⟨isOpen_bare.mpr ⟨here, clear⟩, rfl⟩
    next =>
      have entered : Fork.enter? block ⟨index, condition, which⟩ = some inner :=
        Fork.enter?_eq_some_iff.mpr ⟨entry, here, branch⟩
      exact ⟨isOpen_under.mpr ⟨goes, clear, inner, entered, inside⟩, rfl⟩

mutual

def openInEntry (ask : Oracle) (index : Nat) : Entry → List Occurrence
  | .option choice response => [⟨[], index, ⟨choice, response⟩⟩]
  | .when condition body =>
    if Condition.holds ask condition then (openIn ask 0 body).map (under ⟨index, condition, .body⟩) else []
  | .whenElse condition body otherwise =>
    if Condition.holds ask condition then (openIn ask 0 body).map (under ⟨index, condition, .body⟩)
    else (openIn ask 0 otherwise).map (under ⟨index, condition, .otherwise⟩)
  | _ => []

def openIn (ask : Oracle) (index : Nat) : List Entry → List Occurrence
  | [] => []
  | entry :: entries =>
    openInEntry ask index entry ++ if entry.isJump then [] else openIn ask (index + 1) entries

end

mutual

theorem map_offer_openInEntry (ask : Oracle) (index : Nat) (entry : Entry) :
    (openInEntry ask index entry).map offer = openOffersOf ask entry := by
  have same (fork : Fork) : offer ∘ under fork = offer := rfl
  cases entry with
  | option => rfl
  | when condition body =>
    rw [openInEntry, openOffersOf, apply_ite (List.map offer), List.map_map, same, map_offer_openIn, List.map_nil]
  | whenElse condition body otherwise =>
    rw [openInEntry, openOffersOf, apply_ite (List.map offer), List.map_map, List.map_map, same, same,
      map_offer_openIn, map_offer_openIn]
  | narrative | scene | goto | image | metadata => rfl

theorem map_offer_openIn (ask : Oracle) (index : Nat) (entries : List Entry) :
    (openIn ask index entries).map offer = openOffers ask entries := by
  match entries with
  | [] => rfl
  | entry :: entries =>
    rw [openIn, openOffers, List.map_append, map_offer_openInEntry, apply_ite (List.map offer), map_offer_openIn,
      List.map_nil]

end

mutual

theorem mem_openInEntry {ask : Oracle} {block : List Entry} {index : Nat} (entry : Entry)
    (here : block[index]? = some entry) (clear : ∀ earlier ∈ block.take index, earlier.isJump = false)
    (option : Occurrence) :
    option ∈ openInEntry ask index entry ↔ option.IsOpen ask block ∧ option.lead = index := by
  rw [isOpen_at here clear]
  cases entry with
  | option choice response =>
    rw [openInEntry, List.mem_singleton]
    constructor
    next => exact fun same => .inl ⟨⟨choice, response⟩, rfl, same⟩
    next =>
      rintro (⟨⟨_, _⟩, same, rfl⟩ | ⟨which, condition, inner, rest, branch, -⟩)
      next => cases same; rfl
      next => cases which <;> cases branch
  | when condition body =>
    have inside := @mem_openIn ask body 0 body rfl (by simp)
    cases holds : Condition.holds ask condition <;>
      simp [openInEntry, Branch.exists_iff, Entry.branch?, Fork.isTaken, holds, inside]
  | whenElse condition body otherwise =>
    have inside := @mem_openIn ask body 0 body rfl (by simp)
    have beside := @mem_openIn ask otherwise 0 otherwise rfl (by simp)
    cases holds : Condition.holds ask condition <;>
      simp [openInEntry, Branch.exists_iff, Entry.branch?, Fork.isTaken, holds, inside, beside]
  | narrative | scene | goto | image | metadata => simp [openInEntry, Entry.branch?]

theorem mem_openIn {ask : Oracle} {block : List Entry} {index : Nat} (entries : List Entry)
    (left : block.drop index = entries) (clear : ∀ earlier ∈ block.take index, earlier.isJump = false)
    (option : Occurrence) :
    option ∈ openIn ask index entries ↔ option.IsOpen ask block ∧ index ≤ option.lead := by
  match entries with
  | [] =>
    have past : block.length ≤ index := List.drop_eq_nil_iff.mp left
    refine ⟨nofun, fun ⟨lies, later⟩ => ?_⟩
    have := lies.lead_lt
    omega
  | entry :: entries =>
    have here : block[index]? = some entry := by simpa using congrArg List.head? left
    have later : block.drop (index + 1) = entries := by simpa using congrArg List.tail left
    rw [openIn, List.mem_append, mem_openInEntry entry here clear option]
    cases jumps : entry.isJump with
    | true =>
      rw [if_pos rfl, List.mem_nil_iff, or_false]
      refine and_congr_right fun lies => ⟨Nat.le_of_eq ∘ Eq.symm, fun after => ?_⟩
      -- The jump would come before an option that stands later.
      by_contra apart
      have before : entry ∈ block.take option.lead :=
        List.mem_iff_getElem?.mpr ⟨index, by rw [List.getElem?_take_of_lt (by omega), here]⟩
      rw [lies.clear entry before] at jumps
      cases jumps
    | false =>
      have clear : ∀ earlier ∈ block.take (index + 1), earlier.isJump = false := by
        rw [List.take_add_one, here]
        simpa [or_imp, forall_and, jumps] using clear
      rw [if_neg Bool.false_ne_true, mem_openIn entries later clear option, ← and_or_left]
      exact and_congr_right fun _ => by omega

end

theorem lead_of_mem_openInEntry {ask : Oracle} {index : Nat} {entry : Entry} {option : Occurrence}
    (member : option ∈ openInEntry ask index entry) : option.lead = index := by
  have lead_under (fork : Fork) (options : List Occurrence) :
      ∀ option ∈ options.map (under fork), option.lead = fork.index := by
    simp [under, lead]
  cases entry with
  | option =>
    cases List.mem_singleton.mp member
    rfl
  | when condition body =>
    rw [openInEntry] at member
    split at member
    next => exact lead_under _ _ option member
    next => cases member
  | whenElse condition body otherwise =>
    rw [openInEntry] at member
    split at member <;> exact lead_under _ _ option member
  | narrative | scene | goto | image | metadata => cases member

theorem le_lead_of_mem_openIn {ask : Oracle} {index : Nat} {entries : List Entry} {option : Occurrence}
    (member : option ∈ openIn ask index entries) : index ≤ option.lead := by
  induction entries generalizing index with
  | nil => cases member
  | cons entry entries ih =>
    rw [openIn, List.mem_append] at member
    rcases member with first | later
    next => exact Nat.le_of_eq (lead_of_mem_openInEntry first).symm
    next =>
      split at later
      next => cases later
      next => exact Nat.le_of_succ_le (ih later)

theorem path_lt_of_lead_lt {first second : Occurrence} (before : first.lead < second.lead) :
    first.path < second.path := by
  have path_eq (option : Occurrence) : option.path = option.lead :: option.path.tail := by
    obtain ⟨forks, index, offer⟩ := option
    cases forks <;> rfl
  rw [path_eq first, path_eq second, List.cons_lt_cons_iff]
  exact .inl before

theorem pairwise_under {options : List Occurrence} (ordered : options.Pairwise (·.path < ·.path)) (fork : Fork) :
    (options.map (under fork)).Pairwise (·.path < ·.path) := by
  refine List.pairwise_map.mpr (ordered.imp fun {first second} before => ?_)
  simpa [path, under] using before

mutual

theorem pairwise_openInEntry (ask : Oracle) (index : Nat) (entry : Entry) :
    (openInEntry ask index entry).Pairwise (·.path < ·.path) := by
  cases entry with
  | option => exact List.pairwise_singleton _ _
  | when condition body =>
    rw [openInEntry]
    split
    next => exact pairwise_under (pairwise_openIn ask 0 body) _
    next => exact List.Pairwise.nil
  | whenElse condition body otherwise =>
    rw [openInEntry]
    split
    next => exact pairwise_under (pairwise_openIn ask 0 body) _
    next => exact pairwise_under (pairwise_openIn ask 0 otherwise) _
  | narrative | scene | goto | image | metadata => exact List.Pairwise.nil

theorem pairwise_openIn (ask : Oracle) (index : Nat) (entries : List Entry) :
    (openIn ask index entries).Pairwise (·.path < ·.path) := by
  match entries with
  | [] => exact List.Pairwise.nil
  | entry :: entries =>
    have first := pairwise_openInEntry ask index entry
    rw [openIn]
    split
    next => simpa using first
    next =>
      refine List.pairwise_append.mpr ⟨first, pairwise_openIn ask (index + 1) entries, ?_⟩
      intro earlier here later there
      have lead := lead_of_mem_openInEntry here
      have after := le_lead_of_mem_openIn there
      exact path_lt_of_lead_lt (by omega)

end

end Occurrence

theorem Choice.isAvailable_iff {ask : Oracle} {choice : Choice} :
    choice.isAvailable ask = true ↔
      ∀ condition, choice.requires = some condition → condition = "" ∨ Condition.holds ask condition = true := by
  unfold isAvailable
  cases choice.requires <;> simp

theorem sublist_offersAhead {slots : List Slot} {i n : Nat}
    (quiet : ∀ slot ∈ slots.take (i + n), slot.happens = false) :
    (((slots.drop i).take n).flatMap Slot.offers).Sublist (offersAhead slots) := by
  have whole : slots.take (i + n) <+: slots.takeWhile fun slot => !slot.happens := by
    refine ⟨(slots.drop (i + n)).takeWhile fun slot => !slot.happens, ?_⟩
    rw [← List.takeWhile_append_of_pos (by simpa using quiet), List.take_append_drop]
  rw [List.take_add] at whole
  exact ((List.sublist_append_right _ _).trans whole.sublist).flatMap _

namespace Position

theorem waitingAfter_of_wait {ask : Oracle} {waiting : Bool} {slot : Slot} {later : List Slot} {offers : List Offer}
    (shown : ofSlot ask waiting slot later = .wait offers) : waitingAfter waiting [slot] = true := by
  obtain ⟨site, live⟩ := slot
  cases live <;> cases site <;> simp [ofSlot, waitingAfter] at shown ⊢

-- Once a wait is open, only a beat lets another begin.
theorem beat_of_wait {ask : Oracle} {slots : List Slot} {j : Nat} {offers : List Offer}
    (waits : (ofSlots ask true slots)[j]? = some (.wait offers)) :
    ∃ k beat, k < j ∧ (ofSlots ask true slots)[k]? = some (.beat beat) := by
  induction slots generalizing j with
  | nil => cases waits
  | cons slot slots ih =>
    obtain ⟨site, live⟩ := slot
    cases j with
    | zero => cases live <;> cases site <;> cases waits
    | succ j =>
      have past {position : Position} (rest : ∃ k beat, k < j ∧ (ofSlots ask true slots)[k]? = some (.beat beat)) :
          ∃ k beat, k < j + 1 ∧ (position :: ofSlots ask true slots)[k]? = some (.beat beat) := by
        obtain ⟨k, beat, before, met⟩ := rest
        exact ⟨k + 1, beat, by omega, met⟩
      cases live with
      | false => exact past (ih waits)
      | true =>
        cases site with
        | beat beat => exact ⟨0, beat, by omega, rfl⟩
        | run => exact past (ih waits)

theorem beat_between_waits {ask : Oracle} {waiting : Bool} {slots : List Slot} {i j : Nat} {first second : List Offer}
    (before : i < j) (waits : (ofSlots ask waiting slots)[i]? = some (.wait first))
    (again : (ofSlots ask waiting slots)[j]? = some (.wait second)) :
    ∃ k beat, i < k ∧ k < j ∧ (ofSlots ask waiting slots)[k]? = some (.beat beat) := by
  induction slots generalizing waiting i j with
  | nil => cases waits
  | cons slot slots ih =>
    obtain ⟨j, rfl⟩ : ∃ later, j = later + 1 := ⟨j - 1, by omega⟩
    rw [ofSlots_cons] at waits again ⊢
    cases i with
    | zero =>
      rw [waitingAfter_of_wait (Option.some.inj waits)] at again ⊢
      obtain ⟨k, beat, earlier, met⟩ := beat_of_wait again
      exact ⟨k + 1, beat, by omega, by omega, met⟩
    | succ i =>
      obtain ⟨k, beat, after, earlier, met⟩ := ih (by omega) waits again
      exact ⟨k + 1, beat, by omega, by omega, met⟩

theorem wait_of_quiet {ask : Oracle} {waiting : Bool} {slots : List Slot} {i n : Nat} {shared : List Offer}
    (quiet : ∀ slot ∈ (slots.drop i).take n, slot.happens = false)
    (gathered : shared = (((slots.drop i).take n).flatMap Slot.offers).filter (·.choice.isAvailable ask)) :
    (waiting = true ∧ ∀ slot ∈ slots.take i, slot.happens = false) ∨ shared = [] ∨
      ∃ (g : Nat) (offers : List Offer), (ofSlots ask waiting slots)[g]? = some (.wait offers) ∧
        shared.Sublist offers := by
  induction slots generalizing waiting i n with
  | nil => exact .inr (.inl (by simp [gathered]))
  | cons slot slots ih =>
    rw [ofSlots_cons]
    have past (rest : shared = [] ∨ ∃ (g : Nat) (offers : List Offer),
        (ofSlots ask (waitingAfter waiting [slot]) slots)[g]? = some (.wait offers) ∧ shared.Sublist offers) :
        shared = [] ∨ ∃ (g : Nat) (offers : List Offer),
          (ofSlot ask waiting slot slots :: ofSlots ask (waitingAfter waiting [slot]) slots)[g]? =
            some (.wait offers) ∧ shared.Sublist offers :=
      rest.imp_right fun ⟨g, offers, waits, inside⟩ => ⟨g + 1, offers, waits, inside⟩
    obtain ⟨site, live⟩ := slot
    cases i with
    | zero =>
      cases waiting with
      | true => exact .inl ⟨rfl, by simp⟩
      | false =>
        cases n with
        | zero => exact .inr (.inl (by simp [gathered]))
        | succ n =>
          rw [List.drop_zero, List.take_succ_cons, List.forall_mem_cons] at quiet
          rw [List.drop_zero, List.take_succ_cons, List.flatMap_cons] at gathered
          cases live with
          | false =>
            have nothing : Slot.offers ⟨site, false⟩ = [] := by cases site <;> rfl
            rw [nothing, List.nil_append] at gathered
            rcases @ih false 0 n quiet.2 gathered with ⟨never, -⟩ | rest
            next => cases never
            next => exact .inr (past rest)
          | true =>
            cases site with
            | beat => cases quiet.1
            | run choices =>
              have ahead := @sublist_offersAhead slots 0 n (by simpa using quiet.2)
              refine .inr (.inr ⟨0, _, rfl, ?_⟩)
              rw [gathered]
              exact (ahead.append_left choices).filter _
    | succ i =>
      rw [List.drop_succ_cons] at quiet gathered
      rcases @ih (waitingAfter waiting [⟨site, live⟩]) i n quiet gathered with ⟨opened, before⟩ | rest
      next =>
        -- A wait is open after the slot: it was before, or the slot opens it.
        cases live with
        | false => exact .inl ⟨opened, by simpa [Slot.happens] using ⟨by cases site <;> rfl, before⟩⟩
        | true =>
          cases site with
          | beat => cases opened
          | run choices =>
            cases waiting with
            | true => exact .inl ⟨rfl, by simpa [Slot.happens] using before⟩
            | false =>
              have ahead := @sublist_offersAhead slots i n (by
                rw [List.take_add]
                exact List.forall_mem_append.mpr ⟨before, quiet⟩)
              refine .inr (.inr ⟨0, _, rfl, ?_⟩)
              rw [gathered]
              exact (ahead.trans (List.sublist_append_right choices _)).filter _
      next => exact .inr (past rest)

theorem beat_of_happens {ask : Oracle} {waiting : Bool} {slots : List Slot} {k : Nat} {slot : Slot}
    (found : slots[k]? = some slot) (happens : slot.happens = true) :
    ∃ beat, (ofSlots ask waiting slots)[k]? = some (.beat beat) := by
  rw [getElem?_ofSlots, found]
  obtain ⟨site, live⟩ := slot
  cases site with
  | beat beat =>
    cases live with
    | false => cases happens
    | true => exact ⟨beat, rfl⟩
  | run => cases happens

end Position

theorem occurrences_of_layout (ask : Oracle) (body : List Entry) :
    ∃ given : List Occurrence, given.map Occurrence.offer = (layout ask body).flatMap Position.offers ∧
      given.Pairwise (·.path < ·.path) ∧
      ∀ option, option ∈ given ↔ option.IsOpen ask body ∧
        ∀ condition, option.offer.choice.requires = some condition →
          condition = "" ∨ Condition.holds ask condition = true := by
  refine ⟨(Occurrence.openIn ask 0 body).filter (·.offer.choice.isAvailable ask), ?_, ?_, ?_⟩
  · rw [flatMap_offers_layout, ← Occurrence.map_offer_openIn ask 0 body, List.filter_map]
    rfl
  · exact (Occurrence.pairwise_openIn ask 0 body).filter _
  · intro option
    rw [List.mem_filter, Occurrence.mem_openIn body rfl (by simp), Choice.isAvailable_iff]
    simp

theorem wait_of_quiet_layout {ask : Oracle} {body : List Entry} {i n : Nat}
    (quiet : ∀ (k : Nat) (beat : Beat), i ≤ k → k < i + n → (layout ask body)[k]? ≠ some (.beat beat)) :
    let shared := ((((places body).drop i).take n).flatMap fun place => (place.slot ask).offers).filter
      (·.choice.isAvailable ask)
    shared = [] ∨ ∃ (g : Nat) (offers : List Offer), (layout ask body)[g]? = some (.wait offers) ∧
      shared.Sublist offers := by
  intro shared
  rw [layout_eq] at quiet ⊢
  have still : ∀ slot ∈ ((((places body).map (Place.slot ask)).drop i).take n), slot.happens = false := by
    intro slot member
    obtain ⟨m, found⟩ := List.mem_iff_getElem?.mp member
    rw [List.getElem?_take, Option.ite_none_right_eq_some, List.getElem?_drop] at found
    by_contra happens
    obtain ⟨beat, met⟩ := @Position.beat_of_happens ask false _ _ _ found.2 (by simpa using happens)
    exact quiet (i + m) beat (by omega) (by omega) met
  have gathered : shared = (((((places body).map (Place.slot ask)).drop i).take n).flatMap Slot.offers).filter
      (·.choice.isAvailable ask) := by
    rw [← List.map_drop, ← List.map_take, List.flatMap_map]
  exact (Position.wait_of_quiet still gathered).resolve_left fun ⟨never, _⟩ => Bool.false_ne_true never

/-- A scene lies between headers, and its gates hold, each once and as on the page, the options that lie open in it and
are available. A beat stands between any two gates, and options without a beat between them share one. All this is so
exactly when the conditions that are asked for can be read. -/
theorem gates_keep_options (script : List Entry) (start preambleEnd : Int) (ask : Oracle) :
    let body := Script.sceneBody script start preambleEnd
    body = ((((script.drop start.toNat).zipIdx start.toNat).takeWhile fun numbered => !numbered.1.isScene).filter
      fun numbered => !(numbered.2 < preambleEnd && Script.opensPreamble numbered.1)).map Prod.fst ∧
    ((∃ positions, layout? ask body = .ok positions) ↔
      ∀ test ∈ Test.ofBlock [] 0 body,
        (∀ fork ∈ test.forks, fork.isTaken ask = true) → Condition.isReadable test.condition = true) ∧
    ∀ positions, layout? ask body = .ok positions →
      (∃ given : List Occurrence, given.map Occurrence.offer = positions.flatMap Position.offers ∧
        given.Pairwise (·.path < ·.path) ∧
        ∀ option, option ∈ given ↔ option.IsOpen ask body ∧
          ∀ condition, option.offer.choice.requires = some condition →
            condition = "" ∨ Condition.holds ask condition = true) ∧
      (∀ (i j : Nat) (first second : List Offer), i < j → positions[i]? = some (.wait first) →
        positions[j]? = some (.wait second) →
        ∃ k beat, i < k ∧ k < j ∧ positions[k]? = some (.beat beat)) ∧
      ∀ i n : Nat, (∀ (k : Nat) (beat : Beat), i ≤ k → k < i + n → positions[k]? ≠ some (.beat beat)) →
        let shared := ((((places body).drop i).take n).flatMap fun place => (place.slot ask).offers).filter
          (·.choice.isAvailable ask)
        shared = [] ∨ ∃ (g : Nat) (offers : List Offer), positions[g]? = some (.wait offers) ∧
          shared.Sublist offers := by
  intro body
  refine ⟨Script.bodyFrom_eq preambleEnd _ _, layout?_isOk ask body, ?_⟩
  intro positions laid
  rw [layout?_eq_ok laid]
  refine ⟨occurrences_of_layout ask body, ?_, fun i n quiet => wait_of_quiet_layout quiet⟩
  intro i j first second before waits again
  rw [layout_eq] at waits again ⊢
  exact Position.beat_between_waits before waits again

theorem gates_keep_options_of_market :
    let script : List Entry :=
      [.scene "MARKET" none, .option ⟨"haggle", none, none⟩ [],
        .whenElse "rich" [.option ⟨"buy", none, some "rich"⟩ [], .option ⟨"give", none, some "!rich"⟩ []]
          [.narrative "Your purse is empty."],
        .option ⟨"leave", none, none⟩ [.goto "END"], .narrative "The bell rings.", .option ⟨"haggle", none, none⟩ [],
        .goto "MARKET", .option ⟨"sleep", none, none⟩ []]
    let ask : Oracle := fun _ => true
    ∃ positions, layout? ask (Script.sceneBody script 1 0) = .ok positions ∧
      (positions.flatMap Position.offers).map (·.choice.text) = ["haggle", "buy", "leave", "haggle"] ∧
      (∃ given : List Occurrence, given.map Occurrence.offer = positions.flatMap Position.offers ∧
        given.Pairwise (·.path < ·.path)) ∧
      ∃ k beat, 0 < k ∧ k < 5 ∧ positions[k]? = some (.beat beat) := by
  intro script ask
  have laid : layout? ask (Script.sceneBody script 1 0) = .ok (layout ask (Script.sceneBody script 1 0)) := rfl
  obtain ⟨⟨given, same, ordered, -⟩, between, -⟩ := (gates_keep_options script 1 0 ask).2.2 _ laid
  exact ⟨_, laid, rfl, ⟨given, same, ordered⟩, between 0 5 _ _ (by decide) rfl rfl⟩

theorem gate_fails_on_long_numeral :
    let body := Script.sceneBody
      [.option ⟨"buy", none, some (String.ofList (longClause Text.numeralLimit))⟩ [],
        .option ⟨"leave", none, none⟩ []] 0 0
    layout? (fun _ => false) body = .error {} ∧
      Occurrence.IsOpen (fun _ => false) body ⟨[], 1, ⟨⟨"leave", none, none⟩, []⟩⟩ := by
  intro body
  have unreadable := Condition.isReadable_longClause (Nat.le_refl Text.numeralLimit)
  have written : (String.ofList (longClause Text.numeralLimit)).isEmpty = false := by
    rw [Bool.eq_false_iff, ne_eq, String.isEmpty_iff, ← String.toList_inj, String.toList_ofList]
    exact List.cons_ne_nil _ _
  refine ⟨if_neg ?_, Occurrence.isOpen_bare.mpr ⟨rfl, ?_⟩⟩
  · simp [body, Script.sceneBody, Script.bodyFrom, Entry.isScene, Script.opensPreamble, layoutReadable, entryReadable,
      Choice.isReadable, unreadable, written]
  · simp [body, Script.sceneBody, Script.bodyFrom, Entry.isScene, Script.opensPreamble, Entry.isJump]

end Gamebook
