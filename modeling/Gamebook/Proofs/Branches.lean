import Gamebook.Proofs.Counting
import Gamebook.Proofs.Moves

set_option autoImplicit false

namespace Gamebook

namespace Place

def Behind (forks : List Fork) (place : Place) : Prop := forks <+: place.forks

theorem Behind.fork_eq {place : Place} {forks rest : List Fork} {fork other : Fork}
    (here : place.Behind (forks ++ [fork])) (there : place.Behind (forks ++ other :: rest)) : fork = other := by
  obtain ⟨left, leads⟩ := here
  obtain ⟨right, leadsToo⟩ := there
  rw [← leadsToo, List.append_assoc, List.append_assoc] at leads
  exact (List.cons.inj (List.append_cancel_left leads)).1

def Within (forks : List Fork) (index : Nat) (place : Place) : Prop :=
  place.forks = forks ∨ ∃ fork : Fork, index ≤ fork.index ∧ place.Behind (forks ++ [fork])

theorem Within.behind {forks : List Fork} {index : Nat} {place : Place} (within : place.Within forks index) :
    place.Behind forks := by
  rcases within with same | ⟨fork, _, behind⟩
  next => exact same ▸ List.prefix_refl _
  next => exact (List.prefix_append _ _).trans behind

theorem within_ofRun {forks : List Fork} {index : Nat} {entries : List Entry} {place : Place}
    (member : place ∈ ofRun forks index entries) : place.forks = forks := by
  unfold ofRun at member
  split at member
  next => cases member
  next =>
    rw [List.mem_singleton] at member
    rw [member]

mutual

theorem within_ofEntry {forks : List Fork} {index : Nat} {place : Place} (entry : Entry)
    (member : place ∈ ofEntry forks index entry) :
    place.forks = forks ∨ ∃ condition branch, place.Behind (forks ++ [⟨index, condition, branch⟩]) := by
  cases entry with
  | when condition body =>
    simp only [ofEntry, List.mem_append] at member
    exact .inr ⟨condition, .body, (within_ofBlock body member).behind⟩
  | whenElse condition body otherwise =>
    simp only [ofEntry, List.mem_append] at member
    rcases member with inside | beside
    next => exact .inr ⟨condition, .body, (within_ofBlock body inside).behind⟩
    next => exact .inr ⟨condition, .otherwise, (within_ofBlock otherwise beside).behind⟩
  | option => simp [ofEntry, Entry.beat?] at member
  | narrative | scene | goto | image | metadata =>
    simp only [ofEntry, Option.mem_toList, Option.map_eq_some_iff] at member
    obtain ⟨_, _, rfl⟩ := member
    exact .inl rfl

theorem within_ofBlock {forks : List Fork} {index : Nat} {place : Place} (entries : List Entry)
    (member : place ∈ ofRun forks index entries ∨ place ∈ ofRest forks index entries) :
    place.Within forks index := by
  rcases member with run | rest
  next => exact .inl (within_ofRun run)
  next =>
    match entries with
    | [] => simp [ofRest] at rest
    | entry :: entries =>
      have first : place ∈ ofEntry forks index entry → place.Within forks index := by
        intro member
        rcases within_ofEntry entry member with same | ⟨condition, branch, behind⟩
        next => exact .inl same
        next => exact .inr ⟨_, Nat.le_refl index, behind⟩
      have later : place ∈ ofRun forks (index + 1) entries ∨ place ∈ ofRest forks (index + 1) entries →
          place.Within forks index := by
        intro member
        rcases within_ofBlock entries member with same | ⟨fork, low, behind⟩
        next => exact .inl same
        next => exact .inr ⟨fork, Nat.le_of_succ_le low, behind⟩
      rw [ofRest] at rest
      split at rest
      next => exact first rest
      next =>
        simp only [List.mem_append] at rest
        rcases rest with (member | run) | member
        next => exact first member
        next =>
          split at run
          next => cases run
          next => exact later (.inl run)
        next => exact later (.inr member)

end

def Clear (trunk : List Fork) (index : Nat) (condition : String) (places : List Place) : Prop :=
  ∀ place ∈ places, ∀ branch, ¬place.Behind (trunk ++ [⟨index, condition, branch⟩])

def Parted (trunk : List Fork) (index : Nat) (condition : String) (places : List Place) : Prop :=
  ∃ before inside beside after, places = before ++ inside ++ beside ++ after ∧
    Clear trunk index condition before ∧
    (∀ place ∈ inside, place.Behind (trunk ++ [⟨index, condition, .body⟩])) ∧
    (∀ place ∈ beside, place.Behind (trunk ++ [⟨index, condition, .otherwise⟩])) ∧
    Clear trunk index condition after

section

variable {trunk : List Fork} {index : Nat} {condition : String} {first second : List Place}

theorem Clear.parted (clear : Clear trunk index condition first) : Parted trunk index condition first :=
  ⟨first, [], [], [], by simp, clear, by simp, by simp, by simp [Clear]⟩

theorem Clear.append (clear : Clear trunk index condition first) (clearToo : Clear trunk index condition second) :
    Clear trunk index condition (first ++ second) := by
  intro place member
  rcases List.mem_append.mp member with earlier | later
  next => exact clear place earlier
  next => exact clearToo place later

theorem Parted.after (clear : Clear trunk index condition first) (parted : Parted trunk index condition second) :
    Parted trunk index condition (first ++ second) := by
  obtain ⟨before, inside, beside, after, rfl, clearBefore, sound⟩ := parted
  exact ⟨first ++ before, inside, beside, after, by simp, clear.append clearBefore, sound⟩

theorem Parted.before (parted : Parted trunk index condition first) (clear : Clear trunk index condition second) :
    Parted trunk index condition (first ++ second) := by
  obtain ⟨before, inside, beside, after, rfl, clearBefore, sound, soundToo, clearAfter⟩ := parted
  exact ⟨before, inside, beside, after ++ second, by simp, clearBefore, sound, soundToo,
    clearAfter.append clear⟩

end

theorem clear_of_fork {forks rest : List Fork} {fork other : Fork} {index : Nat} {condition : String}
    {places : List Place} (behind : ∀ place ∈ places, place.Behind (forks ++ [fork])) (differs : fork ≠ other) :
    Clear (forks ++ other :: rest) index condition places := by
  intro place member branch there
  rw [List.append_assoc, List.cons_append] at there
  exact differs ((behind place member).fork_eq there)

theorem not_behind_concat {trunk forks : List Fork} {fork : Fork} {place : Place} (here : place.forks = trunk) :
    ¬place.Behind (trunk ++ forks ++ [fork]) := by
  intro behind
  have length := behind.length_le
  simp only [here, List.length_append, List.length_singleton] at length
  omega

theorem parted_append {forks : List Fork} {spot : Nat} {own : String} {inside beside : List Place} {index : Nat}
    {condition : String} (taken : ∀ place ∈ inside, place.Behind (forks ++ [⟨spot, own, .body⟩]))
    (other : ∀ place ∈ beside, place.Behind (forks ++ [⟨spot, own, .otherwise⟩]))
    (parted : ∀ trunk, Parted (forks ++ [⟨spot, own, .body⟩] ++ trunk) index condition inside)
    (partedToo : ∀ trunk, Parted (forks ++ [⟨spot, own, .otherwise⟩] ++ trunk) index condition beside)
    (trunk : List Fork) : Parted (forks ++ trunk) index condition (inside ++ beside) := by
  -- The conditional that is looked for is this one, or stands in one of its branches, or elsewhere.
  cases trunk with
  | nil =>
    rw [List.append_nil]
    by_cases same : spot = index ∧ own = condition
    next =>
      obtain ⟨rfl, rfl⟩ := same
      exact ⟨[], inside, beside, [], by simp, by simp [Clear], taken, other, by simp [Clear]⟩
    next =>
      refine Clear.parted fun place member branch there => same ?_
      rcases List.mem_append.mp member with member | member
      next =>
        have := (taken place member).fork_eq there
        simp_all
      next =>
        have := (other place member).fork_eq there
        simp_all
  | cons fork trunk =>
    by_cases isBody : ⟨spot, own, .body⟩ = fork
    next =>
      subst isBody
      have first := parted trunk
      rw [List.append_assoc] at first
      exact first.before (clear_of_fork other (by simp))
    next =>
      have clear : Clear (forks ++ fork :: trunk) index condition inside := clear_of_fork taken isBody
      by_cases isOther : ⟨spot, own, .otherwise⟩ = fork
      next =>
        subst isOther
        have second := partedToo trunk
        rw [List.append_assoc] at second
        exact Parted.after clear second
      next => exact (clear.append (clear_of_fork other isOther)).parted

def leadIndex (trunk : List Fork) (index : Nat) : Nat := (trunk.head?.map Fork.index).getD index

theorem Behind.lead_eq {forks trunk : List Fork} {fork : Fork} {index : Nat} {condition : String} {branch : Branch}
    {place : Place} (there : place.Behind (forks ++ trunk ++ [⟨index, condition, branch⟩]))
    (here : place.Behind (forks ++ [fork])) : fork.index = leadIndex trunk index := by
  rw [List.append_assoc] at there
  cases trunk with
  | nil => exact congrArg Fork.index (here.fork_eq there)
  | cons other trunk => exact congrArg Fork.index (here.fork_eq there)

theorem clear_ofRun (forks trunk : List Fork) (index spot : Nat) (condition : String) (entries : List Entry) :
    Clear (forks ++ trunk) index condition (ofRun forks spot entries) :=
  fun _ member _ => not_behind_concat (within_ofRun member)

theorem clear_ofEntry {forks trunk : List Fork} {index spot : Nat} (condition : String) (entry : Entry)
    (elsewhere : spot ≠ leadIndex trunk index) :
    Clear (forks ++ trunk) index condition (ofEntry forks spot entry) := by
  intro place member branch there
  rcases within_ofEntry entry member with same | ⟨_, _, behind⟩
  next => exact not_behind_concat same there
  next => exact elsewhere (there.lead_eq behind)

theorem clear_ofRest {forks trunk : List Fork} {index spot : Nat} (condition : String) (entries : List Entry)
    (passed : leadIndex trunk index < spot) :
    Clear (forks ++ trunk) index condition (ofRest forks spot entries) := by
  intro place member branch there
  rcases within_ofBlock entries (.inr member) with same | ⟨fork, low, behind⟩
  next => exact not_behind_concat same there
  next =>
    have := there.lead_eq behind
    omega

mutual

theorem parted_ofEntry (forks trunk : List Fork) (index spot : Nat) (condition : String) (entry : Entry) :
    Parted (forks ++ trunk) index condition (ofEntry forks spot entry) := by
  cases entry with
  | when own body =>
    have inside (trunk : List Fork) := Parted.after
      (clear_ofRun (forks ++ [⟨spot, own, .body⟩]) trunk index 0 condition body)
      (parted_ofRest (forks ++ [⟨spot, own, .body⟩]) trunk index 0 condition body)
    have parted : Parted (forks ++ trunk) index condition (ofEntry forks spot (.when own body) ++ []) :=
      parted_append (fun place member => (within_ofBlock body (List.mem_append.mp member)).behind) (by simp)
        inside (fun trunk => Clear.parted (by simp [Clear])) trunk
    rwa [List.append_nil] at parted
  | whenElse own body otherwise =>
    have inside (trunk : List Fork) := Parted.after
      (clear_ofRun (forks ++ [⟨spot, own, .body⟩]) trunk index 0 condition body)
      (parted_ofRest (forks ++ [⟨spot, own, .body⟩]) trunk index 0 condition body)
    have beside (trunk : List Fork) := Parted.after
      (clear_ofRun (forks ++ [⟨spot, own, .otherwise⟩]) trunk index 0 condition otherwise)
      (parted_ofRest (forks ++ [⟨spot, own, .otherwise⟩]) trunk index 0 condition otherwise)
    exact parted_append (fun place member => (within_ofBlock body (List.mem_append.mp member)).behind)
      (fun place member => (within_ofBlock otherwise (List.mem_append.mp member)).behind) inside beside trunk
  | option => exact Clear.parted (by simp [Clear, ofEntry, Entry.beat?])
  | narrative | scene | goto | image | metadata =>
    refine Clear.parted fun place member branch => ?_
    simp only [ofEntry, Option.mem_toList, Option.map_eq_some_iff] at member
    obtain ⟨_, _, rfl⟩ := member
    exact not_behind_concat rfl

theorem parted_ofRest (forks trunk : List Fork) (index spot : Nat) (condition : String) (entries : List Entry) :
    Parted (forks ++ trunk) index condition (ofRest forks spot entries) := by
  match entries with
  | [] => exact Clear.parted (by simp [Clear, ofRest])
  | entry :: entries =>
    rw [ofRest]
    split
    next => exact parted_ofEntry forks trunk index spot condition entry
    next =>
      have run : Clear (forks ++ trunk) index condition
          (if entry.isOption then [] else ofRun forks (spot + 1) entries) := by
        split
        next => simp [Clear]
        next => exact clear_ofRun forks trunk index (spot + 1) condition entries
      -- Only one entry of a block leads to the conditional.
      by_cases here : spot = leadIndex trunk index
      next =>
        exact ((parted_ofEntry forks trunk index spot condition entry).before run).before
          (clear_ofRest condition entries (by omega))
      next =>
        exact Parted.after ((clear_ofEntry condition entry here).append run)
          (parted_ofRest forks trunk index (spot + 1) condition entries)

end

theorem parted_places (trunk : List Fork) (index : Nat) (condition : String) (body : List Entry) :
    Parted trunk index condition (places body) :=
  Parted.after (clear_ofRun [] trunk index 0 condition body) (parted_ofRest [] trunk index 0 condition body)

theorem mem_of_getElem?_append {before inside beside after : List Place} {i : Nat} {place : Place}
    (found : (before ++ inside ++ beside ++ after)[i]? = some place) :
    place ∈ before ∧ i < before.length ∨
      place ∈ inside ∧ before.length ≤ i ∧ i < before.length + inside.length ∨
      place ∈ beside ∧ before.length + inside.length ≤ i ∧ i < before.length + inside.length + beside.length ∨
      place ∈ after ∧ before.length + inside.length + beside.length ≤ i := by
  simp only [List.getElem?_append, List.length_append] at found
  split at found
  next =>
    split at found
    next =>
      split at found
      next => exact .inl ⟨List.mem_of_getElem? found, by omega⟩
      next => exact .inr (.inl ⟨List.mem_of_getElem? found, by omega, by omega⟩)
    next => exact .inr (.inr (.inl ⟨List.mem_of_getElem? found, by omega, by omega⟩))
  next => exact .inr (.inr (.inr ⟨List.mem_of_getElem? found, by omega⟩))

theorem Parted.between {trunk : List Fork} {index : Nat} {condition : String} {places : List Place}
    (parted : Parted trunk index condition places) {i j : Nat} {first last : Place}
    (here : places[i]? = some first) (inBody : first.Behind (trunk ++ [⟨index, condition, .body⟩]))
    (there : places[j]? = some last) (inOther : last.Behind (trunk ++ [⟨index, condition, .otherwise⟩])) :
    i < j ∧ ∀ (k : Nat) (place : Place), i ≤ k → k ≤ j → places[k]? = some place →
      ∃ branch, place.Behind (trunk ++ [⟨index, condition, branch⟩]) := by
  obtain ⟨before, inside, beside, after, rfl, clearBefore, sound, soundToo, clearAfter⟩ := parted
  have apart {place : Place} (one : place.Behind (trunk ++ [⟨index, condition, .body⟩]))
      (two : place.Behind (trunk ++ [⟨index, condition, .otherwise⟩])) : False := by
    simpa using one.fork_eq two
  have low : before.length ≤ i ∧ i < before.length + inside.length := by
    rcases mem_of_getElem?_append here with ⟨out, _⟩ | ⟨_, bounds⟩ | ⟨member, _⟩ | ⟨out, _⟩
    next => exact (clearBefore first out _ inBody).elim
    next => exact bounds
    next => exact (apart inBody (soundToo first member)).elim
    next => exact (clearAfter first out _ inBody).elim
  have high : before.length + inside.length ≤ j ∧ j < before.length + inside.length + beside.length := by
    rcases mem_of_getElem?_append there with ⟨out, _⟩ | ⟨member, _⟩ | ⟨_, bounds⟩ | ⟨out, _⟩
    next => exact (clearBefore last out _ inOther).elim
    next => exact (apart (sound last member) inOther).elim
    next => exact bounds
    next => exact (clearAfter last out _ inOther).elim
  refine ⟨by omega, ?_⟩
  intro k place above below found
  rcases mem_of_getElem?_append found with ⟨_, _⟩ | ⟨member, _⟩ | ⟨member, _⟩ | ⟨_, _⟩
  next => omega
  next => exact ⟨.body, sound place member⟩
  next => exact ⟨.otherwise, soundToo place member⟩
  next => omega

end Place

/-- A flat block from another: of every conditional at most one branch is left, and any block may end early. -/
inductive Script.Chosen : List Entry → List Entry → Prop where
  | stop (block : List Entry) : Chosen block []
  | keep {entry : Entry} (plain : isConditional entry = false) : Chosen [entry] [entry]
  | only {condition : String} {body flat : List Entry} (chosen : Chosen body flat) :
      Chosen [.when condition body] flat
  | body {condition : String} {body otherwise flat : List Entry} (chosen : Chosen body flat) :
      Chosen [.whenElse condition body otherwise] flat
  | otherwise {condition : String} {body otherwise flat : List Entry} (chosen : Chosen otherwise flat) :
      Chosen [.whenElse condition body otherwise] flat
  | cons {entry : Entry} {entries first rest : List Entry} (head : Chosen [entry] first)
      (tail : Chosen entries rest) : Chosen (entry :: entries) (first ++ rest)

theorem Script.Chosen.isFlat {block flat : List Entry} (chosen : Chosen block flat) :
    ∀ entry ∈ flat, isConditional entry = false := by
  induction chosen with
  | stop => simp
  | keep plain => simpa using plain
  | only _ ih | body _ ih | otherwise _ ih => exact ih
  | cons _ _ first rest =>
    intro entry member
    rcases List.mem_append.mp member with member | member
    next => exact first entry member
    next => exact rest entry member

namespace Telling

variable {σ : Type}

theorem run_append (keeper : Keeper σ) (telling : Telling σ) (first rest : List Entry) :
    run keeper telling (first ++ rest) =
      andThen (run keeper telling first) fun telling => run keeper telling rest := by
  induction first generalizing telling with
  | nil => rfl
  | cons entry first ih =>
    rw [List.cons_append, run, run]
    rcases runEntry keeper telling entry with ⟨after, _ | exit⟩
    next => exact ih after
    next => rfl

theorem run_singleton (keeper : Keeper σ) (telling : Telling σ) (entry : Entry) :
    run keeper telling [entry] = runEntry keeper telling entry := by
  rw [run]
  rcases runEntry keeper telling entry with ⟨after, _ | exit⟩ <;> rfl

structure Retells (keeper : Keeper σ) (telling : Telling σ) (flat : List Entry)
    (told : Telling σ × Option Exit) : Prop where
  same : (run keeper telling flat).1 = told.1
  ends : told.2 = none → (run keeper telling flat).2 = none

mutual

theorem exists_chosen_entry (keeper : Keeper σ) (telling : Telling σ) (entry : Entry) :
    ∃ flat, Script.Chosen [entry] flat ∧ Retells keeper telling flat (runEntry keeper telling entry) := by
  cases entry with
  | when condition body =>
    rw [runEntry]
    split
    next => exact ⟨[], .stop _, rfl, fun _ => rfl⟩
    next =>
      split
      next =>
        obtain ⟨flat, chosen, retold⟩ := exists_chosen keeper telling body
        exact ⟨flat, .only chosen, retold⟩
      next => exact ⟨[], .stop _, rfl, fun _ => rfl⟩
  | whenElse condition body otherwise =>
    rw [runEntry]
    split
    next => exact ⟨[], .stop _, rfl, fun _ => rfl⟩
    next =>
      split
      next =>
        obtain ⟨flat, chosen, retold⟩ := exists_chosen keeper telling body
        exact ⟨flat, .body chosen, retold⟩
      next =>
        obtain ⟨flat, chosen, retold⟩ := exists_chosen keeper telling otherwise
        exact ⟨flat, .otherwise chosen, retold⟩
  | narrative | scene | goto | option | image | metadata =>
    refine ⟨_, .keep rfl, ?_⟩
    rw [← run_singleton]
    exact ⟨rfl, id⟩

theorem exists_chosen (keeper : Keeper σ) (telling : Telling σ) (entries : List Entry) :
    ∃ flat, Script.Chosen entries flat ∧ Retells keeper telling flat (run keeper telling entries) := by
  match entries with
  | [] => exact ⟨[], .stop [], rfl, id⟩
  | entry :: entries =>
    obtain ⟨first, head, retold⟩ := exists_chosen_entry keeper telling entry
    rw [run]
    rcases told : runEntry keeper telling entry with ⟨after, _ | exit⟩
    next =>
      rw [told] at retold
      obtain ⟨rest, tail, retoldRest⟩ := exists_chosen keeper after entries
      have through : run keeper telling (first ++ rest) = run keeper after rest := by
        rw [run_append, andThen, retold.ends rfl, retold.same]
      exact ⟨first ++ rest, .cons head tail, by rw [through]; exact retoldRest.same,
        by rw [through]; exact retoldRest.ends⟩
    next =>
      -- Nothing is told after an exit, so nothing more is chosen.
      rw [told] at retold
      exact ⟨first ++ [], .cons head (.stop entries), by rw [List.append_nil]; exact retold.same, by simp [andThen]⟩

end

end Telling

theorem Condition.mentions_of_ended {condition : String} {counters : Counters} {change : Change}
    (before : holds counters.answer condition = true)
    (after : holds (counters.apply change).answer condition = false) :
    ∃ name ∈ names condition, Name.normalize change.name = Name.normalize name := by
  by_cases mentioned : ∃ name ∈ names condition, Name.normalize change.name = Name.normalize name
  next => exact mentioned
  next =>
    have same : holds counters.answer condition = holds (counters.apply change).answer condition := by
      refine holds_congr fun name member => Counters.agrees_of_get ?_
      rw [Counters.get_apply, if_neg fun named => mentioned ⟨name, member, named⟩]
    rw [before, after] at same
    cases same

theorem Place.Behind.isTaken {ask : Oracle} {place : Place} {forks : List Fork} {fork : Fork}
    (behind : place.Behind (forks ++ [fork])) (counts : place.counts ask = true) : fork.isTaken ask = true := by
  obtain ⟨rest, leads⟩ := behind
  refine List.all_eq_true.mp counts fork ?_
  simp [← leads]

theorem Place.Behind.holds {ask : Oracle} {place : Place} {forks : List Fork} {index : Nat} {condition : String}
    (behind : place.Behind (forks ++ [⟨index, condition, .body⟩])) (counts : place.counts ask = true) :
    Condition.holds ask condition = true := by
  have taken := behind.isTaken counts
  rwa [Fork.isTaken] at taken

theorem Place.Behind.fails {ask : Oracle} {place : Place} {forks : List Fork} {index : Nat} {condition : String}
    (behind : place.Behind (forks ++ [⟨index, condition, .otherwise⟩])) (counts : place.counts ask = true) :
    Condition.holds ask condition = false := by
  have taken := behind.isTaken counts
  rwa [Fork.isTaken, Bool.not_eq_true'] at taken

namespace Walk

theorem Plays.found_in {story : Story} {keeper : Keeper Counters} {walk other : Walk Counters} {place : Place}
    {beat : Beat} {body : List Entry} (plays : walk.Plays story keeper place beat)
    (arrives : other.Arrives story keeper body) (together : walk.scene = other.scene) :
    (places body)[walk.index]? = some place := by
  obtain ⟨own, ⟨_, ⟨begins, known, rfl⟩, _, _⟩, found⟩ := plays.found
  obtain ⟨start, knownToo, rfl⟩ := arrives.known
  rw [together, knownToo] at known
  cases known
  exact found

end Walk

/-- In one pass through a scene nothing comes from both branches of a conditional, unless a change in its body
ends its condition after something has been played there. The preamble is told as a flat block from it. -/
theorem branches_apart_until_ended (story : Story) (label : String) (counters : Counters) :
    (∃ flat, Script.Chosen ((Script.preamble story.script).filter Script.isConditional) flat ∧
      (∀ entry ∈ flat, Script.isConditional entry = false) ∧
      (Script.runPreamble Counters.keeper counters story.script).1 =
        (Telling.run Counters.keeper ⟨[], counters⟩ flat).1) ∧
    (∀ (count : Nat) (walk : Walk Counters), Walk.pass? story Counters.keeper counters label count = some walk →
      walk.Accounted story Counters.keeper) ∧
    ∀ (i j : Nat) (first last : Walk Counters) (here there : Place) (beat event : Beat) (trunk : List Fork)
      (index : Nat) (condition : String),
      Walk.pass? story Counters.keeper counters label i = some first →
      first.Plays story Counters.keeper here beat → here.Behind (trunk ++ [⟨index, condition, .body⟩]) →
      Walk.pass? story Counters.keeper counters label j = some last →
      last.Plays story Counters.keeper there event → there.Behind (trunk ++ [⟨index, condition, .otherwise⟩]) →
      ∃ (k : Nat) (walk : Walk Counters) (place : Place) (change : Change),
        i ≤ k ∧ k < j ∧ Walk.pass? story Counters.keeper counters label k = some walk ∧
        walk.Plays story Counters.keeper place (.change change) ∧
        place.Behind (trunk ++ [⟨index, condition, .body⟩]) ∧
        (∃ name ∈ Condition.names condition, Name.normalize change.name = Name.normalize name) ∧
        Condition.holds (walk.opened story Counters.keeper).state.answer condition = true ∧
        Condition.holds ((walk.opened story Counters.keeper).state.apply change).answer condition = false := by
  refine ⟨?_, fun _ walk _ => Walk.accounted story Counters.keeper walk, ?_⟩
  next =>
    obtain ⟨flat, chosen, retold⟩ := Telling.exists_chosen Counters.keeper ⟨[], counters⟩
      ((Script.preamble story.script).filter Script.isConditional)
    exact ⟨flat, chosen, chosen.isFlat, retold.same.symm⟩
  next =>
    intro i j first last here there beat event trunk index condition reached plays inBody reachedToo playsToo
      inOther
    obtain ⟨body, arrives, found⟩ := plays.found
    have parted := Place.parted_places trunk index condition body
    have holds := inBody.holds plays.counts
    have fails := inOther.fails playsToo.counts
    -- The body comes first, so the pass goes from the one walk to the other.
    have order : i ≤ j := by
      rcases Nat.le_total i j with le | ge
      next => exact le
      next =>
        obtain ⟨_, arrivesToo, _⟩ := playsToo.found
        obtain ⟨scene, behind⟩ := Walk.place_of_later? arrivesToo.settled (Walk.later?_of_pass? ge reachedToo reached)
        have before := (parted.between found inBody (playsToo.found_in arrives scene.symm) inOther).1
        omega
    have onward := Walk.later?_of_pass? order reached reachedToo
    obtain ⟨sameScene, ahead⟩ := Walk.place_of_later? arrives.settled onward
    obtain ⟨_, between⟩ := parted.between found inBody (playsToo.found_in arrives sameScene) inOther
    obtain ⟨passed, walk, place, change, fewer, met, playsChange, still, ended⟩ :=
      Walk.change_between (fun counters => Condition.holds (Counters.keeper.answer counters) condition)
        arrives.settled onward holds fails
    obtain ⟨scene, position⟩ := Walk.place_of_later? arrives.settled met
    obtain ⟨branch, behind⟩ := between walk.index place (by omega) (by omega) (playsChange.found_in arrives scene)
    have within : place.Behind (trunk ++ [⟨index, condition, .body⟩]) := by
      cases branch with
      | body => exact behind
      | otherwise =>
        -- While the condition holds nothing of the other branch is played.
        have fails := behind.fails playsChange.counts
        rw [still] at fails
        cases fails
    exact ⟨i + passed, walk, place, change, by omega, by omega, Walk.pass?_add reached met, playsChange, within,
      Condition.mentions_of_ended still ended, still, ended⟩

theorem branches_apart_until_ended_of_lamp :
    let story := Story.ofScript
      [.when "lamp" [.narrative "It is light."], .scene "A" none,
        .whenElse "!x" [.narrative "One.", .metadata "sets" "X ", .narrative "Again."] [.narrative "Two."]]
    ∃ k walk place change, k < 3 ∧ Walk.pass? story Counters.keeper ⟨[("lamp", 1)]⟩ "A" k = some walk ∧
      walk.Plays story Counters.keeper place (.change change) ∧ place.Behind [⟨0, "!x", .body⟩] := by
  intro story
  have enters : (Walk.start ⟨[("lamp", 1)]⟩ ⟨"A", 0⟩ : Walk Counters).Plays story Counters.keeper
      ⟨[⟨0, "!x", .body⟩], 0, .beat (.narrative "One.")⟩ (.narrative "One.") :=
    ⟨⟨story.body 1, ⟨by decide, ⟨1, rfl, rfl⟩, rfl, rfl⟩, rfl⟩, rfl, rfl⟩
  have turns : (⟨"A", 3, [("A", 2), ("A", 1)], [], true, ⟨[("lamp", 1), ("x", 1)]⟩⟩ : Walk Counters).Plays story
      Counters.keeper ⟨[⟨0, "!x", .otherwise⟩], 0, .beat (.narrative "Two.")⟩ (.narrative "Two.") :=
    ⟨⟨story.body 1, ⟨by decide, ⟨1, rfl, rfl⟩, rfl, rfl⟩, rfl⟩, rfl, rfl⟩
  obtain ⟨k, walk, place, change, _, before, reached, plays, behind, _⟩ :=
    (branches_apart_until_ended story "A" ⟨[("lamp", 1)]⟩).2.2 0 3 _ _ _ _ _ _ [] 0 "!x" rfl enters
      (List.prefix_refl _) rfl turns (List.prefix_refl _)
  exact ⟨k, walk, place, change, before, reached, plays, behind⟩

theorem pass_plays_both_branches :
    let story := Story.ofScript
      [.scene "A" none, .whenElse "!x" [.metadata "sets" "x", .narrative "One."] [.narrative "Two."]]
    ∃ first last, Walk.pass? story Counters.keeper {} "A" 0 = some first ∧
      first.Plays story Counters.keeper ⟨[⟨0, "!x", .body⟩], 0, .beat (.change (.sets "x"))⟩
        (.change (.sets "x")) ∧
      Walk.pass? story Counters.keeper {} "A" 2 = some last ∧
      last.Plays story Counters.keeper ⟨[⟨0, "!x", .otherwise⟩], 0, .beat (.narrative "Two.")⟩
        (.narrative "Two.") := by
  intro story
  refine ⟨Walk.start {} ⟨"A", 0⟩, ⟨"A", 2, [("A", 1), ("A", 0)], [], false, ⟨[("x", 1)]⟩⟩, rfl, ?_, rfl, ?_⟩ <;>
    exact ⟨⟨story.body 0, ⟨by decide, ⟨0, rfl, rfl⟩, rfl, rfl⟩, rfl⟩, rfl, rfl⟩

end Gamebook
