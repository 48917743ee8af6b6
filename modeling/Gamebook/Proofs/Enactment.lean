import Gamebook.Proofs.Counting

set_option autoImplicit false

namespace Gamebook

/-- What a response has shown and changed, the counters as they then stand, and the conditions evaluated on
the way, each with the changes before it. -/
structure Enactment where
  shown : List Shown := []
  changes : List Change := []
  counters : Counters
  evaluated : List (List Change × String) := []

namespace Enactment

def present (walk : Enactment) (shown : Shown) : Enactment := { walk with shown := walk.shown ++ [shown] }

def make (walk : Enactment) (change : Change) : Enactment :=
  { walk with changes := walk.changes ++ [change], counters := walk.counters.apply change }

def evaluate (walk : Enactment) (condition : String) : Enactment :=
  { walk with evaluated := walk.evaluated ++ [(walk.changes, condition)] }

mutual

def runEntry (walk : Enactment) : Entry → Enactment × Option Exit
  | .narrative text => (walk.present (.text text), none)
  | .image url => (walk.present (.image url), none)
  | .goto target => (walk, some (.jump (Text.trim target)))
  | .metadata key value =>
    match Change.ofField? key value with
    | some change => (walk.make change, none)
    | none => (walk, none)
  | .when condition body =>
    if !Condition.isReadable condition then (walk, some .unreadable)
    else if Condition.holds walk.counters.answer condition then run (walk.evaluate condition) body
    else (walk.evaluate condition, none)
  | .whenElse condition body otherwise =>
    if !Condition.isReadable condition then (walk, some .unreadable)
    else if Condition.holds walk.counters.answer condition then run (walk.evaluate condition) body
    else run (walk.evaluate condition) otherwise
  | _ => (walk, none)

def run (walk : Enactment) : List Entry → Enactment × Option Exit
  | [] => (walk, none)
  | entry :: entries =>
    match walk.runEntry entry with
    | (walk, none) => run walk entries
    | stopped => stopped

end

def result : Enactment × Option Exit →
    Except Text.NumeralTooLong (List Shown × List Change × Option String)
  | (_, some .unreadable) => .error {}
  | (walk, some (.jump target)) => .ok (walk.shown, walk.changes, some target)
  | (walk, none) => .ok (walk.shown, walk.changes, none)

mutual

theorem evaluated_runEntry (walk : Enactment) (entry : Entry) :
    walk.evaluated ⊆ (walk.runEntry entry).1.evaluated := by
  cases entry with
  | narrative | image | goto | scene | option => exact List.Subset.refl _
  | metadata key value =>
    rw [runEntry]
    split <;> exact List.Subset.refl _
  | when condition body =>
    rw [runEntry]
    split
    next => exact List.Subset.refl _
    next =>
      have noted : walk.evaluated ⊆ (walk.evaluate condition).evaluated := List.subset_append_left _ _
      split
      next => exact List.Subset.trans noted (evaluated_run (walk.evaluate condition) body)
      next => exact noted
  | whenElse condition body otherwise =>
    rw [runEntry]
    split
    next => exact List.Subset.refl _
    next =>
      have noted : walk.evaluated ⊆ (walk.evaluate condition).evaluated := List.subset_append_left _ _
      split
      next => exact List.Subset.trans noted (evaluated_run (walk.evaluate condition) body)
      next => exact List.Subset.trans noted (evaluated_run (walk.evaluate condition) otherwise)

theorem evaluated_run (walk : Enactment) (entries : List Entry) :
    walk.evaluated ⊆ (walk.run entries).1.evaluated := by
  match entries with
  | [] => exact List.Subset.refl _
  | entry :: entries =>
    have first := evaluated_runEntry walk entry
    rw [run]
    split
    next after stopped =>
      rw [stopped] at first
      exact List.Subset.trans first (evaluated_run after entries)
    next => exact first

end

structure Mirrors (start : Counters) (response : Response) (walk : Enactment) : Prop where
  shown : response.shown = walk.shown
  changes : response.changes = walk.changes
  counters : walk.counters = start.applyAll walk.changes

/-- A condition is put to counters that the changes before it never found empty, or left empty. -/
def Tracks (start : Counters) (evaluation : List Change × String) : Prop :=
  ∀ name ∈ Condition.names evaluation.2,
    start.missed name evaluation.1 = 0 ∨ (start.applyAll evaluation.1).get name = 0

namespace Mirrors

variable {start : Counters} {response : Response} {walk : Enactment}

theorem present (mirrors : Mirrors start response walk) (shown : Shown) :
    Mirrors start { response with shown := response.shown ++ [shown] } (walk.present shown) :=
  ⟨by rw [mirrors.shown, Enactment.present], mirrors.changes, mirrors.counters⟩

theorem make (mirrors : Mirrors start response walk) (change : Change) :
    Mirrors start { response with changes := response.changes ++ [change] } (walk.make change) := by
  refine ⟨mirrors.shown, by rw [mirrors.changes, Enactment.make], ?_⟩
  have after := mirrors.counters
  simp only [Enactment.make, Counters.applyAll, List.foldl_append, List.foldl_cons, List.foldl_nil] at after ⊢
  rw [after]

theorem evaluate (mirrors : Mirrors start response walk) (condition : String) :
    Mirrors start (response.noteCondition start.answer condition) (walk.evaluate condition) :=
  ⟨mirrors.shown, mirrors.changes, mirrors.counters⟩

theorem holds_eq (mirrors : Mirrors start response walk) {condition : String}
    (tracks : Tracks start (walk.changes, condition)) :
    Condition.holds (Oracle.after start.answer response.changes) condition =
      Condition.holds walk.counters.answer condition := by
  rw [mirrors.changes, mirrors.counters]
  exact Condition.holds_congr fun name member =>
    (Counters.after_agrees_iff start walk.changes name).mpr (tracks name member)

theorem holds_eq_of_run (mirrors : Mirrors start response walk) {condition : String} (branch : List Entry)
    (tracked : ∀ evaluation ∈ ((walk.evaluate condition).run branch).1.evaluated, Tracks start evaluation) :
    Condition.holds (Oracle.after start.answer response.changes) condition =
      Condition.holds walk.counters.answer condition := by
  -- The condition is noted before the branch it selects is walked, and stays noted.
  have noted : (walk.changes, condition) ∈ (walk.evaluate condition).evaluated := by simp [Enactment.evaluate]
  exact mirrors.holds_eq (tracked _ (evaluated_run _ branch noted))

end Mirrors

mutual

theorem mirrors_runEntry {start : Counters} {response : Response} {walk : Enactment}
    (mirrors : Mirrors start response walk) (entry : Entry)
    (tracked : ∀ evaluation ∈ (walk.runEntry entry).1.evaluated, Tracks start evaluation) :
    Mirrors start (response.runEntry start.answer entry).1 (walk.runEntry entry).1 ∧
      (response.runEntry start.answer entry).2 = (walk.runEntry entry).2 := by
  cases entry with
  | narrative text => exact ⟨mirrors.present (.text text), rfl⟩
  | image url => exact ⟨mirrors.present (.image url), rfl⟩
  | goto | scene | option => exact ⟨mirrors, rfl⟩
  | metadata key value =>
    rw [Response.runEntry, runEntry]
    cases Change.ofField? key value with
    | none => exact ⟨mirrors, rfl⟩
    | some change => exact ⟨mirrors.make change, rfl⟩
  | when condition body =>
    rw [runEntry] at tracked ⊢
    rw [Response.runEntry]
    -- Both walks stop at a condition that cannot be read; else the enactment says which branch is taken.
    cases readable : Condition.isReadable condition with
    | false => exact ⟨mirrors, rfl⟩
    | true =>
      simp only [readable, Bool.not_true, Bool.false_eq_true, if_false] at tracked ⊢
      cases holds : Condition.holds walk.counters.answer condition with
      | true =>
        simp only [holds, if_true] at tracked
        rw [mirrors.holds_eq_of_run body tracked, holds]
        exact mirrors_run (mirrors.evaluate condition) body tracked
      | false =>
        simp only [holds, Bool.false_eq_true, if_false] at tracked
        rw [mirrors.holds_eq_of_run [] tracked, holds]
        exact ⟨mirrors.evaluate condition, rfl⟩
  | whenElse condition body otherwise =>
    rw [runEntry] at tracked ⊢
    rw [Response.runEntry]
    cases readable : Condition.isReadable condition with
    | false => exact ⟨mirrors, rfl⟩
    | true =>
      simp only [readable, Bool.not_true, Bool.false_eq_true, if_false] at tracked ⊢
      cases holds : Condition.holds walk.counters.answer condition with
      | true =>
        simp only [holds, if_true] at tracked
        rw [mirrors.holds_eq_of_run body tracked, holds]
        exact mirrors_run (mirrors.evaluate condition) body tracked
      | false =>
        simp only [holds, Bool.false_eq_true, if_false] at tracked
        rw [mirrors.holds_eq_of_run otherwise tracked, holds]
        exact mirrors_run (mirrors.evaluate condition) otherwise tracked

theorem mirrors_run {start : Counters} {response : Response} {walk : Enactment}
    (mirrors : Mirrors start response walk) (entries : List Entry)
    (tracked : ∀ evaluation ∈ (walk.run entries).1.evaluated, Tracks start evaluation) :
    Mirrors start (response.run start.answer entries).1 (walk.run entries).1 ∧
      (response.run start.answer entries).2 = (walk.run entries).2 := by
  match entries with
  | [] => exact ⟨mirrors, rfl⟩
  | entry :: entries =>
    -- What the first entry evaluates is among what the block evaluates, whether or not it stops the walk.
    have begun : ∀ evaluation ∈ (walk.runEntry entry).1.evaluated, Tracks start evaluation := by
      intro evaluation member
      apply tracked
      rw [run]
      split
      next after stopped =>
        rw [stopped] at member
        exact evaluated_run after entries member
      next => exact member
    obtain ⟨first, exits⟩ := mirrors_runEntry mirrors entry begun
    rw [run] at tracked ⊢
    rw [Response.run, Response.andThen, exits]
    rcases reached : walk.runEntry entry with ⟨after, _ | reason⟩
    next =>
      simp only [reached] at first tracked ⊢
      exact mirrors_run first entries tracked
    next =>
      simp only [reached] at first ⊢
      exact ⟨first, trivial⟩

end

end Enactment

def Change.entry (change : Change) : Entry := .metadata change.key change.name

theorem Change.ofField?_entry (change : Change) : ofField? change.key change.name = some change := by
  cases change <;> rfl

theorem Response.run_changes (ask : Oracle) (response : Response) (changes : List Change) (rest : List Entry) :
    response.run ask (changes.map Change.entry ++ rest) =
      { response with changes := response.changes ++ changes }.run ask rest := by
  induction changes generalizing response with
  | nil => simp
  | cons change changes ih =>
    rw [List.map_cons, List.cons_append, run, Change.entry, runEntry, change.ofField?_entry]
    simp only [andThen, ih, List.append_assoc, List.singleton_append]

theorem Enactment.run_changes (walk : Enactment) (changes : List Change) (rest : List Entry) :
    walk.run (changes.map Change.entry ++ rest) =
      { walk with changes := walk.changes ++ changes, counters := walk.counters.applyAll changes }.run rest := by
  induction changes generalizing walk with
  | nil => simp [Counters.applyAll]
  | cons change changes ih =>
    rw [List.map_cons, List.cons_append, run, Change.entry, runEntry, change.ofField?_entry]
    simp only [ih, make, List.append_assoc, List.singleton_append, Counters.applyAll, List.foldl_cons]

theorem response_ne_of_missed {counters : Counters} {changes : List Change} {name condition : String}
    (missed : counters.missed name changes ≠ 0) (left : (counters.applyAll changes).get name ≠ 0)
    (reads : Condition.clauses? condition = some [⟨name, .atLeast, (counters.applyAll changes).get name⟩])
    (text : String) :
    let block := changes.map Change.entry ++ [.when condition [.narrative text]]
    (Response.ofBlock counters.answer block).map (fun part => (part.1.shown, part.1.changes, part.2)) =
        .ok ([], changes, none) ∧
      Enactment.result (Enactment.run { counters } block) = .ok ([.text text], changes, none) := by
  intro block
  have readable := Condition.isReadable_of_clauses reads
  obtain ⟨query, named, reached, asks⟩ := Condition.holds_atLeast reads (Nat.pos_of_ne_zero left)
  have total := Counters.get_applyAll counters changes name
  have shift : Condition.holds (Oracle.after counters.answer changes) condition = false := by
    rw [asks, Counters.after_answer, named, reached]
    simp only [decide_eq_false_iff_not]
    omega
  have count : Condition.holds (counters.applyAll changes).answer condition = true := by
    rw [asks, Counters.answer, named, reached]
    simp
  constructor
  next =>
    rw [Response.ofBlock, Response.run_changes]
    simp only [List.nil_append, Response.run, Response.runEntry, readable, shift]
    rfl
  next =>
    rw [Enactment.run_changes]
    simp only [List.nil_append, Enactment.run, Enactment.runEntry, readable, count]
    rfl

/-- A response comes to what its enactment comes to, if the shift tells the counters at every condition the
enactment evaluates. It tells a counter, at every threshold, exactly if the changes never found that counter
empty, or left it empty; otherwise some response shows the difference. -/
theorem response_eq_enactment (counters : Counters) (block : List Entry) :
    (∀ (changes : List Change) (name : String),
      Oracle.Agrees (Oracle.after counters.answer changes) (counters.applyAll changes).answer name ↔
        counters.missed name changes = 0 ∨ (counters.applyAll changes).get name = 0) ∧
    ((∀ evaluation ∈ (Enactment.run { counters } block).1.evaluated, Enactment.Tracks counters evaluation) →
      (Response.ofBlock counters.answer block).map (fun part => (part.1.shown, part.1.changes, part.2)) =
        Enactment.result (Enactment.run { counters } block)) ∧
    ∀ (changes : List Change) (name condition text : String), counters.missed name changes ≠ 0 →
      (counters.applyAll changes).get name ≠ 0 →
      Condition.clauses? condition = some [⟨name, .atLeast, (counters.applyAll changes).get name⟩] →
      (Response.ofBlock counters.answer (changes.map Change.entry ++ [.when condition [.narrative text]])).map
          (fun part => (part.1.shown, part.1.changes, part.2)) ≠
        Enactment.result (Enactment.run { counters }
          (changes.map Change.entry ++ [.when condition [.narrative text]])) := by
  refine ⟨Counters.after_agrees_iff counters, ?_, ?_⟩
  next =>
    intro tracked
    have fresh : Enactment.Mirrors counters {} { counters } := ⟨rfl, rfl, rfl⟩
    obtain ⟨mirrors, exits⟩ := Enactment.mirrors_run fresh block tracked
    unfold Response.ofBlock
    rcases told : Response.run counters.answer {} block with ⟨response, exit⟩
    rcases enacted : Enactment.run { counters } block with ⟨walk, reason⟩
    rw [told, enacted] at mirrors exits
    subst exits
    have shown : response.shown = walk.shown := mirrors.shown
    have changes : response.changes = walk.changes := mirrors.changes
    cases exit with
    | none => simp [Enactment.result, Except.map, shown, changes]
    | some exit => cases exit <;> simp [Enactment.result, Except.map, shown, changes]
  next =>
    intro changes name condition text missed left reads
    obtain ⟨told, enacted⟩ := response_ne_of_missed missed left reads text
    rw [told, enacted]
    simp

theorem response_eq_enactment_of_key :
    let block : List Entry :=
      [.metadata "unsets" "Key", .whenElse "key" [.narrative "One left."] [.metadata "sets" "key "],
        .when "key == 1 & !door" [.narrative "Found it.", .goto "DOOR"]]
    let lost : List Entry :=
      [.metadata "unsets" "coin", .metadata "sets" "coin", .when "Coin >= 1" [.narrative "Heads."]]
    (Response.ofBlock (Counters.answer ⟨[("key", 1)]⟩) block).map
        (fun part => (part.1.shown, part.1.changes, part.2)) =
      .ok ([.text "Found it."], [.unsets "Key", .sets "key "], some "DOOR") ∧
    (Response.ofBlock (Counters.answer ⟨[("key", 1)]⟩) lost).map
        (fun part => (part.1.shown, part.1.changes, part.2)) ≠
      Enactment.result (Enactment.run { counters := ⟨[("key", 1)]⟩ } lost) := by
  intro block lost
  have tracked : ∀ evaluation ∈ (Enactment.run { counters := ⟨[("key", 1)]⟩ } block).1.evaluated,
      Enactment.Tracks ⟨[("key", 1)]⟩ evaluation := by
    have met : (Enactment.run { counters := ⟨[("key", 1)]⟩ } block).1.evaluated =
        [([.unsets "Key"], "key"), ([.unsets "Key", .sets "key "], "key == 1 & !door")] := by
      decide +kernel
    rw [met]
    unfold Enactment.Tracks
    decide +kernel
  have reads : Condition.clauses? "Coin >= 1" = some [⟨"Coin", .atLeast, 1⟩] := by decide +kernel
  obtain ⟨_, equal, differ⟩ := response_eq_enactment ⟨[("key", 1)]⟩ block
  exact ⟨equal tracked, differ [.unsets "coin", .sets "coin"] "Coin" "Coin >= 1" "Heads." (by decide +kernel)
    (by decide +kernel) reads⟩

theorem response_ne_enactment :
    let block : List Entry :=
      [.metadata "unsets" "x", .metadata "sets" "x", .when "x" [.narrative "You have it."]]
    (Response.ofBlock (Counters.answer {}) block).map (fun part => (part.1.shown, part.1.changes, part.2)) =
        .ok ([], [.unsets "x", .sets "x"], none) ∧
      Enactment.result (Enactment.run { counters := {} } block) =
        .ok ([.text "You have it."], [.unsets "x", .sets "x"], none) :=
  ⟨rfl, rfl⟩

end Gamebook
