import Gamebook.Proofs.LineForms
import Gamebook.Proofs.RoundTrip

set_option autoImplicit false

namespace Gamebook

def SourceLine.IsElse (line : SourceLine) : Prop :=
  String.ofList line.text = "else" ∨ String.ofList line.text = "[else]"

namespace Script

theorem sources_of_readLines {lines : List String} {placed : List Placed} (reads : readLines lines = .ok placed) :
    List.Forall₂ (fun (entry : Placed) (line : SourceLine) =>
      entry.1 = line.indent ∧ EntryLine.read line.text = .ok entry.2) placed
        (lines.filterMap SourceLine.ofString?) := by
  induction lines generalizing placed with
  | nil =>
    cases reads
    exact .nil
  | cons line lines ih =>
    rw [readLines_cons] at reads
    rw [List.filterMap_cons]
    split at reads
    next blank =>
      rw [blank]
      exact ih reads
    next source found =>
      rw [found]
      split at reads
      next => cases reads
      next => cases reads
      next entry rest here later =>
        cases reads
        exact .cons ⟨rfl, here⟩ (ih later)

theorem isElse_iff {line : SourceLine} {entry : Entry} (reads : EntryLine.read line.text = .ok entry) :
    isElse entry = true ↔ line.IsElse := by
  constructor
  next => exact fun mark => standsOn_mark mark (show (Item.entry entry).StandsOn line.text from reads)
  next =>
    intro mark
    have told : EntryLine.read line.text = .ok (EntryLine.narrative line.text) := by
      obtain ⟨indent, text⟩ := line
      have same : text = "else".toList ∨ text = "[else]".toList := by
        simpa [SourceLine.IsElse, ← String.toList_inj] using mark
      rcases same with rfl | rfl <;> rfl
    cases reads.symm.trans told
    simpa [isElse, EntryLine.narrative, SourceLine.IsElse] using mark

def EndsBefore (entry next : Placed) : Prop := next.1 < entry.1 ∨ next.1 = entry.1 ∧ isElse next.2 = false

theorem EndsBefore.le {entry next : Placed} (ends : EndsBefore entry next) : next.1 ≤ entry.1 :=
  ends.elim Nat.le_of_lt fun level => Nat.le_of_eq level.1

theorem EndsBefore.no_mark {entry next : Placed} (ends : EndsBefore entry next) :
    (next.1 == entry.1 && isElse next.2) = false := by
  rcases ends with outer | ⟨-, told⟩
  next => simp [Nat.ne_of_lt outer]
  next => simp [told]

theorem body_append {indent : Nat} (following : List Placed) {beyond : List Placed} (leaves : NoDeeper indent beyond) :
    body indent (following ++ beyond) = body indent following ∧
      afterBody indent (following ++ beyond) = afterBody indent following ++ beyond := by
  unfold body afterBody
  induction following with
  | nil =>
    cases beyond with
    | nil => exact ⟨rfl, rfl⟩
    | cons next rest => simp [Nat.not_lt.mpr (leaves next rfl)]
  | cons first following ih =>
    by_cases deeper : indent < first.1
    next => simpa [deeper] using ih
    next => simp [deeper]

theorem attach_append {entry : Placed} (following : List Placed) {beyond : List Placed}
    (ends : ∀ next ∈ beyond.head?, EndsBefore entry next) :
    attach entry (following ++ beyond) = attach entry following ++ beyond := by
  have leaves : NoDeeper entry.1 beyond := fun next first => (ends next first).le
  obtain ⟨inner, rest⟩ := body_append following leaves
  obtain ⟨indent, bare⟩ := entry
  cases bare with
  | option => simp only [attach, inner, rest, List.cons_append]
  | when condition block =>
    simp only [attach, inner, rest]
    cases afterBody indent following with
    | nil =>
      cases beyond with
      | nil => rfl
      | cons next later => simp [(ends next rfl).no_mark]
    | cons next later =>
      obtain ⟨second, after⟩ := body_append later leaves
      dsimp only [List.cons_append]
      split <;> simp [second, after]
  | narrative | scene | goto | image | metadata | whenElse => rfl

theorem head?_attach (entry : Placed) (following : List Placed) :
    ∃ nested, (attach entry following).head? = some (entry.1, nested) ∧ isElse nested = isElse entry.2 := by
  obtain ⟨indent, bare⟩ := entry
  cases bare with
  | option => exact ⟨_, rfl, rfl⟩
  | when condition block =>
    unfold attach
    dsimp only
    split
    next => exact ⟨_, rfl, rfl⟩
    next => split <;> exact ⟨_, rfl, rfl⟩
  | narrative | scene | goto | image | metadata | whenElse => exact ⟨_, rfl, rfl⟩

theorem nest_append {first second : List Placed}
    (ends : ∀ entry ∈ first, ∀ next ∈ second.head?, EndsBefore entry next) :
    nest (first ++ second) = nest first ++ nest second := by
  induction first with
  | nil => rfl
  | cons entry first ih =>
    have rest := ih fun other member => ends other (List.mem_cons_of_mem _ member)
    have here : ∀ next ∈ (nest second).head?, EndsBefore entry next := by
      cases second with
      | nil => nofun
      | cons next second =>
        obtain ⟨nested, leads, told⟩ := head?_attach next (nest second)
        have apart := ends entry List.mem_cons_self next rfl
        intro found member
        cases leads.symm.trans member
        exact apart.imp_right fun level => ⟨level.1, told.trans level.2⟩
    have attached := attach_append (nest first) here
    rw [← rest] at attached
    exact attached

end Script

/-- Two scripts are read one after the other as each is read alone, if the second begins at the margin and not with
an else. -/
theorem read_append_of_margin {first second : List String} {script sequel : List Entry}
    (reads : Script.read first = .ok script) (readsToo : Script.read second = .ok sequel)
    (margin : ∀ line ∈ (second.filterMap SourceLine.ofString?).head?, line.indent = 0 ∧ ¬line.IsElse) :
    Script.read (first ++ second) = .ok (script ++ sequel) := by
  obtain ⟨before, placed, rfl⟩ := Script.readLines_of_read reads
  obtain ⟨after, placedToo, rfl⟩ := Script.readLines_of_read readsToo
  have ends : ∀ entry ∈ before, ∀ next ∈ after.head?, Script.EndsBefore entry next := by
    intro entry _ next leads
    have sources := Script.sources_of_readLines placedToo
    cases after with
    | nil => cases leads
    | cons first after =>
      cases leads
      obtain ⟨line, lines, ⟨level, read⟩, -, same⟩ := List.forall₂_cons_left_iff.mp sources
      obtain ⟨out, told⟩ := margin line (by rw [same]; rfl)
      have plain : Script.isElse next.2 = false := by
        rw [Bool.eq_false_iff]
        exact fun mark => told ((Script.isElse_iff read).mp mark)
      rcases Nat.eq_zero_or_pos entry.1 with outermost | deeper
      next => exact .inr ⟨by omega, plain⟩
      next => exact .inl (by omega)
  unfold Script.read
  rw [Script.readLines_append placed placedToo]
  change Except.ok ((Script.nest (before ++ after)).map Prod.snd) = _
  rw [Script.nest_append ends, List.map_append]

theorem read_append_of_margin_in_cellar :
    let first := ["@CELLAR", "when key", "  if open", "    * You open it.", "", "   "]
    let second := ["\t", "when lamp", "  It is light.", "[else]", "  It is dark."]
    Script.read first = .ok
        [.scene "CELLAR" none, .when "key" [.option ⟨"open", none, none⟩ [.narrative "You open it."]]] ∧
      Script.read second = .ok [.whenElse "lamp" [.narrative "It is light."] [.narrative "It is dark."]] ∧
      Script.read (first ++ second) = .ok
        [.scene "CELLAR" none, .when "key" [.option ⟨"open", none, none⟩ [.narrative "You open it."]],
          .whenElse "lamp" [.narrative "It is light."] [.narrative "It is dark."]] := by
  intro first second
  have reads : Script.read first = .ok
      [.scene "CELLAR" none, .when "key" [.option ⟨"open", none, none⟩ [.narrative "You open it."]]] := rfl
  have readsToo : Script.read second = .ok
      [.whenElse "lamp" [.narrative "It is light."] [.narrative "It is dark."]] := rfl
  have leads : (second.filterMap SourceLine.ofString?).head? = some ⟨0, "when lamp".toList⟩ := rfl
  refine ⟨reads, readsToo, read_append_of_margin reads readsToo fun line member => ?_⟩
  cases leads.symm.trans member
  exact ⟨rfl, by simp [SourceLine.IsElse]⟩

end Gamebook
