import Gamebook.Name
import Gamebook.Proofs.AliasLines

set_option autoImplicit false

namespace Gamebook.Text

def isSmall (c : Char) : Bool := c != 'İ' && c != 'Σ' && smallLetter c == c

theorem lowerAt_of_isSmall {c : Char} (small : isSmall c = true) (before after : List Char) :
    lowerAt before c after = [c] := by
  simp only [isSmall, Bool.and_eq_true, bne_iff_ne, beq_iff_eq] at small
  simp [lowerAt, small]

def CapitalRun.apart (run other : CapitalRun) : Bool :=
  (run.small + (run.last - run.first)).blt other.first || other.last.blt run.small ||
    (other.step == 2 && (run.small + other.first) % 2 == 1 && (run.step == 2 || run.first == run.last))

def CapitalRun.tidy (run : CapitalRun) : Bool :=
  let final := run.small + (run.last - run.first)
  (final < 0xD800 || 0xE000 ≤ run.small && final < 0x110000) &&
    (('İ' :: 'Σ' :: blanks).all fun c => c.toNat < run.small || final < c.toNat) &&
    (128 ≤ run.small || run.small == 'k'.toNat && run.first == run.last)

theorem apart_capitalRuns : (capitalRuns.all fun run => capitalRuns.all run.apart) = true := by
  decide +kernel

theorem tidy_capitalRuns : capitalRuns.all CapitalRun.tidy = true := by
  decide +kernel

theorem isSmall_toLower :
    ((List.range 128).all fun code =>
      let c := Char.ofNat code
      c.toLower == c || (isSmall c.toLower && !isBlank c.toLower)) = true := by
  decide +kernel

theorem isSmall_of_run {run : CapitalRun} (member : run ∈ capitalRuns) {offset : Nat}
    (inside : offset ≤ run.last - run.first) (even : offset % run.step = 0) :
    isSmall (Char.ofNat (run.small + offset)) = true ∧ isBlank (Char.ofNat (run.small + offset)) = false := by
  have tidy := List.all_eq_true.mp tidy_capitalRuns run member
  simp only [CapitalRun.tidy, Bool.and_eq_true, Bool.or_eq_true, decide_eq_true_eq, List.all_eq_true,
    beq_iff_eq] at tidy
  obtain ⟨⟨valid, special⟩, ascii⟩ := tidy
  have code : (Char.ofNat (run.small + offset)).toNat = run.small + offset := by
    have letter : (run.small + offset).isValidChar := by
      unfold Nat.isValidChar
      omega
    rw [Char.ofNat, dif_pos letter]
    rfl
  have other : Char.ofNat (run.small + offset) ∉ 'İ' :: 'Σ' :: blanks := by
    intro listed
    have outside := special _ listed
    omega
  simp only [List.mem_cons, not_or] at other
  obtain ⟨dotted, sigma, solid⟩ := other
  have same : smallLetter (Char.ofNat (run.small + offset)) = Char.ofNat (run.small + offset) := by
    unfold smallLetter
    split
    next low =>
      have kelvin : run.small + offset = 'k'.toNat := by omega
      rw [kelvin]
      decide
    next =>
      split
      next other found =>
        have met := List.find?_some found
        simp only [code, Bool.and_eq_true, decide_eq_true_eq, beq_iff_eq] at met
        obtain ⟨⟨first, last⟩, divides⟩ := met
        have listed := List.mem_of_find?_eq_some found
        have apart := List.all_eq_true.mp (List.all_eq_true.mp apart_capitalRuns run member) other listed
        simp only [CapitalRun.apart, Bool.and_eq_true, Bool.or_eq_true, Nat.blt_eq, beq_iff_eq] at apart
        rcases apart with (before | after) | ⟨⟨two, odd⟩, steps⟩
        next => omega
        next => omega
        next =>
          have even : offset % 2 = 0 := by
            rcases steps with two | single
            next => rwa [two] at even
            next => omega
          rw [two] at divides
          omega
      next => rfl
  exact ⟨by simp [isSmall, dotted, sigma, same], by simpa [isBlank] using solid⟩

theorem smallLetter_cases (c : Char) :
    smallLetter c = c ∨ isSmall (smallLetter c) = true ∧ isBlank (smallLetter c) = false := by
  unfold smallLetter
  split
  next ascii =>
    have found := List.all_eq_true.mp isSmall_toLower c.toNat (List.mem_range.mpr ascii)
    simpa using found
  next =>
    split
    next run found =>
      have inside := List.find?_some found
      simp only [Bool.and_eq_true, decide_eq_true_eq, beq_iff_eq] at inside
      obtain ⟨⟨first, last⟩, even⟩ := inside
      exact .inr (isSmall_of_run (List.mem_of_find?_eq_some found) (by omega) even)
    next => exact .inl rfl

theorem isSmall_of_mem_lowerAt {before after : List Char} {c d : Char} (member : d ∈ lowerAt before c after) :
    isSmall d = true := by
  unfold lowerAt at member
  split at member
  next => exact List.all_eq_true.mp (show ['i', '\u0307'].all isSmall = true by decide +kernel) d member
  next dotted =>
    split at member
    next =>
      have sigmas : ['ς', 'σ'].all isSmall = true := by decide +kernel
      apply List.all_eq_true.mp sigmas
      split at member <;> simp_all
    next sigma =>
      rw [List.mem_singleton.mp member]
      rcases smallLetter_cases c with same | ⟨small, -⟩
      next => simp_all [isSmall]
      next => exact small

theorem isSmall_of_mem_lowerFrom {before cs : List Char} {d : Char} (member : d ∈ lowerFrom before cs) :
    isSmall d = true := by
  induction cs generalizing before with
  | nil => cases member
  | cons c cs ih =>
    rcases List.mem_append.mp member with here | later
    next => exact isSmall_of_mem_lowerAt here
    next => exact ih later

theorem lowerFrom_of_isSmall {cs : List Char} (small : ∀ c ∈ cs, isSmall c = true) (before : List Char) :
    lowerFrom before cs = cs := by
  induction cs generalizing before with
  | nil => rfl
  | cons c cs ih =>
    obtain ⟨here, later⟩ := List.forall_mem_cons.mp small
    rw [lowerFrom, lowerAt_of_isSmall here, ih later, List.singleton_append]

theorem lowerChars_lowerChars (cs : List Char) : lowerChars (lowerChars cs) = lowerChars cs :=
  lowerFrom_of_isSmall (fun _ member => isSmall_of_mem_lowerFrom member) []

theorem opens_closes_lowerAt {c : Char} (solid : isBlank c = false) (before after : List Char) :
    Opens (lowerAt before c after) ∧ Closes (lowerAt before c after) := by
  have single {d : Char} (solid : isBlank d = false) : Opens [d] ∧ Closes [d] :=
    ⟨⟨d, [], rfl, solid⟩, [], d, rfl, solid⟩
  unfold lowerAt
  split
  next => exact ⟨⟨'i', _, rfl, by decide⟩, ['i'], '\u0307', rfl, by decide⟩
  next =>
    split
    next => split <;> exact single (by decide)
    next =>
      rcases smallLetter_cases c with same | ⟨-, small⟩
      next => exact single (same.symm ▸ solid)
      next => exact single small

theorem closes_lowerFrom {cs : List Char} (closes : Closes cs) (before : List Char) : Closes (lowerFrom before cs) := by
  obtain ⟨front, c, rfl, solid⟩ := closes
  induction front generalizing before with
  | nil =>
    rw [List.nil_append, lowerFrom, lowerFrom, List.append_nil]
    exact (opens_closes_lowerAt solid before []).2
  | cons first front ih =>
    rw [List.cons_append, lowerFrom]
    exact (ih (first :: before)).append _

theorem trimChars_lowerChars_trimChars (cs : List Char) :
    trimChars (lowerChars (trimChars cs)) = lowerChars (trimChars cs) := by
  by_cases empty : trimChars cs = []
  next =>
    rw [empty]
    rfl
  next =>
    have solid := solid_trimChars empty
    have opens : Opens (lowerChars (trimChars cs)) := by
      obtain ⟨c, rest, same, first⟩ := solid.opens
      rw [same, lowerChars, lowerFrom]
      exact (opens_closes_lowerAt first [] rest).1.append _
    exact (solid_of_opens_closes opens (closes_lowerFrom solid.closes [])).trimmed

theorem normalize_normalize (name : String) : Name.normalize (Name.normalize name) = Name.normalize name := by
  simp only [Name.normalize, lower, trim, String.toList_ofList, trimChars_lowerChars_trimChars, lowerChars_lowerChars]

end Gamebook.Text
