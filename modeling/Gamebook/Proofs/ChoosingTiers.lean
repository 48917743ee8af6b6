import Gamebook.Proofs.Legible

set_option autoImplicit false

namespace Gamebook.Matching

def Says (input phrase : String) : Prop := Text.normalize phrase = Text.normalize input

def Calls (input : String) (choice : Choice) : Prop := ∃ phrase ∈ choice.phrases, Says input phrase

structure First {α : Type} (holds : α → Prop) (items : List α) (index : Nat) (item : α) : Prop where
  here : items[index]? = some item
  fits : holds item
  before : ∀ other ∈ items.take index, ¬holds other

theorem first_append {α : Type} {holds : α → Prop} {before after : List α} {item : α} (fits : holds item)
    (none : ∀ other ∈ before, ¬holds other) : First holds (before ++ item :: after) before.length item :=
  ⟨by simp, fits, by simpa using none⟩

theorem First.unique {α : Type} {holds : α → Prop} {items : List α} {index other : Nat} {item another : α}
    (first : First holds items index item) (same : First holds items other another) :
    index = other ∧ item = another := by
  have earliest {i j : Nat} {x y : α} (left : First holds items i x) (right : First holds items j y) : j ≤ i := by
    by_contra earlier
    have inside : (items.take j)[i]? = some x := by rw [List.getElem?_take_of_lt (Nat.lt_of_not_le earlier), left.here]
    exact right.before x (List.mem_of_getElem? inside) left.fits
  have together : index = other := Nat.le_antisymm (earliest same first) (earliest first same)
  subst together
  exact ⟨rfl, Option.some.inj (first.here.symm.trans same.here)⟩

theorem First.of_zipIdx {α : Type} {holds : α → Prop} {items : List α} {index : Nat} {numbered : α × Nat}
    (first : First (fun other => holds other.1) items.zipIdx index numbered) :
    First holds items numbered.2 numbered.1 := by
  obtain ⟨here, fits, before⟩ := first
  rw [List.getElem?_zipIdx, Option.map_eq_some_iff] at here
  obtain ⟨item, here, rfl⟩ := here
  rw [Nat.zero_add]
  refine ⟨here, fits, fun other member => ?_⟩
  rw [← List.zipIdx_map_fst 0 items, ← List.map_take] at member
  obtain ⟨earlier, inside, rfl⟩ := List.mem_map.mp member
  exact before earlier inside

theorem exactPhrase?_eq_none_iff {input : String} {choice : Choice} :
    exactPhrase? (Text.normalize input) choice = none ↔ ¬Calls input choice := by
  unfold exactPhrase? Calls Says Choice.phrases
  split
  next same => simp [eq_of_beq same]
  next other => simpa using fun _ => by simpa using other

theorem first_of_exactPhrase? {input : String} {choice : Choice} {reported : Option String}
    (found : exactPhrase? (Text.normalize input) choice = some reported) :
    ∃ position phrase, First (Says input) choice.phrases position phrase ∧
      reported = if position = 0 then none else some phrase := by
  unfold exactPhrase? at found
  split at found
  next same =>
    cases found
    exact ⟨0, choice.text, ⟨rfl, eq_of_beq same, by simp⟩, rfl⟩
  next other =>
    obtain ⟨phrase, called, rfl⟩ := Option.map_eq_some_iff.mp found
    obtain ⟨same, before, after, aliases, none⟩ := List.find?_eq_some_iff_append.mp called
    have first : First (Says input) (choice.text :: before ++ phrase :: after) (before.length + 1) phrase := by
      refine first_append (eq_of_beq same) fun earlier member => ?_
      rcases List.mem_cons.mp member with rfl | later
      next => exact fun same => other (beq_of_eq same)
      next => simpa [Says] using none earlier later
    refine ⟨before.length + 1, phrase, ?_, rfl⟩
    rw [Choice.phrases, aliases]
    exact first

theorem exactHit?_eq_none_iff {input : String} {choices : List Choice} :
    exactHit? input choices = none ↔ Text.normalize input = [] ∨ ∀ choice ∈ choices, ¬Calls input choice := by
  unfold exactHit?
  by_cases blank : Text.normalize input = []
  next => simp [blank]
  next =>
    simp only [List.isEmpty_iff, blank, if_false, List.findSome?_eq_none_iff, Option.map_eq_none_iff,
      exactPhrase?_eq_none_iff, false_or]
    constructor
    next =>
      intro none choice member
      obtain ⟨index, inside, rfl⟩ := List.getElem_of_mem member
      exact none (choices[index], index) (List.mk_mem_zipIdx_iff_getElem?.mpr (List.getElem?_eq_getElem inside))
    next => exact fun none numbered member => none numbered.1 (List.fst_mem_of_mem_zipIdx member)

theorem first_of_exactHit? {input : String} {choices : List Choice} {hit : Hit}
    (found : exactHit? input choices = some hit) :
    ∃ choice position phrase, First (Calls input) choices hit.index choice ∧
      First (Says input) choice.phrases position phrase ∧
      hit.phrase = if position = 0 then none else some phrase := by
  unfold exactHit? at found
  obtain ⟨-, found⟩ := Option.ite_none_left_eq_some.mp found
  obtain ⟨before, ⟨choice, index⟩, after, numbered, called, none⟩ := List.findSome?_eq_some_iff.mp found
  obtain ⟨reported, phrased, rfl⟩ := Option.map_eq_some_iff.mp called
  obtain ⟨position, phrase, first, shown⟩ := first_of_exactPhrase? phrased
  refine ⟨choice, position, phrase, ?_, first, shown⟩
  have fits : Calls input choice := ⟨phrase, List.mem_of_getElem? first.here, first.fits⟩
  have passed : ∀ other ∈ before, ¬Calls input other.1 := fun other member =>
    exactPhrase?_eq_none_iff.mp (Option.map_eq_none_iff.mp (none other member))
  have earliest : First (fun other => Calls input other.1) choices.zipIdx before.length (choice, index) := by
    rw [numbered]
    exact first_append fits passed
  exact earliest.of_zipIdx

theorem accept?_eq_some_iff {answer : SemanticMatch} {count : Nat} {least : Float} {chosen : Chosen} :
    answer.accept? count least = some chosen ↔
      answer.matched = true ∧ answer.index = some (chosen.index : Int) ∧ chosen.index < count ∧
        least ≤ answer.confidence ∧ chosen.means = .semantic answer.confidence := by
  obtain ⟨place, means⟩ := chosen
  unfold SemanticMatch.accept?
  cases answer.index with
  | none => simp
  | some index =>
    simp only [Option.ite_none_right_eq_some, Bool.and_eq_true, decide_eq_true_eq, Option.some.injEq, Chosen.mk.injEq]
    constructor
    next =>
      rintro ⟨⟨⟨⟨matched, low⟩, high⟩, sure⟩, rfl, rfl⟩
      exact ⟨matched, by omega, by omega, sure, rfl⟩
    next =>
      rintro ⟨matched, rfl, high, sure, rfl⟩
      exact ⟨⟨⟨⟨matched, by omega⟩, by omega⟩, sure⟩, by simp, rfl⟩

section

variable {σ : Type} {thresholds : Thresholds} {input : String} {choices : List Choice}

theorem byWords?_of_exactHit? {hit : Hit} {least : Int} (found : exactHit? input choices = some hit) :
    byWords? input choices least = some ⟨hit.index, .exact hit.phrase⟩ := by
  rw [byWords?, found]

theorem byWords?_of_keywordHit? {least : Int} (silent : exactHit? input choices = none) :
    byWords? input choices least =
      (keywordHit? input choices least).map fun hit => ⟨hit.index, .keyword hit.phrase⟩ := by
  rw [byWords?, silent]

theorem run_choose_of_byWords? {chosen : Chosen} (named : byWords? input choices thresholds.score = some chosen)
    (matcher : Option (Matcher σ)) (state : σ) :
    (choose matcher thresholds input choices).run state = (some chosen, state) := by
  cases choices with
  | nil => exact absurd (index_lt_of_byWords? named) (Nat.not_lt_zero _)
  | cons choice choices =>
    unfold choose
    rw [List.isEmpty_cons, named]
    rfl

theorem run_choose_unasked {matcher : Option (Matcher σ)} (unnamed : byWords? input choices thresholds.score = none)
    (unasked : choices = [] ∨ matcher = none) (state : σ) :
    (choose matcher thresholds input choices).run state = (none, state) := by
  unfold choose
  rcases unasked with rfl | rfl
  next => rfl
  next =>
    rw [unnamed]
    cases choices <;> rfl

theorem run_choose_asked {ask : Matcher σ} (unnamed : byWords? input choices thresholds.score = none)
    (offered : choices ≠ []) (state : σ) :
    (choose (some ask) thresholds input choices).run state =
      (((ask input choices).run state).1.bind fun answer => answer.accept? choices.length thresholds.confidence,
        ((ask input choices).run state).2) := by
  unfold choose
  rw [unnamed]
  cases choices with
  | nil => exact absurd rfl offered
  | cons choice choices =>
    dsimp only [List.isEmpty_cons]
    rw [if_neg Bool.false_ne_true, StateT.run_bind]
    rcases (ask input (choice :: choices)).run state with ⟨answer, after⟩
    cases answer <;> rfl

end

-- Notes each call of a matcher and passes it on.
def noting {σ : Type} (ask : Matcher σ) : Matcher (σ × List (String × List Choice)) := fun input choices => do
  let (state, calls) ← get
  let (answer, state) := (ask input choices).run state
  set (state, calls ++ [(input, choices)])
  return answer

theorem run_noting {σ : Type} (ask : Matcher σ) (input : String) (choices : List Choice) (state : σ)
    (calls : List (String × List Choice)) :
    (noting ask input choices).run (state, calls) =
      (((ask input choices).run state).1, ((ask input choices).run state).2, calls ++ [(input, choices)]) := rfl

theorem run_choose_noting {σ : Type} (matcher : Option (Matcher σ)) (thresholds : Thresholds) (input : String)
    (choices : List Choice) (state : σ) (calls : List (String × List Choice)) :
    (choose matcher thresholds input choices).run state =
      (((choose (matcher.map noting) thresholds input choices).run (state, calls)).1,
        ((choose (matcher.map noting) thresholds input choices).run (state, calls)).2.1) := by
  cases named : byWords? input choices thresholds.score with
  | some chosen => rw [run_choose_of_byWords? named, run_choose_of_byWords? named]
  | none =>
    by_cases offered : choices = []
    next => rw [run_choose_unasked named (.inl offered), run_choose_unasked named (.inl offered)]
    next =>
      cases matcher with
      | none => rw [run_choose_unasked named (.inr rfl), Option.map_none, run_choose_unasked named (.inr rfl)]
      | some ask => rw [run_choose_asked named offered, Option.map_some, run_choose_asked named offered, run_noting]

/-- A choice is made by the first of three tiers that finds one. Words that name a choice, or keywords, settle it
without a call of the matcher; else that is called once, and its answer counts only if it names a choice that is there
and is sure enough. -/
theorem chosen_by_first_tier {σ : Type} (matcher : Option (Matcher σ)) (thresholds : Thresholds) (input : String)
    (choices : List Choice) (state : σ) :
    let result := (choose (matcher.map noting) thresholds input choices).run (state, [])
    (choose matcher thresholds input choices).run state = (result.1, result.2.1) ∧
    (∀ chosen, result.1 = some chosen → chosen.index < choices.length) ∧
    (Text.normalize input ≠ [] → (∃ choice ∈ choices, Calls input choice) →
      ∃ index choice position phrase, First (Calls input) choices index choice ∧
        First (Says input) choice.phrases position phrase ∧
        result = (some ⟨index, .exact (if position = 0 then none else some phrase)⟩, state, [])) ∧
    ((Text.normalize input = [] ∨ ∀ choice ∈ choices, ¬Calls input choice) →
      (∀ hit, keywordHit? input choices thresholds.score = some hit →
        result = (some ⟨hit.index, .keyword hit.phrase⟩, state, [])) ∧
      (keywordHit? input choices thresholds.score = none →
        (choices = [] ∨ matcher = none → result = (none, state, [])) ∧
        ∀ ask, matcher = some ask → choices ≠ [] →
          result.2 = (((ask input choices).run state).2, [(input, choices)]) ∧
          ∀ chosen, result.1 = some chosen ↔
            ∃ answer, ((ask input choices).run state).1 = some answer ∧ answer.matched = true ∧
              answer.index = some (chosen.index : Int) ∧ chosen.index < choices.length ∧
              thresholds.confidence ≤ answer.confidence ∧ chosen.means = .semantic answer.confidence)) := by
  intro result
  refine ⟨run_choose_noting matcher thresholds input choices state [], fun chosen => index_lt_of_choose, ?_, ?_⟩
  next =>
    intro words ⟨choice, member, called⟩
    cases found : exactHit? input choices with
    | none =>
      rcases exactHit?_eq_none_iff.mp found with blank | silent
      next => exact absurd blank words
      next => exact absurd called (silent choice member)
    | some hit =>
      obtain ⟨choice, position, phrase, first, called, reported⟩ := first_of_exactHit? found
      refine ⟨hit.index, choice, position, phrase, first, called, ?_⟩
      rw [← reported]
      exact run_choose_of_byWords? (byWords?_of_exactHit? found) _ _
  next =>
    intro silent
    have tiers := @byWords?_of_keywordHit? _ _ thresholds.score (exactHit?_eq_none_iff.mpr silent)
    refine ⟨fun hit found => ?_, fun missed => ?_⟩
    next =>
      rw [found] at tiers
      exact run_choose_of_byWords? tiers _ _
    next =>
      rw [missed] at tiers
      refine ⟨fun unasked => ?_, ?_⟩
      next => exact run_choose_unasked tiers (unasked.imp_right fun without => by rw [without, Option.map_none]) _
      next =>
        rintro ask rfl offered
        have asked : result = _ := run_choose_asked tiers offered (state, [])
        rw [run_noting] at asked
        rw [asked]
        refine ⟨rfl, fun chosen => ?_⟩
        simp only [Option.bind_eq_some_iff, accept?_eq_some_iff]

-- Keywords alone would choose the first of the two.
theorem chosen_by_first_tier_going_home :
    let input := " go  HOME "
    let choices : List Choice := [⟨"go to her home", none, none⟩, ⟨"leave", some ["walk off", "Go Home"], none⟩]
    let matcher : Matcher Unit := fun _ _ => pure none
    let result := (choose (some (noting matcher)) {} input choices).run ((), [])
    (keywordHit? input choices 1).map (·.index) = some 0 ∧ (∃ choice ∈ choices, Calls input choice) ∧
      result.1.map (fun chosen => (chosen.index, chosen.means.phrase?)) = some (1, some "Go Home") ∧
      result.2 = ((), []) := by
  intro input choices matcher result
  have words : Text.normalize input ≠ [] := by decide +kernel
  have called : ∃ choice ∈ choices, Calls input choice :=
    ⟨_, List.mem_cons_of_mem _ List.mem_cons_self, "Go Home", by decide, by unfold Says; decide +kernel⟩
  obtain ⟨_, _, _, _, _, _, same⟩ := (chosen_by_first_tier (some matcher) {} input choices ()).2.2.1 words called
  exact ⟨by decide +kernel, called, by decide +kernel, congrArg Prod.snd same⟩

end Gamebook.Matching
