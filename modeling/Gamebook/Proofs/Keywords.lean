import Mathlib.Data.Set.Card
import Gamebook.Proofs.ChoosingTiers
import Gamebook.Proofs.Pieces

set_option autoImplicit false

namespace Gamebook.Matching

open Gamebook.Text

section

variable {α β : Type} {score : α → Nat} {items : List α}

def highest (score : α → Nat) (items : List α) : Nat := (items.map score).max?.getD 0

theorem le_highest {item : α} (member : item ∈ items) : score item ≤ highest score items :=
  List.le_max?_getD_of_mem (List.mem_map_of_mem member)

theorem highest_le {bound : Nat} (most : ∀ item ∈ items, score item ≤ bound) : highest score items ≤ bound := by
  unfold highest
  cases best : (items.map score).max? with
  | none => exact Nat.zero_le _
  | some top =>
    obtain ⟨item, member, rfl⟩ := List.mem_map.mp (List.max?_mem best)
    exact most item member

def FirstBest (score : α → Nat) (items : List α) (index : Nat) (item : α) : Prop :=
  First (fun other => score other = highest score items) items index item

theorem FirstBest.of_zipIdx {index : Nat} {numbered : α × Nat}
    (first : FirstBest (fun other => score other.1) items.zipIdx index numbered) :
    FirstBest score items numbered.2 numbered.1 := by
  have same : highest (fun other => score other.1) items.zipIdx = highest score items := by
    have scores : (items.zipIdx.map Prod.fst).map score = items.map score := by rw [List.zipIdx_map_fst]
    rw [highest, highest, ← scores, List.map_map]
    rfl
  rw [FirstBest, same] at first
  exact first.of_zipIdx

theorem firstBest_append {before after : List α} {item : α} (behind : ∀ other ∈ before, score other < score item)
    (within : ∀ other ∈ after, score other ≤ score item) :
    FirstBest score (before ++ item :: after) before.length item := by
  have best : highest score (before ++ item :: after) = score item := by
    refine Nat.le_antisymm (highest_le fun other member => ?_) (le_highest (by simp))
    rcases List.mem_append.mp member with early | late
    next => exact Nat.le_of_lt (behind other early)
    next =>
      rcases List.mem_cons.mp late with rfl | late
      next => exact Nat.le_refl _
      next => exact within other late
  refine first_append best.symm fun other member same => ?_
  have lower := behind other member
  omega

-- Only a higher score replaces the leader. So the last leader is the one at the start, if no score is higher than its
-- own, or else the first of the best.
theorem foldl_leader (score : α → Nat) (value : β → Nat) (lead : α → β)
    (valued : ∀ item, value (lead item) = score item) (start : β) (items : List α) :
    (items.foldl (fun best item => if value best < score item then lead item else best) start = start ∧
      ∀ item ∈ items, score item ≤ value start) ∨
    ∃ before item after, items = before ++ item :: after ∧ value start < score item ∧
      (∀ other ∈ before, score other < score item) ∧ (∀ other ∈ after, score other ≤ score item) ∧
      items.foldl (fun best item => if value best < score item then lead item else best) start = lead item := by
  induction items generalizing start with
  | nil => exact .inl ⟨rfl, nofun⟩
  | cons item items ih =>
    rw [List.foldl_cons]
    by_cases higher : value start < score item
    next =>
      rw [if_pos higher]
      rcases ih (lead item) with ⟨kept, most⟩ | ⟨before, best, after, rfl, above, behind, within, found⟩
      next =>
        rw [valued] at most
        exact .inr ⟨[], item, items, rfl, higher, nofun, most, kept⟩
      next =>
        rw [valued] at above
        refine .inr ⟨item :: before, best, after, rfl, higher.trans above, ?_, within, found⟩
        exact List.forall_mem_cons.mpr ⟨above, behind⟩
    next =>
      rw [if_neg higher]
      rw [Nat.not_lt] at higher
      rcases ih start with ⟨kept, most⟩ | ⟨before, best, after, rfl, above, behind, within, found⟩
      next => exact .inl ⟨kept, List.forall_mem_cons.mpr ⟨higher, most⟩⟩
      next =>
        refine .inr ⟨item :: before, best, after, rfl, above, ?_, within, found⟩
        exact List.forall_mem_cons.mpr ⟨higher.trans_lt above, behind⟩

end

def keywords (input phrase : String) : Set (List Char) :=
  {word | 3 ≤ word.length ∧ IsWord input word ∧ IsWord phrase word}

noncomputable def phraseScore (input phrase : String) : Nat := (keywords input phrase).ncard

noncomputable def choiceScore (input : String) (choice : Choice) : Nat := highest (phraseScore input) choice.phrases

theorem keywordScore_eq (input : String) : keywordScore (tokens input) = phraseScore input := by
  funext phrase
  have shared : keywords input phrase =
      ((tokens input).filter fun word => 3 ≤ word.length && (tokens phrase).contains word).toFinset := by
    ext word
    simp [keywords, mem_tokens_iff, and_left_comm]
  have distinct : (tokens input).Nodup := nodup_eraseDups _
  rw [phraseScore, shared, Set.ncard_coe_finset, List.toFinset_card_of_nodup (distinct.filter _), keywordScore]

-- The text of a choice stands before its aliases, and a hit by the text names no phrase.
def reported (position : Nat) (phrase : String) : Option String := if position = 0 then none else some phrase

theorem bestPhrase_spec (input : String) (choice : Choice) :
    ∃ position phrase, FirstBest (phraseScore input) choice.phrases position phrase ∧
      bestPhrase (tokens input) choice = (choiceScore input choice, reported position phrase) := by
  unfold bestPhrase
  rw [keywordScore_eq]
  rcases foldl_leader (phraseScore input) Prod.fst (fun phrase => (phraseScore input phrase, some phrase))
    (fun _ => rfl) (phraseScore input choice.text, none) (choice.aliases.getD []) with
    ⟨kept, most⟩ | ⟨before, phrase, after, aliases, above, behind, within, found⟩
  next =>
    have first := @firstBest_append _ (phraseScore input) [] _ _ nofun most
    refine ⟨0, choice.text, first, ?_⟩
    rw [kept, first.fits]
    rfl
  next =>
    have first := @firstBest_append _ (phraseScore input) (choice.text :: before) _ _
      (List.forall_mem_cons.mpr ⟨above, behind⟩) within
    rw [List.cons_append, ← aliases] at first
    refine ⟨before.length + 1, phrase, first, ?_⟩
    rw [found, first.fits]
    rfl

/-- The first choice with the best score, and the first of its phrases with that score. -/
structure BestHit (input : String) (choices : List Choice) (hit : Hit) : Prop where
  score : hit.score = highest (choiceScore input) choices
  found : ∃ choice position phrase, FirstBest (choiceScore input) choices hit.index choice ∧
    FirstBest (phraseScore input) choice.phrases position phrase ∧ hit.phrase = reported position phrase

theorem BestHit.unique {input : String} {choices : List Choice} {hit other : Hit} (best : BestHit input choices hit)
    (same : BestHit input choices other) : hit = other := by
  obtain ⟨index, phrase, score⟩ := hit
  obtain ⟨another, words, more⟩ := other
  obtain ⟨rfl, choice, position, said, first, called, rfl⟩ := best
  obtain ⟨rfl, _, _, _, again, once, rfl⟩ := same
  obtain ⟨rfl, rfl⟩ := First.unique first again
  obtain ⟨rfl, rfl⟩ := First.unique called once
  rfl

theorem leader_spec (input : String) (choices : List Choice) :
    (choices.zipIdx.foldl (better (tokens input)) none = none ∧ highest (choiceScore input) choices = 0) ∨
      ∃ hit, choices.zipIdx.foldl (better (tokens input)) none = some hit ∧ BestHit input choices hit := by
  have scored (choice : Choice) : (bestPhrase (tokens input) choice).1 = choiceScore input choice := by
    obtain ⟨_, _, _, same⟩ := bestPhrase_spec input choice
    rw [same]
  have step : better (tokens input) = fun best next =>
      if (best.map Hit.score).getD 0 < choiceScore input next.1 then
        some ⟨next.2, (bestPhrase (tokens input) next.1).2, choiceScore input next.1⟩
      else best := by
    funext best next
    rw [better, scored]
  rw [step]
  rcases foldl_leader (fun next : Choice × Nat => choiceScore input next.1)
    (fun best : Option Hit => (best.map Hit.score).getD 0)
    (fun next => some ⟨next.2, (bestPhrase (tokens input) next.1).2, choiceScore input next.1⟩)
    (fun _ => rfl) none choices.zipIdx with
    ⟨kept, none_higher⟩ | ⟨before, next, after, numbered, -, behind, within, found⟩
  next =>
    refine .inl ⟨kept, Nat.le_zero.mp (highest_le fun choice member => ?_)⟩
    rw [← List.zipIdx_map_fst 0 choices] at member
    obtain ⟨next, inside, rfl⟩ := List.mem_map.mp member
    exact none_higher next inside
  next =>
    have first := firstBest_append behind within
    rw [← numbered] at first
    obtain ⟨position, phrase, called, same⟩ := bestPhrase_spec input next.1
    have led := first.of_zipIdx
    refine .inr ⟨_, found, led.fits, next.1, position, phrase, led, called, ?_⟩
    rw [same]

theorem keywordHit?_eq_some_iff {input : String} {choices : List Choice} {least : Int} {hit : Hit} :
    keywordHit? input choices least = some hit ↔
      max least 1 ≤ (highest (choiceScore input) choices : Int) ∧ BestHit input choices hit := by
  rw [keywordHit?, Option.filter_eq_some_iff]
  rcases leader_spec input choices with ⟨nobody, nothing⟩ | ⟨leader, leads, best⟩
  next =>
    rw [nobody, nothing]
    refine iff_of_false nofun ?_
    rintro ⟨enough, -⟩
    omega
  next =>
    rw [leads, ← best.score, decide_eq_true_iff, Option.some.injEq]
    constructor
    next =>
      rintro ⟨rfl, enough⟩
      exact ⟨enough, best⟩
    next =>
      rintro ⟨enough, same⟩
      cases best.unique same
      exact ⟨rfl, enough⟩

theorem exists_bestHit {input : String} {choices : List Choice} (shared : 0 < highest (choiceScore input) choices) :
    ∃ hit, BestHit input choices hit := by
  rcases leader_spec input choices with ⟨-, nothing⟩ | ⟨leader, -, best⟩
  next => omega
  next => exact ⟨leader, best⟩

/-- Keywords find nothing exactly when the best score is too low, and else the first choice with the best score, by its
text if that has the score and else by the first alias that has it. -/
theorem keyword_hit_is_first_best (input : String) (choices : List Choice) (least : Int) :
    (keywordHit? input choices least = none ↔
      choices = [] ∨ (highest (choiceScore input) choices : Int) < max least 1) ∧
    ∀ hit, keywordHit? input choices least = some hit ↔
      max least 1 ≤ (highest (choiceScore input) choices : Int) ∧ BestHit input choices hit := by
  refine ⟨⟨fun missed => ?_, fun low => ?_⟩, fun hit => keywordHit?_eq_some_iff⟩
  next =>
    refine .inr (Int.not_le.mp fun enough => ?_)
    obtain ⟨hit, best⟩ := @exists_bestHit input choices (by omega)
    rw [keywordHit?_eq_some_iff.mpr ⟨enough, best⟩] at missed
    cases missed
  next =>
    refine Option.eq_none_iff_forall_ne_some.mpr fun hit found => ?_
    obtain ⟨enough, -⟩ := keywordHit?_eq_some_iff.mp found
    rcases low with rfl | low
    next =>
      change max least 1 ≤ 0 at enough
      omega
    next => omega

-- Neither an alias nor a later choice with the same score takes the place of the first.
example :
    keywordHit? "the old door" [⟨"Old door!", some ["door, old"], none⟩, ⟨"the door", none, none⟩] 1 =
      some ⟨0, none, 2⟩ := by
  decide +kernel

end Gamebook.Matching
