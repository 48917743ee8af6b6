import Mathlib.Data.List.Basic
import Gamebook.Text.Phrase

set_option autoImplicit false

namespace Gamebook.Text

variable {parts : Char → Bool}

structure Piece (parts : Char → Bool) (cs piece : List Char) : Prop where
  plain : ∀ c ∈ piece, parts c = false
  placed : ∃ before after, cs = before ++ (piece ++ after) ∧ (∀ c ∈ before.getLast?, parts c = true) ∧
    ∀ c ∈ after.head?, parts c = true

theorem exists_parting (cs : List Char) :
    (∀ c ∈ cs, parts c = false) ∨
      ∃ front bar rest, cs = front ++ bar :: rest ∧ (∀ c ∈ front, parts c = false) ∧ parts bar = true := by
  cases found : cs.find? parts with
  | none => exact .inl fun c member => by simpa using List.find?_eq_none.mp found c member
  | some bar =>
    obtain ⟨bars, front, rest, same, plain⟩ := List.find?_eq_some_iff_append.mp found
    exact .inr ⟨front, bar, rest, same, fun c member => by simpa using plain c member, bars⟩

theorem Piece.after {front rest piece : List Char} {bar : Char} (bars : parts bar = true)
    (stands : Piece parts rest piece) : Piece parts (front ++ bar :: rest) piece := by
  obtain ⟨plain, before, after, rfl, starts, ends⟩ := stands
  refine ⟨plain, front ++ bar :: before, after, by simp, fun c last => ?_, ends⟩
  rw [List.getLast?_append, List.getLast?_cons] at last
  cases final : before.getLast? with
  | none =>
    rw [final] at last
    cases last
    exact bars
  | some d =>
    rw [final] at last
    cases last
    exact starts d final

theorem piece_of_mem_splitOnP {cs piece : List Char} (member : piece ∈ cs.splitOnP parts) : Piece parts cs piece := by
  rcases exists_parting cs with plain | ⟨front, bar, rest, same, plain, bars⟩
  next =>
    rw [List.splitOnP_eq_singleton plain, List.mem_singleton] at member
    rw [member]
    exact ⟨plain, [], [], by simp, nofun, nofun⟩
  next =>
    -- What stands before the first parting character is one piece; the others lie behind it.
    rw [same, List.splitOnP_append_cons_of_forall_mem plain bar bars, List.mem_cons] at member
    rw [same]
    rcases member with rfl | later
    next => exact ⟨plain, [], bar :: rest, rfl, nofun, by rintro c ⟨⟩; exact bars⟩
    next => exact (piece_of_mem_splitOnP later).after bars
termination_by cs.length
decreasing_by
  rw [same, List.length_append, List.length_cons]
  omega

theorem mem_splitOnP_of_piece {cs piece : List Char} (stands : Piece parts cs piece) : piece ∈ cs.splitOnP parts := by
  obtain ⟨plain, before, after, rfl, starts, ends⟩ := stands
  have first : piece ∈ (piece ++ after).splitOnP parts := by
    cases after with
    | nil => rw [List.append_nil, List.splitOnP_eq_singleton plain, List.mem_singleton]
    | cons bar rest =>
      rw [List.splitOnP_append_cons_of_forall_mem plain bar (ends bar rfl)]
      exact List.mem_cons_self
  rcases List.eq_nil_or_concat before with rfl | ⟨front, bar, rfl⟩
  next => exact first
  next =>
    rw [List.concat_eq_append] at starts ⊢
    rw [List.append_assoc, List.singleton_append,
      List.splitOnP_append_cons front _ (starts bar List.getLast?_concat)]
    exact List.mem_append_right _ first

theorem not_mem_of_mem_splitOn {bar : Char} {cs part : List Char} (member : part ∈ cs.splitOn bar) : bar ∉ part := by
  rw [List.splitOn_eq_splitOnP] at member
  intro inside
  simpa using (piece_of_mem_splitOnP member).plain bar inside

theorem isInfix_of_mem_splitOn {bar : Char} {cs part : List Char} (member : part ∈ cs.splitOn bar) : part <:+: cs := by
  rw [List.splitOn_eq_splitOnP] at member
  obtain ⟨-, before, after, rfl, -, -⟩ := piece_of_mem_splitOnP member
  exact ⟨before, after, by simp⟩

theorem nodup_eraseDups {α : Type} [BEq α] [LawfulBEq α] (items : List α) : items.eraseDups.Nodup := by
  cases items with
  | nil => simp
  | cons item items =>
    rw [List.eraseDups_cons, List.nodup_cons]
    exact ⟨by simp [List.mem_eraseDups], nodup_eraseDups _⟩
termination_by items.length
decreasing_by exact Nat.lt_succ_of_le (List.length_filter_le _ _)

/-- A word of a phrase, in lower case. -/
def IsWord (phrase : String) (word : List Char) : Prop :=
  word ≠ [] ∧ Piece partsWords (lowerChars phrase.toList) word

theorem mem_tokens_iff {phrase : String} {word : List Char} : word ∈ tokens phrase ↔ IsWord phrase word := by
  rw [tokens, List.mem_eraseDups, List.mem_filter, IsWord, and_comm]
  refine and_congr (by simp) ⟨piece_of_mem_splitOnP, mem_splitOnP_of_piece⟩

end Gamebook.Text
