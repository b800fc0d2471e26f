import Mathlib.Data.List.Basic
import Mathlib.Tactic.Common

set_option autoImplicit false

namespace ZenPass.Paging

structure PagedFeed (ρ : Type) where
  records : List ρ
  size : Nat
  cursorAt : Nat → String
  positive : 0 < size
  named : ∀ position, cursorAt position ≠ ""
  injective : ∀ first ≤ records.length, ∀ second ≤ records.length,
    cursorAt first = cursorAt second → first = second

namespace PagedFeed

variable {ρ σ : Type} (feed : PagedFeed ρ)

def chunk (position : Nat) : List ρ := (feed.records.drop position).take feed.size

def next (position : Nat) : Nat := min (position + feed.size) feed.records.length

def StandsFor : Option String → Nat → Prop
  | none, position => position = 0
  | some cursor, position => cursor = feed.cursorAt position

variable {feed} {position : Nat}

theorem next_le (position : Nat) : feed.next position ≤ feed.records.length := Nat.min_le_right _ _

theorem chunk_eq_nil : feed.chunk position = [] ↔ feed.records.length ≤ position := by
  rw [chunk, List.take_eq_nil_iff, or_iff_right (Nat.ne_of_gt feed.positive), List.drop_eq_nil_iff]

theorem lt_next (more : position < feed.records.length) : position < feed.next position := by
  have positive := feed.positive
  unfold next
  omega

theorem next_of_end (atEnd : position = feed.records.length) :
    feed.next position = feed.records.length := by
  unfold next
  omega

theorem chunk_append_drop (position : Nat) :
    feed.chunk position ++ feed.records.drop (feed.next position) = feed.records.drop position := by
  have rest : feed.records.drop (feed.next position) =
      (feed.records.drop position).drop feed.size := by
    rw [List.drop_drop]
    by_cases within : position + feed.size ≤ feed.records.length
    · rw [next, Nat.min_eq_left within]
    · rw [next, Nat.min_eq_right (by omega), List.drop_length, List.drop_eq_nil_of_le (by omega)]
  rw [rest, chunk, List.take_append_drop]

theorem length_chunk (within : position ≤ feed.records.length) :
    position + (feed.chunk position).length = feed.next position := by
  rw [chunk, List.length_take, List.length_drop, next]
  omega

theorem foldl_chunk (f : σ → ρ → σ) (start : σ) (position : Nat) :
    (feed.records.drop (feed.next position)).foldl f ((feed.chunk position).foldl f start) =
      (feed.records.drop position).foldl f start := by
  rw [← List.foldl_append, chunk_append_drop]

def positionOf (feed : PagedFeed ρ) : Option String → Nat
  | none => 0
  | some cursor =>
      ((List.range (feed.records.length + 1)).find? fun position =>
        feed.cursorAt position = cursor).getD 0

theorem positionOf_eq {cursor : Option String} (stands : feed.StandsFor cursor position)
    (within : position ≤ feed.records.length) : feed.positionOf cursor = position := by
  cases cursor with
  | none => exact stands.symm
  | some cursor =>
      have names : cursor = feed.cursorAt position := stands
      subst names
      rw [positionOf]
      cases found : (List.range (feed.records.length + 1)).find? fun other =>
          feed.cursorAt other = feed.cursorAt position with
      | none =>
          rw [List.find?_eq_none] at found
          exact absurd (decide_eq_true rfl) (found position (List.mem_range.mpr (by omega)))
      | some other =>
          have listed := List.mem_range.mp (List.mem_of_find?_eq_some found)
          have same := List.find?_some found
          rw [decide_eq_true_eq] at same
          exact feed.injective other (by omega) position within same

end PagedFeed

end ZenPass.Paging
