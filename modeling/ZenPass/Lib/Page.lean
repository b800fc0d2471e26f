import Mathlib.Data.List.Sort
import Mathlib.Order.Basic

set_option autoImplicit false

namespace ZenPass.Paging

variable {α κ : Type} [LinearOrder κ] (key : α → κ)

def above (rows : List α) (after : κ) : List α :=
  (rows.filter fun row => decide (after < key row)).insertionSort fun a b => key a ≤ key b

def page (rows : List α) (after : κ) (limit : Nat) : List α := (above key rows after).take limit

variable {key} {rows : List α} {after : κ} {limit : Nat}

@[simp] theorem mem_above {row : α} : row ∈ above key rows after ↔ row ∈ rows ∧ after < key row := by
  rw [above, List.mem_insertionSort, List.mem_filter, decide_eq_true_eq]

theorem pairwise_above : (above key rows after).Pairwise fun a b => key a ≤ key b := by
  have total : Std.Total fun a b : α => key a ≤ key b := ⟨fun a b => le_total (key a) (key b)⟩
  have trans : IsTrans α fun a b => key a ≤ key b := ⟨fun _ _ _ => le_trans⟩
  exact List.pairwise_insertionSort _ _

theorem mem_of_mem_page {row : α} (member : row ∈ page key rows after limit) :
    row ∈ rows ∧ after < key row := mem_above.mp (List.mem_of_mem_take member)

theorem mem_page_of_le_last {row last : α}
    (injective : ∀ a ∈ rows, ∀ b ∈ rows, key a = key b → a = b)
    (final : (page key rows after limit).getLast? = some last) (member : row ∈ rows)
    (beyond : after < key row) (bound : key row ≤ key last) : row ∈ page key rows after limit := by
  have sorted : (above key rows after).Pairwise fun a b => key a ≤ key b := pairwise_above
  have lastMember := List.mem_of_getLast? final
  have listed : row ∈ above key rows after := mem_above.mpr ⟨member, beyond⟩
  rw [← List.take_append_drop limit (above key rows after)] at sorted listed
  rw [List.pairwise_append] at sorted
  obtain taken | dropped := List.mem_append.mp listed
  · exact taken
  · have order := sorted.2.2 last lastMember row dropped
    have same := injective row member last (mem_of_mem_page lastMember).1 (le_antisymm bound order)
    rw [same]
    exact lastMember

theorem page_eq_nil (positive : 0 < limit) :
    page key rows after limit = [] ↔ ∀ row ∈ rows, key row ≤ after := by
  rw [page, List.take_eq_nil_iff, or_iff_right positive.ne', List.eq_nil_iff_forall_not_mem]
  simp

theorem above_eq_filter {last : κ} (injective : ∀ a ∈ rows, ∀ b ∈ rows, key a = key b → a = b)
    (later : after ≤ last) :
    above key rows last = (above key rows after).filter fun row => decide (last < key row) := by
  have sortedLast : (above key rows last).Pairwise fun a b => key a ≤ key b := pairwise_above
  have sortedRest : ((above key rows after).filter fun row => decide (last < key row)).Pairwise
      fun a b => key a ≤ key b := pairwise_above.filter _
  refine List.Perm.eq_of_pairwise ?_ sortedLast sortedRest ?_
  · intro a b ha hb first second
    rw [List.mem_filter, mem_above] at hb
    exact injective a (mem_above.mp ha).1 b hb.1.1 (le_antisymm first second)
  · have sorted := (List.perm_insertionSort (fun a b => key a ≤ key b)
      (rows.filter fun row => decide (after < key row))).filter fun row => decide (last < key row)
    rw [List.filter_filter] at sorted
    refine (List.perm_insertionSort _ _).trans (List.Perm.trans ?_ sorted.symm)
    rw [List.filter_congr]
    intro row _
    rw [Bool.eq_iff_iff, Bool.and_eq_true, decide_eq_true_eq, decide_eq_true_eq]
    exact ⟨fun beyond => ⟨beyond, lt_of_le_of_lt later beyond⟩, fun both => both.1⟩

theorem length_above :
    (above key rows after).length = (rows.filter fun row => decide (after < key row)).length :=
  List.length_insertionSort _ _

theorem nodup_above (nodup : rows.Nodup) : (above key rows after).Nodup :=
  (List.perm_insertionSort _ _).nodup_iff.mpr (nodup.filter _)

theorem above_last {last : α} (nodup : rows.Nodup)
    (injective : ∀ a ∈ rows, ∀ b ∈ rows, key a = key b → a = b)
    (final : (page key rows after limit).getLast? = some last) :
    above key rows (key last) = (above key rows after).drop limit := by
  have member := List.mem_of_getLast? final
  have distinct : (above key rows after).Nodup := nodup_above nodup
  have sorted : (above key rows after).Pairwise fun a b => key a ≤ key b := pairwise_above
  rw [above_eq_filter injective (mem_of_mem_page member).2.le]
  have split : above key rows after = page key rows after limit ++ (above key rows after).drop limit :=
    (List.take_append_drop limit _).symm
  rw [split] at sorted distinct
  rw [List.pairwise_append] at sorted
  rw [List.nodup_append] at distinct
  obtain ⟨before, whole⟩ := List.getLast?_eq_some_iff.mp final
  have taken : (page key rows after limit).filter (fun row => decide (key last < key row)) = [] := by
    rw [List.filter_eq_nil_iff]
    intro row there
    rw [decide_eq_true_eq, not_lt]
    have order := sorted.1
    rw [whole, List.pairwise_append] at order
    rw [whole, List.mem_append, List.mem_singleton] at there
    rcases there with earlier | rfl
    · exact order.2.2 row earlier last (List.mem_singleton_self _)
    · exact le_rfl
  have dropped : ((above key rows after).drop limit).filter
      (fun row => decide (key last < key row)) = (above key rows after).drop limit := by
    rw [List.filter_eq_self]
    intro row there
    rw [decide_eq_true_eq]
    refine lt_of_le_of_ne (sorted.2.2 last member row there) fun same => ?_
    have listed : row ∈ rows := (mem_above.mp (List.mem_of_mem_drop there)).1
    exact distinct.2.2 last member row there
      (injective last (mem_of_mem_page member).1 row listed same)
  rw [split, List.filter_append, taken, List.nil_append, ← split, dropped]

end ZenPass.Paging
