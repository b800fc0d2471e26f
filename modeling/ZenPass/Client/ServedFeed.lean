import ZenPass.Client.VaultLoading
import ZenPass.Web.QuiescentPull

set_option autoImplicit false

namespace ZenPass.Client

open Sdk
open Paging (PagedFeed)

section Feed

variable {backend : Sync.Backend} (database : Sync.Tables) (vaultId : Id)

def feedRows : List Sync.ItemRow :=
  Paging.above Sync.ItemRow.sequence (database.vaultRows vaultId) 0

def sequenceAt : Nat → Nat
  | 0 => 0
  | position + 1 => ((feedRows database vaultId)[position]?).elim 0 Sync.ItemRow.sequence

variable {database} {vaultId} (sound : database.Sound backend)
include sound

theorem above_sequenceAt {position : Nat} (within : position ≤ (feedRows database vaultId).length) :
    Paging.above Sync.ItemRow.sequence (database.vaultRows vaultId)
      (sequenceAt database vaultId position) = (feedRows database vaultId).drop position := by
  cases position with
  | zero => rfl
  | succ position =>
      have final : (Paging.page Sync.ItemRow.sequence (database.vaultRows vaultId) 0
          (position + 1)).getLast? = (feedRows database vaultId)[position]? := by
        rw [List.getLast?_eq_getElem?, Paging.page, List.length_take, List.getElem?_take]
        change _ = (Paging.above _ _ _)[position]?
        rw [feedRows] at within
        rw [Nat.min_eq_left within, Nat.add_sub_cancel, if_pos (Nat.lt_succ_self position)]
      rw [List.getElem?_eq_getElem within] at final
      rw [sequenceAt, List.getElem?_eq_getElem within]
      exact Paging.above_last (Sync.Tables.vaultRows_nodup sound)
        (Sync.Tables.vaultRows_injective sound) final

theorem sequenceAt_lt {first second : Nat} (order : first < second)
    (within : second ≤ (feedRows database vaultId).length) :
    sequenceAt database vaultId first < sequenceAt database vaultId second := by
  cases second with
  | zero => omega
  | succ last =>
      have later : (feedRows database vaultId)[last] ∈ (feedRows database vaultId).drop first := by
        rw [List.mem_iff_getElem]
        refine ⟨last - first, by rw [List.length_drop]; omega, ?_⟩
        rw [List.getElem_drop]
        congr 1
        omega
      rw [← above_sequenceAt sound (by omega), Paging.mem_above] at later
      rw [sequenceAt.eq_2 _ _ last, List.getElem?_eq_getElem within]
      exact later.2

end Feed

section Served

variable (timeText : Sync.WireTime → String) {backend : Sync.Backend} {database : Sync.Tables}
  {vaultId : Id}

/-- The rows of the vault in pages of so many. -/
def databaseFeed (sound : database.Sound backend) (vaultId : Id) (size : Nat) (positive : 0 < size) :
    PagedFeed ItemRecord where
  records := (feedRows database vaultId).map (Web.rowText timeText backend)
  size
  cursorAt position := Wire.encodeCursor (sequenceAt database vaultId position)
  positive
  named position empty := by
    have decoded := Wire.decodeCursor_encodeCursor true (sequenceAt database vaultId position)
    rw [empty] at decoded
    cases decoded
  injective first firstWithin second secondWithin same := by
    rw [List.length_map] at firstWithin secondWithin
    have sequences := Wire.encodeCursor_injective same
    rcases Nat.lt_trichotomy first second with lower | equal | higher
    · exact absurd sequences (sequenceAt_lt sound lower secondWithin).ne
    · exact equal
    · exact absurd sequences (sequenceAt_lt sound higher firstWithin).ne'

/-- Both backends serve the rows of an existing vault as an honest feed. -/
theorem getChanges_serves (sound : database.Sound backend) {accountId : Id} {limit : Option Int}
    {size : Nat} (valid : Sync.isValidId vaultId = true)
    (limited : Sync.pageLimit limit = some size) (positive : 0 < size)
    (owner : database.store.owners vaultId = some accountId) :
    ServesChanges (databaseFeed timeText sound vaultId size positive) fun _ cursor =>
      (database.getChanges backend accountId vaultId cursor limit).map fun served =>
        Web.pageOf timeText served.1 served.2 := by
  intro _ cursor position within stands
  have whole : position ≤ (feedRows database vaultId).length := by
    simpa [databaseFeed] using within
  have known : Sync.Tables.cursorSequence backend cursor =
      some (sequenceAt database vaultId position) := by
    cases cursor with
    | none =>
        obtain rfl : position = 0 := stands
        rfl
    | some cursor =>
        obtain rfl : cursor = Wire.encodeCursor (sequenceAt database vaultId position) := stands
        exact Wire.decodeCursor_encodeCursor _ _
  have encoded : cursor.getD (Wire.encodeCursor 0) =
      Wire.encodeCursor (sequenceAt database vaultId position) := by
    cases cursor with
    | none =>
        obtain rfl : position = 0 := stands
        rfl
    | some cursor => exact stands
  have listed : database.listChanges vaultId (sequenceAt database vaultId position) size =
      ((feedRows database vaultId).drop position).take size := by
    rw [Sync.Tables.listChanges, Paging.page, above_sequenceAt sound whole]
  have next : ((database.listChanges vaultId (sequenceAt database vaultId position)
      size).getLast?).elim (cursor.getD (Wire.encodeCursor 0))
        (fun row => Wire.encodeCursor row.sequence) = Wire.encodeCursor
          (sequenceAt database vaultId (min (position + size) (feedRows database vaultId).length)) := by
    rw [listed, encoded]
    by_cases atEnd : position = (feedRows database vaultId).length
    · subst atEnd
      rw [List.drop_length, List.take_nil, Nat.min_eq_right (Nat.le_add_right _ _)]
      rfl
    · obtain ⟨last, is⟩ : ∃ last,
          min (position + size) (feedRows database vaultId).length = last + 1 :=
        Nat.exists_eq_succ_of_ne_zero (by omega)
      have there : last < (feedRows database vaultId).length := by omega
      rw [is, sequenceAt, List.getElem?_eq_getElem there, List.getLast?_eq_getElem?,
        List.length_take, List.length_drop, List.getElem?_take, List.getElem?_drop,
        if_pos (by omega)]
      have index : position + (min size ((feedRows database vaultId).length - position) - 1) =
          last := by omega
      rw [index, List.getElem?_eq_getElem there]
      rfl
  dsimp only
  rw [Web.getChanges_of_owner valid known limited owner, Option.map_some, next, listed]
  congr 1
  rw [Web.pageOf, List.map_map, PagedFeed.chunk, PagedFeed.next, databaseFeed, List.length_map,
    List.map_take, List.map_drop]
  rfl

end Served

end ZenPass.Client
