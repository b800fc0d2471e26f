import ZenPass.Sdk.SyncEngine

set_option autoImplicit false

namespace ZenPass.Sdk

open KeyedStore

def PlainId (id : Id) : Prop := '\x00' ∉ id.toList

/-- Records and cursors are keyed stores apart from the queue. `kept` is what the implementation
keeps about its rows. -/
structure LocalRepository.RecordLaws {σ : Type}
    (repo : LocalRepository σ ItemRecord RecordConflictError) (kept : σ → Prop) : Prop where
  putItem_iff : ∀ state item, (repo.putItem state item).isOk = true ↔
    (assertMonotonicPut (repo.getItem state item.vaultId item.itemId) item).isOk = true
  getItem_putItem : ∀ state item next, repo.putItem state item = .ok next →
    PlainId item.vaultId → ∀ vaultId itemId, PlainId vaultId →
      repo.getItem next vaultId itemId =
        if vaultId = item.vaultId ∧ itemId = item.itemId then some item
        else repo.getItem state vaultId itemId
  getItem_setCursor : ∀ state vaultId cursor other itemId,
    repo.getItem (repo.setCursor state vaultId cursor) other itemId =
      repo.getItem state other itemId
  getItem_enqueue : ∀ state entry vaultId itemId,
    repo.getItem (repo.enqueueMutation state entry) vaultId itemId =
      repo.getItem state vaultId itemId
  getItem_dequeue : ∀ state mutationId vaultId itemId,
    repo.getItem (repo.dequeueMutation state mutationId) vaultId itemId =
      repo.getItem state vaultId itemId
  getCursor_setCursor : ∀ state vaultId cursor other,
    repo.getCursor (repo.setCursor state vaultId cursor) other =
      if other = vaultId then some cursor else repo.getCursor state other
  getCursor_putItem : ∀ state item next, repo.putItem state item = .ok next → ∀ vaultId,
    repo.getCursor next vaultId = repo.getCursor state vaultId
  getCursor_enqueue : ∀ state entry vaultId,
    repo.getCursor (repo.enqueueMutation state entry) vaultId = repo.getCursor state vaultId
  getCursor_dequeue : ∀ state mutationId vaultId,
    repo.getCursor (repo.dequeueMutation state mutationId) vaultId = repo.getCursor state vaultId
  kept_putItem : ∀ state item next, repo.putItem state item = .ok next → kept state → kept next
  kept_setCursor : ∀ state vaultId cursor, kept state → kept (repo.setCursor state vaultId cursor)
  kept_enqueue : ∀ state entry, kept state → kept (repo.enqueueMutation state entry)
  kept_dequeue : ∀ state mutationId, kept state → kept (repo.dequeueMutation state mutationId)
  mem_listItems : ∀ state, kept state → ∀ vaultId record,
    record ∈ repo.listItems state vaultId ↔
      record.vaultId = vaultId ∧ repo.getItem state vaultId record.itemId = some record

structure LocalRepository.Fresh {σ : Type}
    (repo : LocalRepository σ ItemRecord RecordConflictError) (state : σ) : Prop where
  records : ∀ vaultId itemId, repo.getItem state vaultId itemId = none
  cursors : ∀ vaultId, repo.getCursor state vaultId = none

section Logged

variable {σ ρ ε : Type}

/-- The second component lists the records that `putItem` has written, oldest first. -/
def LocalRepository.logged (repo : LocalRepository σ ρ ε) : LocalRepository (σ × List ρ) ρ ε where
  getItem state := repo.getItem state.1
  putItem state item :=
    match repo.putItem state.1 item with
    | .error error => .error error
    | .ok next => .ok (next, state.2 ++ [item])
  listItems state := repo.listItems state.1
  getCursor state := repo.getCursor state.1
  setCursor state vaultId cursor := (repo.setCursor state.1 vaultId cursor, state.2)
  enqueueMutation state entry := (repo.enqueueMutation state.1 entry, state.2)
  getQueuedMutation state := repo.getQueuedMutation state.1
  listQueuedMutations state := repo.listQueuedMutations state.1
  dequeueMutation state mutationId := (repo.dequeueMutation state.1 mutationId, state.2)

variable (repo : LocalRepository σ ρ ε) (vaultOf : ρ → Id) (vaultId : Id)

theorem applyChanges_logged (changes : List ρ) (state : σ) (log : List ρ) (itemsApplied : Nat) :
    let logged := applyChanges repo.logged vaultOf vaultId (state, log) itemsApplied changes
    let plain := applyChanges repo vaultOf vaultId state itemsApplied changes
    logged.1.1 = plain.1 ∧ logged.2 = plain.2 := by
  induction changes generalizing state log itemsApplied with
  | nil => exact ⟨rfl, rfl⟩
  | cons change rest ih =>
      simp only [applyChanges]
      split
      · exact ⟨rfl, rfl⟩
      · simp only [LocalRepository.logged]
        cases repo.putItem state change with
        | error error => exact ⟨rfl, rfl⟩
        | ok next => exact ih next (log ++ [change]) (itemsApplied + 1)

theorem pullPages_logged (pages : Nat) (replies : List (Option (ChangePage ρ))) (state : σ)
    (log : List ρ) (cursor : Option String) (pagesApplied itemsApplied : Nat) :
    let logged := pullPages repo.logged vaultOf vaultId pages replies (state, log) cursor
      pagesApplied itemsApplied
    let plain := pullPages repo vaultOf vaultId pages replies state cursor pagesApplied itemsApplied
    logged.1.1 = plain.1 ∧ logged.2 = plain.2 := by
  induction pages generalizing replies state log cursor pagesApplied itemsApplied with
  | zero => exact ⟨rfl, rfl⟩
  | succ pages ih =>
      match replies with
      | [] => exact ⟨rfl, rfl⟩
      | none :: _ => exact ⟨rfl, rfl⟩
      | some page :: rest =>
          have same := applyChanges_logged repo vaultOf vaultId page.changes state log itemsApplied
          simp only [pullPages]
          generalize applyChanges repo vaultOf vaultId state itemsApplied page.changes = plain at same
          generalize applyChanges repo.logged vaultOf vaultId (state, log) itemsApplied page.changes =
            logged at same
          obtain ⟨next, applied, outcome⟩ := plain
          obtain ⟨⟨loggedNext, loggedLog⟩, counted⟩ := logged
          dsimp only at same
          obtain ⟨rfl, rfl⟩ := same
          cases outcome with
          | some outcome => exact ⟨rfl, rfl⟩
          | none =>
              dsimp only
              split
              · exact ih _ _ _ _ _ _
              · exact ⟨rfl, rfl⟩

theorem pull_logged (maxPages : Nat) (replies : List (Option (ChangePage ρ))) (state : σ)
    (log : List ρ) :
    let logged := pull repo.logged vaultOf vaultId maxPages replies (state, log)
    let plain := pull repo vaultOf vaultId maxPages replies state
    logged.1.1 = plain.1 ∧ logged.2 = plain.2 :=
  pullPages_logged repo vaultOf vaultId maxPages replies state log _ 0 0

end Logged

namespace InMemoryLocalRepository

def Keyed (repo : InMemoryLocalRepository) : Prop :=
  ∀ stored record, repo.items.get stored = some record → stored = key record.vaultId record.itemId

theorem keyed_empty : Keyed empty := by
  intro stored record found
  simp [empty, InsertionMap.get, InsertionMap.empty] at found

theorem fresh_empty : operations.Fresh empty := by
  constructor
  · intro vaultId itemId
    simp [operations, empty, InsertionMap.get, InsertionMap.empty]
  · intro vaultId
    simp [operations, empty, InsertionMap.get, InsertionMap.empty]

theorem append_nul_inj {a b c d : List Char} (plain : '\x00' ∉ a) (plain' : '\x00' ∉ b)
    (same : a ++ '\x00' :: c = b ++ '\x00' :: d) : a = b ∧ c = d := by
  induction a generalizing b with
  | nil =>
      cases b with
      | nil => exact ⟨rfl, (List.cons.inj same).2⟩
      | cons y b => exact absurd ((List.cons.inj same).1 ▸ List.mem_cons_self) plain'
  | cons x a ih =>
      cases b with
      | nil => exact absurd ((List.cons.inj same).1 ▸ List.mem_cons_self) plain
      | cons y b =>
          obtain ⟨rfl, rest⟩ := List.cons.inj same
          obtain ⟨rfl, rfl⟩ := ih (fun member => plain (List.mem_cons_of_mem _ member))
            (fun member => plain' (List.mem_cons_of_mem _ member)) rest
          exact ⟨rfl, rfl⟩

theorem key_injective {vaultId otherVault itemId otherItem : Id} (plain : PlainId vaultId)
    (plain' : PlainId otherVault) (same : key vaultId itemId = key otherVault otherItem) :
    vaultId = otherVault ∧ itemId = otherItem := by
  have chars := congrArg String.toList same
  simp only [key, String.toList_append, List.append_assoc] at chars
  obtain ⟨vault, item⟩ := append_nul_inj plain plain' chars
  exact ⟨String.ext vault, String.ext item⟩

theorem putItem_ok {repo next : InMemoryLocalRepository} {item : ItemRecord}
    (put : putItem repo item = .ok next) :
    next = { repo with items := repo.items.set (key item.vaultId item.itemId) item } := by
  unfold putItem at put
  split at put
  · cases put
    rfl
  · cases put

theorem operations_recordLaws : operations.RecordLaws Keyed where
  putItem_iff state item := by
    change (putItem state item).isOk = true ↔ _
    rw [putItem_isOk]
    rfl
  getItem_putItem state item next put plain vaultId itemId plain' := by
    rw [putItem_ok put]
    change (state.items.set (key item.vaultId item.itemId) item).get (key vaultId itemId) = _
    split
    · rename_i same
      rw [same.1, same.2, InsertionMap.get_set_self]
    · rename_i different
      exact InsertionMap.get_set_of_ne _ _ fun same => different (key_injective plain' plain same)
  getItem_setCursor _ _ _ _ _ := rfl
  getItem_enqueue _ _ _ _ := rfl
  getItem_dequeue _ _ _ _ := rfl
  getCursor_setCursor state vaultId cursor other := by
    change (state.cursors.set vaultId cursor).get other = _
    exact state.cursors.get_set vaultId other cursor
  getCursor_putItem state item next put vaultId := by
    rw [putItem_ok put]
    rfl
  getCursor_enqueue _ _ _ := rfl
  getCursor_dequeue _ _ _ := rfl
  kept_putItem state item next put kept := by
    rw [putItem_ok put]
    intro stored record found
    obtain ⟨same, rfl⟩ | ⟨-, before⟩ := InsertionMap.get_set_cases found
    · exact same
    · exact kept stored record before
  kept_setCursor _ _ _ kept := kept
  kept_enqueue _ _ kept := kept
  kept_dequeue _ _ kept := kept
  mem_listItems state kept vaultId record := by
    change record ∈ state.items.values.filter (fun item => item.vaultId = vaultId) ↔
      record.vaultId = vaultId ∧ state.items.get (key vaultId record.itemId) = some record
    rw [List.mem_filter, decide_eq_true_eq, and_comm, and_congr_right_iff]
    rintro rfl
    constructor
    · intro member
      obtain ⟨⟨stored, held⟩, there, rfl⟩ := List.mem_map.mp member
      have found := (state.items.get_eq_some stored held).mpr there
      rw [← kept stored held found]
      exact found
    · intro found
      exact List.mem_map.mpr ⟨_, (state.items.get_eq_some _ _).mp found, rfl⟩

end InMemoryLocalRepository

end ZenPass.Sdk
