import ZenPass.Android.VaultManager
import ZenPass.Extension.VaultManager
import ZenPass.Lib.PagedFeed
import ZenPass.Sdk.SyncEngine

set_option autoImplicit false

namespace ZenPass.Client

open KeyedStore Sdk
open Paging (PagedFeed)

/-- A page with a ciphertext that is no base64 text fails as well. -/
inductive ChangesReply where
  | page (page : LoadedPage)
  | notFound
  | failed
deriving DecidableEq, Repr

inductive Loading where
  | requesting (items : InsertionMap Id ItemEntry) (cursor : Option String)
  | loaded (items : InsertionMap Id ItemEntry)
  | failed

def Loading.isRequesting : Loading → Bool
  | .requesting _ _ => true
  | _ => false

def loadPage (lastPage : LoadedPage → Bool) (items : InsertionMap Id ItemEntry)
    (cursor : Option String) : ChangesReply → Loading
  | .page page =>
      let loaded := page.changes.foldl loadRecord items
      if lastPage page then .loaded loaded else .requesting loaded page.nextCursor
  -- Only the first request may find no vault.
  | .notFound => if cursor.isNone then .loaded items else .failed
  | .failed => .failed

def loadAllItems (lastPage : LoadedPage → Bool) (server : Nat → Option String → ChangesReply) :
    Nat → Loading
  | 0 => .requesting .empty none
  | requests + 1 =>
      match loadAllItems lastPage server requests with
      | .requesting items cursor => loadPage lastPage items cursor (server requests cursor)
      | ended => ended

def ChangesReply.ends (lastPage : LoadedPage → Bool) : ChangesReply → Bool
  | .page served => lastPage served
  | _ => true

def latestVersion (records : List LoadedRecord) (itemId : Id) : Option ItemEntry :=
  (records.filter fun record =>
      record.itemId = itemId ∧ (record.deleted || record.opened.isSome) = true).getLast?.bind
    fun record =>
      if record.deleted then none
      else record.opened.map fun data => ⟨itemId, record.revision, data⟩

/-- An honest server of the feed; a vault that has never had an item is not found. -/
def ServesItems (feed : PagedFeed LoadedRecord) (server : Nat → Option String → ChangesReply) :
    Prop :=
  ∀ request cursor position, position ≤ feed.records.length → feed.StandsFor cursor position →
    server request cursor =
        .page ⟨feed.chunk position, some (feed.cursorAt (feed.next position))⟩ ∨
      feed.records = [] ∧ cursor = none ∧ server request cursor = .notFound

section Loops

variable {lastPage : LoadedPage → Bool} {server : Nat → Option String → ChangesReply}

theorem loadAllItems_requesting {request : Nat} {items : InsertionMap Id ItemEntry}
    {cursor : Option String}
    (requesting : loadAllItems lastPage server request = .requesting items cursor) :
    loadAllItems lastPage server (request + 1) =
      loadPage lastPage items cursor (server request cursor) := by
  rw [loadAllItems, requesting]

theorem ended_of_ends {request : Nat}
    (ends : ∀ cursor, (server request cursor).ends lastPage = true) :
    (loadAllItems lastPage server (request + 1)).isRequesting = false := by
  cases here : loadAllItems lastPage server request with
  | requesting items cursor =>
      have last := ends cursor
      rw [loadAllItems_requesting here]
      unfold loadPage
      split
      · rename_i page replied
        rw [replied, ChangesReply.ends] at last
        simp [last, Loading.isRequesting]
      · split <;> rfl
      · rfl
  | loaded items =>
      rw [loadAllItems, here]
      rfl
  | failed =>
      rw [loadAllItems, here]
      rfl

theorem ended_of_le {first later : Nat} (order : first ≤ later)
    (ended : (loadAllItems lastPage server first).isRequesting = false) :
    (loadAllItems lastPage server later).isRequesting = false := by
  induction later, order using Nat.le_induction with
  | base => exact ended
  | succ later _ ih =>
      unfold loadAllItems
      split
      · rename_i requesting
        rw [requesting] at ih
        cases ih
      · exact ih

theorem get_loadRecord (items : InsertionMap Id ItemEntry) (record : LoadedRecord) (itemId : Id) :
    (loadRecord items record).get itemId =
      if record.itemId = itemId ∧ (record.deleted || record.opened.isSome) = true then
        if record.deleted then none
        else record.opened.map fun data => ⟨itemId, record.revision, data⟩
      else items.get itemId := by
  unfold loadRecord
  by_cases mine : record.itemId = itemId
  · subst mine
    cases deleted : record.deleted with
    | true => simp [InsertionMap.get_delete_self]
    | false =>
        cases opened : record.opened with
        | none => simp
        | some data => simp [InsertionMap.get_set_self]
  · have other : itemId ≠ record.itemId := fun same => mine same.symm
    cases deleted : record.deleted with
    | true => simp [mine, InsertionMap.get_delete_of_ne items other]
    | false =>
        cases opened : record.opened with
        | none => simp [mine]
        | some data => simp [mine, InsertionMap.get_set_of_ne items _ other]

theorem get_foldl_loadRecord (records : List LoadedRecord) (itemId : Id) :
    (records.foldl loadRecord .empty).get itemId = latestVersion records itemId := by
  induction records using List.reverseRecOn with
  | nil => rfl
  | append_singleton records record ih =>
      rw [List.foldl_append, List.foldl_cons, List.foldl_nil, get_loadRecord, ih, latestVersion,
        latestVersion, List.filter_append]
      by_cases counts : record.itemId = itemId ∧ (record.deleted || record.opened.isSome) = true
      · simp [counts]
      · rw [if_neg counts, List.filter_singleton, decide_eq_false counts, cond_false,
          List.append_nil]

theorem loads_rest {feed : PagedFeed LoadedRecord} (serves : ServesItems feed server)
    (goesOn : ∀ (record : LoadedRecord) (rest : List LoadedRecord) (cursor : String), cursor ≠ "" →
      lastPage ⟨record :: rest, some cursor⟩ = false)
    (ends : ∀ cursor, lastPage ⟨[], cursor⟩ = true) (left : Nat) {request position : Nat}
    {items : InsertionMap Id ItemEntry} {cursor : Option String}
    (requesting : loadAllItems lastPage server request = .requesting items cursor)
    (stands : feed.StandsFor cursor position) (within : position ≤ feed.records.length)
    (counts : feed.records.length - position ≤ left) :
    ∃ requests ≤ request + left + 1, loadAllItems lastPage server requests =
      .loaded ((feed.records.drop position).foldl loadRecord items) := by
  induction left generalizing request position items cursor with
  | zero =>
      have nothing : feed.records.drop position = [] := List.drop_eq_nil_iff.mpr (by omega)
      refine ⟨request + 1, by omega, ?_⟩
      rw [loadAllItems_requesting requesting, nothing]
      obtain page | ⟨-, rfl, missing⟩ := serves request cursor position within stands
      · rw [page, loadPage, PagedFeed.chunk_eq_nil.mpr (by omega), ends]
        rfl
      · rw [missing]
        rfl
  | succ left ih =>
      obtain page | ⟨empty, rfl, missing⟩ := serves request cursor position within stands
      · cases chunk : feed.chunk position with
        | nil =>
            have atEnd := PagedFeed.chunk_eq_nil.mp chunk
            refine ⟨request + 1, by omega, ?_⟩
            rw [loadAllItems_requesting requesting, page, loadPage, chunk, ends,
              List.drop_eq_nil_of_le atEnd]
            rfl
        | cons record rest =>
            have more : position < feed.records.length := by
              by_contra atEnd
              rw [PagedFeed.chunk_eq_nil.mpr (Nat.le_of_not_lt atEnd)] at chunk
              cases chunk
            have further := PagedFeed.lt_next more
            have bound := feed.next_le position
            have onward : loadAllItems lastPage server (request + 1) =
                .requesting ((feed.chunk position).foldl loadRecord items)
                  (some (feed.cursorAt (feed.next position))) := by
              rw [loadAllItems_requesting requesting, page, loadPage, chunk,
                goesOn record rest _ (feed.named _)]
              rfl
            obtain ⟨requests, few, loaded⟩ := ih onward rfl bound (by omega)
            refine ⟨requests, by omega, ?_⟩
            rw [loaded, PagedFeed.foldl_chunk]
      · refine ⟨request + 1, by omega, ?_⟩
        rw [loadAllItems_requesting requesting, missing, empty, List.drop_nil]
        rfl

end Loops

end ZenPass.Client

namespace ZenPass.Extension

def lastPage (page : Client.LoadedPage) : Bool :=
  page.changes.isEmpty || (page.nextCursor.getD "").isEmpty

end ZenPass.Extension

namespace ZenPass.Android

def lastPage (page : Client.LoadedPage) : Bool := page.changes.isEmpty || page.nextCursor.isNone

end ZenPass.Android

namespace ZenPass.Client

open KeyedStore Sdk
open Paging (PagedFeed)

def ChangesReply.toExtension : ChangesReply → Extension.VaultAnswer
  | .page served => .changes served
  | .notFound => .notFound
  | .failed => .failed

def ChangesReply.toAndroid : ChangesReply → Android.Answer
  | .page served => .changes served
  | .notFound => .notFound
  | .failed => .failed

theorem extension_loadPage (vault : Extension.VaultManager) (now : Nat) (accountId : Id)
    (session : ApiSession) (bundle : AccountBundle) (host keySession : Nat)
    (items : InsertionMap Id ItemEntry) (cursor : Option String) (reply : ChangesReply) :
    vault.resumeUnlock now accountId (.loading session bundle host keySession items cursor)
        reply.toExtension =
      some (match loadPage Extension.lastPage items cursor reply with
        | .requesting items cursor =>
            { vault
              stage :=
                .unlocking accountId (.loading session bundle host keySession items cursor) }
        | .loaded items => vault.install now session bundle host keySession items
        | .failed => { vault := vault.dispose, stage := .returned (.unlocked false) }) := by
  cases reply with
  | page served =>
      rw [ChangesReply.toExtension, loadPage]
      cases last : Extension.lastPage served with
      | true =>
          unfold Extension.lastPage at last
          simp [Extension.VaultManager.resumeUnlock, last]
      | false =>
          unfold Extension.lastPage at last
          simp [Extension.VaultManager.resumeUnlock, last]
  | notFound => cases cursor <;> rfl
  | failed => cases cursor <;> rfl

theorem android_loadPage (vault : Android.VaultManager) (t now : Nat) (accountId : Id)
    (session : ApiSession) (bundle : AccountBundle) (keySession : Nat)
    (items : InsertionMap Id ItemEntry) (cursor : Option String) (reply : ChangesReply) :
    vault.resumeUnlock t now accountId (.loading session bundle keySession items cursor)
        reply.toAndroid =
      some (vault.proceed t (.goesOn
        (match loadPage Android.lastPage items cursor reply with
        | .requesting items cursor =>
            .unlocking accountId (.loading session bundle keySession items cursor)
        | .loaded items => .unlocking accountId (.installing session bundle keySession items)
        | .failed => .disposing .reading (.returns (.unlocked false))))) := by
  cases reply with
  | page served =>
      rw [ChangesReply.toAndroid, loadPage]
      cases last : Android.lastPage served with
      | true =>
          unfold Android.lastPage at last
          simp [Android.VaultManager.resumeUnlock, last]
      | false =>
          unfold Android.lastPage at last
          simp [Android.VaultManager.resumeUnlock, last]
  | notFound => cases cursor <;> rfl
  | failed => cases cursor <;> rfl

theorem extension_loads {feed : PagedFeed LoadedRecord}
    {server : Nat → Option String → ChangesReply} (serves : ServesItems feed server) :
    ∃ requests ≤ feed.records.length + 1, ∃ items,
      loadAllItems Extension.lastPage server requests = .loaded items ∧
        ∀ itemId, items.get itemId = latestVersion feed.records itemId := by
  have goesOn (record : LoadedRecord) (rest : List LoadedRecord) (cursor : String)
      (named : cursor ≠ "") : Extension.lastPage ⟨record :: rest, some cursor⟩ = false := by
    simp [Extension.lastPage, named]
  have start : loadAllItems Extension.lastPage server 0 = .requesting .empty none := rfl
  have stands : feed.StandsFor none 0 := rfl
  obtain ⟨requests, few, loaded⟩ := loads_rest serves goesOn (fun _ => rfl) feed.records.length
    start stands (Nat.zero_le _) (Nat.le_refl _)
  exact ⟨requests, by omega, _, loaded, get_foldl_loadRecord feed.records⟩

theorem android_loads {feed : PagedFeed LoadedRecord}
    {server : Nat → Option String → ChangesReply} (serves : ServesItems feed server) :
    ∃ requests ≤ feed.records.length + 1, ∃ items,
      loadAllItems Android.lastPage server requests = .loaded items ∧
        ∀ itemId, items.get itemId = latestVersion feed.records itemId := by
  have start : loadAllItems Android.lastPage server 0 = .requesting .empty none := rfl
  have stands : feed.StandsFor none 0 := rfl
  obtain ⟨requests, few, loaded⟩ := loads_rest serves (fun _ _ _ _ => rfl) (fun _ => rfl)
    feed.records.length start stands (Nat.zero_le _) (Nat.le_refl _)
  exact ⟨requests, by omega, _, loaded, get_foldl_loadRecord feed.records⟩

section Pull

variable {σ ρ ε : Type}

def pullRequests (repo : LocalRepository σ ρ ε) (vaultOf : ρ → Id) (vaultId : Id) :
    Nat → List (Option (ChangePage ρ)) → σ → Option String → Nat → Nat
  | 0, _, _, _, _ => 0
  | _ + 1, [], _, _, _ | _ + 1, none :: _, _, _, _ => 1
  | pages + 1, some page :: replies, state, cursor, itemsApplied =>
      match applyChanges repo vaultOf vaultId state itemsApplied page.changes with
      | (_, _, some _) => 1
      | (next, applied, none) =>
          let stored := repo.setCursor next vaultId ((page.nextCursor.or cursor).getD "")
          if !page.changes.isEmpty && page.nextCursor != cursor then
            1 + pullRequests repo vaultOf vaultId pages replies stored (page.nextCursor.or cursor)
              applied
          else 1

def pullReplies (server : Nat → Option String → Option (ChangePage ρ)) :
    Nat → Nat → Option String → List (Option (ChangePage ρ))
  | 0, _, _ => []
  | pages + 1, request, cursor =>
      match server request cursor with
      | none => [none]
      | some page =>
          some page :: pullReplies server pages (request + 1) (page.nextCursor.or cursor)

def ServesChanges (feed : PagedFeed ρ) (server : Nat → Option String → Option (ChangePage ρ)) :
    Prop :=
  ∀ request cursor position, position ≤ feed.records.length → feed.StandsFor cursor position →
    server request cursor =
      some ⟨feed.chunk position, some (feed.cursorAt (feed.next position))⟩

/-- The repository has refused a record, or the record is of another vault. -/
def refusesRecord : PullOutcome ε → Bool
  | .otherVault _ | .repository _ _ => true
  | _ => false

variable {repo : LocalRepository σ ρ ε} {vaultOf : ρ → Id} {vaultId : Id}

theorem pullRequests_le (pages : Nat) (replies : List (Option (ChangePage ρ))) (state : σ)
    (cursor : Option String) (itemsApplied : Nat) :
    pullRequests repo vaultOf vaultId pages replies state cursor itemsApplied ≤ pages := by
  fun_induction pullRequests repo vaultOf vaultId pages replies state cursor itemsApplied with
  | case1 => exact Nat.le_refl _
  | case2 => omega
  | case3 => omega
  | case4 => omega
  | case5 pages page replies state cursor itemsApplied next applied _ stored _ ih => omega
  | case6 => omega

theorem applyChanges_counts (changes : List ρ) (state : σ) (itemsApplied : Nat) :
    (∃ next, applyChanges repo vaultOf vaultId state itemsApplied changes =
        (next, itemsApplied + changes.length, none)) ∨
      ∃ next applied outcome, refusesRecord outcome = true ∧
        applyChanges repo vaultOf vaultId state itemsApplied changes =
          (next, applied, some outcome) := by
  induction changes generalizing state itemsApplied with
  | nil => exact .inl ⟨state, rfl⟩
  | cons change rest ih =>
      unfold applyChanges
      split
      · exact .inr ⟨_, _, _, rfl, rfl⟩
      · split
        · exact .inr ⟨_, _, _, rfl, rfl⟩
        · rename_i next _
          rw [List.length_cons, Nat.add_comm rest.length, ← Nat.add_assoc]
          exact ih next (itemsApplied + 1)

theorem pulls_rest {feed : PagedFeed ρ} {server : Nat → Option String → Option (ChangePage ρ)}
    (serves : ServesChanges feed server) (pages : Nat) {request position : Nat} {state : σ}
    {cursor : Option String} (stands : feed.StandsFor cursor position)
    (within : position ≤ feed.records.length)
    (fits : feed.records.length - position ≤ feed.size * pages) (pagesApplied itemsApplied : Nat) :
    (∃ applied last, feed.StandsFor last feed.records.length ∧
        (pullPages repo vaultOf vaultId pages (pullReplies server pages request cursor) state cursor
          pagesApplied itemsApplied).2 =
          .applied applied (itemsApplied + (feed.records.length - position)) last) ∨
      refusesRecord (pullPages repo vaultOf vaultId pages
        (pullReplies server pages request cursor) state cursor pagesApplied itemsApplied).2 =
          true := by
  induction pages generalizing request position state cursor pagesApplied itemsApplied with
  | zero =>
      have atEnd : position = feed.records.length := by omega
      subst atEnd
      refine .inl ⟨pagesApplied, cursor, stands, ?_⟩
      rw [pullPages, Nat.sub_self, Nat.add_zero]
  | succ pages ih =>
      have read := PagedFeed.length_chunk within
      rw [pullReplies, serves request cursor position within stands]
      dsimp only
      obtain ⟨next, applied⟩ | ⟨next, applied, outcome, refused, stopped⟩ :=
        @applyChanges_counts σ ρ ε repo vaultOf vaultId (feed.chunk position) state itemsApplied
      · rw [pullPages_page applied rfl]
        split
        · have bound := feed.next_le position
          rw [Nat.mul_succ] at fits
          have onward : feed.records.length - feed.next position ≤ feed.size * pages := by
            unfold PagedFeed.next
            omega
          have total : itemsApplied + (feed.records.length - position) =
              itemsApplied + (feed.chunk position).length +
                (feed.records.length - feed.next position) := by omega
          have stands : feed.StandsFor (some (feed.cursorAt (feed.next position)))
              (feed.next position) := rfl
          rw [total]
          exact ih stands bound onward _ _
        · rename_i stops
          have atEnd : position = feed.records.length := by
            by_contra more
            have further := feed.lt_next (Nat.lt_of_le_of_ne within more)
            refine stops ?_
            rw [Bool.and_eq_true, Bool.not_eq_true', bne_iff_ne, List.isEmpty_eq_false_iff]
            refine ⟨fun none => ?_, fun same => ?_⟩
            · exact more (Nat.le_antisymm within (PagedFeed.chunk_eq_nil.mp none))
            · rw [← same] at stands
              have back := feed.injective _ (feed.next_le position) _ within stands
              omega
          have after := PagedFeed.next_of_end atEnd
          refine .inl ⟨pagesApplied + 1, some (feed.cursorAt (feed.next position)), ?_, ?_⟩
          · rw [after]
            rfl
          · have nothing : (feed.chunk position).length = feed.records.length - position := by
              omega
            rw [nothing]
      · refine .inr ?_
        rw [pullPages, stopped]
        exact refused

end Pull

/-- The loop ends with the first reply that is a failure or a last page, and it reads an honest
feed to its end. -/
structure LoadsVault (lastPage : LoadedPage → Bool) : Prop where
  stops : ∀ server request, (∀ cursor, (server request cursor).ends lastPage = true) →
    ∀ later > request, (loadAllItems lastPage server later).isRequesting = false
  reads : ∀ feed server, ServesItems feed server →
    ∃ requests ≤ feed.records.length + 1, ∃ items,
      loadAllItems lastPage server requests = .loaded items ∧
        ∀ itemId, items.get itemId = latestVersion feed.records itemId

/-- A pull sends at most so many requests, and reads what is left of an honest feed if that fits
into so many pages, unless the repository refuses a record. -/
structure PullsVault {σ ρ ε : Type} (repo : LocalRepository σ ρ ε) (vaultOf : ρ → Id)
    (vaultId : Id) (state : σ) (maxPages : Nat) : Prop where
  bounded : ∀ replies, pullRequests repo vaultOf vaultId maxPages replies state
    (repo.getCursor state vaultId) 0 ≤ maxPages
  reads : ∀ feed server position, ServesChanges feed server →
    feed.StandsFor (repo.getCursor state vaultId) position → position ≤ feed.records.length →
    feed.records.length - position ≤ feed.size * maxPages →
    let outcome := (pull repo vaultOf vaultId maxPages
      (pullReplies server maxPages 0 (repo.getCursor state vaultId)) state).2
    (∃ applied last, feed.StandsFor last feed.records.length ∧
        outcome = .applied applied (feed.records.length - position) last) ∨
      refusesRecord outcome = true

section LoadingEnds

variable {σ ρ ε : Type} (repo : LocalRepository σ ρ ε) (vaultOf : ρ → Id) (vaultId : Id)
  (state : σ) (maxPages : Nat)

theorem vault_loading_ends :
    LoadsVault Extension.lastPage ∧ LoadsVault Android.lastPage ∧
      PullsVault repo vaultOf vaultId state maxPages := by
  refine ⟨⟨?_, ?_⟩, ⟨?_, ?_⟩, ⟨?_, ?_⟩⟩
  · exact fun server request ends later after => ended_of_le after (ended_of_ends ends)
  · exact fun feed server serves => extension_loads serves
  · exact fun server request ends later after => ended_of_le after (ended_of_ends ends)
  · exact fun feed server serves => android_loads serves
  · exact fun replies => pullRequests_le _ _ _ _ _
  · intro feed server position serves stands within fits
    have read := @pulls_rest σ ρ ε repo vaultOf vaultId feed server serves maxPages 0 position state
      (repo.getCursor state vaultId) stands within fits 0 0
    rw [Nat.zero_add] at read
    exact read

end LoadingEnds

section Samples

def singlePages {ρ : Type} (records : List ρ) : PagedFeed ρ where
  records
  size := 1
  cursorAt position := String.ofList (List.replicate (position + 1) 'x')
  positive := Nat.one_pos
  named position := by simp [List.replicate_succ]
  injective first _ second _ same := by
    have lengths := congrArg (fun text => text.toList.length) same
    simpa using lengths

def serveItems (feed : PagedFeed LoadedRecord) (_ : Nat) (cursor : Option String) : ChangesReply :=
  .page ⟨feed.chunk (feed.positionOf cursor),
    some (feed.cursorAt (feed.next (feed.positionOf cursor)))⟩

def serveChanges {ρ : Type} (feed : PagedFeed ρ) (_ : Nat) (cursor : Option String) :
    Option (ChangePage ρ) :=
  some ⟨feed.chunk (feed.positionOf cursor),
    some (feed.cursorAt (feed.next (feed.positionOf cursor)))⟩

theorem serveItems_serves (feed : PagedFeed LoadedRecord) : ServesItems feed (serveItems feed) := by
  intro request cursor position within stands
  rw [serveItems, PagedFeed.positionOf_eq stands within]
  exact .inl rfl

theorem serveChanges_serves {ρ : Type} (feed : PagedFeed ρ) :
    ServesChanges feed (serveChanges feed) := by
  intro request cursor position within stands
  rw [serveChanges, PagedFeed.positionOf_eq stands within]

def sampleData : VaultItemData := ⟨"login", "Site", some "ada", some "secret", none, none, none⟩

def sampleFeed : PagedFeed LoadedRecord :=
  singlePages [⟨"first", 1, false, some sampleData⟩, ⟨"second", 1, false, some sampleData⟩,
    ⟨"first", 2, true, none⟩, ⟨"second", 2, false, none⟩]

def manyRecords : List ItemRecord := (List.range 101).map fun n => sampleRecord n

theorem sample_vault_loads :
    ∃ requests ≤ 5, ∃ items,
      loadAllItems Extension.lastPage (serveItems sampleFeed) requests = .loaded items ∧
        items.get "first" = none ∧ items.get "second" = some ⟨"second", 1, sampleData⟩ := by
  have loads := (vault_loading_ends InMemoryLocalRepository.operations ItemRecord.vaultId "vault"
    ⟨.empty, .empty, .empty⟩ 100).1
  obtain ⟨requests, few, items, loaded, holds⟩ :=
    loads.reads sampleFeed (serveItems sampleFeed) (serveItems_serves sampleFeed)
  refine ⟨requests, few, items, loaded, ?_, ?_⟩
  · rw [holds]
    decide +kernel
  · rw [holds]
    decide +kernel

def endless (_ : Nat) (_ : Option String) : ChangesReply :=
  .page ⟨[⟨"first", 1, false, none⟩], some "x"⟩

theorem endless_requesting {lastPage : LoadedPage → Bool}
    (goesOn : lastPage ⟨[⟨"first", 1, false, none⟩], some "x"⟩ = false) (requests : Nat) :
    (loadAllItems lastPage endless requests).isRequesting = true := by
  induction requests with
  | zero => rfl
  | succ requests ih =>
      cases here : loadAllItems lastPage endless requests with
      | requesting items cursor =>
          rw [loadAllItems_requesting here, endless, loadPage, goesOn]
          rfl
      | loaded items =>
          rw [here] at ih
          cases ih
      | failed =>
          rw [here] at ih
          cases ih

/-- No number bounds the requests of a vault manager, and the pull of a hundred pages ends before
the last page of a longer feed. -/
theorem vault_loading_not_bounded :
    (¬ ∃ bound, ∀ server, (loadAllItems Extension.lastPage server bound).isRequesting = false) ∧
    (¬ ∃ bound, ∀ server, (loadAllItems Android.lastPage server bound).isRequesting = false) ∧
    ¬ ∀ feed server, ServesChanges feed server → ∃ applied last,
      feed.StandsFor last feed.records.length ∧
        (pull InMemoryLocalRepository.operations ItemRecord.vaultId "vault" 100
          (pullReplies server 100 0 none) ⟨.empty, .empty, .empty⟩).2 =
          .applied applied feed.records.length last := by
  refine ⟨?_, ?_, ?_⟩
  · rintro ⟨bound, ended⟩
    have requesting : (loadAllItems Extension.lastPage endless bound).isRequesting = true :=
      endless_requesting (by decide) bound
    rw [ended endless] at requesting
    cases requesting
  · rintro ⟨bound, ended⟩
    have requesting : (loadAllItems Android.lastPage endless bound).isRequesting = true :=
      endless_requesting (by decide) bound
    rw [ended endless] at requesting
    cases requesting
  · intro reads
    obtain ⟨applied, last, -, outcome⟩ := reads (singlePages manyRecords) _ (serveChanges_serves _)
    have fewer : (pull InMemoryLocalRepository.operations ItemRecord.vaultId "vault" 100
        (pullReplies (serveChanges (singlePages manyRecords)) 100 0 none)
        ⟨.empty, .empty, .empty⟩).2 =
        .applied 100 100 (some ((singlePages manyRecords).cursorAt 100)) := by
      decide +kernel
    rw [fewer] at outcome
    cases outcome

end Samples

end ZenPass.Client
