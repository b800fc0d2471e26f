import Mathlib.Algebra.Group.Nat.Defs
import ZenPass.Sdk.Repository

set_option autoImplicit false

-- `ρ` is the type of parsed response bodies; an absent body is `none`.

namespace ZenPass.Sdk

open KeyedStore

inductive BodyText (ρ : Type) where
  | unreadable
  | empty
  | notJson
  | json (value : ρ)
deriving DecidableEq, Repr

inductive Reply (ρ : Type) where
  | networkFailure
  | response (status : Nat) (text : BodyText ρ)
deriving DecidableEq, Repr

inductive Thrown (ρ ε : Type) where
  | noAccessToken
  | networkError
  | httpError (status : Nat) (body : Option ρ)
  | bodyUnreadable
  | syntaxError
  | typeError
  | repository (error : ε)
deriving DecidableEq, Repr

inductive MutateOutcome (ρ : Type) where
  | created (item : Option ρ)
  | conflict (conflict : Option ρ)
deriving DecidableEq, Repr

inductive PushOutcome (ρ : Type) where
  | applied (item : ρ)
  | conflict (conflict : Option ρ)
  | retryable (nextRetryAt : Nat) (error : String)
deriving DecidableEq, Repr

section ApiClient

variable {ρ ε : Type}

/-- An empty token counts as none. -/
def hasToken (accessToken : Option String) : Bool := !(accessToken.getD "").isEmpty

def request (accessToken : Option String) (reply : Reply ρ) : Except (Thrown ρ ε) (Nat × Option ρ) :=
  if hasToken accessToken then
    match reply with
    | .networkFailure => .error .networkError
    | .response status text =>
        if status = 204 then .ok (204, none)
        else
          match text with
          | .unreadable => .error .bodyUnreadable
          | .empty => .ok (status, none)
          | .notJson => .error .syntaxError
          | .json value => .ok (status, some value)
  else .error .noAccessToken

def mutateItem (accessToken : Option String) (reply : Reply ρ) :
    Except (Thrown ρ ε) (MutateOutcome ρ) :=
  match request accessToken reply with
  | .error thrown => .error thrown
  | .ok (status, body) =>
      if status = 201 then .ok (.created body)
      else if status = 409 then .ok (.conflict body)
      else .error (.httpError status body)

end ApiClient

structure BackoffOptions where
  baseMs : Nat
  maxMs : Nat
deriving DecidableEq, Repr

def defaultBackoff : BackoffOptions := ⟨500, 30000⟩

def retryDelayMs (attempts : Nat) (options : BackoffOptions) : Nat :=
  min (options.baseMs * 2 ^ (attempts - 1)) options.maxMs

def networkErrorMessage : String := "network request failed"

section PushOne

variable {σ ρ ε : Type} (repo : LocalRepository σ ρ ε) (backoff : BackoffOptions)

def enqueueEdit (state : σ) (mutation : Mutation) : σ :=
  repo.enqueueMutation state { mutation, state := .localDirty, attempts := 0 }

def resolveConflict (state : σ) (oldMutationId : Id) (resolution : Mutation) : σ :=
  enqueueEdit repo (repo.dequeueMutation state oldMutationId) resolution

/-- The `try` block of `pushOne`: an exception leaves the writes before it in place. -/
def pushBody (state : σ) (entry : QueuedMutation) (accessToken : Option String) (reply : Reply ρ) :
    σ × Except (Thrown ρ ε) (PushOutcome ρ) :=
  match mutateItem accessToken reply with
  | .error thrown => (state, .error thrown)
  | .ok (.created none) => (state, .error .typeError)
  | .ok (.created (some item)) =>
      match repo.putItem state item with
      | .error error => (state, .error (.repository error))
      | .ok next => (repo.dequeueMutation next entry.mutationId, .ok (.applied item))
  | .ok (.conflict conflict) =>
      (repo.enqueueMutation state { entry with state := .conflict }, .ok (.conflict conflict))

def pushOne (state : σ) (entry : QueuedMutation) (now : Nat) (accessToken : Option String)
    (reply : Reply ρ) : σ × Except (Thrown ρ ε) (PushOutcome ρ) :=
  let syncing := repo.enqueueMutation state { entry with state := .syncing }
  match pushBody repo syncing entry accessToken reply with
  | (next, .ok outcome) => (next, .ok outcome)
  | (next, .error (.httpError status body)) =>
      (repo.enqueueMutation next { entry with state := .localDirty }, .error (.httpError status body))
  | (next, .error .networkError) =>
      let attempts := entry.attempts + 1
      let nextRetryAt := now + retryDelayMs attempts backoff
      (repo.enqueueMutation next
        { entry with
          state := .retryable
          attempts
          nextRetryAt := some nextRetryAt
          lastError := some networkErrorMessage },
        .ok (.retryable nextRetryAt networkErrorMessage))
  | (next, .error thrown) => (next, .error thrown)

end PushOne

section Runs

variable {σ ρ ε ω : Type} (repo : LocalRepository σ ρ ε) (backoff : BackoffOptions)

/-- Entries that a push leaves alone: conflicts, and those in their backoff window. -/
def skipped (entry : QueuedMutation) (now : Nat) : Bool :=
  entry.state == .conflict ||
    entry.state == .retryable && entry.nextRetryAt.any fun nextRetryAt => decide (nextRetryAt > now)

/-- The loop of `pushAll` over the entries listed at its start. `exchange` is the request of one
attempt; the first exception ends the run. -/
def pushEntries (exchange : ω → Mutation → ω × Reply ρ) (now : Nat) (accessToken : Option String) :
    ω → σ → List QueuedMutation → ω × σ × Option (Thrown ρ ε)
  | world, state, [] => (world, state, none)
  | world, state, entry :: rest =>
      if skipped entry now then pushEntries exchange now accessToken world state rest
      else
        let (answered, reply) :=
          if hasToken accessToken then exchange world entry.mutation else (world, .networkFailure)
        match pushOne repo backoff state entry now accessToken reply with
        | (next, .ok _) => pushEntries exchange now accessToken answered next rest
        | (next, .error thrown) => (answered, next, some thrown)

def pushAll (exchange : ω → Mutation → ω × Reply ρ) (now : Nat) (accessToken : Option String)
    (world : ω) (state : σ) : ω × σ × Option (Thrown ρ ε) :=
  pushEntries repo backoff exchange now accessToken world state (repo.listQueuedMutations state)

structure ChangePage (ρ : Type) where
  changes : List ρ
  nextCursor : Option String
deriving DecidableEq, Repr

inductive PullOutcome (ε : Type) where
  | applied (pagesApplied itemsApplied : Nat) (cursor : Option String)
  | requestFailed (itemsApplied : Nat)
  | otherVault (itemsApplied : Nat)
  | repository (error : ε) (itemsApplied : Nat)
deriving DecidableEq, Repr

def applyChanges (vaultOf : ρ → Id) (vaultId : Id) :
    σ → Nat → List ρ → σ × Nat × Option (PullOutcome ε)
  | state, itemsApplied, [] => (state, itemsApplied, none)
  | state, itemsApplied, change :: rest =>
      if vaultOf change ≠ vaultId then (state, itemsApplied, some (.otherVault itemsApplied))
      else
        match repo.putItem state change with
        | .error error => (state, itemsApplied, some (.repository error itemsApplied))
        | .ok next => applyChanges vaultOf vaultId next (itemsApplied + 1) rest

def pullPages (vaultOf : ρ → Id) (vaultId : Id) :
    Nat → List (Option (ChangePage ρ)) → σ → Option String → Nat → Nat → σ × PullOutcome ε
  | 0, _, state, cursor, pagesApplied, itemsApplied =>
      (state, .applied pagesApplied itemsApplied cursor)
  | _ + 1, [], state, _, _, itemsApplied => (state, .requestFailed itemsApplied)
  | _ + 1, none :: _, state, _, _, itemsApplied => (state, .requestFailed itemsApplied)
  | pages + 1, some page :: replies, state, cursor, pagesApplied, itemsApplied =>
      match applyChanges repo vaultOf vaultId state itemsApplied page.changes with
      | (next, _, some outcome) => (next, outcome)
      | (next, applied, none) =>
          let stored := repo.setCursor next vaultId ((page.nextCursor.or cursor).getD "")
          if !page.changes.isEmpty && page.nextCursor != cursor then
            pullPages vaultOf vaultId pages replies stored (page.nextCursor.or cursor)
              (pagesApplied + 1) applied
          else
            (stored, .applied (pagesApplied + 1) applied (page.nextCursor.or cursor))

def pull (vaultOf : ρ → Id) (vaultId : Id) (maxPages : Nat) (replies : List (Option (ChangePage ρ)))
    (state : σ) : σ × PullOutcome ε :=
  pullPages repo vaultOf vaultId maxPages replies state (repo.getCursor state vaultId) 0 0

variable {repo}

theorem pullPages_page {vaultOf : ρ → Id} {vaultId : Id} {page : ChangePage ρ} {nextCursor : String}
    {state next : σ} {itemsApplied count : Nat}
    (applied : applyChanges repo vaultOf vaultId state itemsApplied page.changes =
      (next, count, (none : Option (PullOutcome ε))))
    (named : page.nextCursor = some nextCursor) (pages : Nat) (replies : List (Option (ChangePage ρ)))
    (cursor : Option String) (pagesApplied : Nat) :
    pullPages repo vaultOf vaultId (pages + 1) (some page :: replies) state cursor pagesApplied
        itemsApplied =
      if !page.changes.isEmpty && some nextCursor != cursor then
        pullPages repo vaultOf vaultId pages replies (repo.setCursor next vaultId nextCursor)
          (some nextCursor) (pagesApplied + 1) count
      else
        (repo.setCursor next vaultId nextCursor,
          .applied (pagesApplied + 1) count (some nextCursor)) := by
  rw [pullPages, applied, named]
  rfl

theorem LocalRepository.Lawful.applyChanges (lawful : repo.Lawful) (vaultOf : ρ → Id) (vaultId : Id)
    (changes : List ρ) (state : σ) (itemsApplied : Nat) (mutationId : Id) :
    repo.getQueuedMutation (applyChanges repo vaultOf vaultId state itemsApplied changes).1
      mutationId = repo.getQueuedMutation state mutationId := by
  induction changes generalizing state itemsApplied with
  | nil => rfl
  | cons change rest ih =>
      unfold Sdk.applyChanges
      split
      · rfl
      · split
        · rfl
        · rename_i next put
          rw [ih, lawful.getQueued_putItem state change next put]

theorem LocalRepository.Lawful.pull (lawful : repo.Lawful) (vaultOf : ρ → Id) (vaultId : Id)
    (maxPages : Nat) (replies : List (Option (ChangePage ρ))) (state : σ) (mutationId : Id) :
    repo.getQueuedMutation (pull repo vaultOf vaultId maxPages replies state).1 mutationId =
      repo.getQueuedMutation state mutationId := by
  unfold Sdk.pull
  generalize repo.getCursor state vaultId = cursor
  generalize 0 = pagesApplied
  have pages (itemsApplied : Nat) :
      repo.getQueuedMutation (pullPages repo vaultOf vaultId maxPages replies state cursor
        pagesApplied itemsApplied).1 mutationId = repo.getQueuedMutation state mutationId := by
    fun_induction pullPages repo vaultOf vaultId maxPages replies state cursor pagesApplied
      itemsApplied with
    | case1 => rfl
    | case2 => rfl
    | case3 => rfl
    | case4 pages page replies state cursor pagesApplied itemsApplied next _ outcome applied =>
        have kept := lawful.applyChanges vaultOf vaultId page.changes state itemsApplied mutationId
        rw [applied] at kept
        exact kept
    | case5 pages page replies state cursor pagesApplied itemsApplied next _ applied stored _ ih =>
        have kept := lawful.applyChanges vaultOf vaultId page.changes state itemsApplied mutationId
        rw [applied] at kept
        rw [ih, lawful.getQueued_setCursor]
        exact kept
    | case6 pages page replies state cursor pagesApplied itemsApplied next _ applied stored =>
        have kept := lawful.applyChanges vaultOf vaultId page.changes state itemsApplied mutationId
        rw [applied] at kept
        rw [lawful.getQueued_setCursor]
        exact kept
  exact pages _

end Runs

section Settles

variable {σ ρ ε : Type} (repo : LocalRepository σ ρ ε)

def Answered (accessToken : Option String) (reply : Reply ρ) (status : Nat) : Prop :=
  hasToken accessToken = true ∧ ∃ text, reply = .response status text

/-- What a push owes to the entry it was given. -/
structure Settled (mutationId : Id) (accessToken : Option String) (reply : Reply ρ)
    (result : σ × Except (Thrown ρ ε) (PushOutcome ρ)) : Prop where
  created : Answered accessToken reply 201 → repo.getQueuedMutation result.1 mutationId = none
  conflict : Answered accessToken reply 409 →
    ∃ entry, repo.getQueuedMutation result.1 mutationId = some entry ∧ entry.state = .conflict
  networkFailure : hasToken accessToken = true → reply = .networkFailure →
    ∃ entry, repo.getQueuedMutation result.1 mutationId = some entry ∧ entry.state = .retryable
  otherError : ¬ Answered accessToken reply 201 → ¬ Answered accessToken reply 409 →
    ¬ (hasToken accessToken = true ∧ reply = .networkFailure) →
    ∃ entry, repo.getQueuedMutation result.1 mutationId = some entry ∧ entry.state = .localDirty
  notSyncing : ∀ entry, repo.getQueuedMutation result.1 mutationId = some entry →
    entry.state ≠ .syncing
  noThrow : Answered accessToken reply 201 ∨ Answered accessToken reply 409 → result.2.isOk = true

/-- A token is there, the body of a response can be read, and the repository takes the record of
a 201. -/
def Readable (state : σ) (accessToken : Option String) : Reply ρ → Prop
  | .networkFailure => hasToken accessToken = true
  | .response status text =>
      hasToken accessToken = true ∧
        (status = 204 ∨ text = .empty ∧ status ≠ 201 ∨
          ∃ value, text = .json value ∧ (status = 201 → (repo.putItem state value).isOk = true))

variable {repo} {backoff : BackoffOptions} {state : σ} {entry : QueuedMutation} {now : Nat}
  {accessToken : Option String} {reply : Reply ρ}

theorem answered_response (token : hasToken accessToken = true) (status other : Nat)
    (text : BodyText ρ) : Answered accessToken (.response status text) other ↔ status = other := by
  constructor
  · rintro ⟨-, _, same⟩
    exact (Reply.response.inj same).1
  · rintro rfl
    exact ⟨token, text, rfl⟩

theorem not_settled_of_syncing (lawful : repo.Lawful) {thrown : Thrown ρ ε} :
    ¬ Settled repo entry.mutationId accessToken reply
      (repo.enqueueMutation state { entry with state := .syncing }, .error thrown) := by
  intro settled
  refine settled.notSyncing { entry with state := .syncing } ?_ rfl
  rw [lawful.getQueued_enqueue]
  exact if_pos rfl

theorem settled_of_state (lawful : repo.Lawful) (next : QueuedMutation)
    (same : next.mutationId = entry.mutationId) {result : Except (Thrown ρ ε) (PushOutcome ρ)}
    (notCreated : ¬ Answered accessToken reply 201) (notSyncing : next.state ≠ .syncing)
    (conflict : Answered accessToken reply 409 → next.state = .conflict ∧ result.isOk = true)
    (failure : hasToken accessToken = true → reply = .networkFailure → next.state = .retryable)
    (other : ¬ Answered accessToken reply 409 →
      ¬ (hasToken accessToken = true ∧ reply = .networkFailure) → next.state = .localDirty) :
    Settled repo entry.mutationId accessToken reply (repo.enqueueMutation state next, result) := by
  have queued : repo.getQueuedMutation (repo.enqueueMutation state next) entry.mutationId =
      some next := by
    rw [lawful.getQueued_enqueue, if_pos same.symm]
  constructor
  · exact fun answered => absurd answered notCreated
  · exact fun answered => ⟨next, queued, (conflict answered).1⟩
  · exact fun token failed => ⟨next, queued, failure token failed⟩
  · exact fun _ notConflict notFailure => ⟨next, queued, other notConflict notFailure⟩
  · intro found there
    rw [queued, Option.some.injEq] at there
    exact there ▸ notSyncing
  · rintro (answered | answered)
    · exact absurd answered notCreated
    · exact (conflict answered).2

theorem settled_httpError (lawful : repo.Lawful) (token : hasToken accessToken = true) {status : Nat}
    {text : BodyText ρ} (not201 : status ≠ 201) (not409 : status ≠ 409) (body : Option ρ) :
    Settled repo entry.mutationId accessToken (.response status text)
      (repo.enqueueMutation (repo.enqueueMutation state { entry with state := .syncing })
        { entry with state := .localDirty }, .error (.httpError status body : Thrown ρ ε)) := by
  refine settled_of_state lawful { entry with state := .localDirty } rfl ?_ (by simp) ?_ (by simp)
    (fun _ _ => rfl)
  · rwa [answered_response token]
  · rw [answered_response token]
    exact fun same => absurd same not409

theorem settled_conflict (lawful : repo.Lawful) (token : hasToken accessToken = true)
    {text : BodyText ρ} (conflict : Option ρ) :
    Settled repo entry.mutationId accessToken (.response 409 text)
      (repo.enqueueMutation (repo.enqueueMutation state { entry with state := .syncing })
        { entry with state := .conflict },
        (.ok (.conflict conflict) : Except (Thrown ρ ε) (PushOutcome ρ))) := by
  refine settled_of_state lawful { entry with state := .conflict } rfl ?_ (by simp)
    (fun _ => ⟨rfl, rfl⟩) (by simp) ?_
  · rw [answered_response token]
    decide
  · exact fun notConflict => absurd ((answered_response token 409 409 text).mpr rfl) notConflict

theorem settled_networkFailure (lawful : repo.Lawful) (token : hasToken accessToken = true)
    (attempts nextRetryAt : Nat) (outcome : PushOutcome ρ) :
    Settled repo entry.mutationId accessToken .networkFailure
      (repo.enqueueMutation (repo.enqueueMutation state { entry with state := .syncing })
        { entry with
          state := .retryable
          attempts
          nextRetryAt := some nextRetryAt
          lastError := some networkErrorMessage },
        (.ok outcome : Except (Thrown ρ ε) (PushOutcome ρ))) := by
  have unanswered : ∀ status, ¬ Answered accessToken (.networkFailure : Reply ρ) status := by
    rintro status ⟨-, text, same⟩
    cases same
  refine settled_of_state lawful
    { entry with
      state := .retryable
      attempts
      nextRetryAt := some nextRetryAt
      lastError := some networkErrorMessage } rfl (unanswered 201) (by simp)
    (fun answered => absurd answered (unanswered 409)) (fun _ _ => rfl)
    (fun _ notFailure => absurd ⟨token, rfl⟩ notFailure)

theorem settled_created (lawful : repo.Lawful) (token : hasToken accessToken = true)
    {text : BodyText ρ} (next : σ) (outcome : PushOutcome ρ) :
    Settled repo entry.mutationId accessToken (.response 201 text)
      (repo.dequeueMutation next entry.mutationId,
        (.ok outcome : Except (Thrown ρ ε) (PushOutcome ρ))) := by
  have gone : repo.getQueuedMutation (repo.dequeueMutation next entry.mutationId)
      entry.mutationId = none := by
    rw [lawful.getQueued_dequeue, if_pos rfl]
  have created := (answered_response token 201 201 text).mpr rfl
  constructor
  · exact fun _ => gone
  · rw [answered_response token]
    simp
  · simp
  · exact fun notCreated => absurd created notCreated
  · intro found there
    rw [gone] at there
    cases there
  · exact fun _ => rfl

inductive Pushed (repo : LocalRepository σ ρ ε) (state : σ) (entry : QueuedMutation)
    (accessToken : Option String) :
    Reply ρ → σ × Except (Thrown ρ ε) (PushOutcome ρ) → Prop where
  | stuck (reply : Reply ρ) (thrown : Thrown ρ ε) (unread : ¬ Readable repo state accessToken reply) :
      Pushed repo state entry accessToken reply
        (repo.enqueueMutation state { entry with state := .syncing }, .error thrown)
  | created (value : ρ) (next : σ) (token : hasToken accessToken = true)
      (put : repo.putItem (repo.enqueueMutation state { entry with state := .syncing }) value =
        .ok next) :
      Pushed repo state entry accessToken (.response 201 (.json value))
        (repo.dequeueMutation next entry.mutationId, .ok (.applied value))
  | conflict (text : BodyText ρ) (body : Option ρ) (token : hasToken accessToken = true)
      (read : Readable repo state accessToken (.response 409 text)) :
      Pushed repo state entry accessToken (.response 409 text)
        (repo.enqueueMutation (repo.enqueueMutation state { entry with state := .syncing })
          { entry with state := .conflict }, .ok (.conflict body))
  | httpError (status : Nat) (text : BodyText ρ) (body : Option ρ)
      (token : hasToken accessToken = true) (not201 : status ≠ 201) (not409 : status ≠ 409)
      (read : Readable repo state accessToken (.response status text)) :
      Pushed repo state entry accessToken (.response status text)
        (repo.enqueueMutation (repo.enqueueMutation state { entry with state := .syncing })
          { entry with state := .localDirty }, .error (.httpError status body))
  | networkFailure (attempts nextRetryAt : Nat) (outcome : PushOutcome ρ)
      (token : hasToken accessToken = true) :
      Pushed repo state entry accessToken .networkFailure
        (repo.enqueueMutation (repo.enqueueMutation state { entry with state := .syncing })
          { entry with
            state := .retryable
            attempts
            nextRetryAt := some nextRetryAt
            lastError := some networkErrorMessage }, .ok outcome)

theorem pushOne_cases_response (lawful : repo.Lawful) (backoff : BackoffOptions) (state : σ)
    (entry : QueuedMutation) (now : Nat) (token : hasToken accessToken = true) (status : Nat)
    (text : BodyText ρ) :
    Pushed repo state entry accessToken (.response status text)
      (pushOne repo backoff state entry now accessToken (.response status text)) := by
  by_cases noContent : status = 204
  · subst noContent
    have read : Readable repo state accessToken (.response 204 text) := ⟨token, .inl rfl⟩
    simpa [pushOne, pushBody, mutateItem, request, token] using
      Pushed.httpError 204 text none token (by decide) (by decide) read
  cases text with
  | unreadable =>
      simpa [pushOne, pushBody, mutateItem, request, token, noContent] using
        Pushed.stuck (.response status .unreadable) .bodyUnreadable (by simp [Readable, noContent])
  | notJson =>
      simpa [pushOne, pushBody, mutateItem, request, token, noContent] using
        Pushed.stuck (.response status .notJson) .syntaxError (by simp [Readable, noContent])
  | empty =>
      by_cases created : status = 201
      · subst created
        simpa [pushOne, pushBody, mutateItem, request, token] using
          Pushed.stuck (.response 201 .empty) .typeError (by simp [Readable])
      · have read : Readable repo state accessToken (.response status .empty) :=
          ⟨token, .inr (.inl ⟨rfl, created⟩)⟩
        by_cases conflict : status = 409
        · subst conflict
          simpa [pushOne, pushBody, mutateItem, request, token] using
            Pushed.conflict .empty none token read
        · simpa [pushOne, pushBody, mutateItem, request, token, noContent, created, conflict] using
            Pushed.httpError status .empty none token created conflict read
  | json value =>
      by_cases created : status = 201
      · subst created
        have taken := lawful.putItem_enqueue state { entry with state := .syncing } value
        cases put : repo.putItem (repo.enqueueMutation state { entry with state := .syncing })
            value with
        | error error =>
            have unread : ¬ Readable repo state accessToken (.response 201 (.json value)) := by
              rintro ⟨-, noContent | ⟨empty, -⟩ | ⟨other, same, accepts⟩⟩
              · cases noContent
              · cases empty
              · cases same
                rw [← taken, put] at accepts
                exact absurd (accepts rfl) (by simp [Except.isOk, Except.toBool])
            simpa [pushOne, pushBody, mutateItem, request, token, put] using
              Pushed.stuck _ (.repository error) unread
        | ok next =>
            simpa [pushOne, pushBody, mutateItem, request, token, put] using
              Pushed.created value next token put
      · have read : Readable repo state accessToken (.response status (.json value)) :=
          ⟨token, .inr (.inr ⟨value, rfl, fun same => absurd same created⟩)⟩
        by_cases conflict : status = 409
        · subst conflict
          simpa [pushOne, pushBody, mutateItem, request, token] using
            Pushed.conflict (.json value) (some value) token read
        · simpa [pushOne, pushBody, mutateItem, request, token, noContent, created, conflict] using
            Pushed.httpError status (.json value) (some value) token created conflict read

theorem pushOne_cases (lawful : repo.Lawful) (backoff : BackoffOptions) (state : σ)
    (entry : QueuedMutation) (now : Nat) (accessToken : Option String) (reply : Reply ρ) :
    Pushed repo state entry accessToken reply
      (pushOne repo backoff state entry now accessToken reply) := by
  cases token : hasToken accessToken with
  | false =>
      have unread : ¬ Readable repo state accessToken reply := by
        cases reply <;> simp [Readable, token]
      simpa [pushOne, pushBody, mutateItem, request, token] using
        Pushed.stuck reply .noAccessToken unread
  | true =>
      cases reply with
      | networkFailure =>
          simpa [pushOne, pushBody, mutateItem, request, token] using
            Pushed.networkFailure _ _ _ token
      | response status text =>
          exact pushOne_cases_response lawful backoff state entry now token status text

theorem Pushed.settled_iff (lawful : repo.Lawful)
    {result : σ × Except (Thrown ρ ε) (PushOutcome ρ)}
    (pushed : Pushed repo state entry accessToken reply result) :
    Settled repo entry.mutationId accessToken reply result ↔
      Readable repo state accessToken reply := by
  cases pushed with
  | stuck _ thrown unread => exact iff_of_false (not_settled_of_syncing lawful) unread
  | created value next token put =>
      have taken := lawful.putItem_enqueue state { entry with state := .syncing } value
      rw [put] at taken
      exact iff_of_true (settled_created lawful token next (.applied value))
        ⟨token, .inr (.inr ⟨value, rfl, fun _ => taken.symm⟩)⟩
  | conflict text body token read => exact iff_of_true (settled_conflict lawful token body) read
  | httpError status text body token not201 not409 read =>
      exact iff_of_true (settled_httpError lawful token not201 not409 body) read
  | networkFailure attempts nextRetryAt outcome token =>
      exact iff_of_true (settled_networkFailure lawful token attempts nextRetryAt outcome) token

inductive PushEffect (repo : LocalRepository σ ρ ε) (state : σ) (entry : QueuedMutation)
    (accessToken : Option String) : Reply ρ → Option QueuedMutation → Prop where
  | applied (value : ρ) : PushEffect repo state entry accessToken (.response 201 (.json value)) none
  | syncing (reply : Reply ρ) (unread : ¬ Readable repo state accessToken reply) :
      PushEffect repo state entry accessToken reply (some { entry with state := .syncing })
  | conflict (text : BodyText ρ) :
      PushEffect repo state entry accessToken (.response 409 text)
        (some { entry with state := .conflict })
  | localDirty (status : Nat) (text : BodyText ρ) (not201 : status ≠ 201) :
      PushEffect repo state entry accessToken (.response status text)
        (some { entry with state := .localDirty })
  | retryable (next : QueuedMutation) (mutation : next.mutation = entry.mutation)
      (isRetryable : next.state = .retryable) :
      PushEffect repo state entry accessToken .networkFailure (some next)

/-- A push only touches the queue entry of its own mutation. -/
def PushedTo (repo : LocalRepository σ ρ ε) (state next : σ) (entry : QueuedMutation)
    (left : Option QueuedMutation) : Prop :=
  ∀ mutationId, repo.getQueuedMutation next mutationId =
    if mutationId = entry.mutationId then left else repo.getQueuedMutation state mutationId

theorem pushedTo_enqueue (lawful : repo.Lawful) (next : QueuedMutation)
    (same : next.mutationId = entry.mutationId) :
    PushedTo repo state (repo.enqueueMutation state next) entry (some next) := by
  intro mutationId
  rw [lawful.getQueued_enqueue, same]

theorem PushedTo.enqueue {middle : σ} {left : Option QueuedMutation} (lawful : repo.Lawful)
    (pushed : PushedTo repo state middle entry left) (next : QueuedMutation)
    (same : next.mutationId = entry.mutationId) :
    PushedTo repo state (repo.enqueueMutation middle next) entry (some next) := by
  intro mutationId
  rw [lawful.getQueued_enqueue, same, pushed mutationId]
  split <;> rfl

theorem PushedTo.dequeue {middle : σ} {left : Option QueuedMutation} (lawful : repo.Lawful)
    (pushed : PushedTo repo state middle entry left) :
    PushedTo repo state (repo.dequeueMutation middle entry.mutationId) entry none := by
  intro mutationId
  rw [lawful.getQueued_dequeue, pushed mutationId]
  split <;> rfl

theorem PushedTo.putItem {middle next : σ} {left : Option QueuedMutation} {item : ρ}
    (lawful : repo.Lawful) (pushed : PushedTo repo state middle entry left)
    (put : repo.putItem middle item = .ok next) : PushedTo repo state next entry left := by
  intro mutationId
  rw [lawful.getQueued_putItem middle item next put, pushed mutationId]

theorem Pushed.effect (lawful : repo.Lawful) {result : σ × Except (Thrown ρ ε) (PushOutcome ρ)}
    (pushed : Pushed repo state entry accessToken reply result) :
    ∃ left, PushEffect repo state entry accessToken reply left ∧
      PushedTo repo state result.1 entry left := by
  have started : PushedTo repo state (repo.enqueueMutation state { entry with state := .syncing })
      entry (some { entry with state := .syncing }) := pushedTo_enqueue lawful _ rfl
  cases pushed with
  | stuck _ thrown unread => exact ⟨_, .syncing reply unread, started⟩
  | created value next token put =>
      exact ⟨none, .applied value, (started.putItem lawful put).dequeue lawful⟩
  | conflict text body token read => exact ⟨_, .conflict text, started.enqueue lawful _ rfl⟩
  | httpError status text body token not201 not409 read =>
      exact ⟨_, .localDirty status text not201, started.enqueue lawful _ rfl⟩
  | networkFailure attempts nextRetryAt outcome token =>
      have retried := started.enqueue lawful
        { entry with
          state := .retryable
          attempts
          nextRetryAt := some nextRetryAt
          lastError := some networkErrorMessage } rfl
      refine ⟨_, ?_, retried⟩
      exact .retryable _ rfl rfl

/-- One push of one entry settles it exactly when the token is there, the body can be read, and a
record that comes with a 201 is taken. -/
theorem pushOne_settles (lawful : repo.Lawful) (backoff : BackoffOptions) (state : σ)
    (entry : QueuedMutation) (now : Nat) (accessToken : Option String) (reply : Reply ρ) :
    Settled repo entry.mutationId accessToken reply
        (pushOne repo backoff state entry now accessToken reply) ↔
      Readable repo state accessToken reply :=
  (pushOne_cases lawful backoff state entry now accessToken reply).settled_iff lawful

end Settles

section Samples

theorem pushOne_settles_created :
    Settled InMemoryLocalRepository.operations "m1" (some "token") (.response 201 (.json (sampleRecord 1)))
      (pushOne InMemoryLocalRepository.operations defaultBackoff InMemoryLocalRepository.empty
        (sampleEntry "m1") 0 (some "token") (.response 201 (.json (sampleRecord 1)))) := by
  refine (pushOne_settles InMemoryLocalRepository.operations_lawful defaultBackoff _
    (sampleEntry "m1") 0 (some "token") _).mpr ⟨by decide, ?_⟩
  exact .inr (.inr ⟨sampleRecord 1, rfl, fun _ => by decide⟩)

def pulledPastMutation : InMemoryLocalRepository where
  items := InsertionMap.empty.set (InMemoryLocalRepository.key "vault" "item") (sampleRecord 2)
  cursors := .empty
  queue := InsertionMap.empty.set "m1" (sampleEntry "m1")

/-- The replayed 201 carries revision 1, is refused by the repository, and leaves SYNCING. -/
theorem replayed_created_stays_syncing :
    ¬ ∀ (state : InMemoryLocalRepository) (entry : QueuedMutation) (now : Nat)
      (accessToken : Option String) (reply : Reply ItemRecord),
      Settled InMemoryLocalRepository.operations entry.mutationId accessToken reply
        (pushOne InMemoryLocalRepository.operations defaultBackoff state entry now accessToken
          reply) := by
  intro always
  have settled := always pulledPastMutation (sampleEntry "m1") 0 (some "token")
    (.response 201 (.json (sampleRecord 1)))
  exact settled.notSyncing { sampleEntry "m1" with state := .syncing } (by decide) rfl

end Samples

end ZenPass.Sdk
