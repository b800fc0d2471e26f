import ZenPass.Sdk.SyncEngine
import ZenPass.Web.IndexedDbRepository

set_option autoImplicit false

namespace ZenPass.Web

open KeyedStore Sdk

variable {σ ρ ε ω τ : Type}

section Attempts

variable (repo : LocalRepository σ ρ ε) (backoff : BackoffOptions)
  (exchange : ω → Mutation → ω × Reply ρ) (now : Nat) (accessToken : Option String)

def attempted : ω → σ → List QueuedMutation → List QueuedMutation
  | _, _, [] => []
  | world, state, entry :: rest =>
      if skipped entry now then attempted world state rest
      else
        let (answered, reply) :=
          if hasToken accessToken then exchange world entry.mutation else (world, .networkFailure)
        match pushOne repo backoff state entry now accessToken reply with
        | (next, .ok _) => entry :: attempted answered next rest
        | (_, .error _) => [entry]

def eligible (entries : List QueuedMutation) : List QueuedMutation :=
  entries.filter fun entry => !skipped entry now

/-- The exchange with a note of every request it was asked for. -/
def recorded (world : ω × List Mutation) (mutation : Mutation) : (ω × List Mutation) × Reply ρ :=
  let (answered, reply) := exchange world.1 mutation
  ((answered, world.2 ++ [mutation]), reply)

def answers : ω → List QueuedMutation → List (Reply ρ)
  | _, [] => []
  | world, entry :: rest =>
      let (answered, reply) := exchange world entry.mutation
      reply :: answers answered rest

end Attempts

/-- The records as a store of their own. `takes` is what `putItem` does to them, if it does. -/
structure RecordsApart (repo : LocalRepository σ ρ ε) (records : σ → τ) (takes : τ → ρ → Option τ) :
    Prop where
  records_putItem : ∀ state item,
    (repo.putItem state item).toOption.map records = takes (records state) item
  records_enqueue : ∀ state entry, records (repo.enqueueMutation state entry) = records state
  records_dequeue : ∀ state mutationId,
    records (repo.dequeueMutation state mutationId) = records state

section Condition

variable (takes : τ → ρ → Option τ)

/-- The records after a reply that `pushOne` makes an outcome of, and `none` for one on which it
throws: every status but 201 and 409, a body it cannot read, a record that is refused. -/
def recordsAfter (held : τ) : Reply ρ → Option τ
  | .networkFailure => some held
  | .response status text =>
      if status = 201 then
        match text with
        | .json item => takes held item
        | _ => none
      else if status = 409 then
        match text with
        | .empty | .json _ => some held
        | _ => none
      else none

/-- Every reply but the last lets the loop go on. -/
def CarriesOn (accessToken : Option String) : τ → List (Reply ρ) → Prop
  | _, [] => True
  | _, [_] => True
  | held, reply :: later :: rest =>
      hasToken accessToken = true ∧
        ∃ after, recordsAfter takes held reply = some after ∧
          CarriesOn accessToken after (later :: rest)

end Condition

section Loop

variable {repo : LocalRepository σ ρ ε} {backoff : BackoffOptions}
  {exchange : ω → Mutation → ω × Reply ρ} {now : Nat} {accessToken : Option String}
  {records : σ → τ} {takes : τ → ρ → Option τ}

theorem recordsAfter_unreadable (apart : RecordsApart repo records takes) {state : σ}
    {reply : Reply ρ} (token : hasToken accessToken = true)
    (unread : ¬ Readable repo state accessToken reply) :
    recordsAfter takes (records state) reply = none := by
  cases reply with
  | networkFailure => exact absurd token unread
  | response status text =>
      by_cases created : status = 201
      · subst created
        cases text with
        | json item =>
            -- A record that is taken would make the reply readable.
            change takes (records state) item = none
            rw [← apart.records_putItem]
            cases put : repo.putItem state item with
            | error error => rfl
            | ok next =>
                have read : Readable repo state accessToken (.response 201 (.json item)) := by
                  refine ⟨token, .inr (.inr ⟨item, rfl, ?_⟩)⟩
                  intro _
                  rw [put]
                  rfl
                exact absurd read unread
        | unreadable => rfl
        | empty => rfl
        | notJson => rfl
      · by_cases conflict : status = 409
        · subst conflict
          cases text with
          | empty => exact absurd ⟨token, .inr (.inl ⟨rfl, by decide⟩)⟩ unread
          | json value =>
              have read : Readable repo state accessToken (.response 409 (.json value)) := by
                refine ⟨token, .inr (.inr ⟨value, rfl, ?_⟩)⟩
                intro impossible
                cases impossible
              exact absurd read unread
          | unreadable => rfl
          | notJson => rfl
        · simp [recordsAfter, created, conflict]

theorem pushOne_records (lawful : repo.Lawful) (apart : RecordsApart repo records takes) (state : σ)
    (entry : QueuedMutation) (token : hasToken accessToken = true) (reply : Reply ρ) :
    recordsAfter takes (records state) reply =
      match pushOne repo backoff state entry now accessToken reply with
      | (next, .ok _) => some (records next)
      | (_, .error _) => none := by
  have pushed := pushOne_cases lawful backoff state entry now accessToken reply
  generalize pushOne repo backoff state entry now accessToken reply = result at pushed
  cases pushed with
  | stuck _ thrown unread => exact recordsAfter_unreadable apart token unread
  | created item next _ put =>
      have taken := apart.records_putItem
        (repo.enqueueMutation state { entry with state := .syncing }) item
      rw [put, apart.records_enqueue] at taken
      change takes (records state) item = some (records (repo.dequeueMutation next _))
      rw [apart.records_dequeue, ← taken]
      rfl
  | conflict text body _ read =>
      change recordsAfter takes (records state) (.response 409 text) = some (records _)
      rw [apart.records_enqueue, apart.records_enqueue]
      cases text with
      | empty => rfl
      | json value => rfl
      | unreadable => simp [Readable] at read
      | notJson => simp [Readable] at read
  | httpError status text body _ not201 not409 _ => simp [recordsAfter, not201, not409]
  | networkFailure attempts nextRetryAt outcome _ =>
      change some (records state) = some (records _)
      rw [apart.records_enqueue, apart.records_enqueue]

theorem pushOne_noToken (state : σ) (entry : QueuedMutation) (reply : Reply ρ)
    (noToken : hasToken accessToken = false) :
    ∃ next, pushOne repo backoff state entry now accessToken reply =
      (next, .error .noAccessToken) := by
  simp [pushOne, pushBody, mutateItem, request, noToken]

theorem answers_length (world : ω) (entries : List QueuedMutation) :
    (answers exchange world entries).length = entries.length := by
  induction entries generalizing world with
  | nil => rfl
  | cons entry rest ih => simp [answers, ih]

theorem attempted_cons_eligible (world : ω) (state : σ) {entry : QueuedMutation}
    (rest : List QueuedMutation) (attempt : skipped entry now = false) :
    attempted repo backoff exchange now accessToken world state (entry :: rest) =
      match pushOne repo backoff state entry now accessToken
        (if hasToken accessToken then exchange world entry.mutation
          else (world, .networkFailure)).2 with
      | (next, .ok _) =>
          entry :: attempted repo backoff exchange now accessToken
            (if hasToken accessToken then exchange world entry.mutation
              else (world, .networkFailure)).1 next rest
      | (_, .error _) => [entry] := by
  simp [attempted, attempt]

theorem carriesOn_stopped {held : τ} {reply : Reply ρ} (replies : List (Reply ρ))
    (stops : hasToken accessToken = false ∨ recordsAfter takes held reply = none) :
    CarriesOn takes accessToken held (reply :: replies) ↔ replies = [] := by
  cases replies with
  | nil => simp [CarriesOn]
  | cons later rest =>
      constructor
      · rintro ⟨token, after, passed, -⟩
        rcases stops with noToken | stopped
        · rw [token] at noToken
          cases noToken
        · rw [stopped] at passed
          cases passed
      · intro nothing
        cases nothing

theorem carriesOn_passed {held after : τ} {reply : Reply ρ} (replies : List (Reply ρ))
    (token : hasToken accessToken = true) (passed : recordsAfter takes held reply = some after) :
    CarriesOn takes accessToken held (reply :: replies) ↔
      CarriesOn takes accessToken after replies := by
  cases replies with
  | nil => simp [CarriesOn]
  | cons later rest => simp [CarriesOn, token, passed]

theorem answers_eq_nil (world : ω) (entries : List QueuedMutation) :
    answers exchange world entries = [] ↔ entries = [] := by
  rw [← List.length_eq_zero_iff, answers_length, List.length_eq_zero_iff]

theorem attempted_iff (lawful : repo.Lawful) (apart : RecordsApart repo records takes) (world : ω)
    (state : σ) (entries : List QueuedMutation) :
    attempted repo backoff exchange now accessToken world state entries = eligible now entries ↔
      CarriesOn takes accessToken (records state)
        (answers exchange world (eligible now entries)) := by
  induction entries generalizing world state with
  | nil => simp [attempted, eligible, answers, CarriesOn]
  | cons entry rest ih =>
      cases attempt : skipped entry now with
      | true =>
          have passes : eligible now (entry :: rest) = eligible now rest := by
            simp [eligible, attempt]
          rw [passes, ← ih world state]
          simp [attempted, attempt]
      | false =>
          have first : eligible now (entry :: rest) = entry :: eligible now rest := by
            simp [eligible, attempt]
          rw [first, attempted_cons_eligible world state rest attempt]
          -- A push that throws leaves `[entry]`, all of the eligible entries only if alone.
          have alone : [entry] = entry :: eligible now rest ↔
              answers exchange (exchange world entry.mutation).1 (eligible now rest) = [] := by
            rw [answers_eq_nil, List.cons.injEq, and_iff_right rfl]
            exact eq_comm
          cases token : hasToken accessToken with
          | false =>
              obtain ⟨next, thrown⟩ : ∃ next, pushOne repo backoff state entry now accessToken
                  (.networkFailure) = (next, .error .noAccessToken) :=
                pushOne_noToken state entry .networkFailure token
              simp only [Bool.false_eq_true, if_false, thrown]
              exact alone.trans (carriesOn_stopped _ (.inl token)).symm
          | true =>
              have outcome : recordsAfter takes (records state) (exchange world entry.mutation).2 =
                  match pushOne repo backoff state entry now accessToken
                    (exchange world entry.mutation).2 with
                  | (next, .ok _) => some (records next)
                  | (_, .error _) => none :=
                pushOne_records lawful apart state entry token (exchange world entry.mutation).2
              simp only [if_true]
              generalize pushOne repo backoff state entry now accessToken _ = result at outcome ⊢
              obtain ⟨next, _ | _⟩ := result
              · exact alone.trans (carriesOn_stopped _ (.inr outcome)).symm
              · rw [List.cons.injEq, and_iff_right rfl, ih]
                exact (carriesOn_passed _ token outcome).symm

theorem pushEntries_requests (token : hasToken accessToken = true) (world : ω) (made : List Mutation)
    (state : σ) (entries : List QueuedMutation) :
    (pushEntries repo backoff (recorded exchange) now accessToken (world, made) state entries).1.2 =
      made ++ (attempted repo backoff exchange now accessToken world state entries).map
        QueuedMutation.mutation := by
  induction entries generalizing world made state with
  | nil => simp [pushEntries, attempted]
  | cons entry rest ih =>
      cases attempt : skipped entry now with
      | true => simpa [pushEntries, attempted, attempt] using ih world made state
      | false =>
          rw [attempted_cons_eligible world state rest attempt]
          simp only [pushEntries, attempt, Bool.false_eq_true, if_false, token, if_true, recorded]
          generalize pushOne repo backoff state entry now accessToken _ = result
          obtain ⟨next, _ | _⟩ := result
          · simp
          · simpa using ih (exchange world entry.mutation).1 (made ++ [entry.mutation]) next

/-- One push of the queue attempts all of its eligible entries in order exactly when every reply but
the last lets the loop go on. -/
theorem pushAll_attempts (lawful : repo.Lawful) (apart : RecordsApart repo records takes)
    (backoff : BackoffOptions) (exchange : ω → Mutation → ω × Reply ρ) (now : Nat)
    (accessToken : Option String) (world : ω) (state : σ) :
    attempted repo backoff exchange now accessToken world state (repo.listQueuedMutations state) =
        eligible now (repo.listQueuedMutations state) ↔
      CarriesOn takes accessToken (records state)
        (answers exchange world (eligible now (repo.listQueuedMutations state))) :=
  attempted_iff lawful apart world state _

end Loop

def takesItem (items : InsertionMap String ItemRecord) (item : ItemRecord) :
    Option (InsertionMap String ItemRecord) :=
  let slot := InMemoryLocalRepository.key item.vaultId item.itemId
  match assertMonotonicPut (items.get slot) item with
  | .ok () => some (items.set slot item)
  | .error _ => none

theorem inMemory_recordsApart :
    RecordsApart InMemoryLocalRepository.operations InMemoryLocalRepository.items takesItem where
  records_putItem state item := by
    change (InMemoryLocalRepository.putItem state item).toOption.map _ = _
    simp only [InMemoryLocalRepository.putItem, takesItem]
    cases assertMonotonicPut (state.items.get _) item with
    | ok => rfl
    | error => rfl
  records_enqueue _ _ := rfl
  records_dequeue _ _ := rfl

def takesRow (items : ObjectStore (List Utf16.DomString) ItemRecord) (item : ItemRecord) :
    Option (ObjectStore (List Utf16.DomString) ItemRecord) :=
  let slot := IndexedDBLocalRepository.key item.vaultId item.itemId
  match assertMonotonicPut (items.get slot) item with
  | .ok () => some (items.put slot item)
  | .error _ => none

theorem indexedDB_recordsApart :
    RecordsApart IndexedDBLocalRepository.operations IndexedDBLocalRepository.items
      takesRow where
  records_putItem state item := by
    change (IndexedDBLocalRepository.putItem state item).toOption.map _ = _
    simp only [IndexedDBLocalRepository.putItem, takesRow]
    cases assertMonotonicPut (state.items.get _) item with
    | ok => rfl
    | error => rfl
  records_enqueue _ _ := rfl
  records_dequeue _ _ := rfl

def twoQueued : InMemoryLocalRepository where
  items := .empty
  cursors := .empty
  queue := (InsertionMap.empty.set "m1" (sampleEntry "m1")).set "m2" (sampleEntry "m2")

def scripted (replies : List (Reply ItemRecord)) (_ : Mutation) :
    List (Reply ItemRecord) × Reply ItemRecord :=
  match replies with
  | [] => ([], .networkFailure)
  | reply :: later => (later, reply)

theorem pushAll_attempts_offline :
    attempted InMemoryLocalRepository.operations defaultBackoff scripted 0 (some "token") []
        twoQueued (InMemoryLocalRepository.operations.listQueuedMutations twoQueued) =
      eligible 0 (InMemoryLocalRepository.operations.listQueuedMutations twoQueued) :=
  (pushAll_attempts InMemoryLocalRepository.operations_lawful inMemory_recordsApart defaultBackoff
    scripted 0 (some "token") [] twoQueued).mpr
    ⟨by decide, twoQueued.items, rfl, trivial⟩

/-- A 400 for the entry at the head of the queue keeps the second from being attempted. -/
theorem rejected_head_blocks_queue :
    ¬ ∀ (state : InMemoryLocalRepository) (replies : List (Reply ItemRecord)) (now : Nat)
      (accessToken : Option String),
      attempted InMemoryLocalRepository.operations defaultBackoff scripted now accessToken replies
          state (InMemoryLocalRepository.operations.listQueuedMutations state) =
        eligible now (InMemoryLocalRepository.operations.listQueuedMutations state) := by
  intro always
  have all := always twoQueued [.response 400 .empty, .response 400 .empty] 0 (some "token")
  exact absurd all (by decide)

end ZenPass.Web
