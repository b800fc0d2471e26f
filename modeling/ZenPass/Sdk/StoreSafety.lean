import ZenPass.Sdk.UntrustedServer

set_option autoImplicit false

namespace ZenPass.Sdk

open KeyedStore JavaScript Transition

section Properties

variable {κ ν : Type} [DecidableEq κ] [LinearOrder ν]

def revisionNumber (record : Json ν) : Option ν :=
  match record.get "revision" with
  | some (.number revision) => some revision
  | _ => none

def SameContent (old new : Json ν) : Prop :=
  ∀ field ∈ JsonRepository.recordFields, new.get field = old.get field

/-- Revisions that are numbers stay numbers and do not decrease, and a record that still has its
revision is the same. -/
def Grows (earlier later : JsonRepository κ ν) : Prop :=
  ∀ stored old revision, earlier.items.get stored = some old → revisionNumber old = some revision →
    ∃ new number, later.items.get stored = some new ∧ revisionNumber new = some number ∧
      revision ≤ number ∧ (number = revision → SameContent old new)

def CursorsFollow (start : JsonRepository κ ν) (engine : Engine κ ν) : Prop :=
  ∀ vaultId, engine.repo.cursors.get vaultId =
    match engine.lastPage vaultId with
    | none => start.cursors.get vaultId
    | some page => page.get "nextCursor"

variable (numerals : Numerals ν) (keyOf : Value ν → Value ν → Option κ)

def MayWrite (engine : Engine κ ν) (stored : κ) (record : Json ν) : EngineAction ν → Prop
  | .apply => ∃ pull page change rest, engine.phase = .applying pull page (change :: rest) ∧
      record.get "vaultId" = some (.string pull.vaultId) ∧
      keyOf (some (.string pull.vaultId)) (record.get "itemId") = some stored
  | .pushOne entry _ _ _ => record.get "vaultId" = some (.string entry.mutation.vaultId) ∧
      record.get "itemId" = some (.string entry.mutation.itemId) ∧
      keyOf (some (.string entry.mutation.vaultId)) (some (.string entry.mutation.itemId)) =
        some stored
  | _ => False

structure StepSafe (engine : Engine κ ν) (action : EngineAction ν) (next : Engine κ ν) : Prop where
  grows : Grows engine.repo next.repo
  content : ∀ stored old new revision, engine.repo.items.get stored = some old →
    next.repo.items.get stored = some new → old.get "revision" = some revision →
      strictEq (new.get "revision") (some revision) = true → SameContent old new
  writes : ∀ stored, next.repo.items.get stored = engine.repo.items.get stored ∨
    ∃ record, next.repo.items.get stored = some record ∧ MayWrite keyOf engine stored record action
  error : ∀ itemsApplied, next.phase = .idle (some (.error itemsApplied)) → ∀ vaultId,
    next.repo.cursors.get vaultId = engine.repo.cursors.get vaultId

/-- The record has a number for its revision if the one in its place has. -/
def keepsNumber (repo : JsonRepository κ ν) (record : Json ν) : Bool :=
  match (JsonRepository.placeOf keyOf record).bind repo.items.get with
  | none => true
  | some old => (revisionNumber old).isNone || (revisionNumber record).isSome

def ofMutation (mutation : Mutation) (record : Json ν) : Bool :=
  strictEq (record.get "vaultId") (some (.string mutation.vaultId)) &&
    strictEq (record.get "itemId") (some (.string mutation.itemId))

/-- A record that the repository takes leaves no number behind, one that a push stores is that of
its mutation, and a page that is applied has a cursor. -/
def wellFormed (engine : Engine κ ν) : EngineAction ν → Bool
  | .apply =>
      match engine.phase with
      | .applying _ page [] => !isNullish (page.get "nextCursor")
      | .applying pull _ (change :: _) =>
          !strictEq (change.get "vaultId") (some (.string pull.vaultId)) ||
            !(engine.repo.putItem numerals keyOf change).isOk || keepsNumber keyOf engine.repo change
      | _ => true
  | .pushOne entry _ accessToken (.response 201 (.json record)) =>
      !hasToken accessToken || !(engine.repo.putItem numerals keyOf record).isOk ||
        keepsNumber keyOf engine.repo record && ofMutation entry.mutation record
  | _ => true

end Properties

section Steps

variable {κ ν : Type} [DecidableEq κ] [LinearOrder ν] {numerals : Numerals ν}
  {keyOf : Value ν → Value ν → Option κ}

namespace JsonRepository

structure Put (numerals : Numerals ν) (keyOf : Value ν → Value ν → Option κ)
    (repo : JsonRepository κ ν) (record : Json ν) (stored : κ) : Prop where
  place : placeOf keyOf record = some stored
  accepted : assertMonotonicPut numerals (repo.items.get stored) record = .ok ()

theorem putItem_cases {repo next : JsonRepository κ ν} {record : Json ν}
    (put : putItem numerals keyOf repo record = .ok next) :
    ∃ stored, Put numerals keyOf repo record stored ∧
      next = { repo with items := repo.items.set stored record } := by
  unfold putItem at put
  split at put
  · cases put
  · rename_i stored place
    split at put
    · cases put
    · rename_i accepted
      cases put
      exact ⟨stored, ⟨place, accepted⟩, rfl⟩

theorem putItem_isOk_congr {repo other : JsonRepository κ ν} (same : other.items = repo.items)
    (record : Json ν) :
    (putItem numerals keyOf other record).isOk = (putItem numerals keyOf repo record).isOk := by
  unfold putItem
  rw [same]
  split
  · rfl
  · split <;> rfl

theorem operations_lawful : (operations numerals keyOf).Lawful where
  getQueued_enqueue state entry mutationId := by
    change (state.queue.set entry.mutationId entry).get mutationId = _
    exact state.queue.get_set entry.mutationId mutationId entry
  getQueued_dequeue state removed mutationId := by
    change (state.queue.delete removed).get mutationId = _
    exact state.queue.get_delete removed mutationId
  getQueued_putItem state item next put mutationId := by
    obtain ⟨stored, -, rfl⟩ := putItem_cases put
    rfl
  putItem_enqueue state entry item := by
    change (putItem numerals keyOf _ item).isOk = (putItem numerals keyOf state item).isOk
    apply putItem_isOk_congr
    rfl
  getQueued_setCursor _ _ _ _ := rfl
  mem_listQueued state entry := by
    change entry ∈ state.queue.values ↔ ∃ mutationId, state.queue.get mutationId = some entry
    simp [InsertionMap.values, InsertionMap.get_eq_some]

end JsonRepository

open JsonRepository

inductive EngineEffect (numerals : Numerals ν) (keyOf : Value ν → Value ν → Option κ)
    (engine : Engine κ ν) : EngineAction ν → Engine κ ν → Prop where
  | quiet (action : EngineAction ν) (next : Engine κ ν) (items : next.repo.items = engine.repo.items)
      (cursors : next.repo.cursors = engine.repo.cursors)
      (lastPage : next.lastPage = engine.lastPage) : EngineEffect numerals keyOf engine action next
  | pulled (next : Engine κ ν) (pull : PullState ν) (page change : Json ν) (rest : List (Json ν))
      (stored : κ) (phase : engine.phase = .applying pull page (change :: rest))
      (vault : change.get "vaultId" = some (.string pull.vaultId))
      (put : Put numerals keyOf engine.repo change stored)
      (items : next.repo.items = engine.repo.items.set stored change)
      (cursors : next.repo.cursors = engine.repo.cursors)
      (lastPage : next.lastPage = engine.lastPage) : EngineEffect numerals keyOf engine .apply next
  | pushed (next : Engine κ ν) (entry : QueuedMutation) (now : Nat) (accessToken : Option String)
      (record : Json ν) (stored : κ) (token : hasToken accessToken = true)
      (put : Put numerals keyOf engine.repo record stored)
      (items : next.repo.items = engine.repo.items.set stored record)
      (cursors : next.repo.cursors = engine.repo.cursors)
      (lastPage : next.lastPage = engine.lastPage) :
      EngineEffect numerals keyOf engine (.pushOne entry now accessToken (.response 201 (.json record)))
        next
  | ended (pull : PullState ν) (page : Json ν) (phase : engine.phase = .applying pull page []) :
      EngineEffect numerals keyOf engine .apply (engine.endPage pull page)

theorem applyChange_effect {engine : Engine κ ν} {pull : PullState ν} {page change : Json ν}
    {rest : List (Json ν)} (phase : engine.phase = .applying pull page (change :: rest)) :
    EngineEffect numerals keyOf engine .apply
      (engine.applyChange numerals keyOf pull page change rest) := by
  unfold Engine.applyChange
  split
  · rename_i vault
    rw [member_getD, strictEq_string] at vault
    split
    · exact .quiet .apply _ rfl rfl rfl
    · rename_i repo put
      obtain ⟨stored, taken, rfl⟩ := putItem_cases put
      exact .pulled _ pull page change rest stored phase vault taken rfl rfl rfl
  · exact .quiet .apply _ rfl rfl rfl

theorem pushOne_effect (backoff : BackoffOptions) (engine : Engine κ ν) (entry : QueuedMutation)
    (now : Nat) (accessToken : Option String) (reply : Reply (Json ν)) :
    EngineEffect numerals keyOf engine (.pushOne entry now accessToken reply)
      { engine with
        repo := (Sdk.pushOne (operations numerals keyOf) backoff engine.repo entry now accessToken
          reply).1 } := by
  have lawful : (operations numerals keyOf).Lawful := operations_lawful
  have pushed := pushOne_cases lawful backoff engine.repo entry now accessToken reply
  generalize Sdk.pushOne (operations numerals keyOf) backoff engine.repo entry now accessToken reply =
    result at pushed
  cases pushed with
  | stuck => exact .quiet _ _ rfl rfl rfl
  | conflict => exact .quiet _ _ rfl rfl rfl
  | httpError => exact .quiet _ _ rfl rfl rfl
  | networkFailure => exact .quiet _ _ rfl rfl rfl
  | created record next token put =>
      obtain ⟨stored, ⟨place, accepted⟩, rfl⟩ := putItem_cases put
      exact .pushed _ entry now accessToken record stored token ⟨place, accepted⟩ rfl rfl rfl

theorem engineStep_effect {backoff : BackoffOptions} {engine next : Engine κ ν}
    {action : EngineAction ν}
    (stepped : engineStep numerals keyOf backoff engine action = some next) :
    EngineEffect numerals keyOf engine action next := by
  cases action with
  | pull vaultId maxPages =>
      rw [engineStep] at stepped
      split at stepped
      · cases stepped
        exact .quiet _ _ rfl rfl rfl
      · cases stepped
  | listChanges result =>
      rw [engineStep] at stepped
      split at stepped
      · split at stepped
        · cases stepped
          exact .quiet _ _ rfl rfl rfl
        · split at stepped
          · cases stepped
            exact .quiet _ _ rfl rfl rfl
          · cases stepped
            exact .quiet _ _ rfl rfl rfl
      · cases stepped
  | apply =>
      rw [engineStep] at stepped
      split at stepped
      · rename_i pull page phase
        cases stepped
        exact .ended pull page phase
      · rename_i pull page change rest phase
        cases stepped
        exact applyChange_effect phase
      · cases stepped
  | pushOne entry now accessToken reply =>
      cases stepped
      exact pushOne_effect backoff engine entry now accessToken reply

omit [LinearOrder ν] in
theorem revisionNumber_eq_some {record : Json ν} {revision : ν} :
    revisionNumber record = some revision ↔ record.get "revision" = some (.number revision) := by
  unfold revisionNumber
  split
  · rename_i number is
    rw [is, Option.some.injEq, Option.some.injEq, Json.number.injEq]
  · rename_i none_
    constructor
    · intro is
      cases is
    · intro is
      exact absurd is (none_ revision)

omit [LinearOrder ν] in
theorem SameContent.refl (record : Json ν) : SameContent record record := fun _ _ => rfl

namespace JsonRepository

theorem assertMonotonicPut_of_get {old record : Json ν} {value : Value ν}
    (has : old.get "revision" = value) (present : value.isSome = true) :
    assertMonotonicPut numerals (some old) record =
      match less numerals (record.get "revision") value with
      | none => .error .typeError
      | some true => .error (.conflict .revisionRegression)
      | some false =>
          if strictEq (record.get "revision") value && !sameRecordBytes old record then
            .error (.conflict .revisionMismatch)
          else .ok () := by
  subst has
  exact if_pos (truthy_of_get numerals present)

theorem accepted_content {old record : Json ν} {revision : Json ν}
    (accepted : assertMonotonicPut numerals (some old) record = .ok ())
    (has : old.get "revision" = some revision)
    (same : strictEq (record.get "revision") (some revision) = true) : SameContent old record := by
  rw [assertMonotonicPut_of_get has rfl] at accepted
  have equal : sameRecordBytes old record = true := by
    split at accepted
    · cases accepted
    · cases accepted
    · by_contra different
      rw [Bool.not_eq_true] at different
      rw [same, different] at accepted
      cases accepted
  unfold sameRecordBytes at equal
  rw [List.all_eq_true] at equal
  intro field member
  exact (eq_of_strictEq (equal field member)).symm

theorem accepted_number {old record : Json ν} {revision number : ν}
    (accepted : assertMonotonicPut numerals (some old) record = .ok ())
    (had : revisionNumber old = some revision) (has : revisionNumber record = some number) :
    revision ≤ number ∧ (number = revision → SameContent old record) := by
  rw [revisionNumber_eq_some] at had has
  refine ⟨?_, ?_⟩
  · by_contra lower
    rw [not_le] at lower
    rw [assertMonotonicPut_of_get had rfl, has, less_number, decide_eq_true lower] at accepted
    cases accepted
  · intro same
    apply accepted_content accepted had
    rw [has, same, strictEq_number]

end JsonRepository

theorem Grows.refl (repo : JsonRepository κ ν) : Grows repo repo := by
  intro stored old revision found had
  exact ⟨old, revision, found, had, le_rfl, fun _ => .refl old⟩

theorem Grows.trans {first second third : JsonRepository κ ν} (early : Grows first second)
    (late : Grows second third) : Grows first third := by
  intro stored old revision found had
  obtain ⟨middle, between, there, hasBetween, below, sameBetween⟩ :=
    early stored old revision found had
  obtain ⟨new, number, last, has, above, sameLast⟩ := late stored middle between there hasBetween
  refine ⟨new, number, last, has, below.trans above, fun same field member => ?_⟩
  subst same
  have equal := le_antisymm below above
  rw [sameLast equal field member, sameBetween equal.symm field member]

theorem grows_of_items {repo next : JsonRepository κ ν} (items : next.items = repo.items) :
    Grows repo next := by
  have whole : Grows repo repo := Grows.refl repo
  unfold Grows at whole ⊢
  rw [items]
  exact whole

namespace JsonRepository

variable {repo next : JsonRepository κ ν} {record : Json ν} {stored : κ}

omit [LinearOrder ν] in
theorem get_set {other : κ} (items : next.items = repo.items.set stored record) :
    next.items.get other = if other = stored then some record else repo.items.get other := by
  rw [items, InsertionMap.get_set]

theorem Put.grows (put : Put numerals keyOf repo record stored)
    (items : next.items = repo.items.set stored record)
    (keeps : keepsNumber keyOf repo record = true) : Grows repo next := by
  intro other old revision found had
  rw [get_set items]
  split
  · rename_i same
    subst same
    have accepted := put.accepted
    rw [found] at accepted
    unfold keepsNumber at keeps
    rw [put.place, Option.bind_some, found] at keeps
    dsimp only at keeps
    rw [had, Option.isNone_some, Bool.false_or, Option.isSome_iff_exists] at keeps
    obtain ⟨number, has⟩ := keeps
    exact ⟨record, number, rfl, has, accepted_number accepted had has⟩
  · exact ⟨old, revision, found, had, le_rfl, fun _ => .refl old⟩

theorem Put.content (put : Put numerals keyOf repo record stored)
    (items : next.items = repo.items.set stored record) {other : κ} {old new revision : Json ν}
    (found : repo.items.get other = some old) (there : next.items.get other = some new)
    (had : old.get "revision" = some revision)
    (same : strictEq (new.get "revision") (some revision) = true) : SameContent old new := by
  rw [get_set items] at there
  split at there
  · rename_i place
    cases there
    have accepted := put.accepted
    rw [← place, found] at accepted
    exact accepted_content accepted had same
  · rw [found] at there
    cases there
    exact .refl old

theorem Put.isOk (put : Put numerals keyOf repo record stored) :
    (putItem numerals keyOf repo record).isOk = true := by
  simp [putItem, put.place, put.accepted, Except.isOk, Except.toBool]

theorem Put.keyOf_eq (put : Put numerals keyOf repo record stored) :
    keyOf (record.get "vaultId") (record.get "itemId") = some stored := by
  have place := put.place
  unfold placeOf at place
  split at place
  · cases place
  · exact place

end JsonRepository

variable {engine next : Engine κ ν} {action : EngineAction ν}

omit [DecidableEq κ] in
theorem endPage_phase (engine : Engine κ ν) (pull : PullState ν) (page : Json ν)
    (itemsApplied : Nat) :
    (engine.endPage pull page).phase ≠ .idle (some (.error itemsApplied)) := by
  unfold Engine.endPage PullState.next
  dsimp only
  split
  · split <;> simp
  · simp

theorem EngineEffect.safe (effect : EngineEffect numerals keyOf engine action next)
    (formed : wellFormed numerals keyOf engine action = true) :
    StepSafe keyOf engine action next := by
  cases effect with
  | quiet _ _ items cursors lastPage =>
      refine ⟨grows_of_items items, ?_, fun stored => .inl (by rw [items]), ?_⟩
      · intro stored old new revision found there had same
        rw [items, found] at there
        cases there
        exact .refl old
      · intro itemsApplied _ vaultId
        rw [cursors]
  | pulled _ pull page change rest stored phase vault put items cursors lastPage =>
      have keeps : keepsNumber keyOf engine.repo change = true := by
        have own : strictEq (some (.string pull.vaultId)) (some (.string pull.vaultId : Json ν)) =
            true := strictEq_string.mpr rfl
        simpa [wellFormed, phase, vault, own, put.isOk] using formed
      refine ⟨put.grows items keeps, ?_, ?_, ?_⟩
      · intro other old new revision found there had same
        exact put.content items found there had same
      · intro other
        rw [get_set items]
        split
        · rename_i here
          have place := put.keyOf_eq
          rw [vault] at place
          exact .inr ⟨change, rfl, pull, page, change, rest, phase, vault, by rw [here, place]⟩
        · exact .inl rfl
      · intro itemsApplied _ vaultId
        rw [cursors]
  | pushed _ entry now accessToken record stored token put items cursors lastPage =>
      have both : keepsNumber keyOf engine.repo record = true ∧
          ofMutation entry.mutation record = true := by
        simpa [wellFormed, token, put.isOk] using formed
      obtain ⟨keeps, own⟩ := both
      rw [ofMutation, Bool.and_eq_true, strictEq_string, strictEq_string] at own
      refine ⟨put.grows items keeps, ?_, ?_, ?_⟩
      · intro other old new revision found there had same
        exact put.content items found there had same
      · intro other
        rw [get_set items]
        split
        · rename_i here
          have place := put.keyOf_eq
          rw [own.1, own.2] at place
          exact .inr ⟨record, rfl, own.1, own.2, by rw [here, place]⟩
        · exact .inl rfl
      · intro itemsApplied _ vaultId
        rw [cursors]
  | ended pull page phase =>
      refine ⟨grows_of_items rfl, ?_, fun _ => .inl rfl, ?_⟩
      · intro stored old new revision found there had same
        rw [Engine.endPage, found] at there
        cases there
        exact .refl old
      · intro itemsApplied failed
        exact absurd failed (endPage_phase engine pull page itemsApplied)

theorem EngineEffect.cursorsFollow {start : JsonRepository κ ν}
    (effect : EngineEffect numerals keyOf engine action next)
    (formed : wellFormed numerals keyOf engine action = true)
    (follow : CursorsFollow start engine) : CursorsFollow start next := by
  intro vaultId
  have before := follow vaultId
  cases effect with
  | quiet _ _ items cursors lastPage => rw [cursors, lastPage, before]
  | pulled _ pull page change rest stored phase vault put items cursors lastPage =>
      rw [cursors, lastPage, before]
  | pushed _ entry now accessToken record stored token put items cursors lastPage =>
      rw [cursors, lastPage, before]
  | ended pull page phase =>
      have present : isNullish (page.get "nextCursor") = false := by
        simpa [wellFormed, phase] using formed
      have some_ : (page.get "nextCursor").isSome = true := by
        cases has : page.get "nextCursor" with
        | none => simp [has, isNullish] at present
        | some json => rfl
      obtain ⟨json, has⟩ := Option.isSome_iff_exists.mp some_
      rw [has] at present
      have stored : (engine.endPage pull page).repo.cursors =
          engine.repo.cursors.set pull.vaultId json := by
        simp [Engine.endPage, coalesce, has, present]
      rw [stored]
      by_cases same : vaultId = pull.vaultId
      · rw [same, InsertionMap.get_set_self]
        simp [Engine.endPage, has]
      · rw [InsertionMap.get_set_of_ne _ _ same, before]
        simp [Engine.endPage, Function.update_of_ne same]

variable {backoff : BackoffOptions}

def AllFormed (numerals : Numerals ν) (keyOf : Value ν → Value ν → Option κ)
    (backoff : BackoffOptions) (engine : Engine κ ν) (actions : List (EngineAction ν)) : Prop :=
  Every (engineStep numerals keyOf backoff)
    (fun engine action => wellFormed numerals keyOf engine action = true) engine actions

theorem grows_run {actions : List (EngineAction ν)}
    (formed : AllFormed numerals keyOf backoff engine actions)
    (ran : run (engineStep numerals keyOf backoff) engine actions = some next) :
    Grows engine.repo next.repo := by
  have preserved (state : Engine κ ν) (action : EngineAction ν) (after : Engine κ ν)
      (grown : Grows engine.repo state.repo)
      (here : wellFormed numerals keyOf state action = true)
      (stepped : engineStep numerals keyOf backoff state action = some after) :
      Grows engine.repo after.repo :=
    grown.trans ((engineStep_effect stepped).safe here).grows
  exact run_invariant preserved (Grows.refl engine.repo) formed ran

theorem cursorsFollow_run {start : JsonRepository κ ν} {actions : List (EngineAction ν)}
    (formed : AllFormed numerals keyOf backoff engine actions)
    (follow : CursorsFollow start engine)
    (ran : run (engineStep numerals keyOf backoff) engine actions = some next) :
    CursorsFollow start next := by
  have preserved (state : Engine κ ν) (action : EngineAction ν) (after : Engine κ ν)
      (follow : CursorsFollow start state)
      (here : wellFormed numerals keyOf state action = true)
      (stepped : engineStep numerals keyOf backoff state action = some after) :
      CursorsFollow start after :=
    (engineStep_effect stepped).cursorsFollow here follow
  exact run_invariant preserved follow formed ran

/-- Between any two states of a run whose steps are well formed the store only grows, its cursors
are those of the pages applied last, and every such step is safe. -/
theorem local_store_safety (start : JsonRepository κ ν) {first second : List (EngineAction ν)}
    {middle final : Engine κ ν}
    (ranFirst : run (engineStep numerals keyOf backoff) { repo := start } first = some middle)
    (ranSecond : run (engineStep numerals keyOf backoff) middle second = some final)
    (formed : AllFormed numerals keyOf backoff { repo := start } (first ++ second)) :
    Grows middle.repo final.repo ∧ CursorsFollow start final ∧
      ∀ action next, engineStep numerals keyOf backoff final action = some next →
        wellFormed numerals keyOf final action = true → StepSafe keyOf final action next := by
  refine ⟨grows_run (formed.suffix ranFirst) ranSecond, ?_, ?_⟩
  · have whole : run (engineStep numerals keyOf backoff) { repo := start } (first ++ second) =
        some final := by
      rw [run_append, ranFirst, Option.bind_some, ranSecond]
    refine cursorsFollow_run formed ?_ whole
    intro vaultId
    rfl
  · intro action next stepped here
    exact (engineStep_effect stepped).safe here

end Steps

section Samples

def sampleNumerals : Numerals Int := ⟨toString, fun _ => none, 0, 1⟩

def sampleEngineStep (engine : Engine String Int) (action : EngineAction Int) :
    Option (Engine String Int) :=
  engineStep sampleNumerals (inMemoryKey sampleNumerals) defaultBackoff engine action

def sampleJson (fields : List (String × Json Int)) : Json Int :=
  .object ([("vaultId", .string "vault"), ("itemId", .string "item")] ++ fields)

def samplePage (changes : List (Json Int)) : EngineAction Int :=
  .listChanges (some (some (.object
    [("changes", .array changes), ("nextCursor", .string "cursor")])))

def pulledFive : List (EngineAction Int) :=
  [.pull "vault" 1, samplePage [sampleJson [("revision", .number 5)]], .apply, .apply]

def pushedSix : List (EngineAction Int) :=
  [.pushOne (sampleEntry "m1") 0 (some "token")
    (.response 201 (.json (sampleJson [("revision", .number 6)])))]

instance (engine : Engine String Int) (action : EngineAction Int) :
    Decidable (wellFormed sampleNumerals (inMemoryKey sampleNumerals) engine action = true) :=
  inferInstanceAs (Decidable (_ = _))

theorem local_store_safety_pushed :
    Grows (reached sampleEngineStep { repo := .empty } pulledFive).repo
      (reached sampleEngineStep { repo := .empty } (pulledFive ++ pushedSix)).repo := by
  have ran := @run_from_reached _ _ sampleEngineStep { repo := .empty } pulledFive pushedSix
    (by decide +kernel)
  have formed : AllFormed sampleNumerals (inMemoryKey sampleNumerals) defaultBackoff
      { repo := .empty } (pulledFive ++ pushedSix) := by
    unfold AllFormed
    decide +kernel
  exact (local_store_safety .empty ran.1 ran.2 formed).1

def pulledWithout : List (EngineAction Int) :=
  [.pull "vault" 1, samplePage [sampleJson [("deleted", .bool true)]], .apply]

theorem missing_revision_stored :
    ¬ ∀ (first second : List (EngineAction Int)) (middle final : Engine String Int),
      run sampleEngineStep { repo := .empty } first = some middle →
      run sampleEngineStep middle second = some final → Grows middle.repo final.repo := by
  intro always
  have ran := @run_from_reached _ _ sampleEngineStep { repo := .empty } pulledFive pulledWithout
    (by decide +kernel)
  have grown := always pulledFive pulledWithout _ _ ran.1 ran.2
  have held : ((reached sampleEngineStep { repo := .empty } pulledFive).repo.items.get
      "vault\x00item").bind revisionNumber = some 5 := by decide +kernel
  have lost : ((reached sampleEngineStep { repo := .empty }
      (pulledFive ++ pulledWithout)).repo.items.get "vault\x00item").bind revisionNumber = none := by
    decide +kernel
  obtain ⟨old, found, had⟩ := Option.bind_eq_some_iff.mp held
  obtain ⟨new, number, there, has, -⟩ := grown _ old 5 found had
  rw [there, Option.bind_some, has] at lost
  cases lost

end Samples

end ZenPass.Sdk
