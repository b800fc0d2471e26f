import ZenPass.Auth.Throttle

set_option autoImplicit false

namespace ZenPass.Auth

open KeyedStore Transition
open Sync (Id Backend)

/-- The account that the request has ensured, while it still has to insert rows that refer to it. -/
def AuthPhase.relies : AuthPhase → Option Id
  | .readClock call | .increment call _ => some call.accountId
  | .saveCredential accountId => some accountId
  | _ => none

def AuthPhase.credentialed : AuthPhase → Option Id
  | .loginStart accountId true | .issueSession accountId => some accountId
  | _ => none

namespace Tables

def Sound (tables : Tables) : Prop :=
  ∀ accountId, tables.isReferenced accountId = true → tables.hasAccount accountId = true

structure Extends (before after : Tables) : Prop where
  accounts : ∀ accountId, before.hasAccount accountId = true → after.hasAccount accountId = true
  credentials : ∀ accountId, before.hasReference .opaqueCredentials accountId = true →
    after.hasReference .opaqueCredentials accountId = true

def InUse (tables : Tables) (limit : RateLimit) (clock : Nat) (accountId : Id) : Prop :=
  tables.hasReference .opaqueCredentials accountId = true ∨
    tables.hasReference .sessions accountId = true ∨
    tables.hasReference .devices accountId = true ∨
    ∃ key ∈ tables.rateLimits.keys, key.accountId = accountId ∧
      clock < key.windowStart + limit.window

section Statements

variable {tables after : Tables} {accountId other : Id} {table : Referencing} {key : WindowKey}
  {count now : Nat}

theorem Extends.refl (tables : Tables) : Extends tables tables := ⟨fun _ => id, fun _ => id⟩

theorem isReferenced_iff : tables.isReferenced accountId = true ↔
    (∃ table, tables.hasReference table accountId = true) ∨
      ∃ key ∈ tables.rateLimits.keys, key.accountId = accountId := by
  simp only [isReferenced, hasReference, Bool.or_eq_true, List.any_eq_true, beq_iff_eq,
    List.contains_iff_mem]
  refine or_congr ⟨?_, ?_⟩ Iff.rfl
  · rintro ⟨⟨table, _⟩, there, rfl⟩
    exact ⟨table, there⟩
  · rintro ⟨table, there⟩
    exact ⟨(table, accountId), there, rfl⟩

theorem InUse.isReferenced {limit : RateLimit} {clock : Nat}
    (inUse : tables.InUse limit clock accountId) : tables.isReferenced accountId = true := by
  rw [isReferenced_iff]
  obtain there | there | there | ⟨key, among, mine, -⟩ := inUse
  · exact .inl ⟨_, there⟩
  · exact .inl ⟨_, there⟩
  · exact .inl ⟨_, there⟩
  · exact .inr ⟨key, among, mine⟩

theorem hasAccount_ensureAccount :
    (tables.ensureAccount accountId now).hasAccount other = true ↔
      other = accountId ∨ tables.hasAccount other = true := by
  unfold ensureAccount
  split
  · rename_i there
    refine ⟨.inr, ?_⟩
    rintro (rfl | has)
    · exact there
    · exact has
  · simp only [hasAccount, List.any_append, List.any_cons, List.any_nil, Bool.or_false,
      Bool.or_eq_true, beq_iff_eq]
    rw [or_comm, eq_comm]

theorem ensureAccount_extends : Extends tables (tables.ensureAccount accountId now) := by
  refine ⟨fun other has => hasAccount_ensureAccount.mpr (.inr has), fun other has => ?_⟩
  unfold ensureAccount
  split <;> exact has

theorem Sound.ensureAccount (sound : tables.Sound) : (tables.ensureAccount accountId now).Sound := by
  intro other referenced
  refine hasAccount_ensureAccount.mpr (.inr (sound other ?_))
  unfold Tables.ensureAccount at referenced
  split at referenced <;> exact referenced

theorem increment_spec (stepped : tables.increment key = some (after, count)) :
    after.accounts = tables.accounts ∧ after.references = tables.references ∧
      ∀ other ∈ after.rateLimits.keys, other ∈ tables.rateLimits.keys ∨
        other = key ∧ tables.hasAccount key.accountId = true := by
  unfold increment at stepped
  cases found : tables.rateLimits.get key with
  | none =>
      simp only [found] at stepped
      split at stepped <;> cases stepped
      rename_i has
      refine ⟨rfl, rfl, fun other among => ?_⟩
      rw [InsertionMap.mem_keys] at among
      obtain ⟨value, there⟩ := among
      obtain is | ⟨-, there⟩ := (InsertionMap.mem_set _ _ _ _).mp there
      · exact .inr ⟨congrArg Prod.fst is, has⟩
      · exact .inl ((InsertionMap.mem_keys _ _).mpr ⟨value, there⟩)
  | some old =>
      simp only [found] at stepped
      split at stepped <;> cases stepped
      have present : key ∈ tables.rateLimits.keys :=
        (InsertionMap.mem_keys _ _).mpr ⟨old, (InsertionMap.get_eq_some _ _ _).mp found⟩
      -- The row was there, so its account was.
      refine ⟨rfl, rfl, fun other among => .inl ?_⟩
      rw [InsertionMap.keys_set, if_pos present] at among
      exact among

theorem increment_extends (stepped : tables.increment key = some (after, count)) :
    Extends tables after := by
  obtain ⟨accounts, references, -⟩ := increment_spec stepped
  refine ⟨fun other has => ?_, fun other has => ?_⟩
  · rw [hasAccount, accounts]
    exact has
  · rw [hasReference, references]
    exact has

theorem Sound.increment (sound : tables.Sound)
    (stepped : tables.increment key = some (after, count)) : after.Sound := by
  intro other referenced
  obtain ⟨accounts, references, keys⟩ := increment_spec stepped
  rw [hasAccount, accounts, ← hasAccount]
  obtain ⟨table, there⟩ | ⟨row, among, rfl⟩ := isReferenced_iff.mp referenced
  · refine sound other (isReferenced_iff.mpr (.inl ⟨table, ?_⟩))
    rwa [hasReference, ← references]
  · obtain before | ⟨rfl, has⟩ := keys row among
    · exact sound _ (isReferenced_iff.mpr (.inr ⟨row, before, rfl⟩))
    · exact has

theorem insertReference_eq_some
    (stepped : tables.insertReference table accountId = some after) :
    tables.hasAccount accountId = true ∧
      after = { tables with references := (table, accountId) :: tables.references } := by
  unfold insertReference at stepped
  split at stepped <;> cases stepped
  exact ⟨by assumption, rfl⟩

theorem insertReference_extends
    (stepped : tables.insertReference table accountId = some after) : Extends tables after := by
  obtain ⟨-, rfl⟩ := insertReference_eq_some stepped
  refine ⟨fun other has => has, fun other has => ?_⟩
  rw [hasReference, List.contains_iff_mem] at has ⊢
  exact List.mem_cons_of_mem _ has

theorem Sound.insertReference (sound : tables.Sound)
    (stepped : tables.insertReference table accountId = some after) : after.Sound := by
  obtain ⟨has, rfl⟩ := insertReference_eq_some stepped
  intro other referenced
  obtain ⟨any, there⟩ | ⟨row, among, rfl⟩ := isReferenced_iff.mp referenced
  · rw [hasReference, List.contains_iff_mem, List.mem_cons] at there
    obtain is | there := there
    · obtain rfl := (Prod.mk.inj is).2
      exact has
    · exact sound other (isReferenced_iff.mpr (.inl ⟨any, List.contains_iff_mem.mpr there⟩))
  · exact sound _ (isReferenced_iff.mpr (.inr ⟨row, among, rfl⟩))

theorem insertReference_isSome (has : tables.hasAccount accountId = true) :
    tables.insertReference table accountId ≠ none := by
  rw [insertReference, if_pos has]
  exact Option.some_ne_none _

theorem saveCredential_spec (sound : tables.Sound)
    (stepped : tables.saveCredentialRecordIfAbsent accountId = some after) :
    Extends tables after ∧ after.Sound := by
  unfold saveCredentialRecordIfAbsent at stepped
  split at stepped
  · cases stepped
    exact ⟨.refl _, sound⟩
  · exact ⟨insertReference_extends stepped, sound.insertReference stepped⟩

theorem saveCredential_isSome (has : tables.hasAccount accountId = true) :
    tables.saveCredentialRecordIfAbsent accountId ≠ none := by
  unfold saveCredentialRecordIfAbsent
  split
  · exact Option.some_ne_none _
  · exact insertReference_isSome has

theorem Sound.deleteRateLimits (sound : tables.Sound) (now : Nat) :
    (tables.deleteRateLimits now).Sound := by
  intro other referenced
  refine sound other (isReferenced_iff.mpr ?_)
  obtain there | ⟨row, among, mine⟩ := isReferenced_iff.mp referenced
  · exact .inl there
  · refine .inr ⟨row, ?_, mine⟩
    rw [InsertionMap.mem_keys] at among ⊢
    obtain ⟨value, there⟩ := among
    exact ⟨value, (List.mem_filter.mp there).1⟩

theorem deleteAccounts_eq_some {stale : List AccountRow}
    (stepped : tables.deleteAccounts stale = some after) :
    after.references = tables.references ∧ after.rateLimits = tables.rateLimits ∧
      ∀ row ∈ tables.accounts,
        row ∈ after.accounts ∨
          stale.contains row = true ∧ tables.isReferenced row.accountId = false := by
  unfold deleteAccounts at stepped
  split at stepped <;> cases stepped
  rename_i unreferenced
  refine ⟨rfl, rfl, fun row among => ?_⟩
  rw [List.mem_filter]
  by_cases mine : stale.contains row = true
  · refine .inr ⟨mine, ?_⟩
    rw [List.any_eq_true] at unreferenced
    by_contra referenced
    rw [Bool.not_eq_false] at referenced
    exact unreferenced ⟨row, List.mem_filter.mpr ⟨among, mine⟩, referenced⟩
  · exact .inl ⟨among, by rw [Bool.not_eq_true] at mine; rw [mine]; rfl⟩

theorem exists_row (has : tables.hasAccount accountId = true) :
    ∃ row ∈ tables.accounts, row.accountId = accountId := by
  rw [hasAccount, List.any_eq_true] at has
  obtain ⟨row, among, mine⟩ := has
  exact ⟨row, among, beq_iff_eq.mp mine⟩

theorem hasAccount_of_row {row : AccountRow} (among : row ∈ tables.accounts) :
    tables.hasAccount row.accountId = true := by
  rw [hasAccount, List.any_eq_true]
  exact ⟨row, among, beq_self_eq_true _⟩

end Statements

end Tables

namespace Throttle

def sparesRelied (throttle : Throttle) : ThrottleAction → Prop
  | .advanceSweep s =>
      match throttle.sweeps.get s with
      | some (.deletingAccounts stale) =>
          (throttle.tables.deleteAccounts stale).isSome = true →
            ∀ row ∈ throttle.tables.accounts, stale.contains row = true →
              ∀ entry ∈ throttle.requests.entries, entry.2.relies ≠ some row.accountId
      | _ => True
  | _ => True

/-- The foreign keys hold, open requests have the accounts that they rely on, and a login that has
an accepted state has a credential. -/
structure Settled (throttle : Throttle) : Prop where
  sound : throttle.tables.Sound
  relied : ∀ t phase, throttle.requests.get t = some phase → ∀ accountId ∈ phase.relies,
    throttle.tables.hasAccount accountId = true
  pending : ∀ accountId entry, throttle.states accountId = some entry → entry.pending ≠ .fake →
    throttle.tables.hasReference .opaqueCredentials accountId = true
  credentialed : ∀ t phase, throttle.requests.get t = some phase →
    ∀ accountId ∈ phase.credentialed,
      throttle.tables.hasReference .opaqueCredentials accountId = true
  missing : throttle.missing = []

section Runs

variable {backend : Backend} {limit : RateLimit} {ttl : Nat} {throttle next : Throttle}

theorem settled_initial : Settled {} where
  sound := by
    intro accountId referenced
    obtain ⟨table, there⟩ | ⟨key, among, -⟩ := Tables.isReferenced_iff.mp referenced
    · cases there
    · cases among
  relied := by rintro _ _ ⟨⟩
  pending := by rintro _ _ ⟨⟩
  credentialed := by rintro _ _ ⟨⟩
  missing := rfl

def Provides (tables : Tables) (phase : AuthPhase) : Prop :=
  (∀ accountId ∈ phase.relies, tables.hasAccount accountId = true) ∧
    ∀ accountId ∈ phase.credentialed, tables.hasReference .opaqueCredentials accountId = true

theorem Settled.provides (settled : throttle.Settled) {t : Nat} {phase : AuthPhase}
    (there : throttle.requests.get t = some phase) : Provides throttle.tables phase :=
  ⟨settled.relied t phase there, settled.credentialed t phase there⟩

structure Kept (throttle changed : Throttle) : Prop where
  extended : Tables.Extends throttle.tables changed.tables
  sound : changed.tables.Sound
  requests : changed.requests = throttle.requests
  states : ∀ accountId entry, changed.states accountId = some entry → entry.pending ≠ .fake →
    throttle.states accountId = some entry ∨
      changed.tables.hasReference .opaqueCredentials accountId = true
  missing : changed.missing = throttle.missing

theorem Kept.of_tables (extended : Tables.Extends throttle.tables next.tables)
    (sound : next.tables.Sound) (requests : next.requests = throttle.requests)
    (states : next.states = throttle.states) (missing : next.missing = throttle.missing) :
    Kept throttle next :=
  ⟨extended, sound, requests, fun _ _ there _ => .inl (states ▸ there), missing⟩

theorem Settled.after (settled : throttle.Settled) {changed : Throttle}
    (kept : Kept throttle changed) (tables : next.tables = changed.tables)
    (states : next.states = changed.states) (missing : next.missing = changed.missing)
    (requests : ∀ t phase, next.requests.get t = some phase →
      changed.requests.get t = some phase ∨ Provides changed.tables phase) : next.Settled := by
  -- The other requests have what they had.
  have provides (t : Nat) (phase : AuthPhase) (there : next.requests.get t = some phase) :
      Provides next.tables phase := by
    rw [tables]
    obtain before | new := requests t phase there
    · rw [kept.requests] at before
      obtain ⟨relied, credentialed⟩ := settled.provides before
      exact ⟨fun accountId mine => kept.extended.accounts accountId (relied accountId mine),
        fun accountId mine => kept.extended.credentials accountId (credentialed accountId mine)⟩
    · exact new
  refine ⟨?_, fun t phase there => (provides t phase there).1, ?_,
    fun t phase there => (provides t phase there).2, ?_⟩
  · rw [tables]
    exact kept.sound
  · intro accountId entry there real
    rw [states] at there
    rw [tables]
    obtain before | has := kept.states accountId entry there real
    · exact kept.extended.credentials accountId (settled.pending accountId entry before real)
    · exact has
  · rw [missing, kept.missing]
    exact settled.missing

theorem Settled.kept (settled : throttle.Settled) (kept : Kept throttle next) : next.Settled :=
  settled.after kept rfl rfl rfl fun _ _ there => .inl there

theorem Settled.goesOn (settled : throttle.Settled) {changed : Throttle}
    (kept : Kept throttle changed) (t : Nat) {phase : AuthPhase}
    (provides : Provides changed.tables phase) : (changed.goesOn t phase).Settled := by
  refine settled.after kept rfl rfl rfl fun other found there => ?_
  change (changed.requests.set t phase).get other = some found at there
  obtain ⟨-, rfl⟩ | ⟨-, before⟩ := InsertionMap.get_set_cases there
  · exact .inr provides
  · exact .inl before

theorem Settled.answer (settled : throttle.Settled) {changed : Throttle}
    (kept : Kept throttle changed) (t : Nat) (answer : AuthAnswer) :
    (changed.answer t answer).Settled := by
  refine settled.after kept rfl rfl rfl fun other found there => .inl ?_
  change (changed.requests.delete t).get other = some found at there
  exact InsertionMap.get_of_get_delete there

theorem Settled.kept_refl (settled : throttle.Settled) : Kept throttle throttle :=
  .of_tables (.refl _) settled.sound rfl rfl rfl

theorem provides_nothing {tables : Tables} {phase : AuthPhase} (relies : phase.relies = none)
    (credentialed : phase.credentialed = none) : Provides tables phase := by
  rw [Provides, relies, credentialed]
  exact ⟨nofun, nofun⟩

theorem Settled.afterLimit (settled : throttle.Settled) {changed : Throttle}
    (kept : Kept throttle changed) (t : Nat) {call : AuthCall}
    (has : changed.tables.hasAccount call.accountId = true) :
    (changed.afterLimit t call).Settled := by
  unfold Throttle.afterLimit
  split
  · exact settled.answer kept t _
  · refine settled.goesOn kept t ⟨?_, nofun⟩
    rintro _ ⟨⟩
    exact has
  · exact settled.goesOn kept t (provides_nothing rfl rfl)
  · exact settled.goesOn kept t (provides_nothing rfl rfl)

theorem Settled.perform (settled : throttle.Settled) {t : Nat} {accepted : Bool}
    {phase : AuthPhase} (there : throttle.requests.get t = some phase) :
    (throttle.perform backend limit ttl t accepted phase).Settled := by
  obtain ⟨relied, credentialed⟩ := settled.provides there
  have same := settled.kept_refl
  cases phase with
  | ensureAccount call =>
      have kept : Kept throttle
          { throttle with
            tables := throttle.tables.ensureAccount call.accountId throttle.clock } :=
        .of_tables Tables.ensureAccount_extends settled.sound.ensureAccount rfl rfl rfl
      refine settled.goesOn kept t ⟨?_, nofun⟩
      rintro _ ⟨⟩
      exact Tables.hasAccount_ensureAccount.mpr (.inl rfl)
  | readClock call =>
      refine settled.goesOn same t ⟨?_, nofun⟩
      rintro _ ⟨⟩
      exact relied _ rfl
  | increment call windowStart =>
      have has := relied _ rfl
      simp only [Throttle.perform]
      -- The account is there, so a refusal is not the foreign key's.
      cases stepped : throttle.tables.increment (call.key windowStart) with
      | none =>
          simp only [has, if_true]
          exact settled.answer same t _
      | some result =>
          obtain ⟨tables, count⟩ := result
          have extended := Tables.increment_extends stepped
          have kept (counted : List (WindowKey × Nat)) :
              Kept throttle { throttle with tables, counted } :=
            .of_tables extended (settled.sound.increment stepped) rfl rfl rfl
          dsimp only
          split
          · exact settled.afterLimit (kept _) t (extended.accounts _ has)
          · exact settled.answer (kept _) t _
  | saveCredential accountId =>
      have has := relied _ rfl
      simp only [Throttle.perform]
      cases stepped : throttle.tables.saveCredentialRecordIfAbsent accountId with
      | none => exact absurd stepped (Tables.saveCredential_isSome has)
      | some tables =>
          obtain ⟨extended, sound⟩ := Tables.saveCredential_spec settled.sound stepped
          have kept : Kept throttle { throttle with tables } := .of_tables extended sound rfl rfl rfl
          exact settled.answer kept t _
  | getCredentialRecord accountId =>
      refine settled.goesOn same t ⟨nofun, fun other mine => ?_⟩
      cases found : throttle.tables.hasReference .opaqueCredentials accountId with
      | false =>
          rw [found] at mine
          cases mine
      | true =>
          rw [found] at mine
          cases mine
          exact found
  | loginStart accountId found =>
      simp only [Throttle.perform]
      split
      · exact settled.answer same t _
      · have kept : Kept throttle
            { throttle with
              states := throttle.states.set accountId (if found then .real [] else .fake) t
                throttle.clock throttle.clock ttl } := by
          refine ⟨.refl _, settled.sound, rfl, fun other entry new real => ?_, rfl⟩
          -- A real state is stored only after a credential has been seen.
          by_cases mine : other = accountId
          · refine .inr ?_
            rw [mine] at new ⊢
            dsimp only at new
            rw [LoginStates.set_self, Option.some.injEq] at new
            subst new
            cases found with
            | false => exact absurd rfl real
            | true => exact credentialed accountId rfl
          · exact .inl (LoginStates.set_of_ne mine new)
        exact settled.answer kept t _
  | takePending accountId =>
      have kept : Kept throttle
          { throttle with states := throttle.states.afterTake accountId throttle.clock } :=
        ⟨.refl _, settled.sound, rfl,
          fun other entry left _ => .inl (LoginStates.afterTake_eq_some left).2, rfl⟩
      simp only [Throttle.perform]
      split
      · rename_i taken
        split
        · refine settled.goesOn kept t ⟨nofun, ?_⟩
          rintro _ ⟨⟩
          -- The state that is taken was stored for an account with a credential.
          have before := (LoginStates.evictExpired_eq_some.mp taken).1
          exact settled.pending accountId _ before nofun
        · exact settled.answer kept t _
      · exact settled.answer kept t _
  | issueSession accountId =>
      -- An account with a credential is referenced, so it is there.
      have has := settled.sound accountId
        (Tables.isReferenced_iff.mpr (.inl ⟨_, credentialed accountId rfl⟩))
      simp only [Throttle.perform]
      cases stepped : throttle.tables.insertReference .sessions accountId with
      | none => exact absurd stepped (Tables.insertReference_isSome has)
      | some tables =>
          have kept : Kept throttle { throttle with tables } :=
            .of_tables (Tables.insertReference_extends stepped)
              (settled.sound.insertReference stepped) rfl rfl rfl
          exact settled.answer kept t _

theorem Settled.deleteAccounts (settled : throttle.Settled) {s : Nat} {stale : List AccountRow}
    {tables : Tables} (there : throttle.sweeps.get s = some (.deletingAccounts stale))
    (spares : throttle.sparesRelied (.advanceSweep s))
    (deleted : throttle.tables.deleteAccounts stale = some tables) :
    Settled { throttle with tables } := by
  obtain ⟨references, rateLimits, rows⟩ := Tables.deleteAccounts_eq_some deleted
  have spared : ∀ row ∈ throttle.tables.accounts, stale.contains row = true →
      ∀ entry ∈ throttle.requests.entries, entry.2.relies ≠ some row.accountId := by
    simp only [sparesRelied, there] at spares
    exact spares (by rw [deleted]; rfl)
  have referenced (accountId : Id) :
      tables.isReferenced accountId = throttle.tables.isReferenced accountId := by
    rw [Tables.isReferenced, references, rateLimits, Tables.isReferenced]
  have credentials (accountId : Id)
      (has : throttle.tables.hasReference .opaqueCredentials accountId = true) :
      tables.hasReference .opaqueCredentials accountId = true := by
    rwa [Tables.hasReference, references]
  refine ⟨fun accountId mine => ?_, fun t phase request accountId relies => ?_,
    fun accountId entry pending real => ?_, fun t phase request accountId mine => ?_,
    settled.missing⟩
  -- What is referenced stays, by the foreign keys.
  · rw [referenced] at mine
    obtain ⟨row, among, rfl⟩ := Tables.exists_row (settled.sound accountId mine)
    obtain left | ⟨-, unreferenced⟩ := rows row among
    · exact Tables.hasAccount_of_row left
    · rw [unreferenced] at mine
      cases mine
  -- What a request relies on is spared.
  · obtain ⟨row, among, rfl⟩ := Tables.exists_row (settled.relied t phase request accountId relies)
    obtain left | ⟨gone, -⟩ := rows row among
    · exact Tables.hasAccount_of_row left
    · have open_ := (InsertionMap.get_eq_some _ _ _).mp request
      exact absurd relies (spared row among gone _ open_)
  · exact credentials accountId (settled.pending accountId entry pending real)
  · exact credentials accountId (settled.credentialed t phase request accountId mine)

theorem Settled.step (settled : throttle.Settled) {action : ThrottleAction}
    (spares : throttle.sparesRelied action)
    (stepped : throttle.step backend limit ttl action = some next) : next.Settled := by
  have same := settled.kept_refl
  have arrives {t : Nat} {call : AuthCall} (arrived : throttle.arrive t call = some next) :
      next.Settled := by
    unfold arrive at arrived
    split at arrived <;> cases arrived
    exact settled.goesOn same t (provides_nothing rfl rfl)
  have unmoved (changed : Throttle) (tables : changed.tables = throttle.tables)
      (requests : changed.requests = throttle.requests) (states : changed.states = throttle.states)
      (missing : changed.missing = throttle.missing) : changed.Settled :=
    settled.kept (.of_tables (tables ▸ .refl _) (tables ▸ settled.sound) requests states missing)
  cases action with
  | tick elapsed =>
      cases stepped
      exact unmoved _ rfl rfl rfl rfl
  | register t accountId isRecord => exact arrives stepped
  | login t accountId => exact arrives stepped
  | advance t accepted =>
      simp only [Throttle.step, Option.map_eq_some_iff] at stepped
      obtain ⟨phase, there, rfl⟩ := stepped
      exact settled.perform there
  | drop t =>
      simp only [Throttle.step, Option.map_eq_some_iff] at stepped
      obtain ⟨phase, there, rfl⟩ := stepped
      exact settled.answer same t _
  | sweep s =>
      simp only [Throttle.step] at stepped
      split at stepped <;> cases stepped
      exact unmoved _ rfl rfl rfl rfl
  | advanceSweep s =>
      simp only [Throttle.step, Option.map_eq_some_iff] at stepped
      obtain ⟨phase, there, rfl⟩ := stepped
      cases phase with
      | deletingRateLimits now =>
          exact settled.kept (.of_tables ⟨fun _ has => has, fun _ has => has⟩
            (settled.sound.deleteRateLimits now) rfl rfl rfl)
      | findingAccounts now => exact unmoved _ rfl rfl rfl rfl
      | deletingAccounts stale =>
          simp only [performSweep]
          cases deleted : throttle.tables.deleteAccounts stale with
          | none => exact unmoved _ rfl rfl rfl rfl
          | some tables =>
              have after := settled.deleteAccounts there spares deleted
              exact ⟨after.sound, after.relied, after.pending, after.credentialed, after.missing⟩
  | dropSweep s =>
      cases stepped
      exact unmoved _ rfl rfl rfl rfl
  | refer table accountId =>
      simp only [Throttle.step, Option.map_eq_some_iff] at stepped
      obtain ⟨tables, inserted, rfl⟩ := stepped
      exact settled.kept (.of_tables (Tables.insertReference_extends inserted)
        (settled.sound.insertReference inserted) rfl rfl rfl)

theorem always_found {actions : List ThrottleAction}
    (every : Every (step backend limit ttl) sparesRelied {} actions) :
    Always (step backend limit ttl) (fun throttle => throttle.missing = []) {} actions :=
  always_of_every (fun _ _ _ settled spares stepped => Settled.step settled spares stepped)
    (fun _ settled => settled.missing) settled_initial every

theorem sweep_keeps_inUse {s : Nat}
    (stepped : throttle.step backend limit ttl (.advanceSweep s) = some next) {row : AccountRow}
    (among : row ∈ throttle.tables.accounts)
    (inUse : throttle.tables.InUse limit throttle.clock row.accountId) :
    row ∈ next.tables.accounts := by
  simp only [step, Option.map_eq_some_iff] at stepped
  obtain ⟨phase, there, rfl⟩ := stepped
  cases phase with
  | deletingRateLimits now => exact among
  | findingAccounts now => exact among
  | deletingAccounts stale =>
      simp only [performSweep]
      cases deleted : throttle.tables.deleteAccounts stale with
      | none => exact among
      | some tables =>
          obtain ⟨-, -, rows⟩ := Tables.deleteAccounts_eq_some deleted
          obtain left | ⟨-, unreferenced⟩ := rows row among
          · exact left
          · rw [inUse.isReferenced] at unreferenced
            cases unreferenced

end Runs

section UnlessRelied

variable (backend : Backend) (limit : RateLimit) (ttl : Nat)

/-- Where no sweep deletes an account that an open request relies on, no request misses its account.
No sweep ever deletes an account that is in use. -/
theorem cleanup_safe_unless_relied :
    (∀ actions, Every (step backend limit ttl) sparesRelied {} actions →
      Always (step backend limit ttl) (fun throttle => throttle.missing = []) {} actions) ∧
    ∀ throttle s next, step backend limit ttl throttle (.advanceSweep s) = some next →
      ∀ row ∈ throttle.tables.accounts,
        throttle.tables.InUse limit throttle.clock row.accountId → row ∈ next.tables.accounts :=
  ⟨fun _ every => always_found every,
    fun _ _ _ stepped _ among inUse => sweep_keeps_inUse stepped among inUse⟩

end UnlessRelied

def hourLimit : RateLimit := ⟨10, 3600, by decide, by decide⟩

def hourStep : Throttle → ThrottleAction → Option Throttle := step .node hourLimit 60000000

def sparedActions : List ThrottleAction :=
  [.register 1 "alice" false, .advance 1 true, .advance 1 true, .advance 1 true,
    .tick 172800000000, .sweep 1, .advanceSweep 1, .advanceSweep 1, .advanceSweep 1,
    .register 2 "alice" true, .advance 2 true, .advance 2 true, .advance 2 true, .advance 2 true]

def reliedActions : List ThrottleAction :=
  [.register 1 "alice" false, .advance 1 true, .advance 1 true, .advance 1 true,
    .tick 172800000000, .sweep 1, .advanceSweep 1, .advanceSweep 1,
    .register 2 "alice" true, .advance 2 true, .advance 2 true, .advanceSweep 1, .advance 2 true]

instance (throttle : Throttle) (action : ThrottleAction) :
    Decidable (throttle.sparesRelied action) := by
  unfold sparesRelied
  split
  · split <;> infer_instance
  · infer_instance

theorem cleanup_safe_unless_relied_spared :
    (reached hourStep {} sparedActions).answers = [(1, .message), (2, .registered)] ∧
      Always hourStep (fun throttle => throttle.missing = []) {} sparedActions :=
  ⟨by decide +kernel,
    (cleanup_safe_unless_relied .node hourLimit 60000000).1 sparedActions (by decide +kernel)⟩

/-- The count of the second request finds no account, and the request fails. -/
theorem cleanup_deletes_relied :
    (¬ ∀ actions, Always hourStep (fun throttle => throttle.missing = []) {} actions) ∧
      (reached hourStep {} reliedActions).answers = [(1, .message), (2, .failed)] := by
  refine ⟨fun always => ?_, by decide +kernel⟩
  have none := (always reliedActions).at_end (run_reached (by decide +kernel))
  have missing : (reached hourStep {} reliedActions).missing =
      [(2, .increment ⟨"alice", .registrationRecord⟩ 172800000000)] := by
    decide +kernel
  rw [missing] at none
  cases none

end Throttle

end ZenPass.Auth
