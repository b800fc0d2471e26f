import ZenPass.Account.BundleFormat
import ZenPass.Account.CompareAndSwap

set_option autoImplicit false

namespace ZenPass.Web

open Wire ReadCommitted Transition
open Sync (Id Backend)
open ZenPass.Account (BundleRow BundleCodec Upload)

structure KeyBundle where
  bundle : String
  version : Int
deriving DecidableEq, Repr

def toKeyBundle (row : BundleRow) : KeyBundle := ⟨encodeB64 row.bundle, row.version⟩

inductive PublishStatus where
  | published
  | conflict (currentVersion : Option Int)
  | error
deriving DecidableEq, Repr

inductive PublishPhase where
  | getting
  | putting
  | verifying
  | ended (status : PublishStatus)
deriving DecidableEq, Repr

/-- A run of `publish` with its local variables; `request` is the upload that its PUT has
started. -/
structure Publish where
  backend : Backend
  accountId : Id
  bundle : String
  existing : Option KeyBundle := none
  attemptedVersion : Int := 1
  request : Option Account.TxId := none
  phase : PublishPhase
deriving DecidableEq, Repr

structure Browsers where
  server : Account.Server
  publishes : Nat → Option Publish

namespace Browsers

def initial : Browsers where
  server := Account.Server.initial
  publishes := fun _ => none

def resume (state : Browsers) (p : Nat) (publish : Publish) : Browsers :=
  { state with publishes := Function.update state.publishes p (some publish) }

@[simp] theorem resume_server (state : Browsers) (p : Nat) (publish : Publish) :
    (state.resume p publish).server = state.server := rfl

@[simp] theorem resume_opened (state : Browsers) (p : Nat) (publish : Publish) :
    (state.resume p publish).publishes p = some publish := Function.update_self _ _ _

end Browsers

inductive PublishAction where
  -- A click; `json` is the canonical JSON of the unlocked vault's bundle, if there is one.
  | publish (p : Nat) (backend : Backend) (accountId : Id) (json : Option Bytes)
  -- `getKeyBundle` is answered and the PUT goes out.
  | existing (p : Nat) (t : Account.TxId)
  | statement (t : Account.TxId)
  | fail (t : Account.TxId)
  -- The PUT is answered.
  | result (p : Nat)
  -- The second `getKeyBundle` is answered.
  | verify (p : Nat)
  -- A request or its response is lost, or the session has ended.
  | requestFails (p : Nat)
deriving DecidableEq, Repr

variable (codec : BundleCodec)

def nextVersion (existing : Option KeyBundle) : Int :=
  match existing with
  | some keyBundle => keyBundle.version + 1
  | none => 1

def publishStep (state : Browsers) : PublishAction → Option Browsers
  | .publish p backend accountId json =>
      match state.publishes p with
      | some _ => none
      | none =>
          match json with
          | none => some (state.resume p { backend, accountId, bundle := "", phase := .ended .error })
          | some json =>
              some (state.resume p
                { backend, accountId, bundle := encodeB64 json, phase := .getting })
  | .existing p t =>
      (state.publishes p).bind fun publish =>
        match publish.phase with
        | .getting =>
            let existing := (state.server.stored publish.accountId).map toKeyBundle
            let attemptedVersion := nextVersion existing
            match state.server.uploads t with
            | some _ => none
            | none =>
                let sent := (decodeB64 (publish.backend == .rust) publish.bundle).bind fun bytes =>
                  Account.step codec state.server
                    (.put t publish.backend publish.accountId bytes attemptedVersion)
                match sent with
                | some server =>
                    some ({ state with server }.resume p
                      { publish with
                        existing, attemptedVersion, request := some t, phase := .putting })
                -- 400.
                | none =>
                    some (state.resume p
                      { publish with existing, attemptedVersion, phase := .ended .error })
        | _ => none
  | .statement t =>
      (Account.step codec state.server (.statement t)).map fun server => { state with server }
  | .fail t => (Account.step codec state.server (.fail t)).map fun server => { state with server }
  | .result p =>
      (state.publishes p).bind fun publish =>
        match publish.phase with
        | .putting =>
            match (publish.request.bind state.server.uploads).map Upload.phase with
            | some (.answered (.outcome (.conflict currentVersion))) =>
                some (state.resume p { publish with phase := .ended (.conflict currentVersion) })
            | some (.answered (.outcome _)) =>
                some (state.resume p { publish with phase := .verifying })
            | some (.answered _) => some (state.resume p { publish with phase := .ended .error })
            | _ => none
        | _ => none
  | .verify p =>
      (state.publishes p).bind fun publish =>
        match publish.phase with
        | .verifying =>
            let verify := (state.server.stored publish.accountId).map toKeyBundle
            let status := if verify = some ⟨publish.bundle, publish.attemptedVersion⟩ then .published
              else .error
            some (state.resume p { publish with phase := .ended status })
        | _ => none
  | .requestFails p =>
      (state.publishes p).bind fun publish =>
        match publish.phase with
        | .ended _ => none
        | _ => some (state.resume p { publish with phase := .ended .error })

inductive PublishMoves (state : Browsers) : PublishAction → Browsers → Prop where
  | started (p : Nat) (backend : Backend) (accountId : Id) (json : Option Bytes) (publish : Publish)
      (unused : state.publishes p = none) (existing : publish.existing = none)
      (request : publish.request = none)
      (encoded : publish.phase = .getting → ∃ json, publish.bundle = encodeB64 json) :
      PublishMoves state (.publish p backend accountId json) (state.resume p publish)
  | sent (p : Nat) (t : Account.TxId) (publish : Publish) (bytes : Bytes) (server : Account.Server)
      (opened : state.publishes p = some publish) (getting : publish.phase = .getting)
      (unused : state.server.uploads t = none)
      (decoded : decodeB64 (publish.backend == .rust) publish.bundle = some bytes)
      (put : Account.step codec state.server
        (.put t publish.backend publish.accountId bytes
          (nextVersion ((state.server.stored publish.accountId).map toKeyBundle))) = some server) :
      PublishMoves state (.existing p t) ({ state with server }.resume p
        { publish with
          existing := (state.server.stored publish.accountId).map toKeyBundle
          attemptedVersion := nextVersion ((state.server.stored publish.accountId).map toKeyBundle)
          request := some t
          phase := .putting })
  | refused (p : Nat) (t : Account.TxId) (publish : Publish)
      (opened : state.publishes p = some publish) (getting : publish.phase = .getting) :
      PublishMoves state (.existing p t) (state.resume p
        { publish with
          existing := (state.server.stored publish.accountId).map toKeyBundle
          attemptedVersion := nextVersion ((state.server.stored publish.accountId).map toKeyBundle)
          phase := .ended .error })
  | statement (t : Account.TxId) (server : Account.Server)
      (stepped : Account.step codec state.server (.statement t) = some server) :
      PublishMoves state (.statement t) { state with server }
  | failed (t : Account.TxId) (server : Account.Server)
      (stepped : Account.step codec state.server (.fail t) = some server) :
      PublishMoves state (.fail t) { state with server }
  | result (p : Nat) (t : Account.TxId) (publish : Publish) (upload : Upload)
      (answer : Account.Answer) (phase : PublishPhase) (opened : state.publishes p = some publish)
      (putting : publish.phase = .putting) (request : publish.request = some t)
      (uploaded : state.server.uploads t = some upload) (answered : upload.phase = .answered answer)
      (conflict : ∀ version, answer = .outcome (.conflict version) →
        phase = .ended (.conflict version))
      (waits : phase ≠ .getting) :
      PublishMoves state (.result p) (state.resume p { publish with phase := phase })
  | ends (p : Nat) (action : PublishAction) (publish : Publish) (status : PublishStatus)
      (opened : state.publishes p = some publish) (other : ∀ q, action ≠ .result q) :
      PublishMoves state action (state.resume p { publish with phase := .ended status })

theorem publishStep_cases {state next : Browsers} {action : PublishAction}
    (stepped : publishStep codec state action = some next) : PublishMoves codec state action next := by
  cases action with
  | publish p backend accountId json =>
      simp only [publishStep] at stepped
      split at stepped
      · cases stepped
      · split at stepped <;> cases stepped
        · exact .started _ _ _ _ _ ‹_› rfl rfl (by simp)
        · exact .started _ _ _ _ _ ‹_› rfl rfl (fun _ => ⟨_, rfl⟩)
  | existing p t =>
      simp only [publishStep, Option.bind_eq_some_iff] at stepped
      obtain ⟨publish, opened, stepped⟩ := stepped
      split at stepped
      · rename_i getting
        split at stepped
        · cases stepped
        · rename_i unused
          split at stepped <;> cases stepped
          · rename_i server sent
            obtain ⟨bytes, decoded, put⟩ := Option.bind_eq_some_iff.mp sent
            exact .sent p t publish bytes server opened getting unused decoded put
          · exact .refused p t publish opened getting
      · cases stepped
  | statement t =>
      simp only [publishStep, Option.map_eq_some_iff] at stepped
      obtain ⟨server, stepped, rfl⟩ := stepped
      exact .statement t server stepped
  | fail t =>
      simp only [publishStep, Option.map_eq_some_iff] at stepped
      obtain ⟨server, stepped, rfl⟩ := stepped
      exact .failed t server stepped
  | result p =>
      simp only [publishStep, Option.bind_eq_some_iff] at stepped
      obtain ⟨publish, opened, stepped⟩ := stepped
      split at stepped
      case h_2 => cases stepped
      case h_1 putting =>
      have answers {answer : Account.Answer}
          (found : (publish.request.bind state.server.uploads).map Upload.phase =
            some (.answered answer)) :
          ∃ t upload, publish.request = some t ∧ state.server.uploads t = some upload ∧
            upload.phase = .answered answer := by
        obtain ⟨upload, bound, answered⟩ := Option.map_eq_some_iff.mp found
        obtain ⟨t, request, uploaded⟩ := Option.bind_eq_some_iff.mp bound
        exact ⟨t, upload, request, uploaded, answered⟩
      split at stepped
      case h_1 version found =>
        cases stepped
        obtain ⟨t, upload, request, uploaded, answered⟩ := answers found
        refine .result p t publish upload _ _ opened putting request uploaded answered ?_ (by simp)
        intro other same
        cases same
        rfl
      case h_2 outcome different found =>
        cases stepped
        obtain ⟨t, upload, request, uploaded, answered⟩ := answers found
        refine .result p t publish upload _ _ opened putting request uploaded answered ?_ (by simp)
        intro version same
        cases same
        exact absurd rfl (different version)
      case h_3 answer different found =>
        cases stepped
        obtain ⟨t, upload, request, uploaded, answered⟩ := answers found
        refine .result p t publish upload _ _ opened putting request uploaded answered ?_ (by simp)
        intro version same
        cases same
        exact absurd rfl (different (.conflict version))
      case h_4 => cases stepped
  | verify p =>
      simp only [publishStep, Option.bind_eq_some_iff] at stepped
      obtain ⟨publish, opened, stepped⟩ := stepped
      split at stepped <;> cases stepped
      exact .ends p _ publish _ opened (by simp)
  | requestFails p =>
      simp only [publishStep, Option.bind_eq_some_iff] at stepped
      obtain ⟨publish, opened, stepped⟩ := stepped
      split at stepped <;> cases stepped
      exact .ends p _ publish _ opened (by simp)

structure Carries (publish : Publish) (upload : Upload) : Prop where
  accountId : upload.accountId = publish.accountId
  bundle : publish.bundle = encodeB64 upload.bytes
  version : upload.attemptedVersion = nextVersion publish.existing

def Known (server : Account.Server) (publish : Publish) : Prop :=
  ∀ keyBundle, publish.existing = some keyBundle →
    ∃ row, server.stored publish.accountId = some row ∧ keyBundle.version ≤ row.version ∧
      (keyBundle.version = row.version → keyBundle = toKeyBundle row)

def Sent (server : Account.Server) (publish : Publish) : Prop :=
  ∀ t, publish.request = some t → ∃ upload, server.uploads t = some upload ∧ Carries publish upload

structure Linked (state : Browsers) : Prop where
  consistent : Account.Consistent state.server
  sent : ∀ p publish, state.publishes p = some publish → Sent state.server publish
  owned : ∀ t upload, state.server.uploads t = some upload →
    ∃ p publish, state.publishes p = some publish ∧ publish.request = some t
  known : ∀ p publish, state.publishes p = some publish → Known state.server publish
  getting : ∀ p publish, state.publishes p = some publish → publish.phase = .getting →
    publish.request = none ∧ ∃ json, publish.bundle = encodeB64 json

theorem encodeB64_injective {bytes bytes' : Bytes} (same : encodeB64 bytes = encodeB64 bytes') :
    bytes = bytes' := by
  have decoded := decodeB64_encodeB64 false bytes
  rw [same, decodeB64_encodeB64, Option.some.injEq] at decoded
  exact decoded.symm

theorem linked_initial : Linked Browsers.initial where
  consistent := Account.consistent_initial
  sent := by intro p publish opened; cases opened
  owned := by intro t upload opened; cases opened
  known := by intro p publish opened; cases opened
  getting := by intro p publish opened; cases opened

section Steps

variable {codec} {state next : Browsers} {action : PublishAction}

theorem forall_publishes {property : Publish → Prop} {p : Nat} {publish : Publish}
    (each : ∀ q other, state.publishes q = some other → property other) (mine : property publish) :
    ∀ q other, (state.resume p publish).publishes q = some other → property other := by
  intro q other opened
  change Function.update state.publishes p (some publish) q = some other at opened
  rw [Function.update_apply] at opened
  split at opened
  · cases opened
    exact mine
  · exact each q other opened

theorem Linked.resume (linked : Linked state) {p : Nat} {publish' : Publish}
    (before : ∀ publish, state.publishes p = some publish → publish'.request = publish.request)
    (sent : Sent state.server publish') (known : Known state.server publish')
    (getting : publish'.phase = .getting →
      publish'.request = none ∧ ∃ json, publish'.bundle = encodeB64 json) :
    Linked (state.resume p publish') where
  consistent := linked.consistent
  sent := forall_publishes linked.sent sent
  owned := by
    intro t upload uploaded
    obtain ⟨q, other, opened, request⟩ := linked.owned t upload uploaded
    by_cases mine : q = p
    · subst mine
      refine ⟨q, publish', state.resume_opened q publish', ?_⟩
      rw [before other opened, request]
    · refine ⟨q, other, ?_, request⟩
      change Function.update state.publishes p _ q = _
      rw [Function.update_of_ne mine, opened]
  known := forall_publishes linked.known known
  getting := forall_publishes linked.getting getting

theorem Known.step {server server' : Account.Server} {publish : Publish} {action : Account.Action}
    (known : Known server publish) (consistent : Account.Consistent server)
    (stepped : Account.step codec server action = some server') : Known server' publish := by
  intro keyBundle existing
  obtain ⟨row, stored, least, same⟩ := known keyBundle existing
  rcases consistent.stored_step stepped publish.accountId with kept | ⟨row', stored', follows⟩
  · exact ⟨row, kept.trans stored, least, same⟩
  · -- Any other bundle has a later version.
    have later := follows row stored
    refine ⟨row', stored', by omega, fun contra => ?_⟩
    omega

theorem Linked.serve (linked : Linked state) {t : Account.TxId} {server : Account.Server}
    {action : Account.Action} (mine : action = .statement t ∨ action = .fail t)
    (stepped : Account.step codec state.server action = some server) :
    Linked { state with server } where
  consistent := (Account.consistent_step linked.consistent stepped).1
  sent := by
    intro p publish opened u request
    obtain ⟨upload, uploaded, carries⟩ := linked.sent p publish opened u request
    obtain ⟨upload', uploaded', same⟩ := Account.step_uploads stepped uploaded
    refine ⟨upload', uploaded', same.accountId.trans carries.accountId, ?_, ?_⟩
    · rw [same.bytes, carries.bundle]
    · rw [same.attemptedVersion, carries.version]
  owned := by
    intro u upload uploaded
    obtain ⟨other, before⟩ := Account.step_uploaded mine stepped uploaded
    exact linked.owned u other before
  known := fun p publish opened => (linked.known p publish opened).step linked.consistent stepped
  getting := linked.getting

theorem known_read {server : Account.Server} {publish : Publish}
    (existing : publish.existing = (server.stored publish.accountId).map toKeyBundle) :
    Known server publish := by
  intro keyBundle found
  rw [existing, Option.map_eq_some_iff] at found
  obtain ⟨row, stored, rfl⟩ := found
  exact ⟨row, stored, le_refl _, fun _ => rfl⟩

theorem Linked.sends (linked : Linked state) {p : Nat} {t : Account.TxId} {publish : Publish}
    {bytes : Bytes} {server : Account.Server} (opened : state.publishes p = some publish)
    (getting : publish.phase = .getting)
    (decoded : decodeB64 (publish.backend == .rust) publish.bundle = some bytes)
    (put : Account.step codec state.server
      (.put t publish.backend publish.accountId bytes
        (nextVersion ((state.server.stored publish.accountId).map toKeyBundle))) = some server) :
    Linked ({ state with server }.resume p
      { publish with
        existing := (state.server.stored publish.accountId).map toKeyBundle
        attemptedVersion := nextVersion ((state.server.stored publish.accountId).map toKeyBundle)
        request := some t
        phase := .putting }) := by
  obtain ⟨request, json, encoded⟩ := linked.getting p publish opened getting
  have same : json = bytes := by
    rw [encoded, decodeB64_encodeB64, Option.some.injEq] at decoded
    exact decoded
  subst same
  have consistent := (Account.consistent_step linked.consistent put).1
  cases Account.step_cases codec put with
  | put _ _ _ _ _ unused bounds named =>
      refine ⟨consistent, ?_, ?_, ?_, ?_⟩
      · apply forall_publishes
        · intro q other opened' u request'
          obtain ⟨upload, uploaded, carries⟩ := linked.sent q other opened' u request'
          obtain ⟨upload', uploaded', kept⟩ := Account.step_uploads put uploaded
          refine ⟨upload', uploaded', kept.accountId.trans carries.accountId, ?_, ?_⟩
          · rw [kept.bytes, carries.bundle]
          · rw [kept.attemptedVersion, carries.version]
        · intro u request'
          cases request'
          exact ⟨_, Account.Server.resume_opened _ _ _, rfl, encoded, rfl⟩
      · intro u upload uploaded
        by_cases mine : u = t
        · subst mine
          exact ⟨p, _, Browsers.resume_opened _ _ _, rfl⟩
        · change Function.update state.server.uploads t _ u = some upload at uploaded
          rw [Function.update_of_ne mine] at uploaded
          obtain ⟨q, other, opened', request'⟩ := linked.owned u upload uploaded
          have different : q ≠ p := by
            rintro rfl
            rw [opened, Option.some.injEq] at opened'
            rw [← opened', request] at request'
            cases request'
          refine ⟨q, other, ?_, request'⟩
          change Function.update state.publishes p _ q = _
          rw [Function.update_of_ne different, opened']
      · apply forall_publishes
        · intro q other opened'
          exact (linked.known q other opened').step linked.consistent put
        · exact known_read rfl
      · apply forall_publishes
        · exact linked.getting
        · simp

theorem request_kept {p : Nat} {publish publish' : Publish}
    (opened : state.publishes p = some publish) (same : publish'.request = publish.request)
    (other : Publish) (opened' : state.publishes p = some other) :
    publish'.request = other.request := by
  rw [opened, Option.some.injEq] at opened'
  rw [same, opened']

theorem linked_step (linked : Linked state)
    (stepped : publishStep codec state action = some next) : Linked next := by
  cases publishStep_cases codec stepped with
  | started p backend accountId json publish unused existing request encoded =>
      refine linked.resume ?_ ?_ ?_ (fun getting => ⟨request, encoded getting⟩)
      · intro other opened
        rw [unused] at opened
        cases opened
      · intro t contra
        rw [request] at contra
        cases contra
      · intro keyBundle contra
        rw [existing] at contra
        cases contra
  | sent p t publish bytes server opened getting unused decoded put =>
      exact linked.sends opened getting decoded put
  | refused p t publish opened getting =>
      obtain ⟨request, -⟩ := linked.getting p publish opened getting
      refine linked.resume (request_kept opened rfl) ?_ ?_ (by simp)
      · intro u contra
        rw [request] at contra
        cases contra
      · exact known_read rfl
  | statement t server served => exact linked.serve (.inl rfl) served
  | failed t server served => exact linked.serve (.inr rfl) served
  | result p t publish upload answer phase opened putting request uploaded answered conflict waits =>
      refine linked.resume (request_kept opened rfl) ?_ (linked.known p publish opened)
        (fun getting => absurd getting waits)
      intro u same
      obtain ⟨upload, uploaded, carries⟩ := linked.sent p publish opened u same
      exact ⟨upload, uploaded, carries.accountId, carries.bundle, carries.version⟩
  | ends p action publish status opened other =>
      refine linked.resume (request_kept opened rfl) ?_ (linked.known p publish opened) (by simp)
      intro u same
      obtain ⟨upload, uploaded, carries⟩ := linked.sent p publish opened u same
      exact ⟨upload, uploaded, carries.accountId, carries.bundle, carries.version⟩

end Steps

/-- The stored bundle changes only where there was none or the one being published, and a run
whose upload has met another one says so. -/
structure LeavesDifferent (state : Browsers) (action : PublishAction) : Prop where
  kept : ∀ next accountId, publishStep codec state action = some next →
    next.server.stored accountId ≠ state.server.stored accountId →
    ∃ p publish row', state.publishes p = some publish ∧ publish.accountId = accountId ∧
      next.server.stored accountId = some row' ∧ encodeB64 row'.bundle = publish.bundle ∧
      ∀ row, state.server.stored accountId = some row → encodeB64 row.bundle = publish.bundle
  reported : ∀ next p publish t upload row outcome, action = .result p →
    publishStep codec state action = some next → state.publishes p = some publish →
    publish.phase = .putting → publish.request = some t → state.server.uploads t = some upload →
    upload.phase = .answered (.outcome outcome) → upload.existing = some row →
    encodeB64 row.bundle ≠ publish.bundle →
      ∃ publish', next.publishes p = some publish' ∧
        publish'.phase = .ended (.conflict (some row.version))

/-- A run that has read another bundle commits its own over it. -/
def OverwritesRead (state : Browsers) (action : PublishAction) : Prop :=
  ∃ t upload p publish keyBundle, action = .statement t ∧
    state.server.uploads t = some upload ∧ upload.phase = .commit .replaced ∧
    state.publishes p = some publish ∧ publish.request = some t ∧
    publish.existing = some keyBundle ∧ keyBundle.bundle ≠ publish.bundle

def ReplacesSame (server : Account.Server) : Prop :=
  ∀ t upload row, server.uploads t = some upload → upload.phase = .answered (.outcome .replaced) →
    upload.existing = some row → row.bundle = upload.bytes

section Replacements

variable {codec} {state next : Browsers} {action : PublishAction} {t : Account.TxId} {upload : Upload}

theorem Linked.replaces_read (linked : Linked state) (uploaded : state.server.uploads t = some upload)
    (phase : upload.phase = .commit .replaced) {p : Nat} {publish : Publish}
    (opened : state.publishes p = some publish) (request : publish.request = some t) :
    ∃ row, upload.existing = some row ∧ state.server.stored upload.accountId = some row ∧
      upload.attemptedVersion = row.version + 1 ∧ publish.existing = some (toKeyBundle row) ∧
      Carries publish upload := by
  obtain ⟨upload', uploaded', carries⟩ := linked.sent p publish opened t request
  rw [uploaded, Option.some.injEq] at uploaded'
  subst uploaded'
  have stage := linked.consistent.stage t upload uploaded
  unfold Account.Stage at stage
  rw [phase] at stage
  obtain ⟨-, -, stored, decision, -⟩ := stage
  obtain ⟨row, existing, follows⟩ := Account.decision_replaced decision
  have here := stored.trans existing
  refine ⟨row, existing, here, follows, ?_, carries⟩
  have least := (linked.consistent.stored _ row here).1
  rw [carries.version] at follows
  cases read : publish.existing with
  | none =>
      -- A first upload has version 1, which follows no stored version.
      rw [read] at follows
      simp only [nextVersion] at follows
      omega
  | some keyBundle =>
      rw [read] at follows
      simp only [nextVersion] at follows
      obtain ⟨row', there, -, same⟩ := linked.known p publish opened keyBundle read
      rw [← carries.accountId, here, Option.some.injEq] at there
      subst there
      rw [same (by omega)]

theorem Linked.replaces_same (linked : Linked state) (uploaded : state.server.uploads t = some upload)
    (phase : upload.phase = .commit .replaced) (ok : ¬ OverwritesRead state (.statement t)) :
    ∃ row, upload.existing = some row ∧ state.server.stored upload.accountId = some row ∧
      row.bundle = upload.bytes := by
  obtain ⟨p, publish, opened, request⟩ := linked.owned t upload uploaded
  obtain ⟨row, existing, stored, -, read, carries⟩ :=
    linked.replaces_read uploaded phase opened request
  refine ⟨row, existing, stored, ?_⟩
  by_contra different
  refine ok ⟨t, upload, p, publish, toKeyBundle row, rfl, uploaded, phase, opened, request, read, ?_⟩
  intro same
  rw [carries.bundle] at same
  exact different (encodeB64_injective same)

theorem replacesSame_serve {server : Account.Server} {action : Account.Action} (linked : Linked state)
    (before : ReplacesSame state.server)
    (ok : action = .statement t → ¬ OverwritesRead state (.statement t))
    (served : action = .statement t ∨ action = .fail t)
    (stepped : Account.step codec state.server action = some server) : ReplacesSame server := by
  intro u upload' row uploaded' answered existing
  by_cases mine : u = t
  · subst mine
    obtain ⟨upload, uploaded⟩ := Account.step_served served stepped
    by_cases open_ : upload.Open
    · have statement : action = .statement u := by
        rcases served with same | rfl
        · exact same
        · cases Account.step_cases codec stepped with
          | failed =>
              rw [Account.Server.resume_opened, Option.some.injEq] at uploaded'
              rw [← uploaded'] at answered
              cases answered
      have answers : Account.Answers state.server server u upload .replaced :=
        ⟨uploaded, open_, upload', uploaded', answered⟩
      rcases answers.ends stepped with ⟨phase, rfl⟩ | ⟨phase, rfl⟩
      · rw [Account.Server.resume_opened, Option.some.injEq] at uploaded'
        subst uploaded'
        obtain ⟨row', existing', -, same⟩ := linked.replaces_same uploaded phase (ok statement)
        rw [existing'] at existing
        cases existing
        exact same
      · have stage := linked.consistent.stage u upload uploaded
        unfold Account.Stage at stage
        rw [phase] at stage
        exact absurd rfl stage.2.2.2.2.2
    · -- An answered upload takes no step.
      simp only [Upload.Open, ne_eq, not_forall, not_not] at open_
      obtain ⟨answer, phase⟩ := open_
      rcases served with rfl | rfl <;>
        simp [Account.step, uploaded, Account.statement, phase] at stepped
  · rw [Account.step_elsewhere served stepped mine] at uploaded'
    exact before u upload' row uploaded' answered existing

theorem replacesSame_step (linked : Linked state) (before : ReplacesSame state.server)
    (ok : ¬ OverwritesRead state action) (stepped : publishStep codec state action = some next) :
    ReplacesSame next.server := by
  cases publishStep_cases codec stepped with
  | started | refused | result | ends => exact before
  | sent p t publish bytes server opened getting unused decoded put =>
      cases Account.step_cases codec put with
      | put _ _ _ _ _ unused bounds named =>
          intro u upload row uploaded answered existing
          change Function.update state.server.uploads t _ u = some upload at uploaded
          rw [Function.update_apply] at uploaded
          split at uploaded
          · cases uploaded
            cases answered
          · exact before u upload row uploaded answered existing
  | statement t server served => exact replacesSame_serve linked before (fun _ => ok) (.inl rfl) served
  | failed t server served => exact replacesSame_serve linked before (by simp) (.inr rfl) served

theorem Linked.kept (linked : Linked state) (ok : ¬ OverwritesRead state action)
    (stepped : publishStep codec state action = some next) {accountId : Id}
    (changed : next.server.stored accountId ≠ state.server.stored accountId) :
    ∃ p publish row', state.publishes p = some publish ∧ publish.accountId = accountId ∧
      next.server.stored accountId = some row' ∧ encodeB64 row'.bundle = publish.bundle ∧
      ∀ row, state.server.stored accountId = some row → encodeB64 row.bundle = publish.bundle := by
  cases publishStep_cases codec stepped with
  | started | refused | result | ends => exact absurd rfl changed
  | sent p t publish bytes server opened getting unused decoded put =>
      cases Account.step_cases codec put with
      | put => exact absurd rfl changed
  | failed t server served =>
      cases Account.step_cases codec served with
      | failed => exact absurd (congrFun (Account.abort_stored _ _) accountId) changed
  | statement t server served =>
      obtain ⟨-, published⟩ := Account.consistent_step linked.consistent served
      cases published with
      | nothing _ stored => exact absurd (congrFun stored accountId) changed
      | written t upload outcome uploaded phase stored =>
          have mine : upload.accountId = accountId := by
            by_contra other
            apply changed
            change server.stored accountId = _
            rw [stored, Function.update_of_ne (Ne.symm other)]
          obtain ⟨p, publish, opened, request⟩ := linked.owned t upload uploaded
          obtain ⟨upload', uploaded', carries⟩ := linked.sent p publish opened t request
          rw [uploaded, Option.some.injEq] at uploaded'
          subst uploaded'
          refine ⟨p, publish, upload.uploadedRow, opened, carries.accountId.symm.trans mine, ?_,
            carries.bundle.symm, fun row found => ?_⟩
          · change server.stored accountId = _
            rw [stored, ← mine, Function.update_self]
          · have stage := linked.consistent.stage t upload uploaded
            unfold Account.Stage at stage
            rw [phase] at stage
            obtain ⟨-, -, before, decision, rfl | rfl⟩ := stage
            · -- A first bundle meets no row.
              rw [(Account.decision_created decision).1, mine, found] at before
              cases before
            · obtain ⟨row', existing, here, same⟩ := linked.replaces_same uploaded phase ok
              rw [mine, found, Option.some.injEq] at here
              rw [here, same, carries.bundle]

theorem Linked.reported (linked : Linked state) (before : ReplacesSame state.server) {p : Nat}
    {publish : Publish} {row : BundleRow} {outcome : Account.Outcome}
    (stepped : publishStep codec state (.result p) = some next)
    (opened : state.publishes p = some publish) (request : publish.request = some t)
    (uploaded : state.server.uploads t = some upload)
    (answered : upload.phase = .answered (.outcome outcome)) (existing : upload.existing = some row)
    (different : encodeB64 row.bundle ≠ publish.bundle) :
    ∃ publish', next.publishes p = some publish' ∧
      publish'.phase = .ended (.conflict (some row.version)) := by
  obtain ⟨upload', uploaded', carries⟩ := linked.sent p publish opened t request
  rw [uploaded, Option.some.injEq] at uploaded'
  subst uploaded'
  rw [carries.bundle] at different
  have conflict : outcome = .conflict (some row.version) := by
    have stage := linked.consistent.stage t upload uploaded
    unfold Account.Stage at stage
    rw [answered] at stage
    obtain ⟨-, -, decision⟩ := stage
    rw [existing] at decision
    simp only [Upload.decision] at decision
    split at decision
    · rename_i same
      exact absurd (by rw [same]; rfl) different
    · split at decision
      · -- A replacement has met the bundle that it carries.
        rw [← decision] at answered
        have same := before t upload row uploaded answered existing
        exact absurd (by rw [same]) different
      · exact decision.symm
  cases publishStep_cases codec stepped with
  | result _ u other upload' answer phase opened' putting request' uploaded' answered' reports waits =>
      rw [opened, Option.some.injEq] at opened'
      subst opened'
      rw [request, Option.some.injEq] at request'
      subst request'
      rw [uploaded, Option.some.injEq] at uploaded'
      subst uploaded'
      rw [answered] at answered'
      cases answered'
      refine ⟨_, Browsers.resume_opened _ _ _, ?_⟩
      exact reports (some row.version) (by rw [conflict])
  | ends _ _ _ _ _ other => exact absurd rfl (other p)

theorem Linked.leavesDifferent (linked : Linked state) (before : ReplacesSame state.server)
    (ok : ¬ OverwritesRead state action) : LeavesDifferent codec state action where
  kept := fun _ _ stepped changed => linked.kept ok stepped changed
  reported := by
    rintro next p publish t upload row outcome rfl stepped opened - request uploaded answered existing
      different
    exact linked.reported before stepped opened request uploaded answered existing different

theorem LeavesDifferent.ok (linked : Linked state) (leaves : LeavesDifferent codec state action) :
    ¬ OverwritesRead state action := by
  rintro ⟨t, upload, p, publish, keyBundle, rfl, uploaded, phase, opened, request, read, different⟩
  obtain ⟨row, existing, stored, follows, read', carries⟩ :=
    linked.replaces_read uploaded phase opened request
  rw [read, Option.some.injEq] at read'
  subst read'
  have committed := linked.consistent.commit_stored uploaded phase
  have stepped : publishStep codec state (.statement t) = some
      { state with
        server := Account.Server.resume
          { state.server with bundles := state.server.bundles.commit t } t
          { upload with row := none, phase := .answered (.outcome .replaced) } } := by
    simp [publishStep, Account.step, uploaded, Account.statement, phase]
  have after := congrFun committed upload.accountId
  rw [Function.update_self] at after
  have changed : upload.uploadedRow ≠ row := by
    intro same
    have version : upload.attemptedVersion = row.version := congrArg BundleRow.version same
    omega
  obtain ⟨q, other, row', -, -, after', published, same⟩ :=
    leaves.kept _ upload.accountId stepped (by
      rw [stored]
      intro contra
      exact changed (Option.some.inj (after.symm.trans contra)))
  have newer : row' = upload.uploadedRow := Option.some.inj (after'.symm.trans after)
  rw [newer] at published
  apply different
  rw [carries.bundle]
  exact (same row stored).trans published.symm

end Replacements

/-- Every run of the browsers leaves different bundles alone exactly if no run of `publish` commits
its bundle over a different one that it has read. -/
theorem publish_leaves_different (actions : List PublishAction) :
    Every (publishStep codec) (LeavesDifferent codec) Browsers.initial actions ↔
      Every (publishStep codec) (fun state action => ¬ OverwritesRead state action)
        Browsers.initial actions := by
  constructor
  · intro every
    refine every.imp_of_invariant Linked ?_ ?_ linked_initial
    · intro state action next linked leaves stepped
      exact linked_step linked stepped
    · intro state action linked leaves
      exact leaves.ok linked
  · intro every
    refine every.imp_of_invariant (fun state => Linked state ∧ ReplacesSame state.server) ?_ ?_
      ⟨linked_initial, ?_⟩
    · rintro state action next ⟨linked, before⟩ ok stepped
      exact ⟨linked_step linked stepped, replacesSame_step linked before ok stepped⟩
    · rintro state action ⟨linked, before⟩ ok
      exact linked.leavesDifferent before ok
    · intro t upload row uploaded
      cases uploaded

section Samples

open ZenPass.Account.BundleFormat TextEncoding

-- The account is read off the bytes by the validator of each server.
def bundleCodec (libraries : Libraries) : BundleCodec
  | .node, bytes => (Node.validateAccountBundleBytes libraries bytes).map fun ids => asText ids.1
  | .rust, bytes => (Rust.validateAccountBundleBytes libraries bytes).map asText

theorem bundleCodec_outerBytes {libraries : Libraries} (reads : libraries.Reads) (backend : Backend)
    {fields : AccountBundleBytes} (valid : fields.Valid) :
    bundleCodec libraries backend (outerBytes fields) = some fields.accountId := by
  have account : asText (ordered fields).accountId = fields.accountId :=
    (Sync.plain_isValidId valid.account).asText_units
  cases backend with
  | node =>
      have taken : (Node.platform libraries).validated (outerBytes fields) = some (ordered fields) :=
        validated_outerBytes reads .node valid
      rw [bundleCodec, Node.validateAccountBundleBytes, taken, Option.map_some, Option.map_some,
        account]
  | rust =>
      have taken : (Rust.platform libraries).validated (outerBytes fields) = some (ordered fields) :=
        validated_outerBytes reads .rust valid
      rw [bundleCodec, Rust.validateAccountBundleBytes, taken, Option.map_some, Option.map_some,
        account]

def bundleWith (byte : UInt8) : AccountBundleBytes where
  accountId := "account"
  vaultId := "vault"
  itemId := "item"
  kdfParametersCbor := [byte]
  wrappedAccountKey := [byte]
  wrappedVaultKey := [byte]
  wrappedItemKey := [byte]
  wrappedRecoveryKey := [byte]

theorem bundleWith_valid (byte : UInt8) : (bundleWith byte).Valid where
  account := show Sync.isValidId "account" = true by decide
  vault := show Sync.isValidId "vault" = true by decide
  item := show Sync.isValidId "item" = true by decide
  kdf := by simp [bundleWith, maxKdfParamsBytes]
  wrappers := by simp [bundleWith, maxWrapperBytes]

def secondPublish (first second : Bytes) : List PublishAction :=
  [.publish 0 .node "account" (some first), .existing 0 0, .statement 0, .statement 0, .statement 0,
    .result 0, .verify 0, .publish 1 .node "account" (some second), .existing 1 1, .statement 1,
    .statement 1]

theorem secondPublish_overwrites {codec : BundleCodec} {first second : Bytes}
    (takesFirst : codec .node first = some "account")
    (takesSecond : codec .node second = some "account") (different : first ≠ second) :
    ∃ state next, run (publishStep codec) Browsers.initial (secondPublish first second) = some state ∧
      publishStep codec state (.statement 1) = some next ∧ OverwritesRead state (.statement 1) := by
  have apart : encodeB64 first ≠ encodeB64 second := fun same => different (encodeB64_injective same)
  have decoded (bytes : Bytes) :
      decodeB64 (Backend.node == Backend.rust) (encodeB64 bytes) = some bytes :=
    decodeB64_encodeB64 _ bytes
  simp [secondPublish, run_cons, publishStep, Browsers.initial, Browsers.resume, Account.Server.initial,
    Account.Server.stored, nextVersion, decoded, Account.step, Account.putKeyBundle, takesFirst,
    takesSecond, Account.maxVersion, Account.statement, Account.compareVersion, Account.Server.resume,
    Account.Upload.uploadedRow, toKeyBundle, Account.succVersion, OverwritesRead,
    Table.hold, Table.commit, Slot.hold, Slot.commit, Slot.finish, Slot.available, Slot.view]
  exact ⟨1, _, Function.update_self _ _ _, rfl, _, rfl, apart⟩

theorem second_publish_overwrites :
    ¬ ∀ (libraries : Libraries) (actions : List PublishAction),
      Every (publishStep (bundleCodec libraries)) (LeavesDifferent (bundleCodec libraries))
        Browsers.initial actions := by
  intro always
  have takes (byte : UInt8) :
      bundleCodec plainLibraries .node (outerBytes (bundleWith byte)) = some "account" :=
    bundleCodec_outerBytes plainLibraries_reads .node (bundleWith_valid byte)
  have different : outerBytes (bundleWith 1) ≠ outerBytes (bundleWith 2) := by
    intro same
    have first := validated_outerBytes plainLibraries_reads .node (bundleWith_valid 1)
    rw [same, validated_outerBytes plainLibraries_reads .node (bundleWith_valid 2)] at first
    exact absurd first (by decide +kernel)
  obtain ⟨state, next, ran, stepped, overwrites⟩ :=
    secondPublish_overwrites (takes 1) (takes 2) different
  have linked : Linked state :=
    run_preserves (fun _ _ _ linked stepped => linked_step linked stepped) linked_initial ran
  have every := always plainLibraries
    (secondPublish (outerBytes (bundleWith 1)) (outerBytes (bundleWith 2)) ++ [.statement 1])
  exact (every.after_run ran stepped).ok linked overwrites

end Samples

end ZenPass.Web
