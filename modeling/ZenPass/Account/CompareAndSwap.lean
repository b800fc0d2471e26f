import ZenPass.Account.KeyBundles

set_option autoImplicit false

namespace ZenPass.Account

open Wire ReadCommitted Transition
open Sync (Id Backend)

def Upload.decision (upload : Upload) : Option BundleRow → Outcome
  | none => if upload.attemptedVersion = 1 then .created else .conflict none
  | some row =>
      if row = upload.uploadedRow then .idempotent
      else if upload.attemptedVersion = row.version + 1 then .replaced
      else .conflict (some row.version)

def InRange (version : Int) : Prop := 1 ≤ version ∧ version ≤ maxVersion

theorem compareVersion_none (upload : Upload) :
    compareVersion upload none =
      if upload.attemptedVersion = 1 then .insert else .rollback (.conflict none) := by
  simp only [compareVersion, ne_eq, ite_not]

theorem compareVersion_some (upload : Upload) (row : BundleRow)
    (attempted : InRange upload.attemptedVersion) (stored : InRange row.version) :
    compareVersion upload (some row) =
      if row = upload.uploadedRow then .rollback .idempotent
      else if upload.attemptedVersion = row.version + 1 then .update
      else .rollback (.conflict (some row.version)) := by
  obtain ⟨bundle, version⟩ := row
  unfold InRange maxVersion at attempted stored
  dsimp only at stored
  have follows : upload.attemptedVersion = succVersion upload.backend version ↔
      upload.attemptedVersion = version + 1 := by
    cases upload.backend with
    | node => rfl
    | rust =>
        change _ = (version + 1).bmod (2 ^ 32) ↔ _
        rw [Int.bmod_def]
        split <;> omega
  simp only [compareVersion, Upload.uploadedRow, BundleRow.mk.injEq, ne_eq, follows]
  by_cases same : version = upload.attemptedVersion
  · by_cases bytes : bundle = upload.bytes
    · simp [same, bytes]
    · have apart : ¬ upload.attemptedVersion = upload.attemptedVersion + 1 := by omega
      simp [same, bytes, apart]
  · by_cases next : upload.attemptedVersion = version + 1
    · have apart : ¬ version = version + 1 := by omega
      simp [next, apart]
    · simp [same, next]

def Stage (stored : Option BundleRow) (upload : Upload) : Prop :=
  upload.attempt ≤ 1 ∧
  match upload.phase with
  | .selectForUpdate => upload.row = none ∧ (upload.attempt = 0 ∨ stored.isSome = true)
  | .insert =>
      upload.row = none ∧ upload.attempt = 0 ∧ upload.existing = none ∧
        upload.decision none = .created
  | .rollbackRetry => upload.row = none ∧ upload.attempt = 0 ∧ stored.isSome = true
  | .update =>
      upload.existing.isSome = true ∧ upload.row = upload.existing ∧ stored = upload.existing ∧
        upload.decision upload.existing = .replaced
  | .commit outcome =>
      upload.row = some upload.uploadedRow ∧ stored = upload.existing ∧
        upload.decision upload.existing = outcome ∧ (outcome = .created ∨ outcome = .replaced)
  | .rollback outcome =>
      upload.row = upload.existing ∧ (upload.existing.isSome = true → stored = upload.existing) ∧
        upload.decision upload.existing = outcome ∧ outcome ≠ .created ∧ outcome ≠ .replaced
  | .answered (.outcome outcome) =>
      upload.row = none ∧ upload.decision upload.existing = outcome
  | .answered .failed => upload.row = none
  | .answered .exhausted => False

structure Consistent (server : Server) : Prop where
  locks : LocksOf Upload.accountId (fun upload => upload.row.map some) server.uploads server.bundles
  stored : ∀ accountId row, server.stored accountId = some row → InRange row.version
  attempted : ∀ t upload, server.uploads t = some upload → InRange upload.attemptedVersion
  stage : ∀ t upload, server.uploads t = some upload →
    Stage (server.stored upload.accountId) upload

theorem consistent_initial : Consistent Server.initial := by
  constructor <;> intros <;> simp_all [Server.initial, Server.stored, LocksOf]

section Steps

variable {server server' next : Server} {t : TxId} {upload upload' : Upload} {action : Action}

theorem Stage.of_eq {stored stored' : Option BundleRow} (stage : Stage stored upload)
    (held : upload.row.isSome = true → stored' = stored)
    (kept : stored.isSome = true → stored'.isSome = true) : Stage stored' upload := by
  unfold Stage at stage ⊢
  refine ⟨stage.1, ?_⟩
  have rest := stage.2
  split at rest
  · exact ⟨rest.1, rest.2.imp_right kept⟩
  · exact rest
  · exact ⟨rest.1, rest.2.1, kept rest.2.2⟩
  · obtain ⟨some_, row, same, decision⟩ := rest
    exact ⟨some_, row, (held (by rw [row]; exact some_)).trans same, decision⟩
  · obtain ⟨row, same, decision⟩ := rest
    exact ⟨row, (held (by rw [row]; rfl)).trans same, decision⟩
  · obtain ⟨row, same, decision⟩ := rest
    exact ⟨row, fun some_ => (held (by rw [row]; exact some_)).trans (same some_), decision⟩
  · exact rest
  · exact rest
  · exact rest

theorem stage_absent (stage : Stage none upload) (phase : upload.phase = .selectForUpdate) :
    Stage none { upload with existing := none, phase := compareVersion upload none } := by
  unfold Stage at stage
  rw [phase] at stage
  obtain ⟨attempts, row, first⟩ := stage
  have zero : upload.attempt = 0 := by simpa using first
  rw [compareVersion_none]
  by_cases one : upload.attemptedVersion = 1
  · rw [if_pos one]
    exact ⟨attempts, row, zero, rfl, if_pos one⟩
  · rw [if_neg one]
    refine ⟨attempts, row, by simp, if_neg one, by simp, by simp⟩

theorem stage_locked (row : BundleRow) (stage : Stage (some row) upload)
    (attempted : InRange upload.attemptedVersion) (stored : InRange row.version) :
    Stage (some row)
      { upload with existing := some row, row := some row, phase := compareVersion upload (some row) } := by
  rw [compareVersion_some upload row attempted stored]
  by_cases same : row = upload.uploadedRow
  · rw [if_pos same]
    exact ⟨stage.1, rfl, fun _ => rfl, if_pos same, by simp, by simp⟩
  · rw [if_neg same]
    by_cases follows : upload.attemptedVersion = row.version + 1
    · rw [if_pos follows]
      exact ⟨stage.1, rfl, rfl, rfl, (if_neg same).trans (if_pos follows)⟩
    · rw [if_neg follows]
      exact ⟨stage.1, rfl, fun _ => rfl, (if_neg same).trans (if_neg follows), by simp, by simp⟩

theorem forall_resume {property : Upload → Prop}
    (each : ∀ u other, server.uploads u = some other → property other) (mine : property upload') :
    ∀ u other, (server.resume t upload').uploads u = some other → property other := by
  intro u other opened
  change Function.update server.uploads t (some upload') u = some other at opened
  by_cases same : u = t
  · subst same
    rw [Function.update_self, Option.some.injEq] at opened
    exact opened ▸ mine
  · rw [Function.update_of_ne same] at opened
    exact each u other opened

inductive Published (server next : Server) : Action → Prop where
  | nothing (action : Action) (stored : next.stored = server.stored) : Published server next action
  | written (t : TxId) (upload : Upload) (outcome : Outcome)
      (opened : server.uploads t = some upload) (phase : upload.phase = .commit outcome)
      (stored : next.stored =
        Function.update server.stored upload.accountId (some upload.uploadedRow)) :
      Published server next (.statement t)

theorem Consistent.resumes (consistent : Consistent server) (stored : server'.stored = server.stored)
    (uploads : server'.uploads = server.uploads)
    (locks : LocksOf Upload.accountId (fun upload => upload.row.map some)
      (Function.update server'.uploads t (some upload')) server'.bundles)
    (attempted : InRange upload'.attemptedVersion)
    (stage : Stage (server.stored upload'.accountId) upload') :
    Consistent (server'.resume t upload') ∧ Published server (server'.resume t upload') action := by
  refine ⟨⟨locks, ?_, ?_, ?_⟩, .nothing action stored⟩
  · change ∀ accountId row, server'.stored accountId = some row → _
    rw [stored]
    exact consistent.stored
  · have before : ∀ u other, server'.uploads u = some other → InRange other.attemptedVersion := by
      rw [uploads]
      exact consistent.attempted
    exact forall_resume before attempted
  · change ∀ u other, _ → Stage (server'.stored other.accountId) other
    have before : ∀ u other, server'.uploads u = some other →
        Stage (server.stored other.accountId) other := by
      rw [uploads]
      exact consistent.stage
    rw [stored]
    exact forall_resume before stage

theorem abort_stored (server : Server) (t : TxId) :
    ({ server with bundles := server.bundles.abort t } : Server).stored = server.stored :=
  funext fun _ => Table.abort_committed _ _ _

theorem hold_stored (server : Server) (accountId : Id) (t : TxId) (row : Option BundleRow) :
    ({ server with bundles := server.bundles.hold accountId t row } : Server).stored =
      server.stored := funext fun _ => Table.hold_committed _ _ _ _ _

theorem Consistent.commit_stored (consistent : Consistent server)
    (opened : server.uploads t = some upload) {outcome : Outcome}
    (phase : upload.phase = .commit outcome) :
    ({ server with bundles := server.bundles.commit t } : Server).stored =
      Function.update server.stored upload.accountId (some upload.uploadedRow) := by
  have stage := consistent.stage t upload opened
  unfold Stage at stage
  rw [phase] at stage
  obtain ⟨-, row, -⟩ := stage
  funext accountId
  change (server.bundles.commit t accountId).committed = _
  rw [consistent.locks.commit_committed opened, row, Function.update_apply]
  by_cases same : upload.accountId = accountId
  · simp [same]
  · simp [same, Ne.symm same, Server.stored]

theorem Consistent.commits (consistent : Consistent server) (opened : server.uploads t = some upload)
    {outcome : Outcome} (phase : upload.phase = .commit outcome) :
    Consistent ({ server with bundles := server.bundles.commit t }.resume t
        { upload with row := none, phase := .answered (.outcome outcome) }) ∧
      Published server ({ server with bundles := server.bundles.commit t }.resume t
        { upload with row := none, phase := .answered (.outcome outcome) }) (.statement t) := by
  have stage := consistent.stage t upload opened
  unfold Stage at stage
  rw [phase] at stage
  obtain ⟨attempts, row, before, decision, -⟩ := stage
  have stored := consistent.commit_stored opened phase
  refine ⟨⟨consistent.locks.commit_resume t rfl, ?_, ?_, ?_⟩,
    .written t upload outcome opened phase stored⟩
  · intro accountId found
    change ({ server with bundles := server.bundles.commit t } : Server).stored accountId = _ → _
    rw [stored, Function.update_apply]
    split
    · intro same
      cases same
      exact consistent.attempted t upload opened
    · exact consistent.stored accountId found
  · exact forall_resume consistent.attempted (consistent.attempted t upload opened)
  · intro u other open_
    change Function.update server.uploads t _ u = some other at open_
    change Stage (({ server with bundles := server.bundles.commit t } : Server).stored
      other.accountId) other
    rw [stored]
    by_cases mine : u = t
    · subst mine
      rw [Function.update_self, Option.some.injEq] at open_
      subst open_
      exact ⟨attempts, rfl, decision⟩
    · rw [Function.update_of_ne mine] at open_
      refine (consistent.stage u other open_).of_eq ?_ ?_
      · intro held
        obtain ⟨version, held⟩ := Option.isSome_iff_exists.mp held
        apply Function.update_of_ne
        intro same
        exact mine (consistent.locks.exclusive open_ opened same (by rw [held]; rfl)
          (by rw [row]; rfl))
      · intro there
        rw [Function.update_apply]
        split
        · rfl
        · exact there

theorem Consistent.statement (consistent : Consistent server)
    (opened : server.uploads t = some upload) (executed : Executed server t upload next) :
    Consistent next ∧ Published server next (.statement t) := by
  have stage := consistent.stage t upload opened
  have attempted := consistent.attempted t upload opened
  have whole := stage
  unfold Stage at stage
  cases executed with
  | absent phase missing =>
      rw [phase] at stage
      rw [missing] at whole
      refine consistent.resumes rfl rfl ?_ attempted ?_
      · exact consistent.locks.advance opened rfl rfl
      · rw [missing]
        exact stage_absent whole phase
  | locked row phase found available =>
      rw [found] at whole
      refine consistent.resumes (hold_stored server _ t _) rfl ?_ attempted ?_
      · exact consistent.locks.hold opened rfl available rfl
      · rw [found]
        exact stage_locked row whole attempted (consistent.stored _ row found)
  | exhausted phase attempts =>
      -- A retry has found the row of the upload that won, so there is no third attempt.
      omega
  | inserted phase missing available =>
      rw [phase] at stage
      obtain ⟨attempts, row, zero, existing, decision⟩ := stage
      refine consistent.resumes (hold_stored server _ t _) rfl ?_ attempted ?_
      · exact consistent.locks.hold opened rfl available rfl
      · rw [missing, ← existing]
        refine ⟨attempts, rfl, rfl, ?_, .inl rfl⟩
        rw [← existing] at decision
        exact decision
  | lostRace row phase found =>
      rw [phase] at stage
      obtain ⟨attempts, unheld, zero, existing, decision⟩ := stage
      refine consistent.resumes rfl rfl ?_ attempted ?_
      · exact consistent.locks.advance opened rfl rfl
      · rw [found]
        exact ⟨attempts, unheld, zero, rfl⟩
  | updatedNothing phase missing =>
      -- The row that the update is for is locked by this upload.
      rw [phase] at stage
      obtain ⟨attempts, some_, row, same, decision⟩ := stage
      obtain ⟨found, existing⟩ := Option.isSome_iff_exists.mp some_
      have viewed := consistent.locks.view opened
      rw [row, existing, missing] at viewed
      cases viewed
  | updated phase available =>
      rw [phase] at stage
      obtain ⟨attempts, some_, row, same, decision⟩ := stage
      refine consistent.resumes (hold_stored server _ t _) rfl ?_ attempted ?_
      · exact consistent.locks.hold opened rfl available rfl
      · exact ⟨attempts, rfl, same, decision, .inr rfl⟩
  | committed outcome phase => exact consistent.commits opened phase
  | rolledBack outcome phase =>
      rw [phase] at stage
      obtain ⟨attempts, row, same, decision, -⟩ := stage
      refine consistent.resumes (abort_stored server t) rfl ?_ attempted ?_
      · exact consistent.locks.abort_resume t rfl
      · exact ⟨attempts, rfl, decision⟩
  | retried phase =>
      rw [phase] at stage
      obtain ⟨attempts, row, zero, there⟩ := stage
      refine consistent.resumes (abort_stored server t) rfl ?_ attempted ?_
      · exact consistent.locks.abort_resume t rfl
      · refine ⟨?_, rfl, .inr there⟩
        change upload.attempt + 1 ≤ 1
        omega

theorem consistent_step {codec : BundleCodec} (consistent : Consistent server)
    (stepped : step codec server action = some next) :
    Consistent next ∧ Published server next action := by
  cases step_cases codec stepped with
  | put t backend accountId bytes version unused bounds named =>
      refine consistent.resumes rfl rfl ?_ bounds ?_
      · exact consistent.locks.start unused rfl
      · exact ⟨Nat.zero_le 1, rfl, .inl rfl⟩
  | statement t upload next opened executed => exact consistent.statement opened executed
  | failed t upload opened unanswered =>
      refine consistent.resumes (abort_stored server t) rfl ?_ (consistent.attempted t upload opened) ?_
      · exact consistent.locks.abort_resume t rfl
      · exact ⟨(consistent.stage t upload opened).1, rfl⟩

end Steps

def Upload.Open (upload : Upload) : Prop := ∀ answer, upload.phase ≠ .answered answer

structure Answers (server next : Server) (t : TxId) (upload : Upload) (outcome : Outcome) : Prop where
  opened : server.uploads t = some upload
  unanswered : upload.Open
  answered : ∃ upload', next.uploads t = some upload' ∧ upload'.phase = .answered (.outcome outcome)

/-- What an answer says of the stored row. -/
def Explains (server next : Server) (upload : Upload) : Outcome → Prop
  | .created =>
      upload.attemptedVersion = 1 ∧ server.stored upload.accountId = none ∧
        next.stored = Function.update server.stored upload.accountId (some upload.uploadedRow)
  | .replaced =>
      (∃ row, server.stored upload.accountId = some row ∧
        upload.attemptedVersion = row.version + 1) ∧
        next.stored = Function.update server.stored upload.accountId (some upload.uploadedRow)
  | .idempotent =>
      server.stored upload.accountId = some upload.uploadedRow ∧ next.stored = server.stored
  | .conflict _ => next.stored = server.stored

variable (codec : BundleCodec)

/-- Some state of the run, with the upload open, has the version that is reported. -/
def ReportedVersion (actions : List Action) (t : TxId) (accountId : Id) (version : Option Int) :
    Prop :=
  ∃ before after server upload, actions = before ++ after ∧
    run (step codec) Server.initial before = some server ∧ server.uploads t = some upload ∧
    upload.Open ∧ (server.stored accountId).map BundleRow.version = version

structure CompareAndSwap (actions : List Action) (final : Server) : Prop where
  -- A row changes only where an upload is answered that it was written.
  written : ∀ before action after server next, actions = before ++ action :: after →
    run (step codec) Server.initial before = some server → step codec server action = some next →
    ∀ accountId, next.stored accountId ≠ server.stored accountId →
      ∃ t upload, upload.accountId = accountId ∧
        (Answers server next t upload .created ∨ Answers server next t upload .replaced)
  explained : ∀ before action after server next, actions = before ++ action :: after →
    run (step codec) Server.initial before = some server → step codec server action = some next →
    ∀ t upload outcome, Answers server next t upload outcome → Explains server next upload outcome
  -- What an upload goes by is the row that its select has read.
  read : ∀ before action after server next, actions = before ++ action :: after →
    run (step codec) Server.initial before = some server → step codec server action = some next →
    ∀ t upload upload', server.uploads t = some upload → next.uploads t = some upload' →
      upload'.existing = upload.existing ∨
        upload.phase = .selectForUpdate ∧ upload'.existing = server.stored upload.accountId
  decided : ∀ t upload outcome, final.uploads t = some upload →
    upload.phase = .answered (.outcome outcome) → outcome = upload.decision upload.existing
  reported : ∀ t upload version, final.uploads t = some upload →
    upload.phase = .answered (.outcome (.conflict version)) →
      ReportedVersion codec actions t upload.accountId version
  -- Every upload is in its first or its second iteration.
  iterations : ∀ t upload, final.uploads t = some upload →
    upload.attempt < 2 ∧ upload.phase ≠ .answered .exhausted

section Runs

variable {codec} {server next final : Server} {actions : List Action} {action : Action}

theorem consistent_run (ran : run (step codec) Server.initial actions = some final) :
    Consistent final :=
  run_preserves (fun _ _ _ consistent stepped => (consistent_step consistent stepped).1)
    consistent_initial ran

theorem moved_cases (stepped : step codec server action = some next) {t : TxId} {upload upload' : Upload}
    (opened : server.uploads t = some upload) (moved : next.uploads t = some upload') :
    upload' = upload ∨ upload'.phase = .answered .failed ∧ upload'.existing = upload.existing ∨
      Executed server t upload next := by
  cases step_cases codec stepped with
  | put u backend accountId bytes version unused bounds named =>
      have different : t ≠ u := by
        rintro rfl
        rw [opened] at unused
        cases unused
      left
      change Function.update server.uploads u _ t = some upload' at moved
      rw [Function.update_of_ne different, opened, Option.some.injEq] at moved
      exact moved.symm
  | statement u other next opened' executed =>
      by_cases same : t = u
      · subst same
        rw [opened, Option.some.injEq] at opened'
        subst opened'
        exact .inr (.inr executed)
      · left
        have kept : next.uploads t = server.uploads t := by
          cases executed <;> exact Function.update_of_ne same _ _
        rw [kept, opened, Option.some.injEq] at moved
        exact moved.symm
  | failed u other opened' unanswered =>
      change Function.update server.uploads u _ t = some upload' at moved
      by_cases same : t = u
      · subst same
        rw [opened, Option.some.injEq] at opened'
        subst opened'
        rw [Function.update_self, Option.some.injEq] at moved
        subst moved
        exact .inr (.inl ⟨rfl, rfl⟩)
      · rw [Function.update_of_ne same, opened, Option.some.injEq] at moved
        exact .inl moved.symm

structure SameUpload (upload upload' : Upload) : Prop where
  accountId : upload'.accountId = upload.accountId
  bytes : upload'.bytes = upload.bytes
  attemptedVersion : upload'.attemptedVersion = upload.attemptedVersion

theorem SameUpload.refl (upload : Upload) : SameUpload upload upload := ⟨rfl, rfl, rfl⟩

theorem Executed.moves {t : TxId} {upload : Upload} (executed : Executed server t upload next) :
    ∃ upload', next.uploads = Function.update server.uploads t (some upload') ∧
      SameUpload upload upload' := by
  cases executed <;> exact ⟨_, rfl, rfl, rfl, rfl⟩

theorem step_uploads (stepped : step codec server action = some next) {t : TxId} {upload : Upload}
    (opened : server.uploads t = some upload) :
    ∃ upload', next.uploads t = some upload' ∧ SameUpload upload upload' := by
  have elsewhere (u : TxId) (upload' : Upload) (uploads : next.uploads =
      Function.update server.uploads u (some upload')) (same : t = u → SameUpload upload upload') :
      ∃ upload', next.uploads t = some upload' ∧ SameUpload upload upload' := by
    rw [uploads, Function.update_apply]
    by_cases mine : t = u
    · exact ⟨upload', if_pos mine, same mine⟩
    · exact ⟨upload, (if_neg mine).trans opened, SameUpload.refl upload⟩
  cases step_cases codec stepped with
  | put u backend accountId bytes version unused bounds named =>
      refine elsewhere u _ rfl fun mine => ?_
      rw [mine, unused] at opened
      cases opened
  | statement u other next opened' executed =>
      obtain ⟨upload', uploads, same⟩ := executed.moves
      refine elsewhere u upload' uploads fun mine => ?_
      rw [mine, opened', Option.some.injEq] at opened
      exact opened ▸ same
  | failed u other opened' unanswered =>
      refine elsewhere u _ rfl fun mine => ?_
      rw [mine, opened', Option.some.injEq] at opened
      subst opened
      exact ⟨rfl, rfl, rfl⟩

theorem step_elsewhere {u : TxId} (served : action = .statement u ∨ action = .fail u)
    (stepped : step codec server action = some next) {t : TxId} (different : t ≠ u) :
    next.uploads t = server.uploads t := by
  cases step_cases codec stepped with
  | put => rcases served with contra | contra <;> cases contra
  | statement w other next opened executed =>
      rcases served with same | contra
      · cases same
        obtain ⟨upload', uploads, -⟩ := executed.moves
        rw [uploads, Function.update_of_ne different]
      · cases contra
  | failed w other opened unanswered =>
      rcases served with contra | same
      · cases contra
      · cases same
        exact Function.update_of_ne different _ _

theorem step_served {u : TxId} (served : action = .statement u ∨ action = .fail u)
    (stepped : step codec server action = some next) : ∃ upload, server.uploads u = some upload := by
  rcases served with rfl | rfl
  · obtain ⟨upload, opened, -⟩ := Option.bind_eq_some_iff.mp stepped
    exact ⟨upload, opened⟩
  · obtain ⟨upload, opened, -⟩ := Option.bind_eq_some_iff.mp stepped
    exact ⟨upload, opened⟩

theorem step_uploaded {u : TxId} (served : action = .statement u ∨ action = .fail u)
    (stepped : step codec server action = some next) {t : TxId} {upload : Upload}
    (uploaded : next.uploads t = some upload) : ∃ before, server.uploads t = some before := by
  by_cases mine : t = u
  · rw [mine]
    exact step_served served stepped
  · rw [step_elsewhere served stepped mine] at uploaded
    exact ⟨upload, uploaded⟩

theorem arrives (stepped : step codec server action = some next) {t : TxId} {upload : Upload}
    (unused : server.uploads t = none) (moved : next.uploads t = some upload) :
    upload.phase = .selectForUpdate := by
  cases step_cases codec stepped with
  | put u backend accountId bytes version free bounds named =>
      change Function.update server.uploads u _ t = some upload at moved
      rw [Function.update_apply] at moved
      split at moved
      · cases moved
        rfl
      · rw [unused] at moved
        cases moved
  | statement u other final opened executed =>
      have different : t ≠ u := by
        rintro rfl
        rw [unused] at opened
        cases opened
      have kept : next.uploads t = server.uploads t := by
        cases executed <;> exact Function.update_of_ne different _ _
      rw [kept, unused] at moved
      cases moved
  | failed u other opened unanswered =>
      change Function.update server.uploads u _ t = some upload at moved
      rw [Function.update_apply] at moved
      split at moved
      · rename_i same
        rw [same, opened] at unused
        cases unused
      · rw [unused] at moved
        cases moved

theorem compareVersion_unanswered (upload : Upload) (existing : Option BundleRow) (answer : Answer) :
    compareVersion upload existing ≠ .answered answer := by
  unfold compareVersion
  split
  · split <;> simp
  · split
    · simp
    · split <;> simp

theorem Answers.ends {t : TxId} {upload : Upload} {outcome : Outcome}
    (answers : Answers server next t upload outcome) (stepped : step codec server action = some next) :
    upload.phase = .commit outcome ∧
        next = { server with bundles := server.bundles.commit t }.resume t
          { upload with row := none, phase := .answered (.outcome outcome) } ∨
      upload.phase = .rollback outcome ∧
        next = { server with bundles := server.bundles.abort t }.resume t
          { upload with row := none, phase := .answered (.outcome outcome) } := by
  obtain ⟨upload', moved, answered⟩ := answers.answered
  rcases moved_cases stepped answers.opened moved with rfl | ⟨failed, -⟩ | executed
  · exact absurd answered (answers.unanswered _)
  · rw [failed] at answered
    cases answered
  · cases executed with
    | absent | locked =>
        rw [Server.resume_opened, Option.some.injEq] at moved
        rw [← moved] at answered
        dsimp only at answered
        exact absurd answered (compareVersion_unanswered _ _ _)
    | exhausted | inserted | lostRace | updatedNothing | updated | retried =>
        rw [Server.resume_opened, Option.some.injEq] at moved
        rw [← moved] at answered
        cases answered
    | committed outcome' phase =>
        rw [Server.resume_opened, Option.some.injEq] at moved
        rw [← moved] at answered
        cases answered
        exact .inl ⟨phase, rfl⟩
    | rolledBack outcome' phase =>
        rw [Server.resume_opened, Option.some.injEq] at moved
        rw [← moved] at answered
        cases answered
        exact .inr ⟨phase, rfl⟩

theorem decision_created {upload : Upload} {existing : Option BundleRow}
    (created : upload.decision existing = .created) :
    existing = none ∧ upload.attemptedVersion = 1 := by
  cases existing with
  | none =>
      simp only [Upload.decision] at created
      split at created
      · exact ⟨rfl, ‹_›⟩
      · cases created
  | some row =>
      simp only [Upload.decision] at created
      split at created
      · cases created
      · split at created <;> cases created

theorem decision_replaced {upload : Upload} {existing : Option BundleRow}
    (replaced : upload.decision existing = .replaced) :
    ∃ row, existing = some row ∧ upload.attemptedVersion = row.version + 1 := by
  cases existing with
  | none =>
      simp only [Upload.decision] at replaced
      split at replaced <;> cases replaced
  | some row =>
      simp only [Upload.decision] at replaced
      split at replaced
      · cases replaced
      · split at replaced
        · exact ⟨row, rfl, ‹_›⟩
        · cases replaced

theorem decision_idempotent {upload : Upload} {existing : Option BundleRow}
    (idempotent : upload.decision existing = .idempotent) : existing = some upload.uploadedRow := by
  cases existing with
  | none =>
      simp only [Upload.decision] at idempotent
      split at idempotent <;> cases idempotent
  | some row =>
      simp only [Upload.decision] at idempotent
      split at idempotent
      · rename_i same
        rw [same]
      · split at idempotent <;> cases idempotent

theorem Answers.explains {t : TxId} {upload : Upload} {outcome : Outcome}
    (answers : Answers server next t upload outcome) (consistent : Consistent server)
    (stepped : step codec server action = some next) : Explains server next upload outcome := by
  have stage := consistent.stage t upload answers.opened
  unfold Stage at stage
  rcases answers.ends stepped with ⟨phase, rfl⟩ | ⟨phase, rfl⟩
  · -- The upload has written its row over the one that it had read, and locked since.
    have stored := consistent.commit_stored answers.opened phase
    rw [phase] at stage
    obtain ⟨-, -, before, decision, isWrite⟩ := stage
    rcases isWrite with rfl | rfl
    · obtain ⟨missing, first⟩ := decision_created decision
      exact ⟨first, before.trans missing, stored⟩
    · obtain ⟨row, found, follows⟩ := decision_replaced decision
      exact ⟨⟨row, before.trans found, follows⟩, stored⟩
  · have stored := abort_stored server t
    rw [phase] at stage
    obtain ⟨-, -, before, decision, notCreated, notReplaced⟩ := stage
    cases outcome with
    | created => exact absurd rfl notCreated
    | replaced => exact absurd rfl notReplaced
    | idempotent =>
        have same := decision_idempotent decision
        exact ⟨(before (by rw [same]; rfl)).trans same, stored⟩
    | conflict version => exact stored

theorem Consistent.changed {accountId : Id} (consistent : Consistent server)
    (stepped : step codec server action = some next)
    (changed : next.stored accountId ≠ server.stored accountId) :
    ∃ t upload, upload.accountId = accountId ∧
      (Answers server next t upload .created ∨ Answers server next t upload .replaced) := by
  obtain ⟨-, published⟩ := consistent_step consistent stepped
  cases published with
  | nothing _ stored => exact absurd (congrFun stored accountId) changed
  | written t upload outcome opened phase stored =>
      have mine : upload.accountId = accountId := by
        by_contra other
        rw [stored, Function.update_of_ne (Ne.symm other)] at changed
        exact changed rfl
      have answers : Answers server next t upload outcome := by
        refine ⟨opened, by simp [Upload.Open, phase], ?_⟩
        simp only [step, opened, Option.bind_some, Account.statement, phase, Option.some.injEq] at stepped
        subst stepped
        exact ⟨_, Server.resume_opened _ _ _, rfl⟩
      have stage := consistent.stage t upload opened
      unfold Stage at stage
      rw [phase] at stage
      obtain ⟨-, -, -, -, rfl | rfl⟩ := stage
      · exact ⟨t, upload, mine, .inl answers⟩
      · exact ⟨t, upload, mine, .inr answers⟩

theorem Consistent.stored_step (consistent : Consistent server)
    (stepped : step codec server action = some next) (accountId : Id) :
    next.stored accountId = server.stored accountId ∨
      ∃ row', next.stored accountId = some row' ∧
        ∀ row, server.stored accountId = some row → row'.version = row.version + 1 := by
  by_cases same : next.stored accountId = server.stored accountId
  · exact .inl same
  · obtain ⟨t, upload, rfl, answers⟩ := consistent.changed stepped same
    right
    rcases answers with created | replaced
    · obtain ⟨-, missing, stored⟩ := created.explains consistent stepped
      refine ⟨upload.uploadedRow, by rw [stored, Function.update_self], fun row found => ?_⟩
      rw [missing] at found
      cases found
    · obtain ⟨⟨row, found, follows⟩, stored⟩ := replaced.explains consistent stepped
      refine ⟨upload.uploadedRow, by rw [stored, Function.update_self], fun other found' => ?_⟩
      rw [found, Option.some.injEq] at found'
      rw [← found']
      exact follows

theorem existing_step (stepped : step codec server action = some next) {t : TxId}
    {upload upload' : Upload} (opened : server.uploads t = some upload)
    (moved : next.uploads t = some upload') :
    upload'.existing = upload.existing ∨
      upload.phase = .selectForUpdate ∧ upload'.existing = server.stored upload.accountId := by
  rcases moved_cases stepped opened moved with rfl | ⟨-, same⟩ | executed
  · exact .inl rfl
  · exact .inl same
  · cases executed with
    | absent phase missing =>
        rw [Server.resume_opened, Option.some.injEq] at moved
        rw [← moved, missing]
        exact .inr ⟨phase, rfl⟩
    | locked row phase found =>
        rw [Server.resume_opened, Option.some.injEq] at moved
        rw [← moved, found]
        exact .inr ⟨phase, rfl⟩
    | exhausted | inserted | lostRace | updatedNothing | updated | committed | rolledBack | retried =>
        rw [Server.resume_opened, Option.some.injEq] at moved
        rw [← moved]
        exact .inl rfl

theorem compareVersion_conflict {upload : Upload} {existing : Option BundleRow} {version : Option Int}
    (conflict : compareVersion upload existing = .rollback (.conflict version)) :
    existing.map BundleRow.version = version := by
  unfold compareVersion at conflict
  split at conflict
  · split at conflict <;> cases conflict
    rfl
  · split at conflict
    · split at conflict <;> cases conflict
      rfl
    · split at conflict <;> cases conflict
      rfl

theorem ReportedVersion.later {t : TxId} {accountId : Id} {version : Option Int}
    (reported : ReportedVersion codec actions t accountId version) (action : Action) :
    ReportedVersion codec (actions ++ [action]) t accountId version := by
  obtain ⟨before, after, server, upload, split, rest⟩ := reported
  exact ⟨before, after ++ [action], server, upload, by rw [split, List.append_assoc], rest⟩

theorem reported_run (ran : run (step codec) Server.initial actions = some final) :
    ∀ t upload version, final.uploads t = some upload →
      upload.phase = .rollback (.conflict version) ∨
        upload.phase = .answered (.outcome (.conflict version)) →
      ReportedVersion codec actions t upload.accountId version := by
  induction actions using List.reverseRecOn generalizing final with
  | nil =>
      intro t upload version opened
      cases ran
      cases opened
  | append_singleton actions action ih =>
      rw [run_append, Option.bind_eq_some_iff] at ran
      obtain ⟨server, before, stepped⟩ := ran
      rw [run_cons, Option.bind_eq_some_iff] at stepped
      obtain ⟨next, stepped, last⟩ := stepped
      cases last
      intro t upload' version moved conflict
      cases opened : server.uploads t with
      | none =>
          simp [arrives stepped opened moved] at conflict
      | some upload =>
          rcases moved_cases stepped opened moved with rfl | ⟨failed, -⟩ | executed
          · exact (ih before t upload' version opened conflict).later action
          · simp [failed] at conflict
          · have now (phase : upload.phase = .selectForUpdate) (existing : Option BundleRow)
                (stored : server.stored upload.accountId = existing)
                (compared : compareVersion upload existing = .rollback (.conflict version)) :
                ReportedVersion codec (actions ++ [action]) t upload.accountId version := by
              refine ⟨actions, [action], server, upload, rfl, before, opened, ?_, ?_⟩
              · simp [Upload.Open, phase]
              · rw [stored]
                exact compareVersion_conflict compared
            cases executed with
            | absent phase missing =>
                rw [Server.resume_opened, Option.some.injEq] at moved
                subst moved
                dsimp only at conflict
                have compared := conflict.resolve_right (compareVersion_unanswered _ _ _)
                exact now phase none missing compared
            | locked row phase found =>
                rw [Server.resume_opened, Option.some.injEq] at moved
                subst moved
                dsimp only at conflict
                have compared := conflict.resolve_right (compareVersion_unanswered _ _ _)
                exact now phase (some row) found compared
            | exhausted | inserted | lostRace | updatedNothing | updated | retried =>
                rw [Server.resume_opened, Option.some.injEq] at moved
                subst moved
                simp at conflict
            | committed outcome phase =>
                rw [Server.resume_opened, Option.some.injEq] at moved
                subst moved
                have stage := (consistent_run before).stage t upload opened
                unfold Stage at stage
                rw [phase] at stage
                obtain ⟨-, -, -, -, rfl | rfl⟩ := stage <;> simp at conflict
            | rolledBack outcome phase =>
                rw [Server.resume_opened, Option.some.injEq] at moved
                subst moved
                have same : outcome = .conflict version := by simpa using conflict
                subst same
                exact (ih before t upload version opened (.inl phase)).later action

end Runs

/-- Whatever the interleaving of the uploads, of any accounts and through both backends. -/
theorem key_bundle_compare_and_swap (actions : List Action) (final : Server)
    (ran : run (step codec) Server.initial actions = some final) :
    CompareAndSwap codec actions final where
  written := by
    intro before action after server next split there stepped accountId changed
    exact (consistent_run there).changed stepped changed
  explained := by
    intro before action after server next split there stepped t upload outcome answers
    exact answers.explains (consistent_run there) stepped
  read := by
    intro before action after server next split there stepped t upload upload' opened moved
    exact existing_step stepped opened moved
  decided := by
    intro t upload outcome opened answered
    have stage := (consistent_run ran).stage t upload opened
    unfold Stage at stage
    rw [answered] at stage
    exact stage.2.2.symm
  reported := by
    intro t upload version opened answered
    exact reported_run ran t upload version opened (.inr answered)
  iterations := by
    intro t upload opened
    have stage := (consistent_run ran).stage t upload opened
    refine ⟨Nat.lt_succ_of_le stage.1, fun exhausted => ?_⟩
    unfold Stage at stage
    rw [exhausted] at stage
    exact stage.2

section Samples

def firstUploads : List Action :=
  [.put 0 .node "account" [1] 1, .put 1 .rust "account" [2] 1, .statement 0, .statement 1,
    .statement 0, .statement 0, .statement 1, .statement 1, .statement 1, .statement 1,
    .put 2 .node "account" [2] 2, .statement 2, .statement 2, .statement 2]

def anyBundle : BundleCodec := fun _ _ => some "account"

theorem key_bundle_compare_and_swap_firstUploads :
    ∃ final, run (step anyBundle) Server.initial firstUploads = some final ∧
      final.stored "account" = some ⟨[2], 2⟩ ∧
      ((final.uploads 1).map Upload.phase = some (.answered (.outcome (.conflict (some 1))))) ∧
      CompareAndSwap anyBundle firstUploads final := by
  have ran : run (step anyBundle) Server.initial firstUploads = some _ :=
    run_reached (by decide +kernel)
  refine ⟨_, ran, by decide +kernel, by decide +kernel, ?_⟩
  exact key_bundle_compare_and_swap anyBundle firstUploads _ ran

end Samples

end ZenPass.Account
