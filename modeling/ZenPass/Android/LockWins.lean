import ZenPass.Android.VaultManager
import ZenPass.Lib.Overtaken

set_option autoImplicit false

namespace ZenPass.Android

open Client KeyedStore Sdk Transition

namespace Stage

def keySession : Stage → Option Nat
  | .disposing (.clearing held) _ | .disposing (.forgetting held) _ => held.map UnlockedState.session
  | .disposing (.closing held) _ => some held.session
  | .unlocking _ (.loading _ _ keySession _ _) => some keySession
  | .unlocking _ (.installing _ _ keySession _) => some keySession
  | _ => none

def opened : Stage → Bool
  | .unlocking _ (.loading _ _ _ _ _) | .unlocking _ (.installing _ _ _ _) => true
  | _ => false

def opens : Stage → Answer → Bool
  | .unlocking _ (.openingSession _ _), .opened => true
  | _, _ => false

def isClearing : Stage → Bool
  | .disposing (.clearing _) _ => true
  | _ => false

def unlocks : Stage → Bool
  | .unlocking _ _ | .disposing _ (.unlock _ _) | .disposing _ (.returns (.unlocked _)) => true
  | _ => false

def disposes : Stage → Bool
  | .disposing _ _ => true
  | _ => false

end Stage

def Progress.stage : Progress → Option Stage
  | .goesOn stage => some stage
  | .returns _ => none

def UnlockStage.fails : UnlockStage → Answer → Bool
  | .installing _ _ _ _, _ | .stamping, _ => false
  | _, .failed => true
  | .loading _ _ _ _ (some _), .notFound => true
  | _, _ => false

namespace VaultManager

structure LockedDown (vault : VaultManager) : Prop where
  locked : vault.isUnlocked = false
  closed : vault.openSessions = []

def unlocks (confirmApiOrigin : String → Option String)
    (sealPayload : SealRequest → Option Wire.Bytes) : Overtakable VaultManager Action where
  step := VaultManager.step confirmApiOrigin sealPayload
  initial := {}
  inFlight vault := ∃ t stage, vault.tasks t = some stage ∧ stage.unlocks = true
  ended vault :=
    ∀ t stage, vault.tasks t = some stage → stage.unlocks = false ∧ stage.disposes = false
  overtakes _ action _ :=
    match action with
    | .call _ .lock => True
    | _ => False
  requests
    | .call _ (.unlock _ _) => True
    | _ => False

/-- No unlock fails once it has opened its item session, none replaces a state that is installed,
and no dispose overwrites a state that neither it nor another one has read. -/
def keepsSessions (vault : VaultManager) : Action → Prop
  | .resume t _ answer =>
      ∀ stage ∈ vault.tasks t,
        match stage with
        | .unlocking _ (.installing _ _ _ _) => vault.state = none
        | .unlocking _ stage =>
            match stage with
            | .loading _ _ _ _ _ => stage.fails answer = false
            | _ => True
        | .disposing (.clearing held) _ =>
            ∀ state ∈ vault.state, held = some state ∨
              ∃ other after, other ≠ t ∧
                vault.tasks other = some (.disposing (.clearing (some state)) after)
        | _ => True
  | _ => True

def overtakesAll (vault : VaultManager) (_ : Action) : Prop :=
  ∀ t stage, vault.tasks t = some stage → stage.opened = false

def opensNothing (vault : VaultManager) : Action → Prop
  | .resume t _ answer => ∀ stage ∈ vault.tasks t, stage.opens answer = false
  | _ => True

inductive Move (vault : VaultManager) (t : Nat) (old : Option Stage) (answer : Answer) :
    VaultManager → Prop where
  | goesOn (next : VaultManager) (new : Option Stage) (state : next.state = vault.state)
      (openSessions : next.openSessions = vault.openSessions)
      (tasks : next.tasks = Function.update vault.tasks t new)
      (holds : ∀ session, old.bind Stage.keySession = some session →
        new.bind Stage.keySession = some session)
      (unopened : old.any Stage.opened = false → new.any Stage.opened = false)
      (other : old.any Stage.isClearing = false) : Move vault t old answer next
  | clears (held : Option UnlockedState) (after : AfterDispose)
      (is : old = some (.disposing (.clearing held) after)) :
      Move vault t old answer
        ({ vault with state := none }.proceed t (.goesOn (.disposing (.forgetting held) after)))
  | closes (held : UnlockedState) (after : AfterDispose)
      (is : old = some (.disposing (.closing held) after)) :
      Move vault t old answer
        ({ vault with
          openSessions := vault.openSessions.filter fun session => session ≠ held.session }.proceed
          t (.goesOn (.disposing (.clearingToken held) after)))
  | opens (accountId : String) (session : ApiSession) (bundle : AccountBundle)
      (is : old = some (.unlocking accountId (.openingSession session bundle)))
      (opened : answer = .opened) :
      Move vault t old answer
        ({ vault with
          sessions := vault.sessions + 1
          openSessions := (vault.sessions + 1) :: vault.openSessions }.proceed t
          (.goesOn
            (.unlocking accountId (.loading session bundle (vault.sessions + 1) .empty none))))
  | installs (accountId : String) (session : ApiSession) (bundle : AccountBundle)
      (keySession : Nat) (items : InsertionMap Id ItemEntry)
      (is : old = some (.unlocking accountId (.installing session bundle keySession items))) :
      Move vault t old answer
        ((vault.install session bundle keySession items).proceed t
          (.goesOn (.unlocking accountId .stamping)))
  | fails (accountId : String) (stage : UnlockStage)
      (is : old = some (.unlocking accountId stage)) (fails : stage.fails answer = true) :
      Move vault t old answer
        (vault.proceed t (.goesOn (.disposing .reading (.returns (.unlocked false)))))

def threadOf : Action → Nat
  | .call t _ | .resume t _ _ => t

section Moves

variable {vault next : VaultManager} {t now : Nat} {answer : Answer}

def Progress.unopened : Progress → Bool
  | .goesOn stage => !stage.opened
  | .returns _ => true

theorem Move.quiet {old : Option Stage} {changed : VaultManager} {progress : Progress}
    (state : changed.state = vault.state) (openSessions : changed.openSessions = vault.openSessions)
    (tasks : changed.tasks = vault.tasks) (holdsNone : old.bind Stage.keySession = none)
    (other : old.any Stage.isClearing = false) (unopened : Progress.unopened progress = true) :
    Move vault t old answer (changed.proceed t progress) := by
  have holds (new : Option Stage) (session : Nat) (held : old.bind Stage.keySession = some session) :
      new.bind Stage.keySession = some session := by
    rw [holdsNone] at held
    cases held
  cases progress with
  | returns result =>
      exact .goesOn _ none state openSessions (by rw [← tasks]; rfl) (holds _)
        (fun _ => rfl) other
  | goesOn stage =>
      refine .goesOn _ (some stage) state openSessions
        (by rw [← tasks]; rfl) (holds _) (fun _ => ?_) other
      simpa [Progress.unopened] using unopened

theorem Move.tasks_of_ne {old : Option Stage} {other : Nat}
    (move : Move vault t old answer next) (different : other ≠ t) :
    next.tasks other = vault.tasks other := by
  cases move with
  | goesOn _ _ _ _ tasks => rw [tasks, Function.update_of_ne different]
  | _ => exact Function.update_of_ne different _ _

theorem unopened_checkedFresh (purpose : FreshPurpose) (ok : Bool) :
    Progress.unopened (checkedFresh purpose ok) = true := by
  cases purpose <;> cases ok <;> rfl

theorem unopened_afterDispose (confirmApiOrigin : String → Option String) (after : AfterDispose) :
    Progress.unopened (afterDispose confirmApiOrigin after) = true := by
  cases after with
  | returns => rfl
  | unlock accountId apiOrigin =>
      unfold afterDispose
      dsimp only
      split <;> rfl

theorem call_move (call : Call) : Move vault t none answer (vault.proceed t (vault.call call)) := by
  refine .quiet rfl rfl rfl rfl rfl ?_
  cases call with
  | unlock => rfl
  | lock => rfl
  | logout =>
      unfold VaultManager.call
      cases vault.state <;> rfl
  | checkFresh =>
      unfold VaultManager.call
      cases vault.state <;> rfl
  | getTotp =>
      unfold VaultManager.call
      cases vault.state <;> rfl
  | saveItem input =>
      unfold VaultManager.call
      cases vault.state with
      | none => rfl
      | some owner =>
          dsimp only
          split <;> rfl

theorem resumeDispose_move (confirmApiOrigin : String → Option String) (after : AfterDispose)
    (stage : DisposeStage) :
    Move vault t (some (.disposing stage after)) answer
      (vault.resumeDispose confirmApiOrigin t after stage) := by
  unfold resumeDispose
  cases stage with
  | reading => exact .quiet rfl rfl rfl rfl rfl rfl
  | clearing held => exact .clears held after rfl
  | forgetting held =>
      cases held with
      | none => exact .quiet rfl rfl rfl rfl rfl (unopened_afterDispose _ _)
      | some held =>
          exact .goesOn _ (some _) rfl rfl rfl (fun _ holds => holds) (fun _ => rfl) rfl
  | closing held => exact .closes held after rfl
  | clearingToken held => exact .quiet rfl rfl rfl rfl rfl (unopened_afterDispose _ _)

theorem resumeUnlock_move {accountId : String} {stage : UnlockStage}
    (resumed : vault.resumeUnlock t now accountId stage answer = some next) :
    Move vault t (some (.unlocking accountId stage)) answer next := by
  unfold resumeUnlock at resumed
  split at resumed <;> cases resumed
  · exact .installs _ _ _ _ _ rfl
  · exact .quiet rfl rfl rfl rfl rfl rfl
  · exact .fails _ _ rfl rfl
  · rename_i installing stamping
    refine .fails _ _ rfl ?_
    unfold UnlockStage.fails
    split
    · exact absurd rfl (installing _ _ _ _)
    · exact absurd rfl stamping
    · rfl
    · rfl
    · rename_i failed _
      exact absurd rfl failed
  · exact .quiet rfl rfl rfl rfl rfl rfl
  · exact .quiet rfl rfl rfl rfl rfl rfl
  · exact .quiet rfl rfl rfl rfl rfl rfl
  · exact .quiet rfl rfl rfl rfl rfl rfl
  · exact .quiet rfl rfl rfl rfl rfl rfl
  · exact .quiet rfl rfl rfl rfl rfl rfl
  · refine .quiet rfl rfl rfl rfl rfl ?_
    split <;> rfl
  · exact .quiet rfl rfl rfl rfl rfl rfl
  · exact .opens _ _ _ rfl rfl
  · exact .goesOn _ (some _) rfl rfl rfl (fun _ holds => holds) (fun opened => opened) rfl
  · split
    · exact .goesOn _ (some _) rfl rfl rfl (fun _ holds => holds) (fun opened => opened) rfl
    · exact .goesOn _ (some _) rfl rfl rfl (fun _ holds => holds) (fun opened => opened) rfl

theorem resumeLogout_move {owner : UnlockedState}
    (resumed : vault.resumeLogout t owner answer = some next) :
    Move vault t (some (.loggingOut owner)) answer next := by
  unfold resumeLogout at resumed
  split at resumed <;> cases resumed <;> exact .quiet rfl rfl rfl rfl rfl rfl

theorem resumeFresh_move {owner : UnlockedState} {purpose : FreshPurpose} {stage : FreshStage}
    (resumed : vault.resumeFresh t now owner purpose stage answer = some next) :
    Move vault t (some (.fresh owner purpose stage)) answer next := by
  have checked := unopened_checkedFresh purpose
  unfold resumeFresh at resumed
  split at resumed <;> cases resumed <;> refine .quiet rfl rfl rfl rfl rfl ?_
  all_goals first
    | rfl
    | exact checked _
    | (split
       · first | rfl | exact checked _
       · first | rfl | exact checked _)

theorem resumeTotp_move {owner : UnlockedState} {itemId : Id} {stage : TotpStage}
    (resumed : vault.resumeTotp t now owner itemId stage answer = some next) :
    Move vault t (some (.totp owner itemId stage)) answer next := by
  unfold resumeTotp at resumed
  split at resumed <;> cases resumed <;> refine .quiet rfl rfl rfl rfl rfl ?_
  · split <;> rfl
  · split
    · rfl
    · split <;> rfl
  · rfl

theorem resumeSave_move {sealPayload : SealRequest → Option Wire.Bytes} {owner : UnlockedState}
    {input : SaveItemInput} {stage : SaveStage}
    (resumed : vault.resumeSave sealPayload t owner input stage answer = some next) :
    Move vault t (some (.saving owner input stage)) answer next := by
  unfold resumeSave at resumed
  split at resumed
  case h_4 =>
    split at resumed <;> cases resumed <;> exact .quiet rfl rfl rfl rfl rfl rfl
  all_goals
    cases resumed
    try
      refine .quiet rfl rfl rfl rfl rfl ?_
      repeat' split
      all_goals rfl

theorem resume_move {confirmApiOrigin : String → Option String}
    {sealPayload : SealRequest → Option Wire.Bytes} {stage : Stage}
    (resumed : vault.resume confirmApiOrigin sealPayload t now stage answer = some next) :
    Move vault t (some stage) answer next := by
  unfold resume at resumed
  split at resumed
  · cases resumed
    exact resumeDispose_move _ _ _
  · cases resumed
  · exact resumeUnlock_move resumed
  · exact resumeLogout_move resumed
  · cases resumed
    refine .quiet rfl rfl rfl rfl rfl ?_
    split
    · exact unopened_checkedFresh _ _
    · rfl
  · cases resumed
  · exact resumeFresh_move resumed
  · exact resumeTotp_move resumed
  · exact resumeSave_move resumed

end Moves

def SessionsHeld (vault : VaultManager) : Prop :=
  ∀ session ∈ vault.openSessions,
    (∃ state, vault.state = some state ∧ state.session = session) ∨
      ∃ t stage, vault.tasks t = some stage ∧ stage.keySession = some session

/-- What is left of an unlocked state will be cleared, and no unlock can install another one. -/
structure IsDown (vault : VaultManager) : Prop where
  cleared : ∀ state, vault.state = some state →
    ∃ t after, vault.tasks t = some (.disposing (.clearing (some state)) after)
  unopened : ∀ t stage, vault.tasks t = some stage → stage.opened = false

section Invariants

variable {vault next : VaultManager} {t now : Nat} {answer : Answer}

theorem sessionsHeld_initial : SessionsHeld {} := by
  intro session live
  cases live

theorem SessionsHeld.retask (held : vault.SessionsHeld) (t : Nat) (next : VaultManager)
    (new : Option Stage) (state : next.state = vault.state) (tasks : next.tasks = Function.update vault.tasks t new)
    (holds : ∀ session, (vault.tasks t).bind Stage.keySession = some session →
      new.bind Stage.keySession = some session)
    {session : Nat} (live : session ∈ vault.openSessions) :
    (∃ state, next.state = some state ∧ state.session = session) ∨
      ∃ t stage, next.tasks t = some stage ∧ stage.keySession = some session := by
  rw [state, tasks]
  obtain installed | ⟨other, stage, there, mine⟩ := held session live
  · exact .inl installed
  · refine .inr ?_
    by_cases same : other = t
    · subst same
      obtain ⟨found, rfl, kept⟩ := Option.bind_eq_some_iff.mp
        (holds session (by rw [there, Option.bind_some, mine]))
      exact ⟨other, found, Function.update_self _ _ _, kept⟩
    · exact ⟨other, stage, by rwa [Function.update_of_ne same], mine⟩

theorem SessionsHeld.move (held : vault.SessionsHeld)
    (keeps : vault.keepsSessions (.resume t now answer))
    (move : Move vault t (vault.tasks t) answer next) : next.SessionsHeld := by
  intro session live
  cases move with
  | goesOn next new state openSessions tasks holds =>
      rw [openSessions] at live
      exact held.retask t next new state tasks holds live
  | clears captured after is =>
      -- Who has read the state that is overwritten still has its session to close.
      obtain ⟨state, there, mine⟩ | ⟨other, stage, there, mine⟩ := held session live
      · refine .inr ?_
        obtain rfl | ⟨other, otherAfter, different, reading⟩ := keeps _ is state there
        · exact ⟨t, .disposing (.forgetting (some state)) after, Function.update_self _ _ _,
            congrArg some mine⟩
        · refine ⟨other, .disposing (.clearing (some state)) otherAfter, ?_, congrArg some mine⟩
          exact (Function.update_of_ne different _ _).trans reading
      · refine .inr ?_
        by_cases same : other = t
        · subst same
          rw [is, Option.some.injEq] at there
          subst there
          exact ⟨other, _, Function.update_self _ _ _, mine⟩
        · exact ⟨other, stage, (Function.update_of_ne same _ _).trans there, mine⟩
  | closes captured after is =>
      rw [proceed, List.mem_filter, decide_eq_true_eq] at live
      obtain installed | ⟨other, stage, there, mine⟩ := held session live.1
      · exact .inl installed
      · refine .inr ⟨other, stage, ?_, mine⟩
        by_cases same : other = t
        · subst same
          rw [is, Option.some.injEq] at there
          subst there
          exact absurd (Option.some.inj mine).symm live.2
        · exact (Function.update_of_ne same _ _).trans there
  | opens accountId apiSession bundle is =>
      rw [proceed, List.mem_cons] at live
      obtain rfl | live := live
      · exact .inr ⟨t, _, Function.update_self _ _ _, rfl⟩
      · refine held.retask t _ (some (.unlocking accountId
          (.loading apiSession bundle (vault.sessions + 1) .empty none))) ?_ ?_
          (fun session holds => ?_) live
        · rfl
        · rfl
        · rw [is] at holds
          cases holds
  | installs accountId apiSession bundle keySession items is =>
      obtain ⟨state, there, -⟩ | ⟨other, stage, there, mine⟩ := held session live
      · have empty := keeps _ is
        rw [empty] at there
        cases there
      · by_cases same : other = t
        · subst same
          rw [is, Option.some.injEq] at there
          subst there
          exact .inl ⟨_, rfl, Option.some.inj mine⟩
        · exact .inr ⟨other, stage, (Function.update_of_ne same _ _).trans there, mine⟩
  | fails accountId stage is fails =>
      refine held.retask t _ (some (.disposing .reading (.returns (.unlocked false)))) ?_ ?_
        (fun session holds => ?_) live
      · rfl
      · rfl
      · have kept := keeps _ is
        rw [is] at holds
        cases stage with
        | loading =>
            rw [kept] at fails
            cases fails
        | installing => cases fails
        | _ => cases holds

theorem IsDown.move (down : vault.IsDown) (opens : vault.opensNothing (.resume t now answer))
    (move : Move vault t (vault.tasks t) answer next) : next.IsDown := by
  have closed : (vault.tasks t).any Stage.opened = false := by
    cases there : vault.tasks t with
    | none => rfl
    | some stage => exact down.unopened t stage there
  have unopened {new : Option Stage} (newClosed : new.any Stage.opened = false) :
      ∀ other stage, Function.update vault.tasks t new other = some stage →
        stage.opened = false := by
    intro other stage there
    by_cases same : other = t
    · subst same
      rw [Function.update_self] at there
      rwa [there] at newClosed
    · rw [Function.update_of_ne same] at there
      exact down.unopened other stage there
  have cleared {new : Option Stage} (other : (vault.tasks t).any Stage.isClearing = false) :
      ∀ state, vault.state = some state → ∃ task after,
        Function.update vault.tasks t new task =
          some (.disposing (.clearing (some state)) after) := by
    intro state held
    obtain ⟨task, after, there⟩ := down.cleared state held
    refine ⟨task, after, ?_⟩
    have different : task ≠ t := by
      rintro rfl
      rw [there] at other
      cases other
    rw [Function.update_of_ne different, there]
  cases move with
  | goesOn next new state openSessions tasks holds new_ other =>
      refine ⟨?_, ?_⟩
      · rw [state, tasks]
        exact cleared other
      · rw [tasks]
        exact unopened (new_ closed)
  | clears captured after is => exact ⟨nofun, unopened rfl⟩
  | closes captured after is => exact ⟨cleared (by rw [is]; rfl), unopened rfl⟩
  | opens accountId session bundle is opened =>
      subst opened
      have nothing := opens _ is
      cases nothing
  | installs accountId session bundle keySession items is =>
      rw [is] at closed
      cases closed
  | fails accountId stage is => exact ⟨cleared (by rw [is]; rfl), unopened rfl⟩

section Steps

variable {confirmApiOrigin : String → Option String}
  {sealPayload : SealRequest → Option Wire.Bytes} {action : Action}

theorem step_move
    (stepped : vault.step confirmApiOrigin sealPayload action = some next) :
    ∃ now answer, Move vault (threadOf action) (vault.tasks (threadOf action)) answer next ∧
      (vault.keepsSessions action → vault.keepsSessions (.resume (threadOf action) now answer)) ∧
      (vault.opensNothing action → vault.opensNothing (.resume (threadOf action) now answer)) := by
  cases action with
  | call t call =>
      simp only [step] at stepped
      split at stepped <;> cases stepped
      rename_i fresh
      have idle {stage : Stage} (there : vault.tasks t = some stage) : False := by
        rw [fresh] at there
        cases there
      refine ⟨0, .done, ?_, fun _ stage there => (idle there).elim,
        fun _ stage there => (idle there).elim⟩
      rw [threadOf, fresh]
      exact call_move call
  | resume t now answer =>
      simp only [step, Option.bind_eq_some_iff] at stepped
      obtain ⟨stage, there, resumed⟩ := stepped
      refine ⟨now, answer, ?_, id, id⟩
      rw [threadOf, there]
      exact resume_move resumed

theorem step_tasks (stepped : vault.step confirmApiOrigin sealPayload action = some next)
    {other : Nat} (different : threadOf action ≠ other) :
    next.tasks other = vault.tasks other := by
  obtain ⟨now, answer, move, -⟩ := step_move stepped
  exact move.tasks_of_ne different.symm

theorem started_of_task {actions : List Action} {t : Nat} {stage : Stage}
    (ran : run (VaultManager.step confirmApiOrigin sealPayload) {} actions = some next)
    (there : next.tasks t = some stage) : ∃ action ∈ actions, threadOf action = t := by
  by_contra none
  have kept {start : VaultManager} {rest : List Action} (idle : ∀ action ∈ rest, threadOf action ≠ t)
      (ran : run (VaultManager.step confirmApiOrigin sealPayload) start rest = some next) :
      next.tasks t = start.tasks t := by
    induction rest generalizing start with
    | nil =>
        cases ran
        rfl
    | cons action rest ih =>
        rw [run_cons, Option.bind_eq_some_iff] at ran
        obtain ⟨middle, stepped, ran⟩ := ran
        rw [ih (fun later among => idle later (List.mem_cons_of_mem _ among)) ran]
        exact step_tasks stepped (idle action List.mem_cons_self)
  have untouched := kept (fun action among mine => none ⟨action, among, mine⟩) ran
  rw [there] at untouched
  cases untouched

theorem SessionsHeld.step (held : vault.SessionsHeld) (keeps : vault.keepsSessions action)
    (stepped : vault.step confirmApiOrigin sealPayload action = some next) :
    next.SessionsHeld := by
  obtain ⟨now, answer, move, keeping, -⟩ := step_move stepped
  exact held.move (keeping keeps) move

theorem IsDown.step (down : vault.IsDown) (opens : vault.opensNothing action)
    (stepped : vault.step confirmApiOrigin sealPayload action = some next) : next.IsDown := by
  obtain ⟨now, answer, move, -, opening⟩ := step_move stepped
  exact down.move (opening opens) move

theorem isDown_lock (unopened : ∀ t stage, vault.tasks t = some stage → stage.opened = false)
    {t : Nat} (stepped : vault.step confirmApiOrigin sealPayload (.call t .lock) = some next) :
    next.IsDown := by
  simp only [VaultManager.step] at stepped
  split at stepped <;> cases stepped
  refine ⟨fun state held => ⟨t, .returns .locked, ?_⟩, fun other stage there => ?_⟩
  · have read : vault.state = some state := held
    refine (Function.update_self _ _ _).trans ?_
    rw [read]
  · by_cases same : other = t
    · subst same
      change Function.update vault.tasks other (some _) other = some stage at there
      rw [Function.update_self, Option.some.injEq] at there
      subst there
      rfl
    · change Function.update vault.tasks t (some _) other = some stage at there
      rw [Function.update_of_ne same] at there
      exact unopened other stage there

end Steps

end Invariants

/-- Where a lock finds no item session that is not installed and no unlock opens one after it, the
lock wins. -/
theorem lockedDown_of_meets {confirmApiOrigin : String → Option String}
    {sealPayload : SealRequest → Option Wire.Bytes}
    (overtaken : OvertakenRun (unlocks confirmApiOrigin sealPayload))
    (met : overtaken.Meets keepsSessions overtakesAll opensNothing) :
    overtaken.final.LockedDown := by
  obtain ⟨held, down⟩ := overtaken.settled SessionsHeld IsDown met sessionsHeld_initial
    (fun _ _ _ held keeps stepped => held.step keeps stepped)
    (fun vault action next _ overtakes unopened stepped => by
      cases action with
      | call t call =>
          cases call with
          | lock =>
              have locks : vault.step confirmApiOrigin sealPayload (.call t .lock) = some next := stepped
              exact isDown_lock unopened locks
          | _ => exact absurd overtakes id
      | resume => exact absurd overtakes id)
    (fun _ _ _ down opens stepped => down.step opens stepped)
  have empty : overtaken.final.state = none := by
    by_contra installed
    obtain ⟨state, there⟩ := Option.ne_none_iff_exists'.mp installed
    obtain ⟨t, after, clearing⟩ := down.cleared state there
    have ended := (overtaken.ended t _ clearing).2
    cases ended
  refine ⟨?_, List.eq_nil_iff_forall_not_mem.mpr fun session live => ?_⟩
  · rw [isUnlocked, empty]
    rfl
  · obtain ⟨state, there, -⟩ | ⟨t, stage, there, mine⟩ := held session live
    · rw [empty] at there
      cases there
    · obtain ⟨unlocking, disposing⟩ := overtaken.ended t stage there
      unfold Stage.keySession at mine
      split at mine
      · cases disposing
      · cases disposing
      · cases disposing
      · cases unlocking
      · cases unlocking
      · cases mine

end VaultManager

end ZenPass.Android
