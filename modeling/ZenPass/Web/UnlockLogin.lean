import ZenPass.Lib.Transition
import ZenPass.Wire.B64

set_option autoImplicit false

-- The submit handler of the unlock view and `AuthClient.login` share one buffer. What runs between
-- two awaits is one step; the handler does not await the login.

namespace ZenPass.Web

open Transition Wire

/-- The OPAQUE client, with its randomness as an argument of the start. -/
structure OpaqueClient where
  clientLoginStart : Bytes → Bytes → Option (Bytes × Bytes)
  clientLoginFinish : Bytes → Bytes → Bytes → Bytes → Option Bytes

def opaqueContext : Bytes := "zkpm-opaque-v1".toUTF8.data.toList

inductive LoginStep where
  | failed
  | message (message : Bytes)
  | session (accessToken : String)
deriving DecidableEq, Repr

inductive LoginPhase where
  | awaitingLeg1
  | awaitingLeg2
  | session
  | failed
  -- The client finish has thrown.
  | rejected
deriving DecidableEq, Repr

/-- A call of `AuthClient.login`; `started` and `finished` are the bytes that were in the buffer
when the client start and the client finish read it. -/
structure Login where
  state : Bytes
  phase : LoginPhase
  started : Bytes
  response : Option Bytes := none
  finished : Option Bytes := none
deriving DecidableEq, Repr

structure Submission where
  entered : Bytes
  passwordBytes : Bytes
  unlocking : Bool
  login : Option Login
deriving DecidableEq, Repr

structure UnlockView where
  submissions : Nat → Option Submission
  accessToken : Option String

inductive UnlockAction where
  | submit (t : Nat) (password : Bytes)
  | unlockSettled (t : Nat) (unlocked : Bool) (seed : Bytes)
  | leg1 (t : Nat) (reply : LoginStep)
  | leg2 (t : Nat) (reply : LoginStep)
deriving DecidableEq, Repr

def wiped (bytes : Bytes) : Bytes := bytes.map fun _ => 0

section Steps

variable (client : OpaqueClient)

def AuthClient.login (seed password : Bytes) : Login :=
  match client.clientLoginStart seed password with
  | some (_, state) => { state, phase := .awaitingLeg1, started := password }
  | none => { state := [], phase := .failed, started := password }

def Login.afterLeg1 (login : Login) (password : Bytes) : LoginStep → Login
  | .message response =>
      let phase :=
        match client.clientLoginFinish login.state password response opaqueContext with
        | some _ => .awaitingLeg2
        | none => .rejected
      { login with phase, response := some response, finished := some password }
  | _ => { login with phase := .failed }

def Login.afterLeg2 (login : Login) : LoginStep → Login
  | .session _ => { login with phase := .session }
  | _ => { login with phase := .failed }

def Submission.fill (submission : Submission) : Submission :=
  { submission with passwordBytes := wiped submission.passwordBytes }

def Submission.afterUnlock (submission : Submission) (unlocked : Bool) (seed : Bytes) : Submission :=
  let settled := { submission with unlocking := false }
  if unlocked then
    Submission.fill { settled with login := some (AuthClient.login client seed settled.passwordBytes) }
  else settled.fill

namespace UnlockView

def initial : UnlockView := ⟨fun _ => none, none⟩

def put (view : UnlockView) (t : Nat) (submission : Submission) : UnlockView :=
  { view with submissions := Function.update view.submissions t (some submission) }

def step (view : UnlockView) : UnlockAction → Option UnlockView
  | .submit t password =>
      match view.submissions t with
      | some _ => none
      | none =>
          some (view.put t
            { entered := password, passwordBytes := password, unlocking := true, login := none })
  | .unlockSettled t unlocked seed =>
      match view.submissions t with
      | none => none
      | some submission =>
          if submission.unlocking then some (view.put t (submission.afterUnlock client unlocked seed))
          else none
  | .leg1 t reply =>
      match view.submissions t with
      | none => none
      | some submission =>
          match submission.login with
          | none => none
          | some login =>
              if login.phase = .awaitingLeg1 then
                -- The login reads the handler's buffer again.
                some (view.put t
                  { submission with
                    login := some (login.afterLeg1 client submission.passwordBytes reply) })
              else none
  | .leg2 t reply =>
      match view.submissions t with
      | none => none
      | some submission =>
          match submission.login with
          | none => none
          | some login =>
              if login.phase = .awaitingLeg2 then
                let next := view.put t { submission with login := some (login.afterLeg2 reply) }
                match reply with
                | .session accessToken => some { next with accessToken := some accessToken }
                | _ => some next
              else none

end UnlockView

end Steps

section Passwords

variable (client : OpaqueClient)

/-- The login uses the password that was entered, and the client finish accepts a response that it
accepts under this password. -/
structure Submission.LogsIn (submission : Submission) : Prop where
  started : ∀ login, submission.login = some login → login.started = submission.entered
  finished : ∀ login password, submission.login = some login → login.finished = some password →
    password = submission.entered
  accepted : ∀ login response, submission.login = some login → login.response = some response →
    (client.clientLoginFinish login.state submission.entered response opaqueContext).isSome = true →
      login.phase ≠ .rejected

/-- The client finish reads the buffer after the handler has wiped it. -/
structure LoginOf (entered : Bytes) (login : Login) : Prop where
  started : login.started = entered
  finished : login.finished = login.response.map fun _ => wiped entered
  rejected : login.phase = .rejected → ∃ response, login.response = some response ∧
    client.clientLoginFinish login.state (wiped entered) response opaqueContext = none

structure Submission.Consistent (submission : Submission) : Prop where
  unlocking : submission.unlocking = true →
    submission.passwordBytes = submission.entered ∧ submission.login = none
  wiped : submission.unlocking = false → submission.passwordBytes = wiped submission.entered
  login : ∀ login, submission.login = some login → LoginOf client submission.entered login

variable {client}

theorem loginOf_login (seed password : Bytes) :
    LoginOf client password (AuthClient.login client seed password) := by
  unfold AuthClient.login
  split
  · constructor
    · rfl
    · rfl
    · intro rejected
      cases rejected
  · constructor
    · rfl
    · rfl
    · intro rejected
      cases rejected

theorem consistent_submit (password : Bytes) :
    Submission.Consistent client
      { entered := password, passwordBytes := password, unlocking := true, login := none } := by
  constructor
  · intro _
    exact ⟨rfl, rfl⟩
  · intro settled
    cases settled
  · intro login nothing
    cases nothing

theorem consistent_afterUnlock {submission : Submission} (consistent : submission.Consistent client)
    (unlocking : submission.unlocking = true) (unlocked : Bool) (seed : Bytes) :
    (submission.afterUnlock client unlocked seed).Consistent client := by
  obtain ⟨buffer, noLogin⟩ := consistent.unlocking unlocking
  cases unlocked with
  | false =>
      constructor
      · intro impossible
        cases impossible
      · intro _
        change wiped submission.passwordBytes = wiped submission.entered
        rw [buffer]
      · intro login there
        change submission.login = some login at there
        rw [noLogin] at there
        cases there
  | true =>
      constructor
      · intro impossible
        cases impossible
      · intro _
        change wiped submission.passwordBytes = wiped submission.entered
        rw [buffer]
      · intro login there
        cases there
        change LoginOf client submission.entered (AuthClient.login client seed submission.passwordBytes)
        rw [buffer]
        exact loginOf_login seed submission.entered

theorem loginOf_afterLeg1 {entered : Bytes} {login : Login} (ofEntered : LoginOf client entered login)
    (reply : LoginStep) :
    LoginOf client entered (login.afterLeg1 client (wiped entered) reply) := by
  cases reply with
  | message response =>
      constructor
      · exact ofEntered.started
      · rfl
      · intro rejected
        refine ⟨response, rfl, ?_⟩
        simp only [Login.afterLeg1] at rejected ⊢
        split at rejected
        · cases rejected
        · assumption
  | failed =>
      constructor
      · exact ofEntered.started
      · exact ofEntered.finished
      · intro rejected
        cases rejected
  | session accessToken =>
      constructor
      · exact ofEntered.started
      · exact ofEntered.finished
      · intro rejected
        cases rejected

theorem loginOf_afterLeg2 {entered : Bytes} {login : Login} (ofEntered : LoginOf client entered login)
    (reply : LoginStep) : LoginOf client entered (login.afterLeg2 reply) := by
  constructor
  · cases reply <;> exact ofEntered.started
  · cases reply <;> exact ofEntered.finished
  · intro rejected
    cases reply <;> cases rejected

theorem consistent_answered {submission : Submission} {login next : Login}
    (consistent : submission.Consistent client) (there : submission.login = some login)
    (ofEntered : LoginOf client submission.entered next) :
    Submission.Consistent client { submission with login := some next } := by
  constructor
  · intro unlocking
    have noLogin := (consistent.unlocking unlocking).2
    rw [there] at noLogin
    cases noLogin
  · exact consistent.wiped
  · intro found same
    cases same
    exact ofEntered

theorem Submission.Consistent.buffer {submission : Submission} {login : Login}
    (consistent : submission.Consistent client) (there : submission.login = some login) :
    submission.passwordBytes = Web.wiped submission.entered := by
  apply consistent.wiped
  cases unlocking : submission.unlocking with
  | false => rfl
  | true =>
      have noLogin := (consistent.unlocking unlocking).2
      rw [there] at noLogin
      cases noLogin

def UnlockView.Consistent (client : OpaqueClient) (view : UnlockView) : Prop :=
  ∀ t submission, view.submissions t = some submission → submission.Consistent client

theorem UnlockView.Consistent.put {view : UnlockView} (consistent : view.Consistent client) (t : Nat)
    {submission : Submission} (next : submission.Consistent client) :
    (view.put t submission).Consistent client := by
  intro other found there
  by_cases same : other = t
  · subst same
    simp only [UnlockView.put, Function.update_self, Option.some.injEq] at there
    exact there ▸ next
  · simp only [UnlockView.put, Function.update_of_ne same] at there
    exact consistent other found there

theorem UnlockView.consistent_step {view next : UnlockView} {action : UnlockAction}
    (consistent : view.Consistent client) (stepped : view.step client action = some next) :
    next.Consistent client := by
  cases action with
  | submit t password =>
      simp only [step] at stepped
      split at stepped <;> cases stepped
      exact consistent.put t (consistent_submit password)
  | unlockSettled t unlocked seed =>
      simp only [step] at stepped
      split at stepped
      · cases stepped
      · rename_i submission there
        split at stepped <;> cases stepped
        rename_i unlocking
        exact consistent.put t (consistent_afterUnlock (consistent t submission there) unlocking _ _)
  | leg1 t reply =>
      simp only [step] at stepped
      split at stepped
      · cases stepped
      · rename_i submission there
        split at stepped
        · cases stepped
        · rename_i login running
          split at stepped <;> cases stepped
          have held := consistent t submission there
          have answered := loginOf_afterLeg1 (held.login login running) reply
          rw [← held.buffer running] at answered
          exact consistent.put t (consistent_answered held running answered)
  | leg2 t reply =>
      simp only [step] at stepped
      split at stepped
      · cases stepped
      · rename_i submission there
        split at stepped
        · cases stepped
        · rename_i login running
          have held := consistent t submission there
          have kept := consistent.put t (consistent_answered held running
            (loginOf_afterLeg2 (held.login login running) reply))
          split at stepped
          · split at stepped <;> cases stepped <;> exact kept
          · cases stepped

theorem wiped_eq_self (bytes : Bytes) : wiped bytes = bytes ↔ ∀ byte ∈ bytes, byte = 0 := by
  induction bytes with
  | nil => simp [wiped]
  | cons byte rest ih =>
      change 0 :: wiped rest = byte :: rest ↔ _
      rw [List.cons.injEq, ih, List.forall_mem_cons]
      exact and_congr_left fun _ => eq_comm

theorem Submission.Consistent.logsIn_iff {submission : Submission}
    (consistent : submission.Consistent client) :
    submission.LogsIn client ↔
      ∀ login, submission.login = some login → login.response.isSome = true →
        ∀ byte ∈ submission.entered, byte = 0 := by
  constructor
  · intro logsIn login there answered
    obtain ⟨response, received⟩ := Option.isSome_iff_exists.mp answered
    have finished := (consistent.login login there).finished
    rw [received] at finished
    exact (wiped_eq_self _).mp (logsIn.finished login _ there finished)
  · intro zero
    -- A wiped password of zeros is the password.
    have same (login : Login) (there : submission.login = some login) (response : Bytes)
        (received : login.response = some response) :
        Web.wiped submission.entered = submission.entered :=
      (wiped_eq_self _).mpr (zero login there (by rw [received]; rfl))
    constructor
    · intro login there
      exact (consistent.login login there).started
    · intro login password there finished
      rw [(consistent.login login there).finished, Option.map_eq_some_iff] at finished
      obtain ⟨response, received, rfl⟩ := finished
      exact same login there response received
    · intro login response there received accepts rejected
      obtain ⟨other, answered, refused⟩ := (consistent.login login there).rejected rejected
      rw [received] at answered
      cases answered
      rw [same login there response received] at refused
      rw [refused] at accepts
      cases accepts

/-- In every state that the handlers and the network can get to. -/
theorem unlock_logs_in (client : OpaqueClient) (actions : List UnlockAction) (view : UnlockView)
    (ran : run (UnlockView.step client) UnlockView.initial actions = some view) (t : Nat)
    (submission : Submission) (there : view.submissions t = some submission) :
    submission.LogsIn client ↔
      ∀ login, submission.login = some login → login.response.isSome = true →
        ∀ byte ∈ submission.entered, byte = 0 := by
  have start : UnlockView.initial.Consistent client := by
    intro t submission nothing
    cases nothing
  have consistent := run_preserves
    (fun _ _ _ held stepped => UnlockView.consistent_step held stepped) start ran
  exact (consistent t submission there).logsIn_iff

end Passwords

section Samples

def sampleClient : OpaqueClient where
  clientLoginStart _ password := some (password, password)
  clientLoginFinish state password response _ := if password = state then some response else none

def unlockAndLogin (password : Bytes) : List UnlockAction :=
  [.submit 0 password, .unlockSettled 0 true [], .leg1 0 (.message [7]), .leg2 0 (.session "token")]

theorem unlock_logs_in_nul :
    ∃ view, run (UnlockView.step sampleClient) UnlockView.initial (unlockAndLogin [0]) = some view ∧
      view.accessToken = some "token" ∧
      ∃ submission, view.submissions 0 = some submission ∧ submission.LogsIn sampleClient := by
  have ran : run (UnlockView.step sampleClient) UnlockView.initial (unlockAndLogin [0]) = some _ :=
    run_reached (by decide +kernel)
  refine ⟨_, ran, by decide +kernel, _, rfl, ?_⟩
  refine (unlock_logs_in sampleClient (unlockAndLogin [0]) _ ran 0 _ rfl).mpr ?_
  intro login _ _
  decide +kernel

/-- The finish gets zeros for any other password, and throws. -/
theorem unlock_wipes_before_finish :
    ¬ ∀ (actions : List UnlockAction) (view : UnlockView),
      run (UnlockView.step sampleClient) UnlockView.initial actions = some view →
        ∀ t submission, view.submissions t = some submission →
          submission.LogsIn sampleClient := by
  intro always
  have ran : run (UnlockView.step sampleClient) UnlockView.initial
      [.submit 0 [112, 119], .unlockSettled 0 true [], .leg1 0 (.message [7])] = some _ :=
    run_reached (by decide +kernel)
  have logsIn := always _ _ ran 0 _ rfl
  exact absurd (logsIn.finished _ [0, 0] rfl rfl) (by decide)

end Samples

end ZenPass.Web
