import ZenPass.Auth.Throttle

set_option autoImplicit false

namespace ZenPass.Auth

open KeyedStore Transition
open Sync (Id Backend)

namespace Throttle

def admitted (limit : RateLimit) (throttle : Throttle) (key : WindowKey) : Nat :=
  throttle.counted.countP fun entry => entry.1 = key ∧ entry.2 ≤ limit.max

def StartsFresh (throttle : Throttle) : Prop :=
  ∀ key, ∀ entry ∈ throttle.counted.find? (fun entry => entry.1 = key), entry.2 = 1

/-- A call is counted before a sweep deletes what its window could have. -/
def countsInTime (throttle : Throttle) : ThrottleAction → Prop
  | .advance t _ =>
      match throttle.requests.get t with
      | some (.increment _ windowStart) => throttle.swept ≤ windowStart + retention
      | _ => True
  | _ => True

inductive LimitMove (throttle : Throttle) (action : ThrottleAction) (next : Throttle) : Prop where
  | kept (rateLimits : next.tables.rateLimits = throttle.tables.rateLimits)
      (counted : next.counted = throttle.counted) (swept : next.swept = throttle.swept)
  | counts (t : Nat) (accepted : Bool) (call : AuthCall) (windowStart count : Nat)
      (is : action = .advance t accepted)
      (there : throttle.requests.get t = some (.increment call windowStart))
      (before : (throttle.tables.rateLimits.get (call.key windowStart)).getD 0 = count)
      (rateLimits : next.tables.rateLimits =
        throttle.tables.rateLimits.set (call.key windowStart) (count + 1))
      (counted : next.counted = throttle.counted ++ [(call.key windowStart, count + 1)])
      (swept : next.swept = throttle.swept)
  | sweeps (s now : Nat) (is : action = .advanceSweep s)
      (there : throttle.sweeps.get s = some (.deletingRateLimits now))
      (rateLimits : next.tables.rateLimits = (throttle.tables.deleteRateLimits now).rateLimits)
      (counted : next.counted = throttle.counted) (swept : next.swept = max throttle.swept now)

section Moves

variable {backend : Backend} {limit : RateLimit} {ttl : Nat} {throttle next : Throttle}

theorem increment_eq_some {tables after : Tables} {key : WindowKey} {count : Nat}
    (stepped : tables.increment key = some (after, count)) :
    count = (tables.rateLimits.get key).getD 0 + 1 ∧
      after.rateLimits = tables.rateLimits.set key count := by
  unfold Tables.increment at stepped
  cases found : tables.rateLimits.get key with
  | none =>
      simp only [found] at stepped
      split at stepped <;> cases stepped
      exact ⟨rfl, rfl⟩
  | some old =>
      simp only [found] at stepped
      split at stepped <;> cases stepped
      exact ⟨rfl, rfl⟩

theorem insertReference_rateLimits {tables after : Tables} {table : Referencing} {accountId : Id}
    (stepped : tables.insertReference table accountId = some after) :
    after.rateLimits = tables.rateLimits := by
  unfold Tables.insertReference at stepped
  split at stepped <;> cases stepped
  rfl

theorem saveCredential_rateLimits {tables after : Tables} {accountId : Id}
    (stepped : tables.saveCredentialRecordIfAbsent accountId = some after) :
    after.rateLimits = tables.rateLimits := by
  unfold Tables.saveCredentialRecordIfAbsent at stepped
  split at stepped
  · cases stepped
    rfl
  · exact insertReference_rateLimits stepped

theorem afterLimit_frame (throttle : Throttle) (t : Nat) (call : AuthCall) :
    (throttle.afterLimit t call).tables = throttle.tables ∧
      (throttle.afterLimit t call).counted = throttle.counted ∧
      (throttle.afterLimit t call).swept = throttle.swept ∧
      (throttle.afterLimit t call).sweeps = throttle.sweeps ∧
      (throttle.afterLimit t call).clock = throttle.clock := by
  unfold afterLimit
  split <;> exact ⟨rfl, rfl, rfl, rfl, rfl⟩

theorem perform_move {t : Nat} {accepted : Bool} {phase : AuthPhase}
    (there : throttle.requests.get t = some phase) :
    LimitMove throttle (.advance t accepted)
      (throttle.perform backend limit ttl t accepted phase) := by
  cases phase with
  | ensureAccount call =>
      -- An account row is no window.
      refine .kept ?_ rfl rfl
      simp only [perform, goesOn, Tables.ensureAccount]
      split <;> rfl
  | readClock call => exact .kept rfl rfl rfl
  | increment call windowStart =>
      simp only [perform]
      cases stepped : throttle.tables.increment (call.key windowStart) with
      | none =>
          dsimp only
          split <;> exact .kept rfl rfl rfl
      | some result =>
          obtain ⟨tables, count⟩ := result
          obtain ⟨rfl, rateLimits⟩ := increment_eq_some stepped
          dsimp only
          split
          · obtain ⟨same, counted, swept, -⟩ := afterLimit_frame
              { throttle with
                tables
                counted := throttle.counted ++ [(call.key windowStart, _)] } t call
            exact .counts t accepted call windowStart _ rfl there rfl
              ((congrArg Tables.rateLimits same).trans rateLimits) counted swept
          · exact .counts t accepted call windowStart _ rfl there rfl rateLimits rfl rfl
  | saveCredential accountId =>
      simp only [perform]
      split
      · exact .kept rfl rfl rfl
      · rename_i stepped
        exact .kept (saveCredential_rateLimits stepped) rfl rfl
  | getCredentialRecord accountId => exact .kept rfl rfl rfl
  | loginStart accountId found =>
      simp only [perform]
      split <;> exact .kept rfl rfl rfl
  | takePending accountId =>
      simp only [perform]
      split
      · split <;> exact .kept rfl rfl rfl
      · exact .kept rfl rfl rfl
  | issueSession accountId =>
      simp only [perform]
      split
      · exact .kept rfl rfl rfl
      · rename_i stepped
        exact .kept (insertReference_rateLimits stepped) rfl rfl

theorem step_move {action : ThrottleAction}
    (stepped : throttle.step backend limit ttl action = some next) :
    LimitMove throttle action next := by
  have arrives {t : Nat} {call : AuthCall} (arrived : throttle.arrive t call = some next) :
      LimitMove throttle action next := by
    unfold arrive at arrived
    split at arrived <;> cases arrived
    exact .kept rfl rfl rfl
  cases action with
  | tick elapsed =>
      cases stepped
      exact .kept rfl rfl rfl
  | register t accountId isRecord => exact arrives stepped
  | login t accountId => exact arrives stepped
  | advance t accepted =>
      simp only [step, Option.map_eq_some_iff] at stepped
      obtain ⟨phase, there, rfl⟩ := stepped
      exact perform_move there
  | drop t =>
      simp only [step, Option.map_eq_some_iff] at stepped
      obtain ⟨phase, there, rfl⟩ := stepped
      exact .kept rfl rfl rfl
  | sweep s =>
      simp only [step] at stepped
      split at stepped <;> cases stepped
      exact .kept rfl rfl rfl
  | advanceSweep s =>
      simp only [step, Option.map_eq_some_iff] at stepped
      obtain ⟨phase, there, rfl⟩ := stepped
      cases phase with
      | deletingRateLimits now => exact .sweeps s now rfl there rfl rfl rfl
      | findingAccounts now => exact .kept rfl rfl rfl
      | deletingAccounts stale =>
          refine .kept ?_ rfl rfl
          simp only [performSweep, Tables.deleteAccounts]
          split <;> rfl
  | dropSweep s =>
      cases stepped
      exact .kept rfl rfl rfl
  | refer table accountId =>
      simp only [step, Option.map_eq_some_iff] at stepped
      obtain ⟨tables, inserted, rfl⟩ := stepped
      exact .kept (insertReference_rateLimits inserted) rfl rfl

end Moves

/-- The counts of a window that no sweep can have deleted are those of its row. -/
structure Bounded (limit : RateLimit) (throttle : Throttle) : Prop where
  admitted : ∀ key, throttle.admitted limit key ≤ limit.max
  row : ∀ key, throttle.swept ≤ key.windowStart + retention →
    throttle.admitted limit key = min ((throttle.tables.rateLimits.get key).getD 0) limit.max

section Runs

variable {backend : Backend} {limit : RateLimit} {ttl : Nat} {throttle next : Throttle}
  {action : ThrottleAction}

theorem bounded_initial : Bounded limit {} where
  admitted _ := Nat.zero_le _
  row _ _ := (Nat.zero_min _).symm

theorem admitted_of_counted {key : WindowKey} (same : next.counted = throttle.counted) :
    next.admitted limit key = throttle.admitted limit key := by
  rw [admitted, same, admitted]

theorem admitted_append {key counted : WindowKey} {count : Nat}
    (appended : next.counted = throttle.counted ++ [(counted, count)]) :
    next.admitted limit key =
      throttle.admitted limit key + if counted = key ∧ count ≤ limit.max then 1 else 0 := by
  rw [admitted, appended, List.countP_append, List.countP_singleton, admitted]
  simp

theorem Bounded.step (bounded : Bounded limit throttle) (inTime : throttle.countsInTime action)
    (stepped : throttle.step backend limit ttl action = some next) : Bounded limit next := by
  cases step_move stepped with
  | kept rateLimits counted swept =>
      refine ⟨fun key => ?_, fun key => ?_⟩
      · rw [admitted_of_counted counted]
        exact bounded.admitted key
      · rw [admitted_of_counted counted, swept, rateLimits]
        exact bounded.row key
  | counts t accepted call windowStart count is there before rateLimits counted swept =>
      subst is
      have inTime : throttle.swept ≤ windowStart + retention := by
        simpa only [countsInTime, there] using inTime
      -- The row tells how many calls of its window have been admitted.
      have mine := bounded.row (call.key windowStart) inTime
      rw [before] at mine
      have row (key : WindowKey) (unswept : throttle.swept ≤ key.windowStart + retention) :
          next.admitted limit key = min ((next.tables.rateLimits.get key).getD 0) limit.max := by
        rw [admitted_append counted, rateLimits]
        by_cases same : key = call.key windowStart
        · rw [same, InsertionMap.get_set_self, mine, Option.getD_some]
          -- A count beyond the limit is not admitted, and the minimum stays.
          by_cases within : count + 1 ≤ limit.max
          · rw [if_pos ⟨rfl, within⟩]
            omega
          · rw [if_neg fun both => within both.2]
            omega
        · rw [InsertionMap.get_set_of_ne _ _ same, if_neg fun both => same both.1.symm]
          exact bounded.row key unswept
      refine ⟨fun key => ?_, fun key unswept => row key (swept ▸ unswept)⟩
      by_cases same : call.key windowStart = key
      · rw [← same, row (call.key windowStart) inTime]
        exact Nat.min_le_right _ _
      · rw [admitted_append counted, if_neg fun both => same both.1]
        exact bounded.admitted key
  | sweeps s now is there rateLimits counted swept =>
      refine ⟨fun key => ?_, fun key unswept => ?_⟩
      · rw [admitted_of_counted counted]
        exact bounded.admitted key
      · -- The sweep keeps the windows whose rows still tell their counts.
        have later : throttle.swept ≤ key.windowStart + retention ∧
            now ≤ key.windowStart + retention := by
          omega
        rw [admitted_of_counted counted, rateLimits, Tables.deleteRateLimits,
          InsertionMap.get_filter, if_pos (decide_eq_true later.2)]
        exact bounded.row key later.1

theorem always_admitted {actions : List ThrottleAction}
    (every : Every (step backend limit ttl) countsInTime {} actions) :
    Always (step backend limit ttl) (fun throttle => ∀ key, throttle.admitted limit key ≤ limit.max)
      {} actions :=
  always_of_every (fun _ _ _ bounded inTime stepped => Bounded.step bounded inTime stepped)
    (fun _ bounded => bounded.admitted) bounded_initial every

structure Starting (throttle : Throttle) : Prop where
  counted : ∀ key, throttle.tables.rateLimits.get key ≠ none →
    ∃ entry ∈ throttle.counted, entry.1 = key
  fresh : throttle.StartsFresh

theorem starting_initial : Starting {} where
  counted _ there := absurd rfl there
  fresh := by rintro key entry ⟨⟩

theorem Starting.step (starting : throttle.Starting)
    (stepped : throttle.step backend limit ttl action = some next) : next.Starting := by
  cases step_move stepped with
  | kept rateLimits counted swept =>
      refine ⟨?_, ?_⟩
      · rw [rateLimits, counted]
        exact starting.counted
      · rw [StartsFresh, counted]
        exact starting.fresh
  | counts t accepted call windowStart count is there before rateLimits counted swept =>
      refine ⟨fun key found => ?_, fun key entry first => ?_⟩
      · rw [counted]
        by_cases same : key = call.key windowStart
        · exact ⟨_, List.mem_append_right _ (List.mem_singleton_self _), same.symm⟩
        · rw [rateLimits, InsertionMap.get_set_of_ne _ _ same] at found
          obtain ⟨entry, among, mine⟩ := starting.counted key found
          exact ⟨entry, List.mem_append_left _ among, mine⟩
      · rw [counted, List.find?_append, Option.mem_def, Option.or_eq_some_iff] at first
        obtain first | ⟨uncounted, first⟩ := first
        · exact starting.fresh key entry first
        · have is := List.mem_singleton.mp (List.mem_of_find?_eq_some first)
          have mine := List.find?_some first
          subst is
          rw [decide_eq_true_eq] at mine
          -- A window that has not been counted has no row, so it counts from 0.
          have noRow : throttle.tables.rateLimits.get key = none := by
            by_contra found
            obtain ⟨entry, among, same⟩ := starting.counted key found
            exact List.find?_eq_none.mp uncounted entry among (decide_eq_true same)
          rw [show call.key windowStart = key from mine, noRow, Option.getD_none] at before
          exact congrArg (· + 1) before.symm
  | sweeps s now is there rateLimits counted swept =>
      refine ⟨fun key found => ?_, ?_⟩
      · rw [rateLimits, Tables.deleteRateLimits, InsertionMap.get_filter] at found
        rw [counted]
        split at found
        · exact starting.counted key found
        · exact absurd rfl found
      · rw [StartsFresh, counted]
        exact starting.fresh

theorem always_startsFresh (actions : List ThrottleAction) :
    Always (step backend limit ttl) StartsFresh {} actions :=
  always_of_preserved (fun _ _ _ starting stepped => Starting.step starting stepped)
    (fun _ starting => starting.fresh) starting_initial

def SweepsBehind (throttle : Throttle) : Prop :=
  ∀ s now, throttle.sweeps.get s = some (.deletingRateLimits now) → now ≤ throttle.clock

theorem sweepsBehind_initial : SweepsBehind {} := by
  rintro _ _ ⟨⟩

theorem perform_frame (t : Nat) (accepted : Bool) (phase : AuthPhase) :
    (throttle.perform backend limit ttl t accepted phase).sweeps = throttle.sweeps ∧
      (throttle.perform backend limit ttl t accepted phase).clock = throttle.clock := by
  cases phase with
  | ensureAccount | readClock | getCredentialRecord => exact ⟨rfl, rfl⟩
  | increment call windowStart =>
      simp only [perform]
      split
      · split <;> exact ⟨rfl, rfl⟩
      · split
        · exact (afterLimit_frame _ t call).2.2.2
        · exact ⟨rfl, rfl⟩
  | loginStart accountId found =>
      simp only [perform]
      split <;> exact ⟨rfl, rfl⟩
  | takePending accountId =>
      simp only [perform]
      split
      · split <;> exact ⟨rfl, rfl⟩
      · exact ⟨rfl, rfl⟩
  | saveCredential accountId | issueSession accountId =>
      simp only [perform]
      split <;> exact ⟨rfl, rfl⟩

theorem SweepsBehind.of_same (behind : throttle.SweepsBehind)
    (sweeps : next.sweeps = throttle.sweeps) (clock : throttle.clock ≤ next.clock) :
    next.SweepsBehind := by
  intro s now there
  rw [sweeps] at there
  exact Nat.le_trans (behind s now there) clock

theorem SweepsBehind.of_set (behind : throttle.SweepsBehind) {s : Nat} {phase : SweepPhase}
    (sweeps : next.sweeps = throttle.sweeps.set s phase) (clock : next.clock = throttle.clock)
    (mine : ∀ now, phase = .deletingRateLimits now → now ≤ throttle.clock) :
    next.SweepsBehind := by
  intro other now there
  rw [clock]
  rw [sweeps] at there
  obtain ⟨-, is⟩ | ⟨-, before⟩ := InsertionMap.get_set_cases there
  · exact mine now is.symm
  · exact behind other now before

theorem SweepsBehind.of_delete (behind : throttle.SweepsBehind) {s : Nat}
    (sweeps : next.sweeps = throttle.sweeps.delete s) (clock : next.clock = throttle.clock) :
    next.SweepsBehind := by
  intro other now there
  rw [clock]
  rw [sweeps] at there
  exact behind other now (InsertionMap.get_of_get_delete there)

theorem SweepsBehind.step (behind : throttle.SweepsBehind)
    (stepped : throttle.step backend limit ttl action = some next) : next.SweepsBehind := by
  have arrives {t : Nat} {call : AuthCall} (arrived : throttle.arrive t call = some next) :
      next.SweepsBehind := by
    unfold arrive at arrived
    split at arrived <;> cases arrived
    exact behind.of_same rfl (Nat.le_refl _)
  cases action with
  | tick elapsed =>
      cases stepped
      exact behind.of_same rfl (Nat.le_add_right _ _)
  | register t accountId isRecord => exact arrives stepped
  | login t accountId => exact arrives stepped
  | advance t accepted =>
      simp only [Throttle.step, Option.map_eq_some_iff] at stepped
      obtain ⟨phase, there, rfl⟩ := stepped
      obtain ⟨sweeps, clock⟩ := perform_frame t accepted phase
      exact behind.of_same sweeps clock.ge
  | drop t =>
      simp only [Throttle.step, Option.map_eq_some_iff] at stepped
      obtain ⟨phase, there, rfl⟩ := stepped
      exact behind.of_same rfl (Nat.le_refl _)
  | sweep s =>
      simp only [Throttle.step] at stepped
      split at stepped <;> cases stepped
      refine behind.of_set rfl rfl ?_
      rintro now ⟨⟩
      -- Node rounds the clock down to a millisecond.
      cases backend with
      | node => exact Nat.div_mul_le_self _ _
      | rust => exact Nat.le_refl _
  | advanceSweep s =>
      simp only [Throttle.step, Option.map_eq_some_iff] at stepped
      obtain ⟨phase, there, rfl⟩ := stepped
      cases phase with
      | deletingRateLimits now =>
        refine behind.of_set rfl rfl ?_
        rintro later ⟨⟩
      | findingAccounts now =>
        refine behind.of_set rfl rfl ?_
        rintro later ⟨⟩
      | deletingAccounts stale => exact behind.of_delete rfl rfl
  | dropSweep s =>
      cases stepped
      exact behind.of_delete rfl rfl
  | refer table accountId =>
      simp only [Throttle.step, Option.map_eq_some_iff] at stepped
      obtain ⟨tables, inserted, rfl⟩ := stepped
      exact behind.of_same rfl (Nat.le_refl _)

theorem SweepsBehind.keeps_running (behind : throttle.SweepsBehind) {s : Nat}
    (stepped : throttle.step backend limit ttl (.advanceSweep s) = some next) {key : WindowKey}
    (running : throttle.clock < key.windowStart + limit.window) :
    next.tables.rateLimits.get key = throttle.tables.rateLimits.get key := by
  cases step_move stepped with
  | kept rateLimits => rw [rateLimits]
  | counts t accepted call windowStart count is => cases is
  | sweeps other now is there rateLimits =>
      have bound := behind other now there
      have within := limit.window_le_retention
      -- A window is no longer than the retention.
      have kept : now ≤ key.windowStart + retention := by omega
      rw [rateLimits, Tables.deleteRateLimits, InsertionMap.get_filter,
        if_pos (decide_eq_true kept)]

end Runs

section UnlessSwept

variable (backend : Backend) (limit : RateLimit) (ttl : Nat)

/-- No window admits more than `max` calls in the runs that count no call after a sweep has deleted
its window. In all runs sweeps keep the counts of the running windows, and every window starts
with 1: the one that a call reads after another one has ended is a later one. -/
theorem rate_limit_unless_swept :
    (∀ actions, Every (step backend limit ttl) countsInTime {} actions →
      Always (step backend limit ttl)
        (fun throttle => ∀ key, throttle.admitted limit key ≤ limit.max) {} actions) ∧
    (∀ actions throttle s next, run (step backend limit ttl) {} actions = some throttle →
      throttle.step backend limit ttl (.advanceSweep s) = some next →
        ∀ key, throttle.clock < key.windowStart + limit.window →
          next.tables.rateLimits.get key = throttle.tables.rateLimits.get key) ∧
    (∀ actions, Always (step backend limit ttl) StartsFresh {} actions) ∧
    ∀ ended now, ended + limit.window ≤ now →
      ended < limit.windowStart now ∧ now < limit.windowStart now + limit.window := by
  refine ⟨fun _ every => always_admitted every, fun actions throttle s next ran stepped key running =>
    ?_, always_startsFresh, fun ended now later => ?_⟩
  · have behind : throttle.SweepsBehind :=
      run_preserves (fun _ _ _ behind stepped => SweepsBehind.step behind stepped)
        sweepsBehind_initial ran
    exact behind.keeps_running stepped running
  · have running := limit.windowStart_running now
    omega

end UnlessSwept

def dayLimit : RateLimit := ⟨1, 86400, by decide, by decide⟩

def dayStep : Throttle → ThrottleAction → Option Throttle := step .node dayLimit 60000000

def countedActions : List ThrottleAction :=
  [.register 1 "alice" false, .advance 1 true, .advance 1 true, .advance 1 true,
    .register 2 "alice" false, .advance 2 true, .advance 2 true, .advance 2 true,
    .tick 86400001000, .sweep 1, .advanceSweep 1, .advanceSweep 1, .advanceSweep 1]

def overtakenActions : List ThrottleAction :=
  [.tick 86399999000, .register 1 "alice" false, .advance 1 true, .advance 1 true,
    .register 2 "alice" false, .advance 2 true, .advance 2 true, .advance 1 true, .tick 2000,
    .sweep 1, .advanceSweep 1, .advance 2 true]

instance (throttle : Throttle) (action : ThrottleAction) :
    Decidable (throttle.countsInTime action) := by
  unfold countsInTime
  split
  · split <;> infer_instance
  · infer_instance

theorem rate_limit_unless_swept_counted :
    (reached dayStep {} countedActions).answers = [(1, .message), (2, .badRequest)] ∧
      Always dayStep (fun throttle => ∀ key, throttle.admitted dayLimit key ≤ 1) {}
        countedActions :=
  ⟨by decide +kernel,
    (rate_limit_unless_swept .node dayLimit 60000000).1 countedActions (by decide +kernel)⟩

/-- Both calls of the window are admitted, though the limit is one. -/
theorem swept_window_admits_again :
    ¬ ∀ actions, Always dayStep (fun throttle => ∀ key, throttle.admitted dayLimit key ≤ 1) {}
      actions := by
  intro always
  have admitted := (always overtakenActions).at_end (run_reached (by decide +kernel))
  have twice : (reached dayStep {} overtakenActions).admitted dayLimit ⟨"alice", .register, 0⟩ = 2 := by
    decide +kernel
  have once := admitted ⟨"alice", .register, 0⟩
  rw [twice] at once
  exact absurd once (by decide)

end Throttle

end ZenPass.Auth
