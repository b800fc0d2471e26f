import ZenPass.Lib.Transition

set_option autoImplicit false

-- An operation takes many steps, and another action may fall between any two of them. What such an
-- action promises of the end of the operation is shown from two invariants: one of whole runs, and
-- one of what comes after the action.

namespace ZenPass.Transition

variable {σ α : Type}

/-- `inFlight` is that an operation has begun and not ended, `ended` that nothing is left of the
operations and of the actions that overtake them, `requests` that an action begins a new one. -/
structure Overtakable (σ α : Type) where
  step : σ → α → Option σ
  initial : σ
  inFlight : σ → Prop
  ended : σ → Prop
  overtakes : σ → α → σ → Prop
  requests : α → Prop

structure OvertakenRun (system : Overtakable σ α) where
  before : List α
  pending : σ
  overtaker : α
  overtaken : σ
  after : List α
  final : σ
  reaches : run system.step system.initial before = some pending
  inFlight : system.inFlight pending
  takes : system.step pending overtaker = some overtaken
  overtakes : system.overtakes pending overtaker overtaken
  goesOn : run system.step overtaken after = some final
  noRequest : ∀ action ∈ overtaker :: after, ¬ system.requests action
  ended : system.ended final

def OvertakenRun.ofActions (system : Overtakable σ α) (before : List α) (overtaker : α)
    (after : List α)
    (enabled : (run system.step system.initial ((before ++ [overtaker]) ++ after)).isSome = true)
    (inFlight : system.inFlight (reached system.step system.initial before))
    (overtakes : system.overtakes (reached system.step system.initial before) overtaker
      (reached system.step system.initial (before ++ [overtaker])))
    (noRequest : ∀ action ∈ overtaker :: after, ¬ system.requests action)
    (ended : system.ended (reached system.step system.initial ((before ++ [overtaker]) ++ after))) :
    OvertakenRun system :=
  have taken : (run system.step system.initial (before ++ [overtaker])).isSome = true := by
    rw [(run_from_reached enabled).1]
    rfl
  { before
    pending := reached system.step system.initial before
    overtaker
    overtaken := reached system.step system.initial (before ++ [overtaker])
    after
    final := reached system.step system.initial ((before ++ [overtaker]) ++ after)
    reaches := (run_from_reached taken).1
    inFlight
    takes := by simpa [run] using (run_from_reached taken).2
    overtakes
    goesOn := (run_from_reached enabled).2
    noRequest
    ended }

/-- A condition on all steps, one on the overtaking step, and one on the steps after it. -/
structure OvertakenRun.Meets {system : Overtakable σ α} (overtaken : OvertakenRun system)
    (throughout overtaking afterwards : σ → α → Prop) : Prop where
  before : Every system.step throughout system.initial overtaken.before
  there : throughout overtaken.pending overtaken.overtaker
  after : Every system.step throughout overtaken.overtaken overtaken.after
  overtaker : overtaking overtaken.pending overtaken.overtaker
  later : Every system.step afterwards overtaken.overtaken overtaken.after

theorem OvertakenRun.settled {system : Overtakable σ α} (overtaken : OvertakenRun system)
    {throughout overtaking afterwards : σ → α → Prop} (whole since : σ → Prop)
    (met : overtaken.Meets throughout overtaking afterwards) (start : whole system.initial)
    (kept : ∀ state action next, whole state → throughout state action →
      system.step state action = some next → whole next)
    (enters : ∀ state action next, whole state → system.overtakes state action next →
      overtaking state action → system.step state action = some next → since next)
    (stays : ∀ state action next, since state → afterwards state action →
      system.step state action = some next → since next) :
    whole overtaken.final ∧ since overtaken.final := by
  have pending := run_invariant kept start met.before overtaken.reaches
  have taken := kept _ _ _ pending met.there overtaken.takes
  have entered := enters _ _ _ pending overtaken.overtakes met.overtaker overtaken.takes
  exact ⟨run_invariant kept taken met.after overtaken.goesOn,
    run_invariant stays entered met.later overtaken.goesOn⟩

end ZenPass.Transition
