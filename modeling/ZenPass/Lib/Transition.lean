import Mathlib.Data.Option.Basic
import Mathlib.Tactic.Common

set_option autoImplicit false

namespace ZenPass.Transition

variable {σ α : Type}

def run (step : σ → α → Option σ) (state : σ) : List α → Option σ
  | [] => some state
  | action :: rest => (step state action).bind fun next => run step next rest

def reached (step : σ → α → Option σ) (state : σ) (actions : List α) : σ :=
  (run step state actions).getD state

def Every (step : σ → α → Option σ) (condition : σ → α → Prop) : σ → List α → Prop
  | _, [] => True
  | state, action :: rest =>
      ∀ next, step state action = some next →
        condition state action ∧ Every step condition next rest

instance Every.decidable (step : σ → α → Option σ) (condition : σ → α → Prop)
    [∀ state action, Decidable (condition state action)] :
    (state : σ) → (actions : List α) → Decidable (Every step condition state actions)
  | _, [] => isTrue trivial
  | state, action :: rest =>
      match stepped : step state action with
      | none => isTrue fun next contra => by simp [stepped] at contra
      | some next =>
          have := Every.decidable step condition next rest
          decidable_of_iff (condition state action ∧ Every step condition next rest)
            (by simp [Every, stepped])

/-- Every state that the actions pass through has the property. -/
def Always (step : σ → α → Option σ) (property : σ → Prop) : σ → List α → Prop
  | state, [] => property state
  | state, action :: rest =>
      property state ∧ ∀ next, step state action = some next →
        Always step property next rest

def observed {β : Type} (step : σ → α → Option σ) (observe : σ → α → σ → Option β) :
    σ → List α → List β
  | _, [] => []
  | state, action :: rest =>
      match step state action with
      | none => []
      | some next => (observe state action next).toList ++ observed step observe next rest

variable {step : σ → α → Option σ} {condition : σ → α → Prop} {property invariant : σ → Prop}

@[simp] theorem run_nil (state : σ) : run step state [] = some state := rfl

theorem run_cons (state : σ) (action : α) (rest : List α) :
    run step state (action :: rest) =
      (step state action).bind fun next => run step next rest := rfl

theorem run_append (state : σ) (first second : List α) :
    run step state (first ++ second) =
      (run step state first).bind fun middle => run step middle second := by
  induction first generalizing state with
  | nil => rfl
  | cons action rest ih =>
      simp only [List.cons_append, run_cons]
      cases step state action with
      | none => rfl
      | some next => simpa using ih next

theorem run_reached {state : σ} {actions : List α}
    (enabled : (run step state actions).isSome = true) :
    run step state actions = some (reached step state actions) := by
  obtain ⟨final, ran⟩ := Option.isSome_iff_exists.mp enabled
  simp [reached, ran]

theorem step_reached {state : σ} {action : α}
    (enabled : (run step state [action]).isSome = true) :
    step state action = some (reached step state [action]) := by
  obtain ⟨next, stepped, same⟩ := Option.bind_eq_some_iff.mp (run_reached enabled)
  rw [run_nil, Option.some.injEq] at same
  exact stepped.trans (congrArg some same)

theorem run_from_reached {state : σ} {first second : List α}
    (enabled : (run step state (first ++ second)).isSome = true) :
    run step state first = some (reached step state first) ∧
      run step (reached step state first) second = some (reached step state (first ++ second)) := by
  have whole := run_reached enabled
  rw [run_append, Option.bind_eq_some_iff] at whole
  obtain ⟨middle, ran, rest⟩ := whole
  have there : reached step state first = middle := by rw [reached, ran, Option.getD_some]
  rw [there]
  exact ⟨ran, rest⟩

theorem Always.here {state : σ} {actions : List α} (always : Always step property state actions) :
    property state := by
  cases actions with
  | nil => exact always
  | cons => exact always.1

theorem Always.at_end {state final : σ} {actions : List α}
    (always : Always step property state actions) (ran : run step state actions = some final) :
    property final := by
  induction actions generalizing state with
  | nil =>
      cases ran
      exact always
  | cons action rest ih =>
      rw [run_cons, Option.bind_eq_some_iff] at ran
      obtain ⟨next, stepped, ran⟩ := ran
      exact ih (always.2 next stepped) ran

theorem Every.imp {weaker : σ → α → Prop}
    (implies : ∀ state action, condition state action → weaker state action) {state : σ}
    {actions : List α} (every : Every step condition state actions) :
    Every step weaker state actions := by
  induction actions generalizing state with
  | nil => trivial
  | cons action rest ih =>
      intro next stepped
      obtain ⟨here, later⟩ := every next stepped
      exact ⟨implies state action here, ih later⟩

theorem Every.after_run {before after : List α} {action : α} {state middle next : σ}
    (every : Every step condition state (before ++ action :: after))
    (ran : run step state before = some middle) (stepped : step middle action = some next) :
    condition middle action := by
  induction before generalizing state with
  | nil =>
      cases ran
      exact (every next stepped).1
  | cons first rest ih =>
      rw [run_cons, Option.bind_eq_some_iff] at ran
      obtain ⟨second, here, ran⟩ := ran
      exact ih (every second here).2 ran

theorem Every.suffix {first second : List α} {state middle : σ}
    (every : Every step condition state (first ++ second))
    (ran : run step state first = some middle) : Every step condition middle second := by
  induction first generalizing state with
  | nil =>
      cases ran
      exact every
  | cons action rest ih =>
      rw [run_cons, Option.bind_eq_some_iff] at ran
      obtain ⟨next, stepped, ran⟩ := ran
      exact ih (every next stepped).2 ran

theorem Every.imp_of_invariant {weaker : σ → α → Prop} (invariant : σ → Prop)
    (preserved : ∀ state action next, invariant state → condition state action →
      step state action = some next → invariant next)
    (implies : ∀ state action, invariant state → condition state action → weaker state action)
    {state : σ} {actions : List α} (start : invariant state)
    (every : Every step condition state actions) : Every step weaker state actions := by
  induction actions generalizing state with
  | nil => trivial
  | cons action rest ih =>
      intro next stepped
      obtain ⟨here, later⟩ := every next stepped
      exact ⟨implies state action start here, ih (preserved state action next start here stepped) later⟩

theorem run_invariant
    (preserved : ∀ state action next, invariant state → condition state action →
      step state action = some next → invariant next)
    {state final : σ} {actions : List α} (start : invariant state)
    (met : Every step condition state actions) (ran : run step state actions = some final) :
    invariant final := by
  induction actions generalizing state with
  | nil =>
      cases ran
      exact start
  | cons action rest ih =>
      rw [run_cons, Option.bind_eq_some_iff] at ran
      obtain ⟨next, stepped, ran⟩ := ran
      obtain ⟨ok, met⟩ := met next stepped
      exact ih (preserved state action next start ok stepped) met ran

theorem run_preserves
    (preserved : ∀ state action next, invariant state →
      step state action = some next → invariant next)
    {state final : σ} {actions : List α} (start : invariant state)
    (ran : run step state actions = some final) : invariant final := by
  induction actions generalizing state with
  | nil =>
      cases ran
      exact start
  | cons action rest ih =>
      rw [run_cons, Option.bind_eq_some_iff] at ran
      obtain ⟨next, stepped, ran⟩ := ran
      exact ih (preserved state action next start stepped) ran

theorem observed_preserves {β : Type} {observe : σ → α → σ → Option β}
    {invariant : List β → σ → Prop}
    (preserved : ∀ seen state action next, invariant seen state →
      step state action = some next → invariant (seen ++ (observe state action next).toList) next)
    {seen : List β} {state final : σ} {actions : List α} (start : invariant seen state)
    (ran : run step state actions = some final) :
    invariant (seen ++ observed step observe state actions) final := by
  induction actions generalizing seen state with
  | nil =>
      cases ran
      simpa [observed] using start
  | cons action rest ih =>
      rw [run_cons, Option.bind_eq_some_iff] at ran
      obtain ⟨next, stepped, ran⟩ := ran
      have later := ih (preserved seen state action next start stepped) ran
      rw [List.append_assoc] at later
      simpa only [observed, stepped] using later

theorem observed_append {β : Type} {observe : σ → α → σ → Option β} {state middle : σ}
    {first second : List α} (ran : run step state first = some middle) :
    observed step observe state (first ++ second) =
      observed step observe state first ++ observed step observe middle second := by
  induction first generalizing state with
  | nil =>
      cases ran
      rfl
  | cons action rest ih =>
      rw [run_cons, Option.bind_eq_some_iff] at ran
      obtain ⟨next, stepped, ran⟩ := ran
      simp only [List.cons_append, observed, stepped, ih ran, List.append_assoc]

theorem observed_bounded {β : Type} {observe : σ → α → σ → Option β} {bounded : σ → Nat → Prop}
    (preserved : ∀ state action next left, bounded state left → condition state action →
      step state action = some next →
      ∃ later, bounded next later ∧ later + (observe state action next).toList.length ≤ left)
    {state final : σ} {actions : List α} {left : Nat} (start : bounded state left)
    (met : Every step condition state actions) (ran : run step state actions = some final) :
    ∃ later, bounded final later ∧
      later + (observed step observe state actions).length ≤ left := by
  induction actions generalizing state left with
  | nil =>
      cases ran
      exact ⟨left, start, Nat.le_refl left⟩
  | cons action rest ih =>
      rw [run_cons, Option.bind_eq_some_iff] at ran
      obtain ⟨next, stepped, ran⟩ := ran
      obtain ⟨ok, met⟩ := met next stepped
      obtain ⟨middle, bounded', spent⟩ := preserved state action next left start ok stepped
      obtain ⟨later, bounded'', spent'⟩ := ih bounded' met ran
      refine ⟨later, bounded'', ?_⟩
      simp only [observed, stepped, List.length_append]
      omega

theorem always_of_every
    (preserved : ∀ state action next, invariant state → condition state action →
      step state action = some next → invariant next)
    (implies : ∀ state, invariant state → property state)
    {state : σ} {actions : List α} (start : invariant state)
    (met : Every step condition state actions) : Always step property state actions := by
  induction actions generalizing state with
  | nil => exact implies state start
  | cons action rest ih =>
      refine ⟨implies state start, fun next stepped => ?_⟩
      obtain ⟨ok, met⟩ := met next stepped
      exact ih (preserved state action next start ok stepped) met

theorem always_of_preserved
    (preserved : ∀ state action next, invariant state →
      step state action = some next → invariant next)
    (implies : ∀ state, invariant state → property state)
    {state : σ} {actions : List α} (start : invariant state) :
    Always step property state actions := by
  induction actions generalizing state with
  | nil => exact implies state start
  | cons action rest ih =>
      exact ⟨implies state start, fun next stepped => ih (preserved state action next start stepped)⟩

/-- Where a step keeps the property exactly when it meets the condition, so does a run. -/
theorem always_iff_every (invariant : σ → Prop)
    (preserved : ∀ state action next, invariant state →
      step state action = some next → invariant next)
    (exact_step : ∀ state action next, invariant state → property state →
      step state action = some next → (property next ↔ condition state action))
    {state : σ} {actions : List α} (start : invariant state) (holds : property state) :
    Always step property state actions ↔ Every step condition state actions := by
  induction actions generalizing state with
  | nil => exact ⟨fun _ => trivial, fun _ => holds⟩
  | cons action rest ih =>
      constructor
      · intro always next stepped
        have later := always.2 next stepped
        have kept := later.here
        have inv := preserved state action next start stepped
        exact ⟨(exact_step state action next start holds stepped).mp kept, (ih inv kept).mp later⟩
      · intro met
        refine ⟨holds, fun next stepped => ?_⟩
        obtain ⟨ok, later⟩ := met next stepped
        have kept := (exact_step state action next start holds stepped).mpr ok
        exact (ih (preserved state action next start stepped) kept).mpr later

theorem observed_nodup {β κ : Type} {observe : σ → α → σ → Option β} (key : β → κ)
    (known : σ → κ → Prop)
    (preserved : ∀ state action next, invariant state →
      step state action = some next → invariant next)
    (kept : ∀ state action next, invariant state → step state action = some next →
      ∀ k, known state k → known next k)
    (fresh : ∀ state action next b, invariant state → step state action = some next →
      observe state action next = some b → ¬ known state (key b) ∧ known next (key b))
    {state : σ} (start : invariant state) (actions : List α) :
    ((observed step observe state actions).map key).Nodup ∧
      ∀ b ∈ observed step observe state actions, ¬ known state (key b) := by
  induction actions generalizing state with
  | nil => exact ⟨List.nodup_nil, by simp [observed]⟩
  | cons action rest ih =>
      unfold observed
      cases stepped : step state action with
      | none => exact ⟨List.nodup_nil, by simp⟩
      | some next =>
          obtain ⟨nodup, unknown⟩ := ih (preserved state action next start stepped)
          have later : ∀ b ∈ observed step observe next rest, ¬ known state (key b) :=
            fun b member before => unknown b member (kept state action next start stepped _ before)
          simp only
          cases shown : observe state action next with
          | none => exact ⟨nodup, later⟩
          | some b =>
              obtain ⟨before, after⟩ := fresh state action next b start stepped shown
              simp only [Option.toList_some, List.singleton_append, List.map_cons, List.nodup_cons,
                List.mem_cons, forall_eq_or_imp]
              refine ⟨⟨?_, nodup⟩, before, later⟩
              intro again
              obtain ⟨other, member, same⟩ := List.mem_map.mp again
              exact unknown other member (same ▸ after)

end ZenPass.Transition
