import Mathlib.Data.List.Perm.Basic
import Mathlib.Logic.Function.Basic
import ZenPass.Lib.Transition

set_option autoImplicit false

-- An object answers each call as if it had run alone, at one moment between the call and its
-- answer. A call whose answer is `none` has been given up, and has run at no moment.

namespace ZenPass.Linearizability

open Transition

variable {T ρ α σ : Type}

inductive Event (T ρ α : Type) where
  | call (t : T) (request : ρ)
  | ret (t : T) (answer : Option α)
deriving DecidableEq, Repr

structure Operation (ρ α : Type) where
  request : ρ
  answer : α
  called : Nat
  returned : Nat
deriving DecidableEq, Repr

structure Log (T ρ α : Type) where
  clock : Nat
  calls : T → Option (Nat × ρ)
  operations : List (Operation ρ α)

def Log.empty : Log T ρ α := ⟨0, fun _ => none, []⟩

section Log

variable [DecidableEq T]

def Log.record (log : Log T ρ α) : Event T ρ α → Log T ρ α
  | .call t request =>
      { log with
        clock := log.clock + 1
        calls := Function.update log.calls t (some (log.clock, request)) }
  | .ret t answer =>
      { clock := log.clock + 1
        calls := Function.update log.calls t none
        operations := log.operations ++
          ((log.calls t).bind fun (called, request) => answer.map fun answer =>
            ⟨request, answer, called, log.clock⟩).toList }

def operations (history : List (Event T ρ α)) : List (Operation ρ α) :=
  (history.foldl Log.record Log.empty).operations

end Log

variable (apply : σ → ρ → σ × α)

/-- One at a time and in this order, the operations give their answers and lead to `final`. -/
def Replays : σ → List (Operation ρ α) → σ → Prop
  | state, [], final => state = final
  | state, operation :: rest, final =>
      ∃ next, apply state operation.request = (next, operation.answer) ∧ Replays next rest final

/-- No operation is ordered before one that was answered before it was called. -/
def RealTime (order : List (Operation ρ α)) : Prop :=
  order.Pairwise fun first second => ¬ second.returned < first.called

def Linearizable [DecidableEq T] (initial : σ) (history : List (Event T ρ α)) (final : σ) : Prop :=
  ∃ order, order.Perm (operations history) ∧ Replays apply initial order final ∧ RealTime order

variable {apply}

section Replays

variable {initial middle final : σ} {first second : List (Operation ρ α)} {operation : Operation ρ α}

theorem replays_append : Replays apply initial (first ++ second) final ↔
    ∃ middle, Replays apply initial first middle ∧ Replays apply middle second final := by
  induction first generalizing initial with
  | nil => simp [Replays]
  | cons operation rest ih =>
      simp only [List.cons_append, Replays, ih]
      constructor
      · rintro ⟨next, applied, middle, earlier, later⟩
        exact ⟨middle, ⟨next, applied, earlier⟩, later⟩
      · rintro ⟨middle, ⟨next, applied, earlier⟩, later⟩
        exact ⟨next, applied, middle, earlier, later⟩

theorem Replays.snoc (earlier : Replays apply initial first middle)
    (applied : apply middle operation.request = (final, operation.answer)) :
    Replays apply initial (first ++ [operation]) final :=
  replays_append.mpr ⟨middle, earlier, final, applied, rfl⟩

theorem Replays.unique (one : Replays apply initial first middle)
    (other : Replays apply initial first final) : middle = final := by
  induction first generalizing initial with
  | nil => exact Eq.trans (Eq.symm one) other
  | cons operation rest ih =>
      obtain ⟨next, applied, one⟩ := one
      obtain ⟨next', applied', other⟩ := other
      rw [applied, Prod.mk.injEq] at applied'
      obtain ⟨rfl, -⟩ := applied'
      exact ih one other

theorem Replays.insert (whole : Replays apply initial (first ++ second) final)
    (earlier : Replays apply initial first middle)
    (applied : apply middle operation.request = (middle, operation.answer)) :
    Replays apply initial (first ++ operation :: second) final := by
  obtain ⟨there, reached, later⟩ := replays_append.mp whole
  rw [earlier.unique reached] at applied
  exact replays_append.mpr ⟨there, reached, there, applied, later⟩

theorem RealTime.insert (whole : RealTime (first ++ second))
    (earlier : ∀ other ∈ first, other.called ≤ operation.returned)
    (later : ∀ other ∈ second, operation.called ≤ other.returned) :
    RealTime (first ++ operation :: second) := by
  unfold RealTime at whole ⊢
  rw [List.pairwise_append] at whole ⊢
  obtain ⟨left, right, across⟩ := whole
  refine ⟨left, List.pairwise_cons.mpr ⟨fun other member => ?_, right⟩, ?_⟩
  · exact Nat.not_lt.mpr (later other member)
  · rintro other member next there
    rcases List.mem_cons.mp there with rfl | there
    · exact Nat.not_lt.mpr (earlier other member)
    · exact across other member next there

end Replays

variable (apply) in
def Seen (initial : σ) (order : List (Operation ρ α)) (called : Nat) (request : ρ) (answer : α) :
    Prop :=
  ∃ earlier later state, order = earlier ++ later ∧ Replays apply initial earlier state ∧
    apply state request = (state, answer) ∧ ∀ operation ∈ later, called ≤ operation.returned

section Seen

variable {initial middle : σ} {order first second : List (Operation ρ α)}
  {operation : Operation ρ α} {called : Nat} {request : ρ} {answer : α}

theorem Seen.snoc (seen : Seen apply initial order called request answer)
    (overlaps : called ≤ operation.returned) :
    Seen apply initial (order ++ [operation]) called request answer := by
  obtain ⟨earlier, later, state, rfl, replays, applied, overlapping⟩ := seen
  refine ⟨earlier, later ++ [operation], state, by rw [List.append_assoc], replays, applied, ?_⟩
  intro other member
  rcases List.mem_append.mp member with old | new
  · exact overlapping other old
  · rw [List.mem_singleton.mp new]
    exact overlaps

theorem Seen.insert (seen : Seen apply initial (first ++ second) called request answer)
    (overlaps : called ≤ operation.returned) (reached : Replays apply initial first middle)
    (applied : apply middle operation.request = (middle, operation.answer)) :
    Seen apply initial (first ++ operation :: second) called request answer := by
  obtain ⟨earlier, later, state, split, replays, read, overlapping⟩ := seen
  rcases List.append_eq_append_iff.mp split with ⟨between, rfl, rfl⟩ | ⟨between, rfl, rfl⟩
  · exact ⟨first ++ operation :: between, later, state, by simp, replays.insert reached applied,
      read, overlapping⟩
  · refine ⟨earlier, between ++ operation :: second, state, by simp, replays, read, ?_⟩
    intro other member
    rcases List.mem_append.mp member with left | right
    · exact overlapping other (List.mem_append_left _ left)
    · rcases List.mem_cons.mp right with rfl | right
      · exact overlaps
      · exact overlapping other (List.mem_append_right _ right)

end Seen

/-- What matters of a state of the implementation. `seen` holds the answers that open calls have
already got, from reading a state that they leave as it is. -/
structure View (T ρ α σ : Type) where
  state : σ
  calls : T → Option ρ
  seen : T → Option α

variable (apply) in
/-- A call takes effect when it returns, or has read its answer before. -/
inductive Moves [DecidableEq T] (before after : View T ρ α σ) : Option (Event T ρ α) → Prop where
  | internal (state : after.state = before.state) (calls : after.calls = before.calls)
      (seen : ∀ t answer, after.seen t = some answer → before.seen t = some answer ∨
        ∃ request, before.calls t = some request ∧
          apply before.state request = (before.state, answer)) : Moves before after none
  | call (t : T) (request : ρ) (closed : before.calls t = none) (state : after.state = before.state)
      (calls : after.calls = Function.update before.calls t (some request))
      (seen : ∀ u answer, after.seen u = some answer → u ≠ t ∧ before.seen u = some answer) :
      Moves before after (some (.call t request))
  | effect (t : T) (request : ρ) (answer : α) (opened : before.calls t = some request)
      (applied : apply before.state request = (after.state, answer))
      (calls : after.calls = Function.update before.calls t none)
      (seen : ∀ u answer, after.seen u = some answer → u ≠ t ∧ before.seen u = some answer) :
      Moves before after (some (.ret t (some answer)))
  | answered (t : T) (answer : α) (known : before.seen t = some answer)
      (state : after.state = before.state)
      (calls : after.calls = Function.update before.calls t none)
      (seen : ∀ u answer, after.seen u = some answer → u ≠ t ∧ before.seen u = some answer) :
      Moves before after (some (.ret t (some answer)))
  | abandoned (t : T) (state : after.state = before.state)
      (calls : after.calls = Function.update before.calls t none)
      (seen : ∀ u answer, after.seen u = some answer → u ≠ t ∧ before.seen u = some answer) :
      Moves before after (some (.ret t none))

structure Linearized (apply : σ → ρ → σ × α) (initial : σ) (log : Log T ρ α)
    (view : View T ρ α σ) (order : List (Operation ρ α)) : Prop where
  perm : order.Perm log.operations
  replays : Replays apply initial order view.state
  realTime : RealTime order
  past : ∀ operation ∈ order, operation.called ≤ log.clock ∧ operation.returned ≤ log.clock
  calls : view.calls = fun t => (log.calls t).map Prod.snd
  called : ∀ t called request, log.calls t = some (called, request) → called ≤ log.clock
  seen : ∀ t answer, view.seen t = some answer → ∃ called request,
    log.calls t = some (called, request) ∧ Seen apply initial order called request answer

theorem linearized_empty {view : View T ρ α σ} (idle : view.calls = fun _ => none)
    (unseen : view.seen = fun _ => none) :
    Linearized apply view.state Log.empty view [] where
  perm := List.Perm.refl _
  replays := rfl
  realTime := List.Pairwise.nil
  past := by simp
  calls := idle
  called := by rintro _ _ _ ⟨⟩
  seen := by
    intro t answer read
    rw [unseen] at read
    cases read

section Steps

variable [DecidableEq T] {initial : σ} {log : Log T ρ α} {before after : View T ρ α σ}
  {order : List (Operation ρ α)} {t : T}

omit [DecidableEq T] in
theorem called_of_calls (linearized : Linearized apply initial log before order) {request : ρ}
    (opened : before.calls t = some request) : ∃ called, log.calls t = some (called, request) := by
  rw [linearized.calls, Option.map_eq_some_iff] at opened
  obtain ⟨⟨called, _⟩, found, rfl⟩ := opened
  exact ⟨called, found⟩

theorem map_update_calls (log : Log T ρ α) (t : T) (entry : Option (Nat × ρ)) :
    (fun u => (Function.update log.calls t entry u).map Prod.snd) =
      Function.update (fun u => (log.calls u).map Prod.snd) t (entry.map Prod.snd) := by
  funext u
  by_cases same : u = t
  · subst same
    simp
  · simp [same]

theorem called_update {log : Log T ρ α} {t : T} {entry : Option (Nat × ρ)}
    (each : ∀ t called request, log.calls t = some (called, request) → called ≤ log.clock)
    (mine : ∀ called request, entry = some (called, request) → called ≤ log.clock) (u : T)
    (called : Nat) (request : ρ)
    (found : Function.update log.calls t entry u = some (called, request)) :
    called ≤ log.clock + 1 := by
  by_cases same : u = t
  · subst same
    rw [Function.update_self] at found
    exact Nat.le_succ_of_le (mine called request found)
  · rw [Function.update_of_ne same] at found
    exact Nat.le_succ_of_le (each u called request found)

theorem seen_update {order' : List (Operation ρ α)} {t : T} {entry : Option (Nat × ρ)}
    (linearized : Linearized apply initial log before order)
    (known : ∀ u answer, after.seen u = some answer → u ≠ t ∧ before.seen u = some answer)
    (kept : ∀ called request answer, called ≤ log.clock →
      Seen apply initial order called request answer →
      Seen apply initial order' called request answer) (u : T) (answer : α)
    (read : after.seen u = some answer) : ∃ called request,
      Function.update log.calls t entry u = some (called, request) ∧
        Seen apply initial order' called request answer := by
  obtain ⟨other, old⟩ := known u answer read
  obtain ⟨called, request, found, place⟩ := linearized.seen u answer old
  refine ⟨called, request, ?_, kept called request answer (linearized.called u called request found)
    place⟩
  rw [Function.update_of_ne other]
  exact found

omit [DecidableEq T] in
theorem Linearized.internal (linearized : Linearized apply initial log before order)
    (state : after.state = before.state) (calls : after.calls = before.calls)
    (seen : ∀ t answer, after.seen t = some answer → before.seen t = some answer ∨
      ∃ request, before.calls t = some request ∧
        apply before.state request = (before.state, answer)) :
    Linearized apply initial log after order where
  perm := linearized.perm
  replays := state ▸ linearized.replays
  realTime := linearized.realTime
  past := linearized.past
  calls := calls.trans linearized.calls
  called := linearized.called
  seen t answer read := by
    rcases seen t answer read with old | ⟨request, opened, applied⟩
    · exact linearized.seen t answer old
    · -- The call could run now, after all that have been answered.
      obtain ⟨called, found⟩ := called_of_calls linearized opened
      exact ⟨called, request, found, order, [], before.state, by simp, linearized.replays, applied,
        by simp⟩

theorem Linearized.call (linearized : Linearized apply initial log before order) {request : ρ}
    (state : after.state = before.state)
    (calls : after.calls = Function.update before.calls t (some request))
    (seen : ∀ u answer, after.seen u = some answer → u ≠ t ∧ before.seen u = some answer) :
    Linearized apply initial (log.record (.call t request)) after order where
  perm := linearized.perm
  replays := state ▸ linearized.replays
  realTime := linearized.realTime
  past operation member :=
    ⟨Nat.le_succ_of_le (linearized.past operation member).1,
      Nat.le_succ_of_le (linearized.past operation member).2⟩
  calls := by
    rw [calls, linearized.calls]
    exact (map_update_calls log t (some (log.clock, request))).symm
  called := called_update linearized.called (by rintro _ _ ⟨⟩; exact Nat.le_refl _)
  seen := seen_update linearized seen fun _ _ _ _ place => place

theorem Linearized.returns (linearized : Linearized apply initial log before order)
    {earlier later : List (Operation ρ α)} (split : order = earlier ++ later) {called : Nat}
    {request : ρ} {answer : α} (found : log.calls t = some (called, request))
    (replays : Replays apply initial
      (earlier ++ ⟨request, answer, called, log.clock⟩ :: later) after.state)
    (overlaps : ∀ operation ∈ later, called ≤ operation.returned)
    (kept : ∀ called' request' answer', called' ≤ log.clock →
      Seen apply initial order called' request' answer' →
      Seen apply initial (earlier ++ ⟨request, answer, called, log.clock⟩ :: later) called' request'
        answer')
    (calls : after.calls = Function.update before.calls t none)
    (seen : ∀ u answer, after.seen u = some answer → u ≠ t ∧ before.seen u = some answer) :
    Linearized apply initial (log.record (.ret t (some answer))) after
      (earlier ++ ⟨request, answer, called, log.clock⟩ :: later) where
  perm := by
    have listed : (log.record (.ret t (some answer))).operations =
        log.operations ++ [⟨request, answer, called, log.clock⟩] := by
      simp [Log.record, found]
    rw [listed]
    have before := linearized.perm
    rw [split] at before
    exact (List.perm_middle.trans (before.cons _)).trans (List.perm_append_singleton _ _).symm
  replays := replays
  realTime := by
    have whole := linearized.realTime
    rw [split] at whole
    refine whole.insert (fun other member => ?_) overlaps
    exact (linearized.past other (by rw [split]; exact List.mem_append_left _ member)).1
  past := by
    intro operation member
    have old : ∀ other ∈ order,
        other.called ≤ log.clock + 1 ∧ other.returned ≤ log.clock + 1 := fun other there =>
      ⟨Nat.le_succ_of_le (linearized.past other there).1,
        Nat.le_succ_of_le (linearized.past other there).2⟩
    rw [split] at old
    rcases List.mem_append.mp member with left | right
    · exact old operation (List.mem_append_left _ left)
    · rcases List.mem_cons.mp right with rfl | right
      · exact ⟨Nat.le_succ_of_le (linearized.called t called request found), Nat.le_succ _⟩
      · exact old operation (List.mem_append_right _ right)
  calls := by
    rw [calls, linearized.calls]
    exact (map_update_calls log t none).symm
  called := called_update linearized.called (by rintro _ _ ⟨⟩)
  seen := seen_update linearized seen kept

theorem Linearized.effect (linearized : Linearized apply initial log before order) {request : ρ}
    {answer : α} (opened : before.calls t = some request)
    (applied : apply before.state request = (after.state, answer))
    (calls : after.calls = Function.update before.calls t none)
    (seen : ∀ u answer, after.seen u = some answer → u ≠ t ∧ before.seen u = some answer) :
    ∃ next, Linearized apply initial (log.record (.ret t (some answer))) after next := by
  obtain ⟨called, found⟩ := called_of_calls linearized opened
  exact ⟨_, linearized.returns (List.append_nil order).symm found (linearized.replays.snoc applied)
    (by simp) (fun _ _ _ early place => place.snoc early) calls seen⟩

theorem Linearized.answered (linearized : Linearized apply initial log before order) {answer : α}
    (known : before.seen t = some answer) (state : after.state = before.state)
    (calls : after.calls = Function.update before.calls t none)
    (seen : ∀ u answer, after.seen u = some answer → u ≠ t ∧ before.seen u = some answer) :
    ∃ next, Linearized apply initial (log.record (.ret t (some answer))) after next := by
  obtain ⟨called, request, found, earlier, later, middle, rfl, reached, applied, overlaps⟩ :=
    linearized.seen t answer known
  refine ⟨_, linearized.returns rfl found ?_ overlaps ?_ calls seen⟩
  · rw [state]
    exact linearized.replays.insert reached applied
  · exact fun _ _ _ early place => place.insert early reached applied

theorem Linearized.abandoned (linearized : Linearized apply initial log before order)
    (state : after.state = before.state)
    (calls : after.calls = Function.update before.calls t none)
    (seen : ∀ u answer, after.seen u = some answer → u ≠ t ∧ before.seen u = some answer) :
    Linearized apply initial (log.record (.ret t none)) after order where
  perm := by
    have listed : (log.record (.ret t none)).operations = log.operations := by
      simp [Log.record]
    rw [listed]
    exact linearized.perm
  replays := state ▸ linearized.replays
  realTime := linearized.realTime
  past operation member :=
    ⟨Nat.le_succ_of_le (linearized.past operation member).1,
      Nat.le_succ_of_le (linearized.past operation member).2⟩
  calls := by
    rw [calls, linearized.calls]
    exact (map_update_calls log t none).symm
  called := called_update linearized.called (by rintro _ _ ⟨⟩)
  seen := seen_update linearized seen fun _ _ _ _ place => place

theorem Linearized.moves (linearized : Linearized apply initial log before order)
    {event : Option (Event T ρ α)} (moves : Moves apply before after event) :
    ∃ next, Linearized apply initial (event.toList.foldl Log.record log) after next := by
  cases moves with
  | internal state calls seen => exact ⟨order, linearized.internal state calls seen⟩
  | call t request closed state calls seen => exact ⟨order, linearized.call state calls seen⟩
  | effect t request answer opened applied calls seen =>
      exact linearized.effect opened applied calls seen
  | answered t answer known state calls seen => exact linearized.answered known state calls seen
  | abandoned t state calls seen => exact ⟨order, linearized.abandoned state calls seen⟩

end Steps

section Runs

variable [DecidableEq T] {S A : Type} {step : S → A → Option S}
  {event : S → A → S → Option (Event T ρ α)} {view : S → View T ρ α σ}
  {invariant : S → Prop} {condition : S → A → Prop}

theorem linearized_run
    (preserved : ∀ state action next, invariant state → condition state action →
      step state action = some next → invariant next)
    (moves : ∀ state action next, invariant state → condition state action →
      step state action = some next →
      Moves apply (view state) (view next) (event state action next))
    {initial : σ} {log : Log T ρ α} {order : List (Operation ρ α)} {state final : S}
    {actions : List A} (start : invariant state)
    (linearized : Linearized apply initial log (view state) order)
    (met : Every step condition state actions) (ran : run step state actions = some final) :
    ∃ order, Linearized apply initial ((observed step event state actions).foldl Log.record log)
      (view final) order := by
  induction actions generalizing state log order with
  | nil =>
      cases ran
      exact ⟨order, linearized⟩
  | cons action rest ih =>
      rw [run_cons, Option.bind_eq_some_iff] at ran
      obtain ⟨next, stepped, ran⟩ := ran
      obtain ⟨ok, met⟩ := met next stepped
      obtain ⟨there, goesOn⟩ := linearized.moves (moves state action next start ok stepped)
      simp only [observed, stepped, List.foldl_append]
      exact ih (preserved state action next start ok stepped) goesOn met ran

theorem linearizable_of_moves
    (preserved : ∀ state action next, invariant state → condition state action →
      step state action = some next → invariant next)
    (moves : ∀ state action next, invariant state → condition state action →
      step state action = some next →
      Moves apply (view state) (view next) (event state action next))
    {state final : S} {actions : List A} (start : invariant state)
    (idle : (view state).calls = fun _ => none) (unseen : (view state).seen = fun _ => none)
    (met : Every step condition state actions) (ran : run step state actions = some final) :
    Linearizable apply (view state).state (observed step event state actions) (view final).state := by
  have begins : Linearized apply (view state).state Log.empty (view state) [] :=
    linearized_empty idle unseen
  obtain ⟨order, linearized⟩ := linearized_run preserved moves start begins met ran
  exact ⟨order, linearized.perm, linearized.replays, linearized.realTime⟩

end Runs

end ZenPass.Linearizability
