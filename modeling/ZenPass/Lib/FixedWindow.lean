import Mathlib.Data.Option.Basic

set_option autoImplicit false

namespace ZenPass.FixedWindow

structure Counter where
  count : Nat
  windowEnd : Nat
deriving DecidableEq, Repr

def evict (counter : Option Counter) (now : Nat) : Option Counter :=
  counter.filter fun counter => decide (now < counter.windowEnd)

def attempt (counter : Option Counter) (now window : Nat) : Counter :=
  match evict counter now with
  | none => ⟨1, now + window⟩
  | some counter => { counter with count := counter.count + 1 }

def admits (counter : Option Counter) (now window max start : Nat) : Nat :=
  if start ≤ now ∧ now < start + window ∧ (attempt counter now window).count ≤ max then 1 else 0

theorem evict_eq_some {counter : Option Counter} {now : Nat} {live : Counter} :
    evict counter now = some live ↔ counter = some live ∧ now < live.windowEnd := by
  simp [evict, Option.filter_eq_some_iff]

/-- How many the span has admitted, against the counter at the last reading of the clock: the span has
ended, or its second window is open, or at most one window has counted in it. `base` is what other
counters have admitted. -/
structure Spent (window max start base admitted now : Nat) (counter : Option Counter) : Prop where
  recent : ∀ live, counter = some live → live.windowEnd ≤ now + window
  before : now < start → admitted = 0
  spent : (start + window ≤ now ∧ admitted ≤ base + 2 * max) ∨
    (∃ live, counter = some live ∧ start + window ≤ live.windowEnd ∧
      admitted ≤ base + max + min live.count max) ∨
    (admitted ≤ base + max ∧ ∀ live, counter = some live → live.windowEnd < start + window →
      admitted ≤ base + min live.count max)

section Spent

variable {window max start base admitted now later : Nat} {counter : Option Counter}

theorem spent_initial
    (recent : ∀ live, counter = some live → live.windowEnd ≤ now + window) :
    Spent window max start 0 0 now counter where
  recent := recent
  before _ := rfl
  spent := .inr (.inr ⟨Nat.zero_le _, fun _ _ _ => Nat.zero_le _⟩)

theorem Spent.le (spent : Spent window max start base admitted now counter) :
    admitted ≤ base + 2 * max := by
  rcases spent.spent with ⟨-, bound⟩ | ⟨live, -, -, bound⟩ | ⟨bound, -⟩ <;> omega

theorem Spent.wait (spent : Spent window max start base admitted now counter) (order : now ≤ later) :
    Spent window max start base admitted later counter where
  recent live found := by
    have bound := spent.recent live found
    omega
  before early := spent.before (by omega)
  spent := spent.spent.imp_left fun past => ⟨by omega, past.2⟩

theorem Spent.evict (spent : Spent window max start base admitted now counter) :
    Spent window max start base admitted now (evict counter now) where
  recent live found := spent.recent live (evict_eq_some.mp found).1
  before := spent.before
  spent := by
    rcases spent.spent with past | ⟨live, found, second, bound⟩ | ⟨bound, first⟩
    · exact .inl past
    · by_cases expired : now < live.windowEnd
      · exact .inr (.inl ⟨live, evict_eq_some.mpr ⟨found, expired⟩, second, bound⟩)
      · exact .inl ⟨by omega, by omega⟩
    · exact .inr (.inr ⟨bound, fun live found => first live (evict_eq_some.mp found).1⟩)

theorem Spent.reset (spent : Spent window max start base admitted now counter) :
    Spent window max start (base + max) admitted now none where
  recent _ found := by cases found
  before := spent.before
  spent := by
    have bound := spent.le
    exact .inr (.inr ⟨by omega, by simp⟩)

theorem Spent.attempt (spent : Spent window max start base admitted now counter) :
    Spent window max start base (admitted + admits counter now window max start) now
      (some (attempt counter now window)) := by
  have evicted := spent.evict
  have once : admits counter now window max start ≤ 1 := by
    unfold admits
    split <;> omega
  have outside : ¬(start ≤ now ∧ now < start + window) →
      admits counter now window max start = 0 := by
    intro apart
    exact if_neg fun inside => apart ⟨inside.1, inside.2.1⟩
  have within : max < (FixedWindow.attempt counter now window).count →
      admits counter now window max start = 0 := by
    intro above
    exact if_neg fun inside => by omega
  have early : now < start → admitted + admits counter now window max start = 0 := by
    intro early
    rw [spent.before early, outside (by omega)]
  cases live : FixedWindow.evict counter now with
  | none =>
      rw [live] at evicted
      have opened : FixedWindow.attempt counter now window = ⟨1, now + window⟩ := by
        rw [FixedWindow.attempt, live]
      rw [opened] at within ⊢
      refine ⟨fun _ found => (by cases found; exact Nat.le_refl _), early, ?_⟩
      rcases evicted.spent with ⟨past, bound⟩ | ⟨_, found, -⟩ | ⟨bound, -⟩
      · exact .inl ⟨past, by rw [outside (by omega)]; exact bound⟩
      · cases found
      · by_cases ahead : now < start
        · rw [early ahead]
          exact .inr (.inr ⟨Nat.zero_le _, fun _ _ _ => Nat.zero_le _⟩)
        · exact .inr (.inl ⟨_, rfl, by simp only; omega, by simp only at within ⊢; omega⟩)
  | some window' =>
      rw [live] at evicted
      have counted : FixedWindow.attempt counter now window =
          { window' with count := window'.count + 1 } := by
        rw [FixedWindow.attempt, live]
      rw [counted] at within ⊢
      refine ⟨fun _ found => (by cases found; exact evicted.recent window' rfl), early, ?_⟩
      rcases evicted.spent with ⟨past, bound⟩ | ⟨_, ⟨⟩, second, bound⟩ | ⟨bound, first⟩
      · exact .inl ⟨past, by rw [outside (by omega)]; exact bound⟩
      · exact .inr (.inl ⟨_, rfl, second, by simp only at within ⊢; omega⟩)
      · by_cases last : window'.windowEnd < start + window
        · have bound := first window' rfl last
          refine .inr (.inr ⟨by simp only at within; omega, ?_⟩)
          rintro _ ⟨⟩ -
          simp only at within ⊢
          omega
        · exact .inr (.inl ⟨_, rfl, by simp only; omega, by simp only at within ⊢; omega⟩)

theorem attempt_fresh (closed : ∀ live, counter = some live → live.windowEnd ≤ now) :
    attempt counter now window = ⟨1, now + window⟩ := by
  have gone : FixedWindow.evict counter now = none := by
    cases live : FixedWindow.evict counter now with
    | none => rfl
    | some open_ =>
        obtain ⟨found, ahead⟩ := evict_eq_some.mp live
        have bound := closed open_ found
        omega
  rw [FixedWindow.attempt, gone]

end Spent

end ZenPass.FixedWindow
