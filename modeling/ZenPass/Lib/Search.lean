import Mathlib.Tactic.Common

set_option autoImplicit false

namespace ZenPass.Search

variable {C M : Type} (hit : M → Prop) (next : C → M → Option C) (measured : Nat → M) (start : C)

/-- The candidate of the measurement with that number, if the search gets there. -/
inductive Reached : Nat → C → Prop
  | first : Reached 0 start
  | later {n : Nat} {candidate following : C} :
    Reached n candidate → ¬hit (measured n) → next candidate (measured n) = some following →
    Reached (n + 1) following

variable {hit next measured start}

theorem Reached.unique {n : Nat} {candidate other : C}
    (reached : Reached hit next measured start n candidate)
    (reached' : Reached hit next measured start n other) : candidate = other := by
  induction reached generalizing other with
  | first =>
    cases reached'
    rfl
  | later _ _ follows ih =>
    cases reached' with
    | later earlier _ follows' =>
      obtain rfl := ih earlier
      exact Option.some.inj (follows.symm.trans follows')

theorem Reached.before {n earlier : Nat} {candidate : C}
    (reached : Reached hit next measured start n candidate) (before : earlier < n) :
    ∃ passed following, Reached hit next measured start earlier passed ∧ ¬hit (measured earlier) ∧
      next passed (measured earlier) = some following := by
  induction reached with
  | first => omega
  | @later n candidate following previous missed follows ih =>
    rcases Nat.lt_succ_iff_lt_or_eq.mp before with less | rfl
    · exact ih less
    · exact ⟨candidate, following, previous, missed, follows⟩

theorem Reached.hit_unique {n m : Nat} {candidate other : C}
    (reached : Reached hit next measured start n candidate) (here : hit (measured n))
    (reached' : Reached hit next measured start m other) (there : hit (measured m)) :
    n = m ∧ candidate = other := by
  have le (k l : Nat) (last : C) (hits : hit (measured k))
      (later : Reached hit next measured start l last) : ¬k < l := by
    intro before
    obtain ⟨_, _, _, missed, _⟩ := later.before before
    exact missed hits
  have same : n = m := Nat.le_antisymm (Nat.not_lt.mp (le m n candidate there reached))
    (Nat.not_lt.mp (le n m other here reached'))
  subst same
  exact ⟨rfl, reached.unique reached'⟩

theorem Reached.ends {n m : Nat} {candidate other : C}
    (reached : Reached hit next measured start n candidate) (missed : ¬hit (measured n))
    (last : next candidate (measured n) = none)
    (reached' : Reached hit next measured start m other) : ¬hit (measured m) := by
  rcases Nat.lt_trichotomy m n with less | rfl | more
  · obtain ⟨_, _, _, missed', _⟩ := reached.before less
    exact missed'
  · exact missed
  · obtain ⟨passed, following, there, _, follows⟩ := reached'.before more
    obtain rfl := reached.unique there
    rw [last] at follows
    cases follows

theorem Reached.invariant {property : C → Prop} (initially : property start)
    (kept : ∀ candidate following measurement, property candidate →
      next candidate measurement = some following → property following)
    {n : Nat} {candidate : C} (reached : Reached hit next measured start n candidate) :
    property candidate := by
  induction reached with
  | first => exact initially
  | later _ _ follows ih => exact kept _ _ _ ih follows

end ZenPass.Search
