import Mathlib.Tactic.Common

set_option autoImplicit false

namespace ZenPass.Draw

variable {β ε α γ : Type}

inductive Stop (ε : Type) where
  | waiting
  | thrown (error : ε)
  deriving DecidableEq

abbrev Drawing (β ε α : Type) := StateT (List β) (Except (Stop ε)) α

theorem run_bind_eq_ok {first : Drawing β ε α} {next : α → Drawing β ε γ} {values : List β}
    {result : γ × List β} :
    (first >>= next).run values = .ok result ↔
      ∃ value rest, first.run values = .ok (value, rest) ∧ (next value).run rest = .ok result := by
  rw [StateT.run_bind]
  cases first.run values with
  | error stop => simp [bind, Except.bind]
  | ok drawn =>
    obtain ⟨value, rest⟩ := drawn
    simp [bind, Except.bind]

-- The values of a stream from one position up to another
def segment (stream : Nat → β) (start stop : Nat) : List β :=
  (List.range' start (stop - start)).map stream

@[simp] theorem segment_self (stream : Nat → β) (start : Nat) : segment stream start start = [] := by
  simp [segment]

theorem segment_append (stream : Nat → β) {start middle stop : Nat} (le : start ≤ middle)
    (le' : middle ≤ stop) :
    segment stream start middle ++ segment stream middle stop = segment stream start stop := by
  have first : middle = start + (middle - start) := by omega
  have lengths : stop - start = (middle - start) + (stop - middle) := by omega
  rw [segment, segment, segment, ← List.map_append, lengths, ← List.range'_append_1, ← first]

theorem segment_cons (stream : Nat → β) {start stop : Nat} (less : start < stop) :
    segment stream start stop = stream start :: segment stream (start + 1) stop := by
  have lengths : stop - start = (stop - (start + 1)) + 1 := by omega
  rw [segment, lengths, List.range'_succ, List.map_cons, segment]

/-- From every position of the stream the computation returns a value with the property after finitely
many values, and leaves those behind them untouched. -/
def Ends (stream : Nat → β) (draw : Drawing β ε α) (property : α → Prop) : Prop :=
  ∀ start, ∃ value stop, start ≤ stop ∧ property value ∧
    ∀ rest, draw.run (segment stream start stop ++ rest) = .ok (value, rest)

variable {stream : Nat → β} {property : α → Prop}

theorem Ends.pure {value : α} (holds : property value) :
    Ends stream (pure value : Drawing β ε α) property := by
  intro start
  refine ⟨value, start, Nat.le_refl _, holds, ?_⟩
  intro rest
  rw [segment_self]
  rfl

theorem Ends.bind {draw : Drawing β ε α} {next : α → Drawing β ε γ} {later : γ → Prop}
    (ends : Ends stream draw property) (follows : ∀ value, property value → Ends stream (next value) later) :
    Ends stream (draw >>= next) later := by
  intro start
  obtain ⟨value, middle, le, holds, ran⟩ := ends start
  obtain ⟨result, stop, le', holds', ran'⟩ := follows value holds middle
  refine ⟨result, stop, Nat.le_trans le le', holds', ?_⟩
  intro rest
  rw [← segment_append stream le le', List.append_assoc, run_bind_eq_ok]
  exact ⟨value, _, ran _, ran' rest⟩

theorem Ends.imp {draw : Drawing β ε α} {weaker : α → Prop} (ends : Ends stream draw property)
    (implies : ∀ value, property value → weaker value) : Ends stream draw weaker := by
  intro start
  obtain ⟨value, stop, le, holds, ran⟩ := ends start
  exact ⟨value, stop, le, implies value holds, ran⟩

def Fair (stream : Nat → β) : Prop := ∀ value start, ∃ n, start ≤ n ∧ stream n = value

-- Rejection: values are drawn until one is accepted.
def accepted (accept : β → Option α) : List β → Except (Stop ε) (α × List β)
  | [] => .error .waiting
  | value :: rest =>
    match accept value with
    | some result => .ok (result, rest)
    | none => accepted accept rest

theorem accepted_ends {accept : β → Option α} (fair : Fair stream) {value : β}
    (accepts : (accept value).isSome = true) :
    Ends stream (accepted accept : Drawing β ε α) fun result => ∃ drawn, accept drawn = some result := by
  intro start
  obtain ⟨n, le, here⟩ := fair value start
  -- by the distance to a value that is accepted
  obtain ⟨distance, rfl⟩ := Nat.exists_eq_add_of_le le
  induction distance generalizing start with
  | zero =>
    obtain ⟨result, same⟩ := Option.isSome_iff_exists.mp accepts
    refine ⟨result, start + 1, Nat.le_succ _, ⟨value, same⟩, ?_⟩
    intro rest
    rw [Nat.add_zero] at here
    rw [segment_cons stream (Nat.lt_succ_self _), here, segment_self]
    simp only [StateT.run, List.cons_append, accepted, same, List.nil_append]
  | succ distance ih =>
    cases first : accept (stream start) with
    | some result =>
      refine ⟨result, start + 1, Nat.le_succ _, ⟨_, first⟩, ?_⟩
      intro rest
      rw [segment_cons stream (Nat.lt_succ_self _), segment_self]
      simp only [StateT.run, List.cons_append, accepted, first, List.nil_append]
    | none =>
      have nearer : start + (distance + 1) = (start + 1) + distance := by omega
      obtain ⟨result, stop, le', holds, ran⟩ := ih (start + 1) (by omega) (nearer ▸ here)
      refine ⟨result, stop, by omega, holds, ?_⟩
      intro rest
      rw [segment_cons stream (by omega)]
      simp only [StateT.run, List.cons_append, accepted, first]
      exact ran rest

theorem accepted_eq_ok {accept : β → Option α} {values rest : List β} {result : α}
    (ran : (accepted accept values : Except (Stop ε) (α × List β)) = .ok (result, rest)) :
    ∃ value ∈ values, accept value = some result := by
  induction values with
  | nil => cases ran
  | cons value values ih =>
    rw [accepted] at ran
    cases first : accept value with
    | some found =>
      rw [first] at ran
      cases ran
      exact ⟨value, List.mem_cons_self, first⟩
    | none =>
      rw [first] at ran
      obtain ⟨later, member, same⟩ := ih ran
      exact ⟨later, List.mem_cons_of_mem _ member, same⟩

end ZenPass.Draw
