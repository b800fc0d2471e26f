import Mathlib.Logic.Function.Basic
import Mathlib.Tactic.Common

set_option autoImplicit false

-- A row has one committed version and at most one open transaction that locks it. The lock carries
-- the version the owner sees and publishes when it commits.

namespace ZenPass.ReadCommitted

structure Slot (T V : Type) where
  committed : Option V := none
  lock : Option (T × Option V) := none
deriving DecidableEq

namespace Slot

variable {T V : Type} [DecidableEq T]

/-- The version a new statement of `tx` sees: its own one, else the committed one. -/
def view (slot : Slot T V) (tx : T) : Option V :=
  match slot.lock with
  | some (owner, version) => if owner = tx then version else slot.committed
  | none => slot.committed

/-- No other open transaction holds the row, so a statement of `tx` need not wait. -/
def available (slot : Slot T V) (tx : T) : Bool :=
  match slot.lock with
  | some (owner, _) => decide (owner = tx)
  | none => true

def hold (slot : Slot T V) (tx : T) (version : Option V) : Slot T V :=
  { slot with lock := some (tx, version) }

def finish (slot : Slot T V) (tx : T) (outcome : Option V → Option V → Option V) : Slot T V :=
  match slot.lock with
  | some (owner, version) =>
      if owner = tx then { committed := outcome version slot.committed } else slot
  | none => slot

def commit (slot : Slot T V) (tx : T) : Slot T V := slot.finish tx fun version _ => version

def abort (slot : Slot T V) (tx : T) : Slot T V := slot.finish tx fun _ committed => committed

omit [DecidableEq T] in
@[simp] theorem hold_committed (slot : Slot T V) (tx : T) (version : Option V) :
    (slot.hold tx version).committed = slot.committed := rfl

omit [DecidableEq T] in
@[simp] theorem hold_lock (slot : Slot T V) (tx : T) (version : Option V) :
    (slot.hold tx version).lock = some (tx, version) := rfl

@[simp] theorem abort_committed (slot : Slot T V) (tx : T) :
    (slot.abort tx).committed = slot.committed := by
  unfold abort finish
  split
  · split <;> rfl
  · rfl

theorem available_iff (slot : Slot T V) (tx : T) :
    slot.available tx = true ↔ ∀ owner version, slot.lock = some (owner, version) → owner = tx := by
  unfold available
  cases slot.lock with
  | none => simp
  | some lock =>
      obtain ⟨owner, version⟩ := lock
      simp

theorem view_of_unlocked (slot : Slot T V) (tx : T)
    (free : ∀ version, slot.lock ≠ some (tx, version)) : slot.view tx = slot.committed := by
  unfold view
  cases held : slot.lock with
  | none => rfl
  | some lock =>
      obtain ⟨owner, version⟩ := lock
      by_cases same : owner = tx
      · subst same
        exact absurd held (free version)
      · simp [same]

theorem commit_of_locked (slot : Slot T V) (tx : T) (version : Option V)
    (held : slot.lock = some (tx, version)) : slot.commit tx = { committed := version } := by
  simp [commit, finish, held]

theorem commit_of_unlocked (slot : Slot T V) (tx : T)
    (free : ∀ version, slot.lock ≠ some (tx, version)) : slot.commit tx = slot := by
  unfold commit finish
  cases held : slot.lock with
  | none => rfl
  | some lock =>
      obtain ⟨owner, version⟩ := lock
      by_cases same : owner = tx
      · subst same
        exact absurd held (free version)
      · simp [same]

theorem finish_lock (slot : Slot T V) (tx owner : T) (version : Option V)
    (outcome : Option V → Option V → Option V) :
    (slot.finish tx outcome).lock = some (owner, version) ↔
      slot.lock = some (owner, version) ∧ owner ≠ tx := by
  unfold finish
  cases held : slot.lock with
  | none => simp [held]
  | some lock =>
      obtain ⟨holder, working⟩ := lock
      by_cases same : holder = tx
      · simp only [same, if_true, Option.some.injEq, Prod.mk.injEq]
        constructor
        · intro contra
          cases contra
        · rintro ⟨⟨rfl, -⟩, different⟩
          exact absurd rfl different
      · simp only [same, if_false, held, Option.some.injEq, Prod.mk.injEq]
        constructor
        · rintro ⟨rfl, rfl⟩
          exact ⟨⟨rfl, rfl⟩, same⟩
        · exact And.left

end Slot

abbrev Table (K T V : Type) := K → Slot T V

namespace Table

variable {K T V : Type} [DecidableEq K] [DecidableEq T]

def hold (table : Table K T V) (key : K) (tx : T) (version : Option V) : Table K T V :=
  Function.update table key ((table key).hold tx version)

def commit (table : Table K T V) (tx : T) : Table K T V := fun key => (table key).commit tx

def abort (table : Table K T V) (tx : T) : Table K T V := fun key => (table key).abort tx

omit [DecidableEq T] in
@[simp] theorem hold_committed (table : Table K T V) (key other : K) (tx : T)
    (version : Option V) : (table.hold key tx version other).committed = (table other).committed := by
  unfold hold
  by_cases same : other = key
  · subst same
    simp
  · simp [same]

omit [DecidableEq T] in
theorem hold_lock (table : Table K T V) (key other : K) (tx : T) (version : Option V) :
    (table.hold key tx version other).lock =
      if other = key then some (tx, version) else (table other).lock := by
  unfold hold
  by_cases same : other = key
  · subst same
    simp
  · simp [same]

omit [DecidableEq K] in
@[simp] theorem abort_committed (table : Table K T V) (tx : T) (key : K) :
    (table.abort tx key).committed = (table key).committed := Slot.abort_committed _ _

def put (table : Table K T V) (key : K) (version : V) : Table K T V :=
  Function.update table key { committed := some version }

omit [DecidableEq T] in
theorem put_committed (table : Table K T V) (key other : K) (version : V) :
    (table.put key version other).committed =
      if other = key then some version else (table other).committed := by
  unfold put
  by_cases same : other = key
  · subst same
    simp
  · simp [same]

omit [DecidableEq T] in
theorem put_lock (table : Table K T V) (key other : K) (version : V)
    (free : (table key).lock = none) : (table.put key version other).lock = (table other).lock := by
  unfold put
  by_cases same : other = key
  · subst same
    simp [free]
  · simp [same]

end Table

-- `key` and `working` read from what a transaction is doing which row it holds and with which
-- version. `LocksOf` says that the lock table is exactly what the open transactions tell.

section Locks

variable {K T V X : Type} [DecidableEq K] [DecidableEq T]

def LocksOf (key : X → K) (working : X → Option (Option V)) (open_ : T → Option X)
    (table : Table K T V) : Prop :=
  ∀ k tx version, (table k).lock = some (tx, version) ↔
    ∃ x, open_ tx = some x ∧ key x = k ∧ working x = some version

variable {key : X → K} {working : X → Option (Option V)} {open_ : T → Option X}
  {table : Table K T V}

omit [DecidableEq K] in
theorem LocksOf.advance (locks : LocksOf key working open_ table) {tx : T} {x x' : X}
    (opened : open_ tx = some x) (same_key : key x' = key x) (same : working x' = working x) :
    LocksOf key working (Function.update open_ tx (some x')) table := by
  intro k owner version
  rw [locks k owner version]
  by_cases mine : owner = tx
  · subst mine
    simp [opened, same_key, same]
  · simp [mine]

omit [DecidableEq K] in
theorem LocksOf.start (locks : LocksOf key working open_ table) {tx : T} {x : X}
    (closed : open_ tx = none) (nothing : working x = none) :
    LocksOf key working (Function.update open_ tx (some x)) table := by
  intro k owner version
  rw [locks k owner version]
  by_cases mine : owner = tx
  · subst mine
    simp [closed, nothing]
  · simp [mine]

omit [DecidableEq K] in
theorem LocksOf.close (locks : LocksOf key working open_ table) {tx : T} {x : X}
    (opened : open_ tx = some x) (nothing : working x = none) :
    LocksOf key working (Function.update open_ tx none) table := by
  intro k owner version
  rw [locks k owner version]
  by_cases mine : owner = tx
  · subst mine
    simp [opened, nothing]
  · simp [mine]

theorem LocksOf.hold (locks : LocksOf key working open_ table) {tx : T} {x x' : X}
    {version : Option V} (opened : open_ tx = some x) (same_key : key x' = key x)
    (available : (table (key x)).available tx = true) (takes : working x' = some version) :
    LocksOf key working (Function.update open_ tx (some x')) (table.hold (key x) tx version) := by
  rw [Slot.available_iff] at available
  intro k owner other
  rw [Table.hold_lock]
  by_cases here : k = key x
  · subst here
    simp only [if_true, Option.some.injEq, Prod.mk.injEq]
    constructor
    · rintro ⟨rfl, rfl⟩
      exact ⟨x', by simp, same_key, takes⟩
    · rintro ⟨y, hy, key_y, working_y⟩
      by_cases mine : owner = tx
      · subst mine
        simp only [Function.update_self, Option.some.injEq] at hy
        subst hy
        rw [takes, Option.some.injEq] at working_y
        exact ⟨rfl, working_y⟩
      · rw [Function.update_of_ne mine] at hy
        have held := (locks (key x) owner other).mpr ⟨y, hy, key_y, working_y⟩
        exact absurd (available owner other held) mine
  · simp only [here, if_false]
    rw [locks k owner other]
    by_cases mine : owner = tx
    · subst mine
      simp only [Function.update_self, Option.some.injEq, opened]
      constructor
      · rintro ⟨y, rfl, key_y, -⟩
        exact absurd key_y.symm here
      · rintro ⟨y, rfl, key_y, -⟩
        rw [same_key] at key_y
        exact absurd key_y.symm here
    · simp [mine]

omit [DecidableEq K] in
theorem LocksOf.commit (locks : LocksOf key working open_ table) (tx : T) :
    LocksOf key working (Function.update open_ tx none) (table.commit tx) := by
  intro k owner version
  rw [Table.commit, Slot.commit, Slot.finish_lock, locks k owner version]
  by_cases mine : owner = tx
  · subst mine
    simp
  · simp [mine]

omit [DecidableEq K] in
theorem LocksOf.abort (locks : LocksOf key working open_ table) (tx : T) :
    LocksOf key working (Function.update open_ tx none) (table.abort tx) := by
  intro k owner version
  rw [Table.abort, Slot.abort, Slot.finish_lock, locks k owner version]
  by_cases mine : owner = tx
  · subst mine
    simp
  · simp [mine]

omit [DecidableEq K] in
theorem LocksOf.commit_resume (locks : LocksOf key working open_ table) (tx : T) {x' : X}
    (nothing : working x' = none) :
    LocksOf key working (Function.update open_ tx (some x')) (table.commit tx) := by
  have started := (locks.commit tx).start (Function.update_self _ _ _) nothing
  rwa [Function.update_idem] at started

omit [DecidableEq K] in
theorem LocksOf.abort_resume (locks : LocksOf key working open_ table) (tx : T) {x' : X}
    (nothing : working x' = none) :
    LocksOf key working (Function.update open_ tx (some x')) (table.abort tx) := by
  have started := (locks.abort tx).start (Function.update_self _ _ _) nothing
  rwa [Function.update_idem] at started

theorem LocksOf.commit_committed (locks : LocksOf key working open_ table) {tx : T} {x : X}
    (opened : open_ tx = some x) (k : K) :
    (table.commit tx k).committed =
      match working x with
      | some version => if key x = k then version else (table k).committed
      | none => (table k).committed := by
  have held := locks k tx
  simp only [opened, Option.some.injEq, exists_eq_left'] at held
  cases works : working x with
  | none =>
      simp only
      rw [Table.commit, Slot.commit_of_unlocked]
      intro version contra
      have := ((held version).mp contra).2
      rw [works] at this
      cases this
  | some version =>
      simp only
      by_cases here : key x = k
      · rw [if_pos here, Table.commit,
          Slot.commit_of_locked _ _ version ((held version).mpr ⟨here, works⟩)]
      · rw [if_neg here, Table.commit, Slot.commit_of_unlocked]
        intro other contra
        exact here ((held other).mp contra).1

omit [DecidableEq K] in
theorem LocksOf.view (locks : LocksOf key working open_ table) {tx : T} {x : X}
    (opened : open_ tx = some x) :
    (table (key x)).view tx = (working x).getD (table (key x)).committed := by
  have held := locks (key x) tx
  simp only [opened, Option.some.injEq, exists_eq_left', true_and] at held
  cases works : working x with
  | none =>
      apply Slot.view_of_unlocked
      intro version contra
      have := (held version).mp contra
      rw [works] at this
      cases this
  | some version => simp [Slot.view, (held version).mpr works]

omit [DecidableEq K] in
theorem LocksOf.available_of_only (locks : LocksOf key working open_ table) {tx : T}
    (only : ∀ other x, open_ other = some x → other = tx) (k : K) :
    (table k).available tx = true := by
  rw [Slot.available_iff]
  intro owner version held
  obtain ⟨x, opened, -, -⟩ := (locks k owner version).mp held
  exact only owner x opened

omit [DecidableEq K] [DecidableEq T] in
theorem LocksOf.exclusive (locks : LocksOf key working open_ table) {tx tx' : T} {x x' : X}
    {version version' : Option V} (opened : open_ tx = some x) (opened' : open_ tx' = some x')
    (same : key x = key x') (works : working x = some version)
    (works' : working x' = some version') : tx = tx' := by
  have first := (locks (key x) tx version).mpr ⟨x, opened, rfl, works⟩
  have second := (locks (key x) tx' version').mpr ⟨x', opened', same.symm, works'⟩
  rw [first] at second
  simp only [Option.some.injEq, Prod.mk.injEq] at second
  exact second.1

end Locks

-- `held` reads the versions that a transaction works on, by key.

section HeldRows

variable {K T V X : Type} [DecidableEq K] [DecidableEq T]

def HeldBy (held : X → K → Option V) (open_ : T → Option X) (table : Table K T V) : Prop :=
  ∀ k tx version, (table k).lock = some (tx, version) ↔
    ∃ x row, open_ tx = some x ∧ held x k = some row ∧ version = some row

variable {held : X → K → Option V} {open_ : T → Option X} {table : Table K T V}

omit [DecidableEq K] [DecidableEq T] in
theorem HeldBy.locked (heldBy : HeldBy held open_ table) {tx : T} {x : X} {k : K} {row : V}
    (opened : open_ tx = some x) (holds : held x k = some row) :
    (table k).lock = some (tx, some row) :=
  (heldBy k tx (some row)).mpr ⟨x, row, opened, holds, rfl⟩

omit [DecidableEq K] in
theorem HeldBy.not_held (heldBy : HeldBy held open_ table) {tx other : T} {x : X} {k : K}
    (available : (table k).available tx = true) (opened : open_ other = some x)
    (different : other ≠ tx) : held x k = none := by
  cases holds : held x k with
  | none => rfl
  | some row =>
      rw [Slot.available_iff] at available
      exact absurd (available other _ (heldBy.locked opened holds)) different

omit [DecidableEq K] [DecidableEq T] in
theorem HeldBy.exclusive (heldBy : HeldBy held open_ table) {tx other : T} {x y : X} {k : K}
    {row row' : V} (opened : open_ tx = some x) (opened' : open_ other = some y)
    (holds : held x k = some row) (holds' : held y k = some row') : tx = other := by
  have first := heldBy.locked opened holds
  rw [heldBy.locked opened' holds'] at first
  cases first
  rfl

omit [DecidableEq K] in
theorem HeldBy.view (heldBy : HeldBy held open_ table) {tx : T} {x : X} {k : K} {row : V}
    (opened : open_ tx = some x) (holds : held x k = some row) : (table k).view tx = some row := by
  simp [Slot.view, heldBy.locked opened holds]

omit [DecidableEq K] in
theorem HeldBy.free (heldBy : HeldBy held open_ table) {tx : T} {x : X} {k : K}
    (opened : open_ tx = some x) (nothing : held x k = none)
    (available : (table k).available tx = true) : (table k).lock = none := by
  cases locked : (table k).lock with
  | none => rfl
  | some lock =>
      obtain ⟨owner, version⟩ := lock
      rw [Slot.available_iff] at available
      have mine := available owner version locked
      subst mine
      obtain ⟨y, row, opened', holds, -⟩ := (heldBy k owner version).mp locked
      rw [opened] at opened'
      cases opened'
      rw [nothing] at holds
      cases holds

omit [DecidableEq K] in
theorem HeldBy.advance (heldBy : HeldBy held open_ table) {tx : T} {x x' : X}
    (opened : open_ tx = some x) (same : held x' = held x) :
    HeldBy held (Function.update open_ tx (some x')) table := by
  intro k owner version
  rw [heldBy k owner version]
  by_cases mine : owner = tx
  · subst mine
    simp [opened, same]
  · simp [mine]

omit [DecidableEq K] in
theorem HeldBy.start (heldBy : HeldBy held open_ table) {tx : T} {x : X} (closed : open_ tx = none)
    (nothing : ∀ k, held x k = none) :
    HeldBy held (Function.update open_ tx (some x)) table := by
  intro k owner version
  rw [heldBy k owner version]
  by_cases mine : owner = tx
  · subst mine
    simp [closed, nothing]
  · simp [mine]

theorem HeldBy.hold (heldBy : HeldBy held open_ table) {tx : T} {x x' : X} {key : K} {row : V}
    (opened : open_ tx = some x) (available : (table key).available tx = true)
    (takes : held x' = Function.update (held x) key (some row)) :
    HeldBy held (Function.update open_ tx (some x')) (table.hold key tx (some row)) := by
  intro k owner version
  rw [Table.hold_lock]
  by_cases here : k = key
  · subst here
    simp only [if_true, Option.some.injEq, Prod.mk.injEq]
    constructor
    · rintro ⟨rfl, rfl⟩
      exact ⟨x', row, by simp, by simp [takes], rfl⟩
    · rintro ⟨y, other, opened', holds, rfl⟩
      by_cases mine : owner = tx
      · subst mine
        simp only [Function.update_self, Option.some.injEq] at opened'
        subst opened'
        rw [takes, Function.update_self] at holds
        exact ⟨rfl, holds⟩
      · rw [Function.update_of_ne mine] at opened'
        rw [heldBy.not_held available opened' mine] at holds
        cases holds
  · simp only [here, if_false]
    rw [heldBy k owner version]
    by_cases mine : owner = tx
    · subst mine
      simp [opened, takes, here]
    · simp [mine]

omit [DecidableEq K] in
theorem HeldBy.commit (heldBy : HeldBy held open_ table) (tx : T) {x' : X}
    (nothing : ∀ k, held x' k = none) :
    HeldBy held (Function.update open_ tx (some x')) (table.commit tx) := by
  intro k owner version
  rw [Table.commit, Slot.commit, Slot.finish_lock, heldBy k owner version]
  by_cases mine : owner = tx
  · subst mine
    simp [nothing]
  · simp [mine]

omit [DecidableEq K] in
theorem HeldBy.abort (heldBy : HeldBy held open_ table) (tx : T) {x' : X}
    (nothing : ∀ k, held x' k = none) :
    HeldBy held (Function.update open_ tx (some x')) (table.abort tx) := by
  intro k owner version
  rw [Table.abort, Slot.abort, Slot.finish_lock, heldBy k owner version]
  by_cases mine : owner = tx
  · subst mine
    simp [nothing]
  · simp [mine]

omit [DecidableEq K] in
theorem HeldBy.commit_committed (heldBy : HeldBy held open_ table) {tx : T} {x : X}
    (opened : open_ tx = some x) (k : K) :
    (table.commit tx k).committed = (held x k).or (table k).committed := by
  cases holds : held x k with
  | some row => rw [Table.commit, Slot.commit_of_locked _ _ _ (heldBy.locked opened holds)]; rfl
  | none =>
      rw [Table.commit, Slot.commit_of_unlocked]
      · rfl
      · intro version contra
        obtain ⟨y, row, opened', holds', -⟩ := (heldBy k tx version).mp contra
        rw [opened] at opened'
        cases opened'
        rw [holds] at holds'
        cases holds'

omit [DecidableEq T] in
theorem HeldBy.put (heldBy : HeldBy held open_ table) {key : K} (row : V)
    (free : (table key).lock = none) : HeldBy held open_ (table.put key row) := by
  intro k owner version
  rw [Table.put_lock table key k row free]
  exact heldBy k owner version

end HeldRows

end ZenPass.ReadCommitted
