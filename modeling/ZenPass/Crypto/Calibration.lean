import ZenPass.Crypto.Kdf
import ZenPass.Lib.Search
import Mathlib.Tactic.IntervalCases

set_option autoImplicit false

namespace ZenPass.Crypto

open Cbor (Bytes)
open Search

namespace Calibration

-- What keeps a call from returning: an overflow, or loops that go on.
inductive Stuck where
  | overflow | fuel
  deriving DecidableEq

def subU32 (left right : UInt32) : Except Stuck UInt32 :=
  if right ≤ left then .ok (left - right) else .error .overflow

def mulU32 (left right : UInt32) : Except Stuck UInt32 :=
  if left.toNat * right.toNat < 2 ^ 32 then .ok (left * right) else .error .overflow

def mulU64 (left right : UInt64) : Except Stuck UInt64 :=
  if left.toNat * right.toNat < 2 ^ 64 then .ok (left * right) else .error .overflow

def shlU32 (value shift : UInt32) : Except Stuck UInt32 :=
  if shift < 32 then .ok (value <<< shift) else .error .overflow

def shlU64 (value : UInt64) (shift : UInt32) : Except Stuck UInt64 :=
  if shift < 64 then .ok (value <<< shift.toUInt64) else .error .overflow

def leadingZeros (value : UInt64) : UInt32 :=
  if value = 0 then 64 else UInt32.ofNat (63 - Nat.log2 value.toNat)

def maxMemoryKib : UInt32 := 0xFFFFFFFF
def u32Max : UInt32 := 0xFFFFFFFF
def targetMinMs : UInt64 := 500
def targetMaxMs : UInt64 := 1000

def largestPowerOfTwoAtMost (cap : UInt64) : Except Stuck UInt32 := do
  let bits ← subU32 64 (leadingZeros cap)
  let last ← subU32 bits 1
  let power ← shlU64 1 last
  let exponent ← if power > cap then subU32 bits 2 else subU32 bits 1
  shlU32 1 exponent

-- `&[u8; SALT_LEN]`
structure Salt where
  bytes : Bytes
  size : bytes.length = saltLen

-- the `CALIBRATION_SAMPLES` times of one candidate
abbrev Samples := Vector UInt64 5

def median (samples : Samples) : UInt64 :=
  let sorted := samples.toList.mergeSort (· ≤ ·)
  sorted.get ⟨sorted.length / 2, by
    rw [List.length_mergeSort, Vector.length_toList]
    decide⟩

-- What the derivations return is thrown away, their times are the samples.
def medianDeriveMs (params : KdfParams) (samples : Samples) : Except Stuck UInt64 := do
  let _cap ← mulU64 params.memoryKib.toUInt64 4
  .ok (median samples)

-- How the loop over the iterations is left
inductive Left where
  | answer (result : Except Error KdfParams)
  | stepDown (measurements : Nat)

section Loops

variable (minMs maxMs : UInt64) (parallelism : UInt32) (salt : Salt) (timings : Nat → Samples)

-- `measurements` counts the candidates that were measured so far
def iterationLoop (memoryKib : UInt32) : Nat → UInt32 → Nat → Except Stuck Left
  | 0, _, _ => .error .fuel
  | fuel + 1, iterations, measurements =>
    match KdfParams.new memoryKib iterations parallelism salt.bytes with
    | .error error => .ok (.answer (.error error))
    | .ok params => do
      let median ← medianDeriveMs params (timings measurements)
      if median > maxMs then .ok (.stepDown (measurements + 1))
      else if median ≥ minMs then
        .ok (.answer (KdfParams.new memoryKib iterations parallelism salt.bytes))
      else if iterations > u32Max / 2 then .ok (.stepDown (measurements + 1))
      else
        let iterations ← mulU32 iterations 2
        iterationLoop memoryKib fuel iterations (measurements + 1)

def memoryLoop : Nat → UInt32 → Nat → Except Stuck (Except Error KdfParams)
  | 0, _, _ => .error .fuel
  | fuel + 1, memoryKib, measurements =>
    if memoryKib ≥ minMemoryKib then do
      match ← iterationLoop minMs maxMs parallelism salt timings memoryKib fuel minIterations
          measurements with
      | .answer result => .ok result
      | .stepDown measurements =>
        if memoryKib = minMemoryKib then .ok (.error .kdfResourceLimit)
        else memoryLoop fuel (memoryKib / 2) measurements
    else .ok (.error .kdfResourceLimit)

end Loops

def calibrate (fuel : Nat) (minMs maxMs cap : UInt64) (parallelism : UInt32) (salt : Salt)
    (timings : Nat → Samples) : Except Stuck (Except Error KdfParams) :=
  if parallelism < minParallelism then .ok (.error .invalidKdfParameters)
  else if minMs = 0 ∨ minMs > maxMs then .ok (.error .invalidKdfParameters)
  else if cap < minMemoryKib.toUInt64 then .ok (.error .kdfResourceLimit)
  else do
    let largest ← largestPowerOfTwoAtMost (min cap maxMemoryKib.toUInt64)
    memoryLoop minMs maxMs parallelism salt timings fuel largest 0

def calibrateForSetup (fuel : Nat) (reportedPhysicalMemoryKib : UInt64) (parallelism : UInt32)
    (salt : Salt) (timings : Nat → Samples) : Except Stuck (Except Error KdfParams) :=
  calibrate fuel targetMinMs targetMaxMs (reportedPhysicalMemoryKib / 4) parallelism salt timings

structure Rung where
  memoryKib : Nat
  iterations : Nat
  deriving DecidableEq

/-- Below the window the iterations double while a `u32` holds them; else the memory is halved, down to
64 MiB. -/
def Rung.next (minMs : Nat) (rung : Rung) (median : Nat) : Option Rung :=
  if median < minMs ∧ 2 * rung.iterations < 2 ^ 32 then
    some { rung with iterations := 2 * rung.iterations }
  else if 65536 < rung.memoryKib then some ⟨rung.memoryKib / 2, 3⟩
  else none

/-- The largest power of two within the cap and a `u32`, and three iterations. -/
def top (cap : Nat) : Rung := ⟨2 ^ Nat.log2 (min cap (2 ^ 32 - 1)), 3⟩

def InWindow (minMs maxMs : Nat) (median : Nat) : Prop := minMs ≤ median ∧ median ≤ maxMs

-- the median of the candidate with that number
def medians (timings : Nat → Samples) (n : Nat) : Nat := (median (timings n)).toNat

def LadderReaches (minMs maxMs cap : Nat) (timings : Nat → Samples) (n : Nat) (rung : Rung) : Prop :=
  65536 ≤ cap ∧ Reached (InWindow minMs maxMs) (Rung.next minMs) (medians timings) (top cap) n rung

/-- A power of two from 64 MiB up to the cap, and three times a power of two; a `u32` holds both. -/
structure Rung.OnLadder (cap : Nat) (rung : Rung) : Prop where
  memory : ∃ exponent, 16 ≤ exponent ∧ exponent < 32 ∧ rung.memoryKib = 2 ^ exponent
  within : rung.memoryKib ≤ cap
  iterations : ∃ doublings, doublings ≤ 30 ∧ rung.iterations = 3 * 2 ^ doublings

theorem toNat_ofNat {value : Nat} (small : value < 2 ^ 32) : (UInt32.ofNat value).toNat = value :=
  UInt32.toNat_ofNat_of_lt' small

theorem subU32_ofNat {left right : Nat} (small : left < 2 ^ 32) (le : right ≤ left) :
    subU32 (UInt32.ofNat left) (UInt32.ofNat right) = .ok (UInt32.ofNat (left - right)) := by
  have rightSmall : right < 2 ^ 32 := Nat.lt_of_le_of_lt le small
  have order : UInt32.ofNat right ≤ UInt32.ofNat left := by
    rw [UInt32.le_iff_toNat_le, toNat_ofNat small, toNat_ofNat rightSmall]
    exact le
  rw [subU32, if_pos order]
  congr 1
  apply UInt32.toNat_inj.mp
  rw [UInt32.toNat_sub_of_le _ _ order, toNat_ofNat small, toNat_ofNat rightSmall,
    toNat_ofNat (by omega)]

theorem shlU32_one {shift : Nat} (small : shift < 32) :
    shlU32 1 (UInt32.ofNat shift) = .ok (UInt32.ofNat (2 ^ shift)) := by
  interval_cases shift <;> rfl

theorem shlU64_one {shift : Nat} (small : shift < 32) :
    shlU64 1 (UInt32.ofNat shift) = .ok (UInt64.ofNat (2 ^ shift)) := by
  interval_cases shift <;> rfl

theorem largestPowerOfTwoAtMost_eq {cap : UInt64} (positive : cap.toNat ≠ 0) (small : cap.toNat < 2 ^ 32) :
    largestPowerOfTwoAtMost cap = .ok (UInt32.ofNat (2 ^ Nat.log2 cap.toNat)) := by
  have exponent : Nat.log2 cap.toNat < 32 := (Nat.log2_lt positive).mpr small
  have le : 2 ^ Nat.log2 cap.toNat ≤ cap.toNat := Nat.log2_self_le positive
  have nonzero : cap ≠ 0 := by
    rintro rfl
    exact positive rfl
  have power : ¬UInt64.ofNat (2 ^ Nat.log2 cap.toNat) > cap := by
    have fits : 2 ^ Nat.log2 cap.toNat < 2 ^ 64 := by omega
    rw [gt_iff_lt, UInt64.lt_iff_toNat_lt, UInt64.toNat_ofNat_of_lt' fits]
    exact Nat.not_lt.mpr le
  have bits : subU32 64 (leadingZeros cap) = .ok (UInt32.ofNat (Nat.log2 cap.toNat + 1)) := by
    rw [leadingZeros, if_neg nonzero]
    have difference := @subU32_ofNat 64 (63 - Nat.log2 cap.toNat) (by omega) (by omega)
    rw [show 64 - (63 - Nat.log2 cap.toNat) = Nat.log2 cap.toNat + 1 by omega] at difference
    exact difference
  have last := @subU32_ofNat (Nat.log2 cap.toNat + 1) 1 (by omega) (by omega)
  rw [Nat.add_sub_cancel] at last
  have one : UInt32.ofNat 1 = 1 := rfl
  rw [one] at last
  simp only [largestPowerOfTwoAtMost, bits, Except.bind, bind, last, shlU64_one exponent, if_neg power,
    shlU32_one exponent]
-- What the loops do

section Loops

variable {minMs maxMs : UInt64} {parallelism : UInt32} (positive : 1 ≤ parallelism.toNat) (salt : Salt)
  {timings : Nat → Samples} {cap : Nat}

def ofRung (parallelism : UInt32) (salt : Salt) (rung : Rung) : KdfParams where
  memoryKib := UInt32.ofNat rung.memoryKib
  iterations := UInt32.ofNat rung.iterations
  parallelism := parallelism
  salt := salt.bytes
  saltSize := salt.size

include positive in
theorem new_ofRung {memory iterations : Nat} (least : 65536 ≤ memory) (fits : memory < 2 ^ 32)
    (three : 3 ≤ iterations) (small : iterations < 2 ^ 32) :
    KdfParams.new (UInt32.ofNat memory) (UInt32.ofNat iterations) parallelism salt.bytes
      = .ok (ofRung parallelism salt ⟨memory, iterations⟩) := by
  apply KdfParams.new_eq_ok.mpr
  refine ⟨⟨?_, ?_, positive⟩, rfl, rfl, rfl, rfl⟩
  · rw [ofRung, toNat_ofNat fits]
    exact least
  · rw [ofRung, toNat_ofNat small]
    exact three

-- four times a `u32` fits a `u64`
theorem medianDeriveMs_eq (params : KdfParams) (samples : Samples) :
    medianDeriveMs params samples = .ok (median samples) := by
  have bound := params.memoryKib.toNat_lt
  have fits : params.memoryKib.toUInt64.toNat * (4 : UInt64).toNat < 2 ^ 64 := by
    rw [UInt32.toNat_toUInt64, show (4 : UInt64).toNat = 4 from rfl]
    omega
  rw [medianDeriveMs, mulU64, if_pos fits]
  rfl

theorem doubled {doublings : Nat} (more : doublings < 30) :
    ¬UInt32.ofNat (3 * 2 ^ doublings) > u32Max / 2 ∧
      mulU32 (UInt32.ofNat (3 * 2 ^ doublings)) 2 = .ok (UInt32.ofNat (3 * 2 ^ (doublings + 1))) := by
  interval_cases doublings <;> exact ⟨by decide, rfl⟩

theorem last_doubling : UInt32.ofNat (3 * 2 ^ 30) > u32Max / 2 := by
  decide

theorem iterations_lt {doublings : Nat} (few : doublings ≤ 30) : 3 * 2 ^ doublings < 2 ^ 32 := by
  have le : 2 ^ doublings ≤ 2 ^ 30 := Nat.pow_le_pow_right (by decide) few
  omega

theorem Rung.next_doubles {low memory iterations median : Nat} (below : median < low)
    (fits : 2 * iterations < 2 ^ 32) :
    Rung.next low ⟨memory, iterations⟩ median = some ⟨memory, 2 * iterations⟩ := if_pos ⟨below, fits⟩

theorem Rung.next_stepsDown {low memory iterations median : Nat}
    (other : ¬(median < low ∧ 2 * iterations < 2 ^ 32)) :
    Rung.next low ⟨memory, iterations⟩ median
      = if 65536 < memory then some ⟨memory / 2, 3⟩ else none := if_neg other

theorem LadderReaches.later {low high n : Nat} {rung following : Rung}
    (reaches : LadderReaches low high cap timings n rung) (missed : ¬InWindow low high (medians timings n))
    (follows : rung.next low (medians timings n) = some following) :
    LadderReaches low high cap timings (n + 1) following :=
  ⟨reaches.1, reaches.2.later missed follows⟩

variable (ordered : minMs.toNat ≤ maxMs.toNat)

include positive ordered in
theorem iterationLoop_spec {memory : Nat} (least : 65536 ≤ memory) (fits : memory < 2 ^ 32)
    {fuel doublings n : Nat} (few : doublings ≤ 30) (enough : 31 ≤ fuel + doublings)
    (reaches : LadderReaches minMs.toNat maxMs.toNat cap timings n ⟨memory, 3 * 2 ^ doublings⟩) :
    ∃ m iterations,
      LadderReaches minMs.toNat maxMs.toNat cap timings m ⟨memory, iterations⟩ ∧
      (InWindow minMs.toNat maxMs.toNat (medians timings m) ∧
        iterationLoop minMs maxMs parallelism salt timings (UInt32.ofNat memory) fuel
          (UInt32.ofNat (3 * 2 ^ doublings)) n
          = .ok (.answer (.ok (ofRung parallelism salt ⟨memory, iterations⟩))) ∨
      ¬InWindow minMs.toNat maxMs.toNat (medians timings m) ∧
        Rung.next minMs.toNat ⟨memory, iterations⟩ (medians timings m)
          = (if 65536 < memory then some ⟨memory / 2, 3⟩ else none) ∧
        iterationLoop minMs maxMs parallelism salt timings (UInt32.ofNat memory) fuel
          (UInt32.ofNat (3 * 2 ^ doublings)) n = .ok (.stepDown (m + 1))) := by
  induction fuel generalizing doublings n with
  | zero => omega
  | succ fuel ih =>
    have small := iterations_lt few
    have power := @Nat.one_le_two_pow doublings
    have made := new_ofRung positive salt least fits (by omega) small
    have beyond : median (timings n) > maxMs ↔ maxMs.toNat < medians timings n :=
      UInt64.lt_iff_toNat_lt
    have under : median (timings n) ≥ minMs ↔ minMs.toNat ≤ medians timings n :=
      UInt64.le_iff_toNat_le
    simp only [iterationLoop, made, medianDeriveMs_eq, bind, Except.bind, beyond, under]
    by_cases above : maxMs.toNat < medians timings n
    · have missed : ¬InWindow minMs.toNat maxMs.toNat (medians timings n) := by
        rintro ⟨-, most⟩
        omega
      exact ⟨n, _, reaches, Or.inr ⟨missed, Rung.next_stepsDown (by omega), if_pos above⟩⟩
    by_cases within : minMs.toNat ≤ medians timings n
    · refine ⟨n, _, reaches, Or.inl ⟨⟨within, Nat.not_lt.mp above⟩, ?_⟩⟩
      rw [if_neg above, if_pos within]
    -- below the window, with another doubling or without
    have missed : ¬InWindow minMs.toNat maxMs.toNat (medians timings n) := by
      rintro ⟨least', -⟩
      exact within least'
    rcases Nat.lt_or_eq_of_le few with more | rfl
    · obtain ⟨small', next⟩ := doubled more
      have follows : Rung.next minMs.toNat ⟨memory, 3 * 2 ^ doublings⟩ (medians timings n)
          = some ⟨memory, 3 * 2 ^ (doublings + 1)⟩ := by
        have fits' := iterations_lt (Nat.succ_le_of_lt more)
        have twice : 3 * 2 ^ (doublings + 1) = 2 * (3 * 2 ^ doublings) := by
          rw [pow_succ]
          omega
        rw [twice]
        exact Rung.next_doubles (by omega) (by omega)
      rw [if_neg above, if_neg within, if_neg small']
      simp only [next]
      exact ih (by omega) (by omega) (reaches.later missed follows)
    · refine ⟨n, _, reaches, Or.inr ⟨missed, Rung.next_stepsDown (by omega), ?_⟩⟩
      rw [if_neg above, if_neg within, if_pos last_doubling]

include positive ordered in
theorem memoryLoop_spec {fuel exponent n : Nat} (least : 16 ≤ exponent) (fits : exponent < 32)
    (enough : exponent + 17 ≤ fuel)
    (reaches : LadderReaches minMs.toNat maxMs.toNat cap timings n ⟨2 ^ exponent, 3⟩) :
    ∃ m rung,
      LadderReaches minMs.toNat maxMs.toNat cap timings m rung ∧
      (InWindow minMs.toNat maxMs.toNat (medians timings m) ∧
        memoryLoop minMs maxMs parallelism salt timings fuel (UInt32.ofNat (2 ^ exponent)) n
          = .ok (.ok (ofRung parallelism salt rung)) ∨
      ¬InWindow minMs.toNat maxMs.toNat (medians timings m) ∧
        rung.next minMs.toNat (medians timings m) = none ∧
        memoryLoop minMs maxMs parallelism salt timings fuel (UInt32.ofNat (2 ^ exponent)) n
          = .ok (.error .kdfResourceLimit)) := by
  induction fuel generalizing exponent n with
  | zero => omega
  | succ fuel ih =>
    have large : 2 ^ 16 ≤ 2 ^ exponent := Nat.pow_le_pow_right (by decide) least
    have small : 2 ^ exponent < 2 ^ 32 := Nat.pow_lt_pow_right (by decide) fits
    have atLeast : UInt32.ofNat (2 ^ exponent) ≥ minMemoryKib := by
      rw [ge_iff_le, UInt32.le_iff_toNat_le, toNat_ofNat small]
      exact large
    have inner := @iterationLoop_spec _ _ _ positive salt timings cap ordered _ large small fuel 0 n
      (by omega) (by omega) reaches
    have three : UInt32.ofNat (3 * 2 ^ 0) = minIterations := rfl
    rw [three] at inner
    obtain ⟨m, iterations, there, ⟨within, ended⟩ | ⟨missed, follows, ended⟩⟩ := inner
    · refine ⟨m, _, there, Or.inl ⟨within, ?_⟩⟩
      simp only [memoryLoop, if_pos atLeast, ended, bind, Except.bind]
    rcases Nat.lt_or_eq_of_le least with more | rfl
    · -- half of it is the next memory
      obtain ⟨half, rfl⟩ : ∃ half, exponent = half + 1 := ⟨exponent - 1, by omega⟩
      have power : 2 ^ 16 < 2 ^ (half + 1) := Nat.pow_lt_pow_right (by decide) more
      have above : 65536 < 2 ^ (half + 1) := by omega
      have halved : 2 ^ (half + 1) / 2 = 2 ^ half := by
        rw [pow_succ]
        omega
      rw [if_pos above, halved] at follows
      have rest := ih (by omega) (by omega) (by omega) (there.later missed follows)
      have other : UInt32.ofNat (2 ^ (half + 1)) ≠ minMemoryKib := by
        intro same
        have equal := congrArg UInt32.toNat same
        rw [toNat_ofNat small, show minMemoryKib.toNat = 65536 from rfl] at equal
        omega
      have division : UInt32.ofNat (2 ^ (half + 1)) / 2 = UInt32.ofNat (2 ^ half) := by
        apply UInt32.toNat_inj.mp
        rw [UInt32.toNat_div, toNat_ofNat small, toNat_ofNat (by omega)]
        exact halved
      have unfolded : memoryLoop minMs maxMs parallelism salt timings (fuel + 1)
          (UInt32.ofNat (2 ^ (half + 1))) n
          = memoryLoop minMs maxMs parallelism salt timings fuel (UInt32.ofNat (2 ^ half)) (m + 1) := by
        simp only [memoryLoop, if_pos atLeast, ended, bind, Except.bind, if_neg other, division]
      rw [unfolded]
      exact rest
    · refine ⟨m, _, there, Or.inr ⟨missed, follows, ?_⟩⟩
      have least : UInt32.ofNat (2 ^ 16) = minMemoryKib := rfl
      simp only [memoryLoop, if_pos atLeast, ended, bind, Except.bind, if_pos least]

theorem min_toNat (cap : UInt64) :
    (min cap maxMemoryKib.toUInt64).toNat = min cap.toNat (2 ^ 32 - 1) := by
  have limit : maxMemoryKib.toUInt64.toNat = 2 ^ 32 - 1 := rfl
  have unfolded : min cap maxMemoryKib.toUInt64
      = if cap ≤ maxMemoryKib.toUInt64 then cap else maxMemoryKib.toUInt64 := rfl
  rw [unfolded, apply_ite UInt64.toNat, limit]
  simp only [UInt64.le_iff_toNat_le, limit]
  split_ifs <;> omega

include positive ordered in
theorem calibrate_spec (window : 1 ≤ minMs.toNat) {cap : UInt64} {fuel : Nat} (enough : 64 ≤ fuel) :
    cap.toNat < 65536 ∧
        calibrate fuel minMs maxMs cap parallelism salt timings = .ok (.error .kdfResourceLimit) ∨
      ∃ m rung, LadderReaches minMs.toNat maxMs.toNat cap.toNat timings m rung ∧
        (InWindow minMs.toNat maxMs.toNat (medians timings m) ∧
          calibrate fuel minMs maxMs cap parallelism salt timings
            = .ok (.ok (ofRung parallelism salt rung)) ∨
        ¬InWindow minMs.toNat maxMs.toNat (medians timings m) ∧
          rung.next minMs.toNat (medians timings m) = none ∧
          calibrate fuel minMs maxMs cap parallelism salt timings = .ok (.error .kdfResourceLimit)) := by
  have parallel : ¬parallelism < minParallelism := Nat.not_lt.mpr positive
  have valid : ¬(minMs = 0 ∨ minMs > maxMs) := by
    rintro (rfl | inverted)
    · exact absurd window (by decide)
    · exact Nat.not_lt.mpr ordered (UInt64.lt_iff_toNat_lt.mp inverted)
  have least : cap < minMemoryKib.toUInt64 ↔ cap.toNat < 65536 := UInt64.lt_iff_toNat_lt
  unfold calibrate
  rw [if_neg parallel, if_neg valid]
  by_cases low : cap.toNat < 65536
  · exact Or.inl ⟨low, if_pos (least.mpr low)⟩
  rw [if_neg (mt least.mp low)]
  have capped := min_toNat cap
  have enoughCap : 65536 ≤ min cap.toNat (2 ^ 32 - 1) := by omega
  have largest := @largestPowerOfTwoAtMost_eq (min cap maxMemoryKib.toUInt64) (by omega) (by omega)
  rw [capped] at largest
  rw [largest]
  have exponent : 16 ≤ Nat.log2 (min cap.toNat (2 ^ 32 - 1)) :=
    (Nat.le_log2 (by omega)).mpr enoughCap
  have exponentMax : Nat.log2 (min cap.toNat (2 ^ 32 - 1)) < 32 :=
    (Nat.log2_lt (by omega)).mpr (by omega)
  exact Or.inr (memoryLoop_spec positive salt ordered exponent exponentMax (by omega)
    ⟨Nat.not_lt.mp low, .first⟩)

end Loops

theorem top_onLadder {cap : Nat} (least : 65536 ≤ cap) : (top cap).OnLadder cap where
  memory := by
    refine ⟨Nat.log2 (min cap (2 ^ 32 - 1)), ?_, ?_, rfl⟩
    · exact (Nat.le_log2 (by omega)).mpr (by omega)
    · exact (Nat.log2_lt (by omega)).mpr (by omega)
  within := by
    have le := @Nat.log2_self_le (min cap (2 ^ 32 - 1)) (by omega)
    exact le.trans (Nat.min_le_left _ _)
  iterations := ⟨0, by omega, rfl⟩

theorem next_onLadder {cap low median : Nat} {rung following : Rung} (on : rung.OnLadder cap)
    (follows : rung.next low median = some following) : following.OnLadder cap := by
  obtain ⟨exponent, least, most, memory⟩ := on.memory
  obtain ⟨doublings, few, iterations⟩ := on.iterations
  have within := on.within
  simp only [Rung.next] at follows
  split_ifs at follows with doubles halves
  · cases follows
    refine ⟨on.memory, within, doublings + 1, ?_, ?_⟩
    · by_contra many
      obtain rfl : doublings = 30 := by omega
      omega
    · simp only [iterations, pow_succ]
      omega
  · cases follows
    rw [memory] at halves within ⊢
    obtain ⟨half, rfl⟩ : ∃ half, exponent = half + 1 := ⟨exponent - 1, by omega⟩
    have halved : 2 ^ (half + 1) / 2 = 2 ^ half := by
      rw [pow_succ]
      omega
    refine ⟨⟨half, ?_, by omega, halved⟩, ?_, 0, by omega, rfl⟩
    · by_contra small
      obtain rfl : half = 15 := by omega
      omega
    · simp only
      omega

theorem LadderReaches.onLadder {low high cap n : Nat} {timings : Nat → Samples} {rung : Rung}
    (reaches : LadderReaches low high cap timings n rung) : rung.OnLadder cap :=
  reaches.2.invariant (top_onLadder reaches.1) fun _ _ _ on follows => next_onLadder on follows

theorem ofRung_withinContract {parallelism : UInt32} (positive : 1 ≤ parallelism.toNat) (salt : Salt)
    {cap : Nat} {rung : Rung} (on : rung.OnLadder cap) :
    (ofRung parallelism salt rung).WithinContract ∧
      (ofRung parallelism salt rung).memoryKib.toNat = rung.memoryKib := by
  obtain ⟨exponent, least, most, memory⟩ := on.memory
  obtain ⟨doublings, few, iterations⟩ := on.iterations
  have large : 2 ^ 16 ≤ 2 ^ exponent := Nat.pow_le_pow_right (by decide) least
  have small : 2 ^ exponent < 2 ^ 32 := Nat.pow_lt_pow_right (by decide) most
  have power := @Nat.one_le_two_pow doublings
  have fits := iterations_lt few
  have memoryNat : (ofRung parallelism salt rung).memoryKib.toNat = rung.memoryKib := by
    rw [ofRung, toNat_ofNat (by omega)]
  have iterationsNat : (ofRung parallelism salt rung).iterations.toNat = rung.iterations := by
    rw [ofRung, toNat_ofNat (by omega)]
  refine ⟨⟨?_, ?_, positive⟩, memoryNat⟩
  · omega
  · omega

section Ladder

variable {minMs maxMs : UInt64} {parallelism : UInt32} (positive : 1 ≤ parallelism.toNat) {salt : Salt}
  {timings : Nat → Samples} {cap : UInt64} (window : 1 ≤ minMs.toNat)
  (ordered : minMs.toNat ≤ maxMs.toNat) {fuel : Nat} (enough : 64 ≤ fuel)

include positive window ordered enough

theorem calibrate_eq_of_hit {n : Nat} {rung : Rung}
    (reaches : LadderReaches minMs.toNat maxMs.toNat cap.toNat timings n rung)
    (hit : InWindow minMs.toNat maxMs.toNat (medians timings n)) :
    calibrate fuel minMs maxMs cap parallelism salt timings = .ok (.ok (ofRung parallelism salt rung)) := by
  rcases calibrate_spec positive salt ordered window enough with
    ⟨low, -⟩ | ⟨m, other, there, ⟨hit', ended⟩ | ⟨missed, last, -⟩⟩
  · exact absurd reaches.1 (Nat.not_le.mpr low)
  · obtain ⟨-, rfl⟩ := reaches.2.hit_unique hit there.2 hit'
    exact ended
  · exact absurd hit (there.2.ends missed last reaches.2)

theorem calibrate_eq_of_no_hit
    (none : ∀ n rung, LadderReaches minMs.toNat maxMs.toNat cap.toNat timings n rung →
      ¬InWindow minMs.toNat maxMs.toNat (medians timings n)) :
    calibrate fuel minMs maxMs cap parallelism salt timings = .ok (.error .kdfResourceLimit) := by
  rcases calibrate_spec positive salt ordered window enough with
    ⟨-, ended⟩ | ⟨m, other, there, ⟨hit, -⟩ | ⟨-, -, ended⟩⟩
  · exact ended
  · exact absurd hit (none m other there)
  · exact ended

end Ladder

theorem calibrateForSetup_accepted {cbor : Minicbor} (conforms : cbor.Conforms) {parallelism : UInt32}
    (positive : 1 ≤ parallelism.toNat) {salt : Salt} {timings : Nat → Samples} {reported : UInt64}
    {fuel : Nat} (enough : 64 ≤ fuel) {params : KdfParams}
    (answered : calibrateForSetup fuel reported parallelism salt timings = .ok (.ok params)) :
    ∃ bytes, params.encodeCanonicalCbor cbor = .ok bytes ∧
      KdfParams.decodeCanonicalCbor cbor bytes reported = .ok params := by
  rw [calibrateForSetup] at answered
  have spec := @calibrate_spec targetMinMs targetMaxMs parallelism positive salt timings (by decide)
    (by decide) (reported / 4) fuel enough
  rcases spec with ⟨-, ended⟩ | ⟨m, rung, reaches, ⟨-, ended⟩ | ⟨-, -, ended⟩⟩
  · rw [ended] at answered
    cases answered
  · rw [ended] at answered
    cases answered
    obtain ⟨within, memory⟩ := ofRung_withinContract positive salt reaches.onLadder
    have capped := reaches.onLadder.within
    have quarter : (reported / 4).toNat = reported.toNat / 4 := UInt64.toNat_div _ _
    refine ⟨_, (KdfParams.encodeCanonicalCbor_eq_ok conforms).mpr ⟨within, rfl⟩, ?_⟩
    rw [KdfParams.decode_canonicalKdf conforms within, if_pos (by omega)]
  · rw [ended] at answered
    cases answered

/-- The calibration returns, without an overflow: the first candidate of the ladder in the window, or the
resource limit when the ladder reaches none. -/
theorem calibration_first_in_window (cbor : Minicbor) (conforms : cbor.Conforms) (parallelism : UInt32)
    (positive : 1 ≤ parallelism.toNat) (salt : Salt) (timings : Nat → Samples) :
    (∀ minMs maxMs cap : UInt64, 1 ≤ minMs.toNat → minMs.toNat ≤ maxMs.toNat →
      (∃ result, (∀ fuel, 64 ≤ fuel →
          calibrate fuel minMs maxMs cap parallelism salt timings = .ok result) ∧
        (∀ params, result = .ok params ↔
          ∃ n rung, LadderReaches minMs.toNat maxMs.toNat cap.toNat timings n rung ∧
            InWindow minMs.toNat maxMs.toNat (medians timings n) ∧
            params = ofRung parallelism salt rung) ∧
        (∀ error, result = .error error ↔
          error = .kdfResourceLimit ∧
            ∀ n rung, LadderReaches minMs.toNat maxMs.toNat cap.toNat timings n rung →
              ¬InWindow minMs.toNat maxMs.toNat (medians timings n))) ∧
      ∀ n rung, LadderReaches minMs.toNat maxMs.toNat cap.toNat timings n rung →
        rung.OnLadder cap.toNat ∧
        ∀ k < n, ∃ earlier following,
          LadderReaches minMs.toNat maxMs.toNat cap.toNat timings k earlier ∧
          ¬InWindow minMs.toNat maxMs.toNat (medians timings k) ∧
          earlier.next minMs.toNat (medians timings k) = some following) ∧
    ∀ reported fuel params, 64 ≤ fuel →
      calibrateForSetup fuel reported parallelism salt timings = .ok (.ok params) →
      ∃ bytes, params.encodeCanonicalCbor cbor = .ok bytes ∧
        KdfParams.decodeCanonicalCbor cbor bytes reported = .ok params := by
  refine ⟨?_, ?_⟩
  · intro minMs maxMs cap window ordered
    refine ⟨?_, ?_⟩
    · by_cases found : ∃ n rung, LadderReaches minMs.toNat maxMs.toNat cap.toNat timings n rung ∧
          InWindow minMs.toNat maxMs.toNat (medians timings n)
      · obtain ⟨n, rung, reaches, hit⟩ := found
        refine ⟨.ok (ofRung parallelism salt rung), ?_, ?_, ?_⟩
        · intro fuel enough
          exact calibrate_eq_of_hit positive window ordered enough reaches hit
        · intro params
          constructor
          · intro same
            exact ⟨n, rung, reaches, hit, (Except.ok.inj same).symm⟩
          · rintro ⟨m, other, there, hit', rfl⟩
            obtain ⟨-, rfl⟩ := reaches.2.hit_unique hit there.2 hit'
            rfl
        · intro error
          constructor
          · intro same
            cases same
          · rintro ⟨-, none⟩
            exact absurd hit (none n rung reaches)
      · have none : ∀ n rung, LadderReaches minMs.toNat maxMs.toNat cap.toNat timings n rung →
            ¬InWindow minMs.toNat maxMs.toNat (medians timings n) := by
          intro n rung reaches hit
          exact found ⟨n, rung, reaches, hit⟩
        refine ⟨.error .kdfResourceLimit, ?_, ?_, ?_⟩
        · intro fuel enough
          exact calibrate_eq_of_no_hit positive window ordered enough none
        · intro params
          constructor
          · intro same
            cases same
          · rintro ⟨n, rung, reaches, hit, -⟩
            exact absurd hit (none n rung reaches)
        · intro error
          constructor
          · intro same
            exact ⟨(Except.error.inj same).symm, none⟩
          · rintro ⟨rfl, -⟩
            rfl
    · intro n rung reaches
      refine ⟨reaches.onLadder, ?_⟩
      intro k before
      obtain ⟨earlier, following, there, missed, follows⟩ := reaches.2.before before
      exact ⟨earlier, following, ⟨reaches.1, there⟩, missed, follows⟩
  · intro reported fuel params enough answered
    exact calibrateForSetup_accepted conforms positive enough answered

def zeroSalt : Salt where
  bytes := List.replicate 16 0
  size := rfl

-- every candidate takes the same time
def steady (milliseconds : UInt64) : Nat → Samples := fun _ => Vector.replicate 5 milliseconds

theorem medians_steady (milliseconds : UInt64) (n : Nat) :
    medians (steady milliseconds) n = milliseconds.toNat := by
  have sorted : (Vector.replicate 5 milliseconds).toList.mergeSort (· ≤ ·)
      = List.replicate 5 milliseconds := by
    rw [Vector.toList_replicate]
    exact List.perm_replicate.mp (List.mergeSort_perm _ _)
  simp only [medians, median, steady, List.get_eq_getElem, sorted, List.getElem_replicate]

/-- A window from 0 on takes the first candidate's time and is refused. -/
theorem calibration_refuses_zero :
    (∀ fuel, calibrate fuel 0 1000 65536 1 zeroSalt (steady 5) = .ok (.error .invalidKdfParameters)) ∧
      LadderReaches 0 1000 65536 (steady 5) 0 ⟨65536, 3⟩ ∧ InWindow 0 1000 (medians (steady 5) 0) := by
  refine ⟨fun _ => rfl, ⟨by decide, .first⟩, ?_⟩
  rw [medians_steady]
  exact ⟨by decide, by decide⟩

theorem calibration_first_in_window_700 :
    ∃ bytes, (ofRung 1 zeroSalt ⟨65536, 3⟩).encodeCanonicalCbor Minicbor.rfc8949 = .ok bytes ∧
      KdfParams.decodeCanonicalCbor Minicbor.rfc8949 bytes 262144
        = .ok (ofRung 1 zeroSalt ⟨65536, 3⟩) := by
  have answered : calibrateForSetup 64 262144 1 zeroSalt (steady 700)
      = .ok (.ok (ofRung 1 zeroSalt ⟨65536, 3⟩)) := by
    have reaches : LadderReaches 500 1000 65536 (steady 700) 0 ⟨65536, 3⟩ := ⟨by decide, .first⟩
    have hit : InWindow 500 1000 (medians (steady 700) 0) := by
      rw [medians_steady]
      exact ⟨by decide, by decide⟩
    exact @calibrate_eq_of_hit 500 1000 1 (by decide) zeroSalt (steady 700) 65536 (by decide)
      (by decide) 64 (by decide) 0 ⟨65536, 3⟩ reaches hit
  exact (calibration_first_in_window Minicbor.rfc8949 Minicbor.rfc8949_conforms 1 (by decide) zeroSalt
    (steady 700)).2 262144 64 _ (by decide) answered

end Calibration

end ZenPass.Crypto
