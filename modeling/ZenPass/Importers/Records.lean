import ZenPass.Importers.Limits

set_option autoImplicit false

namespace ZenPass.Importers

section Loop

variable {Record : Type}

def eachRecord (body : Nat → Record → NormalizeResult → NormalizeResult) :
    Nat → List Record → NormalizeResult → NormalizeResult
  | _, [], result => result
  | index, record :: records, result => eachRecord body (index + 1) records (body index record result)

/-- What one record has added to the result. -/
structure Outcome where
  items : List NormalizedItem
  issues : List NormalizeIssue
  deriving DecidableEq

def added (before after : NormalizeResult) : Outcome :=
  { items := after.items.drop before.items.length
    issues := after.issues.drop before.issues.length }

def outcomes (body : Nat → Record → NormalizeResult → NormalizeResult) :
    Nat → List Record → NormalizeResult → List Outcome
  | _, [], _ => []
  | index, record :: records, result =>
    let next := body index record result
    added result next :: outcomes body (index + 1) records next

/-- What a record adds depends on the result only through the limit. -/
structure Adds (body : Nat → Record → NormalizeResult → NormalizeResult)
    (outcome : Nat → Bool → Record → Outcome) (gives : Record → Bool) : Prop where
  eq : ∀ index record result,
    let own := outcome index (decide (maxItems ≤ result.items.length)) record
    body index record result =
      { items := result.items ++ own.items, issues := result.issues ++ own.issues }
  full : ∀ index record, (outcome index true record).items = []
  count : ∀ index record, (outcome index false record).items.length = if gives record then 1 else 0

variable {body : Nat → Record → NormalizeResult → NormalizeResult}
  {outcome : Nat → Bool → Record → Outcome} {gives : Record → Bool}

theorem outcomes_length (body : Nat → Record → NormalizeResult → NormalizeResult) (index : Nat)
    (records : List Record) (result : NormalizeResult) :
    (outcomes body index records result).length = records.length := by
  induction records generalizing index result with
  | nil => rfl
  | cons record records ih => rw [outcomes, List.length_cons, ih, List.length_cons]

namespace Adds

theorem length (adds : Adds body outcome gives) (index : Nat) (record : Record) (result : NormalizeResult) :
    (body index record result).items.length =
      if maxItems ≤ result.items.length then result.items.length
      else result.items.length + if gives record then 1 else 0 := by
  rw [adds.eq]
  by_cases full : maxItems ≤ result.items.length
  · simp [full, adds.full]
  · simp [full, adds.count]

theorem eachRecord_eq (adds : Adds body outcome gives) (index : Nat) (records : List Record)
    (result : NormalizeResult) :
    eachRecord body index records result =
      { items := result.items ++ (outcomes body index records result).flatMap Outcome.items
        issues := result.issues ++ (outcomes body index records result).flatMap Outcome.issues } := by
  induction records generalizing index result with
  | nil => simp [eachRecord, outcomes]
  | cons record records ih =>
    rw [eachRecord, ih]
    simp only [outcomes, added, List.flatMap_cons]
    simp [adds.eq]

theorem full_iff (adds : Adds body outcome gives) (index : Nat) (records : List Record)
    (result : NormalizeResult) :
    maxItems ≤ (eachRecord body index records result).items.length ↔
      maxItems ≤ result.items.length + records.countP gives := by
  induction records generalizing index result with
  | nil => simp [eachRecord]
  | cons record records ih =>
    have length := adds.length index record result
    rw [eachRecord, ih, List.countP_cons]
    split_ifs at length ⊢ <;> omega

theorem length_le (adds : Adds body outcome gives) (index : Nat) (records : List Record)
    {result : NormalizeResult} (within : result.items.length ≤ maxItems) :
    (eachRecord body index records result).items.length ≤ maxItems := by
  induction records generalizing index result with
  | nil => exact within
  | cons record records ih =>
    have length := adds.length index record result
    rw [eachRecord]
    apply ih
    split_ifs at length <;> omega

theorem outcomes_getElem? (adds : Adds body outcome gives) (index : Nat) (records : List Record)
    (result : NormalizeResult) (i : Nat) :
    (outcomes body index records result)[i]? = records[i]?.map fun record =>
      outcome (index + i)
        (decide (maxItems ≤ result.items.length + (records.take i).countP gives)) record := by
  induction records generalizing index result i with
  | nil => simp [outcomes]
  | cons record records ih =>
    cases i with
    | zero =>
      simp only [outcomes, added, adds.eq, List.drop_left]
      rfl
    | succ i =>
      have later : maxItems ≤ (body index record result).items.length + (records.take i).countP gives ↔
          maxItems ≤ result.items.length + ((record :: records).take (i + 1)).countP gives := by
        have length := adds.length index record result
        rw [List.take_succ_cons, List.countP_cons]
        split_ifs at length ⊢ <;> omega
      simp only [outcomes, List.getElem?_cons_succ, ih, later, Nat.add_assoc, Nat.add_comm 1 i]

theorem exists_outcome_iff (adds : Adds body outcome gives) (index : Nat) (records : List Record)
    (p : Outcome → Prop) :
    (∃ own ∈ outcomes body index records .empty, p own) ↔
      ∃ (i : Nat) (record : Record), records[i]? = some record ∧
        p (outcome (index + i) (decide (maxItems ≤ (records.take i).countP gives)) record) := by
  have here := adds.outcomes_getElem? index records .empty
  simp only [NormalizeResult.empty, List.length_nil, Nat.zero_add] at here
  constructor
  · rintro ⟨own, mem, holds⟩
    obtain ⟨i, at'⟩ := List.mem_iff_getElem?.mp mem
    obtain ⟨record, found, rfl⟩ := Option.map_eq_some_iff.mp ((here i).symm.trans at')
    exact ⟨i, record, found, holds⟩
  · rintro ⟨i, record, found, holds⟩
    have at' := here i
    rw [found, Option.map_some] at at'
    exact ⟨_, List.mem_iff_getElem?.mpr ⟨i, at'⟩, holds⟩

theorem mem_items (adds : Adds body outcome gives) {index : Nat} {records : List Record}
    {item : NormalizedItem} :
    item ∈ (eachRecord body index records .empty).items ↔
      ∃ (i : Nat) (record : Record), records[i]? = some record ∧
        item ∈ (outcome (index + i) (decide (maxItems ≤ (records.take i).countP gives)) record).items := by
  rw [← adds.exists_outcome_iff index records (item ∈ ·.items), adds.eachRecord_eq]
  simp only [NormalizeResult.empty, List.nil_append, List.mem_flatMap]

theorem mem_issues (adds : Adds body outcome gives) {index : Nat} {records : List Record}
    {issue : NormalizeIssue} :
    issue ∈ (eachRecord body index records .empty).issues ↔
      ∃ (i : Nat) (record : Record), records[i]? = some record ∧
        issue ∈ (outcome (index + i) (decide (maxItems ≤ (records.take i).countP gives)) record).issues := by
  rw [← adds.exists_outcome_iff index records (issue ∈ ·.issues), adds.eachRecord_eq]
  simp only [NormalizeResult.empty, List.nil_append, List.mem_flatMap]

end Adds

end Loop

end ZenPass.Importers
