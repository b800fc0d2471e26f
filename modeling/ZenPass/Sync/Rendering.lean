import ZenPass.Lib.Calendar
import ZenPass.Lib.Double
import ZenPass.Sdk.Repository

set_option autoImplicit false

namespace ZenPass.Sync

open Wire Calendar Double

structure StoredItem where
  vaultId : Id
  itemId : Id
  ciphertext : Bytes
  envelopeVersion : String
  revision : Int
  deleted : Bool
  createdAt : Int
  updatedAt : Int
deriving DecidableEq, Repr

namespace Node

/-- `new Date(column).toISOString()`: the driver cuts a timestamp to whole milliseconds. -/
def isoTime (column : Int) : Option String := toISOString (column / 1000)

/-- The record as `JSON.stringify` writes it; the revision is the integer that its numeral denotes.
A timestamp without a text throws. -/
def toItemRecord (row : StoredItem) : Option Sdk.ItemRecord := do
  let createdAt ← isoTime row.createdAt
  let updatedAt ← isoTime row.updatedAt
  some
    { itemId := row.itemId
      vaultId := row.vaultId
      ciphertext := encodeB64 row.ciphertext
      envelopeVersion := row.envelopeVersion
      revision := numeral (toNumber row.revision)
      deleted := row.deleted
      createdAt
      updatedAt }

end Node

namespace Rust

/-- `to_item_record` as `serde_json` writes it. A timestamp without a text panics. -/
def toItemRecord (row : StoredItem) : Option Sdk.ItemRecord := do
  let createdAt ← rfc3339 row.createdAt
  let updatedAt ← rfc3339 row.updatedAt
  some
    { itemId := row.itemId
      vaultId := row.vaultId
      ciphertext := encodeB64 row.ciphertext
      envelopeVersion := row.envelopeVersion
      revision := row.revision
      deleted := row.deleted
      createdAt
      updatedAt }

end Rust

def WireTime.text : WireTime → Option String
  | .isoString milliseconds => toISOString milliseconds
  | .rfc3339 microseconds => Calendar.rfc3339 microseconds

def ItemRow.stored (row : ItemRow) : StoredItem where
  vaultId := row.vaultId
  itemId := row.itemId
  ciphertext := row.ciphertext
  envelopeVersion := row.envelopeVersion
  revision := row.revision
  deleted := row.deleted
  createdAt := row.createdAt
  updatedAt := row.updatedAt

def servedItem : Backend → StoredItem → Option Sdk.ItemRecord
  | .node, row => Node.toItemRecord row
  | .rust, row => Rust.toItemRecord row

theorem servedItem_times {backend : Backend} {row : ItemRow} {served : Sdk.ItemRecord}
    (rendered : servedItem backend row.stored = some served) :
    (toItemRecord backend row).createdAt.text = some served.createdAt ∧
      (toItemRecord backend row).updatedAt.text = some served.updatedAt := by
  cases backend <;>
    simp only [servedItem, Node.toItemRecord, Rust.toItemRecord, Node.isoTime,
      Option.bind_eq_bind, Option.bind_eq_some_iff, Option.some.injEq] at rendered <;>
    obtain ⟨createdAt, created, updatedAt, updated, rfl⟩ := rendered <;>
    exact ⟨created, updated⟩

/-- The record that the client reads with `JSON.parse`: its numbers are doubles. -/
def parsedRecord (record : Sdk.ItemRecord) : Sdk.ItemRecord :=
  { record with revision := toNumber record.revision }

/-- Both backends serve one record, and a client that stored it from one takes it from the other. -/
def SameRecord (row : StoredItem) : Prop :=
  ∃ node rust, Node.toItemRecord row = some node ∧ Rust.toItemRecord row = some rust ∧
    parsedRecord node = parsedRecord rust ∧
    (Sdk.assertMonotonicPut (some (parsedRecord node)) (parsedRecord rust)).isOk = true ∧
    (Sdk.assertMonotonicPut (some (parsedRecord rust)) (parsedRecord node)).isOk = true

def WholeMilliseconds (time : Int) : Prop :=
  (-62167219200000000 ≤ time ∧ time < 253402300800000000) ∧ time % 1000 = 0 ∧ time % 10000 ≠ 0

instance (time : Int) : Decidable (WholeMilliseconds time) :=
  inferInstanceAs (Decidable (_ ∧ _))

theorem assertMonotonicPut_self (record : Sdk.ItemRecord) :
    (Sdk.assertMonotonicPut (some record) record).isOk = true := by
  simp [Sdk.assertMonotonicPut, Sdk.sameRecordBytes, Except.isOk, Except.toBool]

theorem SameRecord.times {row : StoredItem} (same : SameRecord row) :
    (∃ text, toISOString (row.createdAt / 1000) = some text ∧ rfc3339 row.createdAt = some text) ∧
      ∃ text, toISOString (row.updatedAt / 1000) = some text ∧
        rfc3339 row.updatedAt = some text := by
  obtain ⟨node, rust, nodeRecord, rustRecord, same, -, -⟩ := same
  simp only [Node.toItemRecord, Node.isoTime, Option.bind_eq_bind, Option.bind_eq_some_iff,
    Option.some.injEq] at nodeRecord
  simp only [Rust.toItemRecord, Option.bind_eq_bind, Option.bind_eq_some_iff,
    Option.some.injEq] at rustRecord
  obtain ⟨nodeCreated, nodeCreatedEq, nodeUpdated, nodeUpdatedEq, rfl⟩ := nodeRecord
  obtain ⟨rustCreated, rustCreatedEq, rustUpdated, rustUpdatedEq, rfl⟩ := rustRecord
  simp only [parsedRecord, Sdk.ItemRecord.mk.injEq] at same
  obtain ⟨-, -, -, -, -, -, rfl, rfl⟩ := same
  exact ⟨⟨_, nodeCreatedEq, rustCreatedEq⟩, ⟨_, nodeUpdatedEq, rustUpdatedEq⟩⟩

/-- A row is one record exactly when both of its timestamps are whole milliseconds that do not end
in a zero. -/
theorem rendering_agrees (row : StoredItem) :
    SameRecord row ↔ WholeMilliseconds row.createdAt ∧ WholeMilliseconds row.updatedAt := by
  have created := iso_eq_rfc3339_iff row.createdAt
  have updated := iso_eq_rfc3339_iff row.updatedAt
  constructor
  · intro same
    exact ⟨created.mp same.times.1, updated.mp same.times.2⟩
  · rintro ⟨wholeCreated, wholeUpdated⟩
    obtain ⟨createdAt, nodeCreated, rustCreated⟩ := created.mpr wholeCreated
    obtain ⟨updatedAt, nodeUpdated, rustUpdated⟩ := updated.mpr wholeUpdated
    have node : Node.toItemRecord row = some
        ⟨row.itemId, row.vaultId, encodeB64 row.ciphertext, row.envelopeVersion,
          numeral (toNumber row.revision), row.deleted, createdAt, updatedAt⟩ := by
      simp only [Node.toItemRecord, Node.isoTime, nodeCreated, nodeUpdated, Option.bind_eq_bind,
        Option.bind_some]
    have rust : Rust.toItemRecord row = some
        ⟨row.itemId, row.vaultId, encodeB64 row.ciphertext, row.envelopeVersion, row.revision,
          row.deleted, createdAt, updatedAt⟩ := by
      simp only [Rust.toItemRecord, rustCreated, rustUpdated, Option.bind_eq_bind, Option.bind_some]
    refine ⟨_, _, node, rust, ?_⟩
    -- the numerals differ from 2 ^ 53 on, but the client reads one double
    simp only [parsedRecord, toNumber_numeral, true_and]
    exact ⟨assertMonotonicPut_self _, assertMonotonicPut_self _⟩

/-- A timestamp of `now()` with all its digits: Node serves `.123Z`, Rust `.123456Z`. -/
theorem microseconds_differ : ¬ ∀ row, SameRecord row := by
  intro all
  have same := all
    { vaultId := "vault", itemId := "item", ciphertext := [1, 2, 3], envelopeVersion := "1"
      revision := 1, deleted := false, createdAt := 1714979289123456, updatedAt := 1714979289123456 }
  have whole := (iso_eq_rfc3339_iff 1714979289123456).mp same.times.1
  exact absurd whole (by decide)

end ZenPass.Sync
