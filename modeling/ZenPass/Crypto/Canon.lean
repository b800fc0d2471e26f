import ZenPass.Crypto.Minicbor
import Mathlib.Data.List.Sort

set_option autoImplicit false

namespace ZenPass.Crypto

open Cbor (Bytes)

inductive Error where
  | invalidEncoding | unsupportedVersion | nonCanonicalCbor | unknownField | invalidContext
  | invalidNonce | authenticationFailed | invalidKdfParameters | kdfResourceLimit
  | invalidKeyLength | invalidRecoveryKit | locked | internal
  deriving DecidableEq

def orError {α : Type} (error : Error) : Option α → Except Error α
  | some value => .ok value
  | none => .error error

theorem bind_eq_ok {ε α β : Type} {first : Except ε α} {next : α → Except ε β} {result : β} :
    (first >>= next) = .ok result ↔ ∃ value, first = .ok value ∧ next value = .ok result := by
  cases first with
  | error failed => simp [bind, Except.bind]
  | ok value => simp [bind, Except.bind]

theorem orError_eq_ok {α : Type} {error : Error} {found : Option α} {value : α} :
    orError error found = .ok value ↔ found = some value := by
  cases found with
  | none => simp [orError]
  | some other => simp [orError]

theorem guard_eq_ok {α : Type} {refused : Prop} [Decidable refused] {error : Error}
    {next : Except Error α} {result : α} :
    (if refused then .error error else next) = .ok result ↔ ¬refused ∧ next = .ok result := by
  split_ifs with here <;> simp [here]

theorem bind_eq_error {α β : Type} {first : Except Error α} {next : α → Except Error β}
    {failed : Error} :
    (first >>= next) = .error failed ↔
      first = .error failed ∨ ∃ value, first = .ok value ∧ next value = .error failed := by
  cases first with
  | error error => simp [bind, Except.bind]
  | ok value => simp [bind, Except.bind]

theorem orError_eq_error {α : Type} {error failed : Error} {found : Option α} :
    orError error found = .error failed ↔ found = none ∧ error = failed := by
  cases found with
  | none => simp [orError]
  | some value => simp [orError]

theorem guard_eq_error {α : Type} {refused : Prop} [Decidable refused] {error failed : Error}
    {next : Except Error α} :
    (if refused then .error error else next) = .error failed ↔
      refused ∧ error = failed ∨ ¬refused ∧ next = .error failed := by
  split_ifs with here <;> simp [here]

@[simp] theorem ok_bind {α β : Type} (value : α) (next : α → Except Error β) :
    ((.ok value : Except Error α) >>= next) = next value := rfl

def formatVersion : String := "crypto-envelope/v1"

def maxMapEntries : Nat := 16

inductive Field where
  | text (value : String)
  | bytes (value : Bytes)
  | int (value : Int64)
  | null
  deriving DecidableEq

abbrev Entry := UInt64 × Field

structure StrictMap where
  entries : List Entry

def i64FromU64 (value : UInt64) : Option Int64 :=
  if value.toNat < 2 ^ 63 then some value.toInt64 else none

def u64FromI64 (value : Int64) : Option UInt64 :=
  if 0 ≤ value.toInt then some value.toUInt64 else none

def CborType.isTagOrFloat : CborType → Bool
  | .tag | .f16 | .f32 | .f64 => true
  | _ => false

def readKey (cbor : Minicbor) (input : Bytes) : Except Error (UInt64 × Bytes) := do
  let type ← orError .invalidEncoding (cbor.datatype input)
  if type.isInteger then
    let (value, rest) ← orError .invalidEncoding (cbor.i64 input)
    let key ← orError .unknownField (u64FromI64 value)
    .ok (key, rest)
  else if type.isTagOrFloat then .error .nonCanonicalCbor
  else .error .invalidEncoding

def readValue (cbor : Minicbor) (input : Bytes) : Except Error (Field × Bytes) := do
  let type ← orError .invalidEncoding (cbor.datatype input)
  match type with
  | .string =>
    let (value, rest) ← orError .invalidEncoding (cbor.str input)
    .ok (.text value, rest)
  | .bytes =>
    let (value, rest) ← orError .invalidEncoding (cbor.bytes input)
    .ok (.bytes value, rest)
  | .null =>
    let rest ← orError .invalidEncoding (cbor.skip input)
    .ok (.null, rest)
  | type =>
    if type.isInteger then
      let (value, rest) ← orError .invalidEncoding (cbor.i64 input)
      .ok (.int value, rest)
    else if type.isTagOrFloat then .error .nonCanonicalCbor
    else if type = .stringIndef ∨ type = .bytesIndef then .error .nonCanonicalCbor
    else .error .invalidEncoding

def readEntries (cbor : Minicbor) : Nat → Bytes → Except Error (List Entry × Bytes)
  | 0, input => .ok ([], input)
  | count + 1, input => do
    let (key, input) ← readKey cbor input
    let (value, input) ← readValue cbor input
    let (entries, input) ← readEntries cbor count input
    .ok ((key, value) :: entries, input)

-- every two neighbours, as `windows(2)` gives them
def ascending : List Entry → Bool
  | first :: second :: rest => decide (first.1 < second.1) && ascending (second :: rest)
  | _ => true

-- The length fits a `usize` of 64 bits; on a smaller one the same counts are refused.
def StrictMap.decode (cbor : Minicbor) (bytes : Bytes) : Except Error StrictMap := do
  let (len, rest) ← orError .invalidEncoding (cbor.map bytes)
  let len ← orError .nonCanonicalCbor len
  if maxMapEntries < len.toNat then .error .unknownField
  else
    let (entries, rest) ← readEntries cbor len.toNat rest
    if rest ≠ [] then .error .invalidEncoding
    else if ascending entries then .ok ⟨entries⟩
    else .error .nonCanonicalCbor

def StrictMap.requireKeys (map : StrictMap) (expected : List UInt64) : Except Error Unit :=
  if expected.all fun key => map.entries.any fun entry => entry.1 == key then
    if map.entries.all fun entry => expected.contains entry.1 then .ok ()
    else .error .unknownField
  else .error .invalidEncoding

def StrictMap.field (map : StrictMap) (key : UInt64) : Option Field :=
  (map.entries.find? fun entry => entry.1 == key).map Prod.snd

def Field.asText : Field → Option String
  | .text value => some value
  | _ => none

def Field.asBytes : Field → Option Bytes
  | .bytes value => some value
  | _ => none

def Field.asInt : Field → Option Int64
  | .int value => some value
  | _ => none

def Field.isNull : Field → Bool
  | .null => true
  | _ => false

def StrictMap.getText (map : StrictMap) (key : UInt64) : Option String :=
  (map.field key).bind Field.asText

def StrictMap.getBytes (map : StrictMap) (key : UInt64) : Option Bytes :=
  (map.field key).bind Field.asBytes

def StrictMap.getInt (map : StrictMap) (key : UInt64) : Option Int64 :=
  (map.field key).bind Field.asInt

def StrictMap.getNull (map : StrictMap) (key : UInt64) : Option Unit :=
  (map.field key).bind fun field => if field.isNull then some () else none

def StrictMap.textIs (map : StrictMap) (key : UInt64) (expected : String) : Option Bool :=
  (map.getText key).map fun text => text == expected

def writeField (cbor : Minicbor) : Field → Option Bytes
  | .text value => cbor.writeStr value
  | .bytes value => cbor.writeBytes value
  | .int value => cbor.writeI64 value
  | .null => cbor.writeNull

def writeEntries (cbor : Minicbor) : List Entry → Except Error Bytes
  | [] => .ok []
  | (key, value) :: entries => do
    let key ← orError .internal (cbor.writeU64 key)
    let value ← orError .internal (writeField cbor value)
    let entries ← writeEntries cbor entries
    .ok (key ++ value ++ entries)

def encodeMap (cbor : Minicbor) (entries : List Entry) : Except Error Bytes := do
  let header ← orError .internal (cbor.writeMap (UInt64.ofNat entries.length))
  let body ← writeEntries cbor entries
  .ok (header ++ body)

def StrictMap.assertCanonicalBytes (cbor : Minicbor) (map : StrictMap) (bytes : Bytes) :
    Except Error Unit := do
  let encoded ← encodeMap cbor map.entries
  if encoded ≠ bytes then .error .nonCanonicalCbor else .ok ()

def Field.item : Field → Cbor.Item
  | .text value => .text value
  | .bytes value => .bytes value
  | .int value => .int value.toInt
  | .null => .null

def items (entries : List Entry) : List (Nat × Cbor.Item) :=
  entries.map fun entry => (entry.1.toNat, entry.2.item)

-- lengths a 64-bit machine can hold
def Field.Fits : Field → Prop
  | .text value => (Cbor.utf8 value).length < 2 ^ 64
  | .bytes value => value.length < 2 ^ 64
  | .int _ | .null => True

-- keys within the range of the decoder's `i64`
def Entry.Fits (entry : Entry) : Prop := entry.1.toNat < 2 ^ 63 ∧ entry.2.Fits

theorem writeField_eq {cbor : Minicbor} (conforms : cbor.Conforms) (field : Field) :
    writeField cbor field = some field.item.encode := by
  cases field with
  | text value => exact conforms.writeStr value
  | bytes value => exact conforms.writeBytes value
  | int value => exact conforms.writeI64 value
  | null => exact conforms.writeNull

theorem writeEntries_eq {cbor : Minicbor} (conforms : cbor.Conforms) (entries : List Entry) :
    writeEntries cbor entries = .ok ((items entries).flatMap Cbor.encodeEntry) := by
  induction entries with
  | nil => rfl
  | cons entry entries ih =>
    simp only [writeEntries, conforms.writeU64, writeField_eq conforms, ih, orError, ok_bind]
    simp [items, Cbor.encodeEntry]

theorem encodeMap_eq {cbor : Minicbor} (conforms : cbor.Conforms) (entries : List Entry)
    (few : entries.length ≤ maxMapEntries) :
    encodeMap cbor entries = .ok (Cbor.encodeMap (items entries)) := by
  have count : (UInt64.ofNat entries.length).toNat = entries.length := by
    simp only [maxMapEntries] at few
    apply UInt64.toNat_ofNat_of_lt'
    simp only [UInt64.size]
    omega
  simp only [encodeMap, conforms.writeMap, writeEntries_eq conforms, orError,
    ok_bind, count]
  simp [Cbor.encodeMap, items]

theorem toInt64_toInt (value : UInt64) (small : value.toNat < 2 ^ 63) :
    value.toInt64.toInt = value.toNat := by
  apply BitVec.toInt_eq_toNat_of_lt
  simp only [Int64.toBitVec, UInt64.toInt64, UInt64.toNat_toBitVec]
  omega

theorem u64FromI64_toInt64 (value : UInt64) (small : value.toNat < 2 ^ 63) :
    u64FromI64 value.toInt64 = some value := by
  have signed := toInt64_toInt value small
  simp only [u64FromI64, signed]
  rw [if_pos (by omega)]
  simp

theorem u64FromI64_lt {signed : Int64} {value : UInt64}
    (converted : u64FromI64 signed = some value) : value.toNat < 2 ^ 63 := by
  have bound := signed.toInt_lt
  simp only [u64FromI64] at converted
  split_ifs at converted with positive
  cases converted
  have nonneg : 0 ≤ signed := Int64.le_iff_toInt_le.mpr (by simpa using positive)
  rw [Int64.toNat_toUInt64_of_le nonneg, Int64.toNatClampNeg]
  omega

theorem toInt64_of_u64FromI64 {signed : Int64} {value : UInt64}
    (converted : u64FromI64 signed = some value) : value.toInt64 = signed := by
  simp only [u64FromI64] at converted
  split_ifs at converted
  cases converted
  simp

theorem readKey_head {cbor : Minicbor} (conforms : cbor.Conforms) (key : UInt64)
    (small : key.toNat < 2 ^ 63) (rest : Bytes) :
    readKey cbor (Cbor.head .unsigned key.toNat ++ rest) = .ok (key, rest) := by
  have signed := toInt64_toInt key small
  have head : Cbor.head .unsigned key.toNat = Cbor.encodeInt key.toInt64.toInt := by
    simp [Cbor.encodeInt, signed]
  rcases conforms.integer key.toInt64 rest with ⟨type, integer, known⟩
  simp only [head, readKey, known, orError, ok_bind, integer, conforms.i64, if_true,
    u64FromI64_toInt64 key small]

theorem readValue_encode {cbor : Minicbor} (conforms : cbor.Conforms) (field : Field)
    (fits : field.Fits) (rest : Bytes) :
    readValue cbor (field.item.encode ++ rest) = .ok (field, rest) := by
  cases field with
  | text value =>
    simp only [Field.item, readValue, conforms.string value rest fits,
      conforms.str value rest fits, orError, ok_bind]
  | bytes value =>
    simp only [Field.item, readValue, conforms.byteString value rest fits,
      conforms.bytes value rest fits, orError, ok_bind]
  | null =>
    simp only [Field.item, Cbor.Item.encode, readValue, conforms.null, conforms.skip, orError,
      ok_bind]
  | int value =>
    rcases conforms.integer value rest with ⟨type, integer, known⟩
    simp only [Field.item, Cbor.Item.encode, readValue, known, conforms.i64, orError, ok_bind]
    cases type <;> first | rfl | cases integer

theorem readEntries_encode {cbor : Minicbor} (conforms : cbor.Conforms) (entries : List Entry)
    (fits : ∀ entry ∈ entries, Entry.Fits entry) (rest : Bytes) :
    readEntries cbor entries.length ((items entries).flatMap Cbor.encodeEntry ++ rest)
      = .ok (entries, rest) := by
  induction entries with
  | nil => rfl
  | cons entry entries ih =>
    have later := ih fun other member => fits other (List.mem_cons_of_mem _ member)
    have this := fits entry List.mem_cons_self
    simp only [items, List.map_cons, List.flatMap_cons, Cbor.encodeEntry, List.append_assoc,
      List.length_cons, readEntries]
    rw [readKey_head conforms entry.1 this.1, ok_bind]
    simp only
    rw [readValue_encode conforms entry.2 this.2, ok_bind]
    simp only
    rw [show entries.map (fun entry => (entry.1.toNat, entry.2.item)) = items entries from rfl,
      later]
    rfl

theorem decode_encodeMap {cbor : Minicbor} (conforms : cbor.Conforms) (entries : List Entry)
    (few : entries.length ≤ maxMapEntries) (fits : ∀ entry ∈ entries, Entry.Fits entry)
    (sorted : ascending entries = true) :
    StrictMap.decode cbor (Cbor.encodeMap (items entries)) = .ok ⟨entries⟩ := by
  have count : (UInt64.ofNat entries.length).toNat = entries.length := by
    simp only [maxMapEntries] at few
    apply UInt64.toNat_ofNat_of_lt'
    simp only [UInt64.size]
    omega
  have header := conforms.map (UInt64.ofNat entries.length)
    ((items entries).flatMap Cbor.encodeEntry)
  have body := readEntries_encode conforms entries fits []
  rw [count] at header
  rw [List.append_nil] at body
  have length : (items entries).length = entries.length := by simp [items]
  simp only [StrictMap.decode, Cbor.encodeMap, length, header, orError, ok_bind, count, body,
    sorted]
  rw [if_neg (by omega)]
  simp

theorem ascending_pairwise (entries : List Entry) (sorted : ascending entries = true) :
    (entries.map Prod.fst).Pairwise (· < ·) := by
  induction entries with
  | nil => exact List.Pairwise.nil
  | cons first entries ih =>
    cases entries with
    | nil => simp
    | cons second entries =>
      simp only [ascending, Bool.and_eq_true, decide_eq_true_eq] at sorted
      have later := ih sorted.2
      rw [List.map_cons, List.pairwise_cons]
      refine ⟨?_, later⟩
      intro key member
      rw [List.map_cons, List.pairwise_cons] at later
      rcases List.mem_cons.mp member with rfl | deeper
      · exact sorted.1
      · exact UInt64.lt_trans sorted.1 (later.1 key deeper)

theorem requireKeys_keys {map : StrictMap} {expected : List UInt64}
    (sorted : ascending map.entries = true) (order : expected.Pairwise (· < ·))
    (required : map.requireKeys expected = .ok ()) : map.entries.map Prod.fst = expected := by
  simp only [StrictMap.requireKeys] at required
  split_ifs at required with present known
  have ordered := ascending_pairwise map.entries sorted
  have members : ∀ key, key ∈ map.entries.map Prod.fst ↔ key ∈ expected := by
    intro key
    constructor
    · intro member
      rcases List.mem_map.mp member with ⟨entry, there, rfl⟩
      simpa using List.all_eq_true.mp known entry there
    · intro member
      have found := List.all_eq_true.mp present key member
      rcases List.any_eq_true.mp found with ⟨entry, there, same⟩
      exact List.mem_map.mpr ⟨entry, there, by simpa using same⟩
  have nodup : (map.entries.map Prod.fst).Nodup := ordered.imp UInt64.ne_of_lt
  have nodup' : expected.Nodup := order.imp UInt64.ne_of_lt
  have perm := (List.perm_ext_iff_of_nodup nodup nodup').mpr members
  exact perm.eq_of_pairwise (fun _ _ _ _ less greater => absurd less (UInt64.lt_asymm greater))
    ordered order

def sixEntries (first second third fourth fifth sixth : Field) : List Entry :=
  [(1, first), (2, second), (3, third), (4, fourth), (5, fifth), (6, sixth)]

theorem requireKeys_sixEntries {map : StrictMap} (sorted : ascending map.entries = true)
    (required : map.requireKeys [1, 2, 3, 4, 5, 6] = .ok ()) :
    ∃ first second third fourth fifth sixth,
      map.entries = sixEntries first second third fourth fifth sixth := by
  have keys := requireKeys_keys sorted (by decide) required
  rcases map with ⟨entries⟩
  simp only [List.map_eq_cons_iff, List.map_eq_nil_iff] at keys
  rcases keys with ⟨⟨_, first⟩, _, rfl, rfl, ⟨_, second⟩, _, rfl, rfl, ⟨_, third⟩, _, rfl, rfl,
    ⟨_, fourth⟩, _, rfl, rfl, ⟨_, fifth⟩, _, rfl, rfl, ⟨_, sixth⟩, _, rfl, rfl, rfl⟩
  exact ⟨first, second, third, fourth, fifth, sixth, rfl⟩

theorem decode_ascending {cbor : Minicbor} {bytes : Bytes} {map : StrictMap}
    (decoded : StrictMap.decode cbor bytes = .ok map) : ascending map.entries = true := by
  simp only [StrictMap.decode, bind_eq_ok, orError_eq_ok] at decoded
  rcases decoded with ⟨⟨len, rest⟩, _, len, _, decoded⟩
  split_ifs at decoded
  rcases bind_eq_ok.mp decoded with ⟨⟨entries, rest⟩, _, decoded⟩
  simp only at decoded
  split_ifs at decoded with _ sorted
  cases decoded
  exact sorted

end ZenPass.Crypto
