import ZenPass.Crypto.CanonicalEnvelope
import ZenPass.Crypto.CanonicalMap
import ZenPass.Crypto.Keys

set_option autoImplicit false

namespace ZenPass.Crypto

open Cbor (Bytes)

def minMemoryKib : UInt32 := 65536
def minIterations : UInt32 := 3
def minParallelism : UInt32 := 1
def saltLen : Nat := 16
def outputLen : Nat := 32
def argon2Version : Int64 := 19
def algorithm : String := "argon2id"

structure KdfParams where
  memoryKib : UInt32
  iterations : UInt32
  parallelism : UInt32
  salt : Bytes
  -- `[u8; SALT_LEN]`
  saltSize : salt.length = saltLen

namespace KdfParams

def validate (params : KdfParams) : Except Error Unit :=
  if params.memoryKib < minMemoryKib then .error .invalidKdfParameters
  else if params.iterations < minIterations then .error .invalidKdfParameters
  else if params.parallelism < minParallelism then .error .invalidKdfParameters
  else .ok ()

def new (memoryKib iterations parallelism : UInt32) (salt : Bytes) : Except Error KdfParams :=
  if saltSize : salt.length = saltLen then do
    let params : KdfParams := { memoryKib, iterations, parallelism, salt, saltSize }
    params.validate
    .ok params
  else .error .invalidKdfParameters

def validateAgainstMemoryCap (params : KdfParams) (reportedPhysicalMemoryKib : UInt64) :
    Except Error Unit :=
  if reportedPhysicalMemoryKib < params.memoryKib.toUInt64 * 4 then .error .kdfResourceLimit
  else .ok ()

end KdfParams

def i64FromU32 (value : UInt32) : Int64 := Int64.ofInt value.toNat

def u32FromI64 (value : Int64) : Option UInt32 :=
  if 0 ≤ value.toInt ∧ value.toInt < 2 ^ 32 then some (UInt32.ofNat value.toInt.toNat) else none

def positiveU32 (value : Option Int64) : Except Error UInt32 := do
  let value ← orError .invalidKdfParameters value
  orError .invalidKdfParameters (u32FromI64 value)

def kdfEntries (algorithm version memory iterations parallelism salt output : Field) : List Entry :=
  [(1, algorithm), (2, version), (3, memory), (4, iterations), (5, parallelism), (6, salt),
    (7, output)]

namespace KdfParams

def entries (params : KdfParams) : List Entry :=
  kdfEntries (.text algorithm) (.int argon2Version) (.int (i64FromU32 params.memoryKib))
    (.int (i64FromU32 params.iterations)) (.int (i64FromU32 params.parallelism))
    (.bytes params.salt) (.int (Int64.ofInt outputLen))

def encodeCanonicalCbor (cbor : Minicbor) (params : KdfParams) : Except Error Bytes := do
  params.validate
  encodeMap cbor params.entries

def decodeCanonicalCbor (cbor : Minicbor) (bytes : Bytes) (reportedPhysicalMemoryKib : UInt64) :
    Except Error KdfParams := do
  let map ← StrictMap.decode cbor bytes
  map.requireKeys [1, 2, 3, 4, 5, 6, 7]
  map.assertCanonicalBytes cbor bytes
  if map.getText 1 ≠ some algorithm then .error .invalidKdfParameters
  else if map.getInt 2 ≠ some argon2Version then .error .invalidKdfParameters
  else
    let memoryKib ← positiveU32 (map.getInt 3)
    let iterations ← positiveU32 (map.getInt 4)
    let parallelism ← positiveU32 (map.getInt 5)
    let salt ← orError .invalidKdfParameters (map.getBytes 6)
    if salt.length ≠ saltLen then .error .invalidKdfParameters
    else if map.getInt 7 ≠ some (Int64.ofInt outputLen) then .error .invalidKdfParameters
    else
      let params ← KdfParams.new memoryKib iterations parallelism salt
      params.validateAgainstMemoryCap reportedPhysicalMemoryKib
      .ok params

end KdfParams

structure ParamsBuilder where
  mCost : UInt32
  tCost : UInt32
  pCost : UInt32
  outputLen : Nat

structure Argon2 where
  -- whether `ParamsBuilder::build` gives parameters
  build : ParamsBuilder → Bool
  hashPasswordInto (params : ParamsBuilder) (password salt : Bytes) : Option Bytes

def KdfParams.builder (params : KdfParams) : ParamsBuilder where
  mCost := params.memoryKib
  tCost := params.iterations
  pCost := params.parallelism
  outputLen := outputLen

def deriveUnlockKey (argon2 : Argon2) (password : Bytes) (params : KdfParams)
    (reportedPhysicalMemoryKib : UInt64) : Except Error UnlockKey := do
  params.validate
  params.validateAgainstMemoryCap reportedPhysicalMemoryKib
  if argon2.build params.builder then
    let out ← orError .internal (argon2.hashPasswordInto params.builder password params.salt)
    UnlockKey.fromBytes out
  else .error .invalidKdfParameters

structure KdfParams.WithinContract (params : KdfParams) : Prop where
  memory : 65536 ≤ params.memoryKib.toNat
  iterations : 3 ≤ params.iterations.toNat
  parallelism : 1 ≤ params.parallelism.toNat

theorem KdfParams.validate_eq_ok {params : KdfParams} :
    params.validate = .ok () ↔ params.WithinContract := by
  have memory : params.memoryKib < minMemoryKib ↔ params.memoryKib.toNat < 65536 := Iff.rfl
  have iterations : params.iterations < minIterations ↔ params.iterations.toNat < 3 := Iff.rfl
  have parallelism : params.parallelism < minParallelism ↔ params.parallelism.toNat < 1 := Iff.rfl
  simp only [validate, memory, iterations, parallelism]
  constructor
  · intro valid
    split_ifs at valid with low few none
    exact ⟨Nat.le_of_not_lt low, Nat.le_of_not_lt few, Nat.le_of_not_lt none⟩
  · intro within
    rw [if_neg (Nat.not_lt.mpr within.memory), if_neg (Nat.not_lt.mpr within.iterations),
      if_neg (Nat.not_lt.mpr within.parallelism)]

-- Four times a `u32` fits a `u64`.
theorem KdfParams.cap_iff {params : KdfParams} {reported : UInt64} :
    reported < params.memoryKib.toUInt64 * 4 ↔ reported.toNat < 4 * params.memoryKib.toNat := by
  have bound := params.memoryKib.toNat_lt
  rw [UInt64.lt_iff_toNat_lt, UInt64.toNat_mul, UInt32.toNat_toUInt64]
  have four : (4 : UInt64).toNat = 4 := rfl
  rw [four]
  omega

theorem KdfParams.validateAgainstMemoryCap_eq (params : KdfParams) (reported : UInt64) :
    params.validateAgainstMemoryCap reported
      = if 4 * params.memoryKib.toNat ≤ reported.toNat then .ok () else .error .kdfResourceLimit := by
  simp only [validateAgainstMemoryCap, cap_iff]
  split_ifs <;> first | rfl | omega

theorem KdfParams.validateAgainstMemoryCap_eq_ok {params : KdfParams} {reported : UInt64} :
    params.validateAgainstMemoryCap reported = .ok () ↔
      4 * params.memoryKib.toNat ≤ reported.toNat := by
  rw [validateAgainstMemoryCap_eq]
  split_ifs with capped <;> simp [capped]

theorem KdfParams.new_self (params : KdfParams) :
    KdfParams.new params.memoryKib params.iterations params.parallelism params.salt
      = params.validate.map fun _ => params := by
  rw [KdfParams.new, dif_pos params.saltSize]
  cases validated : params.validate with
  | ok _ => simp [validated, Except.map, bind, Except.bind]
  | error error => simp [validated, Except.map, bind, Except.bind]

theorem KdfParams.new_eq_ok {memoryKib iterations parallelism : UInt32} {salt : Bytes}
    {params : KdfParams} :
    KdfParams.new memoryKib iterations parallelism salt = .ok params ↔
      params.WithinContract ∧ params.memoryKib = memoryKib ∧ params.iterations = iterations ∧
        params.parallelism = parallelism ∧ params.salt = salt := by
  constructor
  · intro made
    unfold KdfParams.new at made
    split_ifs at made
    obtain ⟨_, validated, same⟩ := bind_eq_ok.mp made
    cases same
    exact ⟨validate_eq_ok.mp validated, rfl, rfl, rfl, rfl⟩
  · rintro ⟨within, rfl, rfl, rfl, rfl⟩
    rw [new_self, validate_eq_ok.mpr within]
    rfl

theorem i64FromU32_toInt (value : UInt32) : (i64FromU32 value).toInt = value.toNat := by
  have bound := value.toNat_lt
  apply Int64.toInt_ofInt_of_le
  · omega
  · omega

theorem u32FromI64_i64FromU32 (value : UInt32) : u32FromI64 (i64FromU32 value) = some value := by
  have bound := value.toNat_lt
  simp only [u32FromI64, i64FromU32_toInt]
  rw [if_pos (by omega)]
  simp

theorem i64FromU32_of_u32FromI64 {signed : Int64} {value : UInt32}
    (converted : u32FromI64 signed = some value) : signed = i64FromU32 value := by
  simp only [u32FromI64] at converted
  split_ifs at converted with range
  cases converted
  apply Int64.toInt_inj.mp
  rw [i64FromU32_toInt, UInt32.toNat_ofNat_of_lt' (by simp only [UInt32.size]; omega)]
  omega

theorem positiveU32_eq_ok {found : Option Int64} {value : UInt32} :
    positiveU32 found = .ok value ↔ found = some (i64FromU32 value) := by
  simp only [positiveU32, bind_eq_ok, orError_eq_ok]
  constructor
  · rintro ⟨signed, rfl, converted⟩
    exact congrArg some (i64FromU32_of_u32FromI64 converted)
  · rintro rfl
    exact ⟨_, rfl, u32FromI64_i64FromU32 value⟩

def canonicalKdf (params : KdfParams) : Bytes :=
  Cbor.encodeMap [(1, .text "argon2id"), (2, .int 19), (3, .int params.memoryKib.toNat),
    (4, .int params.iterations.toNat), (5, .int params.parallelism.toNat), (6, .bytes params.salt),
    (7, .int 32)]

theorem KdfParams.items_entries (params : KdfParams) :
    Cbor.encodeMap (items params.entries) = canonicalKdf params := by
  have memory := i64FromU32_toInt params.memoryKib
  have iterations := i64FromU32_toInt params.iterations
  have parallelism := i64FromU32_toInt params.parallelism
  simp only [items, entries, kdfEntries, List.map_cons, List.map_nil, Field.item, memory, iterations,
    parallelism]
  rfl

theorem KdfParams.entries_canonical (params : KdfParams) : CanonicalEntries params.entries where
  few := by
    simp only [entries, kdfEntries, List.length_cons, List.length_nil, maxMapEntries]
    omega
  keys := by
    simp only [entries, kdfEntries, List.forall_mem_cons]
    exact ⟨by decide, by decide, by decide, by decide, by decide, by decide, by decide, by simp⟩
  order := by
    simp only [entries, kdfEntries, List.map_cons, List.map_nil]
    decide

theorem KdfParams.entries_fits (params : KdfParams) :
    ∀ entry ∈ params.entries, Entry.Fits entry := by
  intro entry member
  refine ⟨params.entries_canonical.keys entry member, ?_⟩
  have text : (Cbor.utf8 algorithm).length < 2 ^ 64 := by decide
  have salt : params.salt.length < 2 ^ 64 := by
    rw [params.saltSize]
    decide
  simp only [entries, kdfEntries, List.mem_cons, List.not_mem_nil, or_false] at member
  rcases member with rfl | rfl | rfl | rfl | rfl | rfl | rfl
  · exact text
  · trivial
  · trivial
  · trivial
  · trivial
  · exact salt
  · trivial

theorem requireKeys_kdfEntries {map : StrictMap} (sorted : ascending map.entries = true)
    (required : map.requireKeys [1, 2, 3, 4, 5, 6, 7] = .ok ()) :
    ∃ algorithm version memory iterations parallelism salt output,
      map = ⟨kdfEntries algorithm version memory iterations parallelism salt output⟩ := by
  have keys := requireKeys_keys sorted (by decide) required
  rcases map with ⟨entries⟩
  simp only [List.map_eq_cons_iff, List.map_eq_nil_iff] at keys
  rcases keys with ⟨⟨_, algorithm⟩, _, rfl, rfl, ⟨_, version⟩, _, rfl, rfl, ⟨_, memory⟩, _, rfl, rfl,
    ⟨_, iterations⟩, _, rfl, rfl, ⟨_, parallelism⟩, _, rfl, rfl, ⟨_, salt⟩, _, rfl, rfl,
    ⟨_, output⟩, _, rfl, rfl, rfl⟩
  exact ⟨algorithm, version, memory, iterations, parallelism, salt, output, rfl⟩

section Codec

variable {cbor : Minicbor} (conforms : cbor.Conforms)

include conforms

theorem KdfParams.encodeCanonicalCbor_eq_ok {params : KdfParams} {bytes : Bytes} :
    params.encodeCanonicalCbor cbor = .ok bytes ↔
      params.WithinContract ∧ bytes = canonicalKdf params := by
  have encoded := encodeMap_eq conforms params.entries params.entries_canonical.few
  simp only [encodeCanonicalCbor, bind_eq_ok, encoded, params.items_entries, Except.ok.injEq]
  constructor
  · rintro ⟨_, validated, rfl⟩
    exact ⟨validate_eq_ok.mp validated, rfl⟩
  · rintro ⟨within, rfl⟩
    exact ⟨(), validate_eq_ok.mpr within, rfl⟩

theorem KdfParams.decode_canonicalKdf {params : KdfParams} (within : params.WithinContract)
    (reported : UInt64) :
    KdfParams.decodeCanonicalCbor cbor (canonicalKdf params) reported
      = if 4 * params.memoryKib.toNat ≤ reported.toNat then .ok params
        else .error .kdfResourceLimit := by
  have few := params.entries_canonical.few
  have decoded := decode_encodeMap conforms params.entries few params.entries_fits
    (ascending_of_pairwise params.entries_canonical.order)
  have encoded := encodeMap_eq conforms params.entries few
  rw [params.items_entries] at decoded encoded
  have required : StrictMap.requireKeys ⟨params.entries⟩ [1, 2, 3, 4, 5, 6, 7] = .ok () := rfl
  have canonical : StrictMap.assertCanonicalBytes cbor ⟨params.entries⟩ (canonicalKdf params)
      = .ok () := by
    simp only [StrictMap.assertCanonicalBytes, encoded, ok_bind]
    simp
  have text : StrictMap.getText ⟨params.entries⟩ 1 = some algorithm := rfl
  have version : StrictMap.getInt ⟨params.entries⟩ 2 = some argon2Version := rfl
  have memory : positiveU32 (StrictMap.getInt ⟨params.entries⟩ 3) = .ok params.memoryKib :=
    positiveU32_eq_ok.mpr rfl
  have iterations : positiveU32 (StrictMap.getInt ⟨params.entries⟩ 4) = .ok params.iterations :=
    positiveU32_eq_ok.mpr rfl
  have parallelism : positiveU32 (StrictMap.getInt ⟨params.entries⟩ 5) = .ok params.parallelism :=
    positiveU32_eq_ok.mpr rfl
  have salt : StrictMap.getBytes ⟨params.entries⟩ 6 = some params.salt := rfl
  have output : StrictMap.getInt ⟨params.entries⟩ 7 = some (Int64.ofInt outputLen) := rfl
  have made : KdfParams.new params.memoryKib params.iterations params.parallelism params.salt
      = .ok params := new_eq_ok.mpr ⟨within, rfl, rfl, rfl, rfl⟩
  simp only [decodeCanonicalCbor, decoded, required, canonical, text, version, memory, iterations,
    parallelism, salt, output, made, orError, ok_bind, params.saltSize, ne_eq, not_true_eq_false,
    if_false, validateAgainstMemoryCap_eq]
  split_ifs <;> rfl

theorem KdfParams.decode_eq_ok {params : KdfParams} {bytes : Bytes} {reported : UInt64} :
    KdfParams.decodeCanonicalCbor cbor bytes reported = .ok params ↔
      params.WithinContract ∧ 4 * params.memoryKib.toNat ≤ reported.toNat ∧
        bytes = canonicalKdf params := by
  constructor
  · intro accepted
    simp only [decodeCanonicalCbor, bind_eq_ok, guard_eq_ok, not_not] at accepted
    obtain ⟨map, read, _, required, _, canonical, isText, isVersion, memoryKib, isMemory, iterationCount,
      isIterations, lanes, isParallelism, saltBytes, isSalt, _, isOutput, made, isNew, _, capped, same⟩ :=
      accepted
    obtain ⟨algorithm', version, memory, iterations, parallelism, salt, output, rfl⟩ :=
      requireKeys_kdfEntries (decode_ascending read) required
    cases same
    obtain ⟨within, rfl, rfl, rfl, rfl⟩ := new_eq_ok.mp isNew
    refine ⟨within, validateAgainstMemoryCap_eq_ok.mp capped, ?_⟩
    -- every field is the one `entries` writes
    obtain rfl := asText_eq_some.mp isText
    obtain rfl := asInt_eq_some.mp isVersion
    obtain rfl := asInt_eq_some.mp (positiveU32_eq_ok.mp isMemory)
    obtain rfl := asInt_eq_some.mp (positiveU32_eq_ok.mp isIterations)
    obtain rfl := asInt_eq_some.mp (positiveU32_eq_ok.mp isParallelism)
    obtain rfl := asBytes_eq_some.mp (orError_eq_ok.mp isSalt)
    obtain rfl := asInt_eq_some.mp isOutput
    have encoded := encodeMap_eq conforms params.entries params.entries_canonical.few
    rw [params.items_entries] at encoded
    simp only [StrictMap.assertCanonicalBytes, bind_eq_ok, guard_eq_ok, not_not] at canonical
    obtain ⟨written, isWritten, rfl, -⟩ := canonical
    exact Except.ok.inj (isWritten.symm.trans encoded)
  · rintro ⟨within, capped, rfl⟩
    rw [decode_canonicalKdf conforms within, if_pos capped]

end Codec

/-- What `decode_canonical_cbor` accepts is the canonical encoding of parameters within the contract
whose memory is at most a quarter of the reported one, and it is the inverse of the encoder there. -/
theorem kdf_codec_canonical (cbor : Minicbor) (conforms : cbor.Conforms) (bytes : Bytes)
    (reported : UInt64) :
    ((∃ params, KdfParams.decodeCanonicalCbor cbor bytes reported = .ok params) ↔
      ∃ params : KdfParams, params.WithinContract ∧
        4 * params.memoryKib.toNat ≤ reported.toNat ∧ bytes = canonicalKdf params) ∧
    (∀ params : KdfParams, params.encodeCanonicalCbor cbor = .ok bytes ↔
      params.WithinContract ∧ bytes = canonicalKdf params) ∧
    (∀ params : KdfParams, params.encodeCanonicalCbor cbor = .ok bytes →
      KdfParams.decodeCanonicalCbor cbor bytes reported
        = if 4 * params.memoryKib.toNat ≤ reported.toNat then .ok params
          else .error .kdfResourceLimit) ∧
    ∀ params, KdfParams.decodeCanonicalCbor cbor bytes reported = .ok params →
      params.encodeCanonicalCbor cbor = .ok bytes := by
  refine ⟨?_, ?_, ?_, ?_⟩
  · simp only [KdfParams.decode_eq_ok conforms]
  · intro params
    exact KdfParams.encodeCanonicalCbor_eq_ok conforms
  · intro params encoded
    obtain ⟨within, rfl⟩ := (KdfParams.encodeCanonicalCbor_eq_ok conforms).mp encoded
    exact KdfParams.decode_canonicalKdf conforms within reported
  · intro params accepted
    obtain ⟨within, -, same⟩ := (KdfParams.decode_eq_ok conforms).mp accepted
    exact (KdfParams.encodeCanonicalCbor_eq_ok conforms).mpr ⟨within, same⟩

-- the minima of the contract
def leastParams : KdfParams where
  memoryKib := minMemoryKib
  iterations := minIterations
  parallelism := minParallelism
  salt := List.replicate saltLen 7
  saltSize := rfl

theorem kdf_codec_canonical_least :
    ((∃ params, KdfParams.decodeCanonicalCbor Minicbor.rfc8949 (canonicalKdf leastParams) 262144
        = .ok params) ↔
      ∃ params : KdfParams, params.WithinContract ∧
        4 * params.memoryKib.toNat ≤ (262144 : UInt64).toNat ∧
        canonicalKdf leastParams = canonicalKdf params) ∧
    (∀ params : KdfParams, params.encodeCanonicalCbor Minicbor.rfc8949
        = .ok (canonicalKdf leastParams) ↔
      params.WithinContract ∧ canonicalKdf leastParams = canonicalKdf params) ∧
    (∀ params : KdfParams, params.encodeCanonicalCbor Minicbor.rfc8949
        = .ok (canonicalKdf leastParams) →
      KdfParams.decodeCanonicalCbor Minicbor.rfc8949 (canonicalKdf leastParams) 262144
        = if 4 * params.memoryKib.toNat ≤ (262144 : UInt64).toNat then .ok params
          else .error .kdfResourceLimit) ∧
    ∀ params, KdfParams.decodeCanonicalCbor Minicbor.rfc8949 (canonicalKdf leastParams) 262144
        = .ok params →
      params.encodeCanonicalCbor Minicbor.rfc8949 = .ok (canonicalKdf leastParams) :=
  kdf_codec_canonical Minicbor.rfc8949 Minicbor.rfc8949_conforms (canonicalKdf leastParams) 262144

-- one KiB less than four times the memory
example : (KdfParams.decodeCanonicalCbor Minicbor.rfc8949 (canonicalKdf leastParams) 262144).toOption.isSome
    ∧ (KdfParams.decodeCanonicalCbor Minicbor.rfc8949 (canonicalKdf leastParams) 262143).toOption.isNone := by
  decide +kernel

/-- What Argon2 takes: memory of at least eight blocks for each lane, 1 to 2^24 - 1 lanes, at least one
pass, and passwords and salts of the lengths it can hold. -/
structure Argon2.Conforms (argon2 : Argon2) : Prop where
  build : ∀ params : ParamsBuilder, argon2.build params = true ↔
    8 * params.pCost.toNat ≤ params.mCost.toNat ∧ 1 ≤ params.pCost.toNat ∧
      params.pCost.toNat ≤ 2 ^ 24 - 1 ∧ 1 ≤ params.tCost.toNat ∧ 4 ≤ params.outputLen
  hash : ∀ (params : ParamsBuilder) (password salt : Bytes), argon2.build params = true →
    password.length ≤ 2 ^ 32 - 1 → 8 ≤ salt.length → salt.length ≤ 2 ^ 32 - 1 →
    ∃ out, argon2.hashPasswordInto params password salt = some out ∧ out.length = params.outputLen

def KdfParams.Accepted (cbor : Minicbor) (params : KdfParams) (reported : UInt64) : Prop :=
  (KdfParams.new params.memoryKib params.iterations params.parallelism params.salt = .ok params ∧
      params.validateAgainstMemoryCap reported = .ok ()) ∨
    ∃ bytes, KdfParams.decodeCanonicalCbor cbor bytes reported = .ok params

/-- The joint bound of Argon2 that no check of the core makes. -/
def KdfParams.EnoughMemory (params : KdfParams) : Prop :=
  8 * params.parallelism.toNat ≤ params.memoryKib.toNat ∧ params.parallelism.toNat ≤ 2 ^ 24 - 1

theorem KdfParams.accepted_iff {cbor : Minicbor} (conforms : cbor.Conforms) {params : KdfParams}
    {reported : UInt64} :
    params.Accepted cbor reported ↔
      params.WithinContract ∧ 4 * params.memoryKib.toNat ≤ reported.toNat := by
  have decoded (bytes : Bytes) := @decode_eq_ok cbor conforms params bytes reported
  simp only [Accepted, new_eq_ok, validateAgainstMemoryCap_eq_ok, decoded, and_true]
  constructor
  · rintro (accepted | ⟨bytes, within, capped, -⟩)
    · exact accepted
    · exact ⟨within, capped⟩
  · exact Or.inl

section Derivation

variable {argon2 : Argon2} (rules : argon2.Conforms) {params : KdfParams} {reported : UInt64}
  (within : params.WithinContract) (capped : 4 * params.memoryKib.toNat ≤ reported.toNat)

include rules within in
theorem KdfParams.build_iff : argon2.build params.builder = true ↔ params.EnoughMemory := by
  have lanes := within.parallelism
  have passes := within.iterations
  have length : 4 ≤ outputLen := by decide
  rw [rules.build]
  simp only [builder, EnoughMemory]
  omega

include within capped

theorem derive_checks (password : Bytes) :
    deriveUnlockKey argon2 password params reported
      = if argon2.build params.builder then do
          let out ← orError .internal (argon2.hashPasswordInto params.builder password params.salt)
          UnlockKey.fromBytes out
        else .error .invalidKdfParameters := by
  simp only [deriveUnlockKey, KdfParams.validate_eq_ok.mpr within,
    KdfParams.validateAgainstMemoryCap_eq_ok.mpr capped, ok_bind]

include rules

theorem derive_key (enough : params.EnoughMemory) {password : Bytes}
    (short : password.length ≤ 2 ^ 32 - 1) :
    ∃ key, deriveUnlockKey argon2 password params reported = .ok key := by
  have built := (KdfParams.build_iff rules within).mpr enough
  have salt : params.salt.length = 16 := params.saltSize
  obtain ⟨out, hashed, size⟩ := rules.hash params.builder password params.salt built short
    (by omega) (by omega)
  have read : Secret32.fromBytes out = .ok ⟨out, size⟩ := Secret32.fromBytes_eq_ok.mpr rfl
  refine ⟨⟨out, size⟩, ?_⟩
  rw [derive_checks within capped, if_pos built, hashed]
  simp only [orError, ok_bind, UnlockKey.fromBytes, read, Except.map]

theorem derive_refused (little : ¬params.EnoughMemory) (password : Bytes) :
    deriveUnlockKey argon2 password params reported = .error .invalidKdfParameters := by
  rw [derive_checks within capped, if_neg (mt (KdfParams.build_iff rules within).mp little)]

-- The later failures are about the password.
theorem derive_not_refused (enough : params.EnoughMemory) (password : Bytes) :
    deriveUnlockKey argon2 password params reported ≠ .error .invalidKdfParameters ∧
      deriveUnlockKey argon2 password params reported ≠ .error .kdfResourceLimit := by
  rw [derive_checks within capped, if_pos ((KdfParams.build_iff rules within).mpr enough)]
  cases argon2.hashPasswordInto params.builder password params.salt with
  | none => simp [orError, bind, Except.bind]
  | some out =>
    simp only [orError, ok_bind, UnlockKey.fromBytes]
    cases read : Secret32.fromBytes out with
    | ok secret => simp [Except.map]
    | error error =>
      obtain ⟨-, rfl⟩ := Secret32.fromBytes_eq_error.mp read
      simp [Except.map]

end Derivation

/-- Accepted parameters are refused by the derivation for no password exactly when their memory is
enough for their lanes; then every password Argon2 can take gives a key, and else none does. -/
theorem accepted_params_derivable_iff (cbor : Minicbor) (conforms : cbor.Conforms) (argon2 : Argon2)
    (rules : argon2.Conforms) (params : KdfParams) (reported : UInt64)
    (accepted : params.Accepted cbor reported) :
    ((∀ password,
        deriveUnlockKey argon2 password params reported ≠ .error .invalidKdfParameters ∧
        deriveUnlockKey argon2 password params reported ≠ .error .kdfResourceLimit) ↔
      params.EnoughMemory) ∧
    (params.EnoughMemory → ∀ password : Bytes, password.length ≤ 2 ^ 32 - 1 →
      ∃ key, deriveUnlockKey argon2 password params reported = .ok key) ∧
    (¬params.EnoughMemory → ∀ password,
      deriveUnlockKey argon2 password params reported = .error .invalidKdfParameters) := by
  obtain ⟨within, capped⟩ := (KdfParams.accepted_iff conforms).mp accepted
  refine ⟨⟨?_, ?_⟩, ?_, ?_⟩
  · intro derivable
    by_contra little
    exact (derivable []).1 (derive_refused rules within capped little [])
  · intro enough password
    exact derive_not_refused rules within capped enough password
  · intro enough password short
    exact derive_key rules within capped enough short
  · intro little password
    exact derive_refused rules within capped little password

-- 8193 lanes in the least memory
def crowdedParams : KdfParams where
  memoryKib := minMemoryKib
  iterations := minIterations
  parallelism := 8193
  salt := List.replicate saltLen 7
  saltSize := rfl

-- the checks of Argon2, and no hash
def argon2Checks : Argon2 where
  build params := decide (8 * params.pCost.toNat ≤ params.mCost.toNat ∧ 1 ≤ params.pCost.toNat ∧
    params.pCost.toNat ≤ 2 ^ 24 - 1 ∧ 1 ≤ params.tCost.toNat ∧ 4 ≤ params.outputLen)
  hashPasswordInto params _ _ := some (List.replicate params.outputLen 0)

theorem argon2Checks_conforms : argon2Checks.Conforms where
  build params := by simp only [argon2Checks, decide_eq_true_eq]
  hash params password salt _ _ _ _ := ⟨_, rfl, List.length_replicate⟩

theorem crowdedParams_withinContract : crowdedParams.WithinContract where
  memory := by decide
  iterations := by decide
  parallelism := by decide

theorem crowdedParams_accepted : crowdedParams.Accepted Minicbor.rfc8949 262144 :=
  (KdfParams.accepted_iff Minicbor.rfc8949_conforms).mpr ⟨crowdedParams_withinContract, by decide⟩

theorem accepted_params_derivable_crowded :
    ((∀ password,
        deriveUnlockKey argon2Checks password crowdedParams 262144 ≠ .error .invalidKdfParameters ∧
        deriveUnlockKey argon2Checks password crowdedParams 262144 ≠ .error .kdfResourceLimit) ↔
      crowdedParams.EnoughMemory) ∧
    (crowdedParams.EnoughMemory → ∀ password : Bytes, password.length ≤ 2 ^ 32 - 1 →
      ∃ key, deriveUnlockKey argon2Checks password crowdedParams 262144 = .ok key) ∧
    (¬crowdedParams.EnoughMemory → ∀ password,
      deriveUnlockKey argon2Checks password crowdedParams 262144 = .error .invalidKdfParameters) :=
  accepted_params_derivable_iff Minicbor.rfc8949 Minicbor.rfc8949_conforms argon2Checks
    argon2Checks_conforms crowdedParams 262144 crowdedParams_accepted

/-- Accepted by the constructor and by the decoder, and no password has a key. -/
theorem crowdedParams_underivable :
    KdfParams.new 65536 3 8193 (List.replicate 16 7) = .ok crowdedParams ∧
      KdfParams.decodeCanonicalCbor Minicbor.rfc8949 (canonicalKdf crowdedParams) 262144
        = .ok crowdedParams ∧
      ∀ password, deriveUnlockKey argon2Checks password crowdedParams 262144
        = .error .invalidKdfParameters := by
  have decoded := KdfParams.decode_canonicalKdf Minicbor.rfc8949_conforms
    crowdedParams_withinContract 262144
  rw [if_pos (by decide)] at decoded
  refine ⟨rfl, decoded, fun password => ?_⟩
  exact derive_refused argon2Checks_conforms crowdedParams_withinContract (by decide)
    (fun enough => absurd enough.1 (by decide)) password

end ZenPass.Crypto
