import ZenPass.Crypto.Canon

set_option autoImplicit false

namespace ZenPass.Crypto

open Cbor (Bytes)

/-- `StrictMap::decode` and then `assert_canonical_bytes`. -/
def decodeCanonical (cbor : Minicbor) (bytes : Bytes) : Except Error StrictMap := do
  let map ← StrictMap.decode cbor bytes
  map.assertCanonicalBytes cbor bytes
  .ok map

structure CanonicalEntries (entries : List Entry) : Prop where
  few : entries.length ≤ maxMapEntries
  keys : ∀ entry ∈ entries, entry.1.toNat < 2 ^ 63
  order : (entries.map Prod.fst).Pairwise (· < ·)

theorem ascending_of_pairwise {entries : List Entry}
    (order : (entries.map Prod.fst).Pairwise (· < ·)) : ascending entries = true := by
  induction entries with
  | nil => rfl
  | cons first rest ih =>
    rw [List.map_cons, List.pairwise_cons] at order
    cases rest with
    | nil => rfl
    | cons second rest =>
      have less := order.1 second.1 List.mem_cons_self
      simp only [ascending, Bool.and_eq_true, decide_eq_true_eq]
      exact ⟨less, ih order.2⟩

theorem fits_of_length {field : Field} (short : field.item.encode.length < 2 ^ 64) :
    field.Fits := by
  cases field with
  | text value =>
    simp only [Field.item, Cbor.Item.encode, List.length_append] at short
    exact Nat.lt_of_le_of_lt (Nat.le_add_left _ _) short
  | bytes value =>
    simp only [Field.item, Cbor.Item.encode, List.length_append] at short
    exact Nat.lt_of_le_of_lt (Nat.le_add_left _ _) short
  | int value => trivial
  | null => trivial

theorem encode_length_le {entries : List Entry} {entry : Entry} (member : entry ∈ entries) :
    entry.2.item.encode.length ≤ (Cbor.encodeMap (items entries)).length := by
  have inside : (entry.1.toNat, entry.2.item) ∈ items entries := List.mem_map.mpr ⟨entry, member, rfl⟩
  have part := (List.sublist_flatten_of_mem (List.mem_map_of_mem (f := Cbor.encodeEntry) inside)).length_le
  rw [← List.flatMap_def] at part
  simp only [Cbor.encodeEntry, Cbor.encodeMap, List.length_append] at part ⊢
  omega

theorem readKey_lt {cbor : Minicbor} {input rest : Bytes} {key : UInt64}
    (read : readKey cbor input = .ok (key, rest)) : key.toNat < 2 ^ 63 := by
  simp only [readKey, bind_eq_ok, orError_eq_ok] at read
  obtain ⟨type, -, read⟩ := read
  split_ifs at read
  obtain ⟨⟨value, after⟩, -, read⟩ := bind_eq_ok.mp read
  obtain ⟨converted, known, same⟩ := bind_eq_ok.mp read
  cases same
  exact u64FromI64_lt (orError_eq_ok.mp known)

theorem readEntries_shape {cbor : Minicbor} {count : Nat} {input rest : Bytes}
    {entries : List Entry} (read : readEntries cbor count input = .ok (entries, rest)) :
    entries.length = count ∧ ∀ entry ∈ entries, entry.1.toNat < 2 ^ 63 := by
  induction count generalizing input entries with
  | zero =>
    cases read
    simp
  | succ count ih =>
    simp only [readEntries, bind_eq_ok] at read
    obtain ⟨⟨key, afterKey⟩, keyRead, ⟨value, afterValue⟩, -, ⟨later, after⟩, laterRead, same⟩ := read
    cases same
    obtain ⟨length, keys⟩ := ih laterRead
    rw [List.length_cons, length, List.forall_mem_cons]
    exact ⟨rfl, readKey_lt keyRead, keys⟩

theorem decode_canonicalEntries {cbor : Minicbor} {bytes : Bytes} {map : StrictMap}
    (decoded : StrictMap.decode cbor bytes = .ok map) : CanonicalEntries map.entries := by
  have order := ascending_pairwise map.entries (decode_ascending decoded)
  simp only [StrictMap.decode, bind_eq_ok, orError_eq_ok] at decoded
  obtain ⟨⟨len, rest⟩, -, len, -, decoded⟩ := decoded
  split_ifs at decoded with few
  obtain ⟨⟨entries, after⟩, read, decoded⟩ := bind_eq_ok.mp decoded
  obtain ⟨length, keys⟩ := readEntries_shape read
  simp only at decoded
  split_ifs at decoded
  cases decoded
  refine ⟨?_, keys, order⟩
  rw [length]
  exact Nat.not_lt.mp few

section Canonical

variable {cbor : Minicbor} (conforms : cbor.Conforms) {bytes : Bytes} (slice : bytes.length < 2 ^ 64)

omit slice in
theorem encodeMap_of_decodeCanonical {map : StrictMap} (accepted : decodeCanonical cbor bytes = .ok map) :
    CanonicalEntries map.entries ∧ encodeMap cbor map.entries = .ok bytes := by
  simp only [decodeCanonical, bind_eq_ok] at accepted
  obtain ⟨found, decoded, checked, asserted, same⟩ := accepted
  cases same
  simp only [StrictMap.assertCanonicalBytes, bind_eq_ok] at asserted
  obtain ⟨encoded, written, asserted⟩ := asserted
  split_ifs at asserted with equal
  rw [not_not] at equal
  rw [equal] at written
  exact ⟨decode_canonicalEntries decoded, written⟩

include conforms slice in
theorem decodeCanonical_encodeMap {entries : List Entry} (canonical : CanonicalEntries entries)
    (written : encodeMap cbor entries = .ok bytes) :
    decodeCanonical cbor bytes = .ok ⟨entries⟩ := by
  have encoded := encodeMap_eq conforms entries canonical.few
  rw [encoded] at written
  obtain rfl := Except.ok.inj written
  have fits : ∀ entry ∈ entries, Entry.Fits entry := by
    intro entry member
    have short := Nat.lt_of_le_of_lt (encode_length_le member) slice
    exact ⟨canonical.keys entry member, fits_of_length short⟩
  have decoded := decode_encodeMap conforms entries canonical.few fits
    (ascending_of_pairwise canonical.order)
  simp only [decodeCanonical, decoded, ok_bind, StrictMap.assertCanonicalBytes, encoded]
  simp

end Canonical

/-- The accepted byte strings are the outputs of the writer on canonical entries; reading and writing
are inverse to each other there, and a map has one encoding. -/
theorem strict_map_codec_canonical (cbor : Minicbor) (conforms : cbor.Conforms) (bytes : Bytes)
    (slice : bytes.length < 2 ^ 64) :
    ((∃ map, decodeCanonical cbor bytes = .ok map) ↔
      ∃ entries, CanonicalEntries entries ∧ encodeMap cbor entries = .ok bytes) ∧
    (∀ entries, CanonicalEntries entries → encodeMap cbor entries = .ok bytes →
      decodeCanonical cbor bytes = .ok ⟨entries⟩) ∧
    ∀ map, decodeCanonical cbor bytes = .ok map →
      encodeMap cbor map.entries = .ok bytes ∧
      ∀ other, decodeCanonical cbor other = .ok map → other = bytes := by
  refine ⟨⟨?_, ?_⟩, ?_, ?_⟩
  · rintro ⟨map, accepted⟩
    exact ⟨map.entries, encodeMap_of_decodeCanonical accepted⟩
  · rintro ⟨entries, canonical, written⟩
    exact ⟨_, decodeCanonical_encodeMap conforms slice canonical written⟩
  · intro entries canonical written
    exact decodeCanonical_encodeMap conforms slice canonical written
  · intro map accepted
    have written := (encodeMap_of_decodeCanonical accepted).2
    refine ⟨written, fun other otherAccepted => ?_⟩
    have again := (encodeMap_of_decodeCanonical otherAccepted).2
    rw [written] at again
    exact (Except.ok.inj again).symm

-- a text, a negative number and a null
def threeEntries : List Entry := [(1, .text "a"), (2, .int (-1)), (3, .null)]

def threeEntriesBytes : Bytes := [0xA3, 1, 0x61, 0x61, 2, 0x20, 3, 0xF6]

theorem strict_map_codec_canonical_three :
    decodeCanonical Minicbor.rfc8949 threeEntriesBytes = .ok ⟨threeEntries⟩ ∧
      (∀ other, decodeCanonical Minicbor.rfc8949 other = .ok ⟨threeEntries⟩ →
        other = threeEntriesBytes) := by
  obtain ⟨-, reads, only⟩ := strict_map_codec_canonical Minicbor.rfc8949 Minicbor.rfc8949_conforms
    threeEntriesBytes (by decide)
  have canonical : CanonicalEntries threeEntries := ⟨by decide, by decide, by decide⟩
  have written : encodeMap Minicbor.rfc8949 threeEntries = .ok threeEntriesBytes := by rfl
  have read := reads threeEntries canonical written
  exact ⟨read, (only _ read).2⟩

/-- The writer takes a key of 64 bits, the reader reads it as an `i64`. -/
theorem large_key_refused :
    (encodeMap Minicbor.rfc8949 [(0x8000000000000000, .null)]).toOption =
        some [0xA1, 0x1B, 0x80, 0, 0, 0, 0, 0, 0, 0, 0xF6] ∧
      (decodeCanonical Minicbor.rfc8949
        [0xA1, 0x1B, 0x80, 0, 0, 0, 0, 0, 0, 0, 0xF6]).toOption.isNone = true := by
  decide +kernel

-- the number with a longer head
example :
    (decodeCanonical Minicbor.rfc8949 [0xA3, 1, 0x61, 0x61, 2, 0x38, 0, 3, 0xF6]).toOption.isNone := by
  decide +kernel

end ZenPass.Crypto
