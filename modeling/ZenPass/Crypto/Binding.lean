import ZenPass.Crypto.CanonicalEnvelope

set_option autoImplicit false

namespace ZenPass.Crypto

open Cbor (Bytes)

-- One call of the cipher and what it returned
structure Sealing where
  key : Bytes
  nonce : Bytes
  plaintext : Bytes
  aad : Bytes
  ciphertext : Bytes
  deriving DecidableEq

/-- An ideal cipher after the calls `made` to it, by whoever made them. -/
structure Aead.Ideal (aead : Aead) (made : Sealing → Prop) : Prop where
  produced : ∀ sealing, made sealing →
    aead.encrypt sealing.key sealing.nonce sealing.plaintext sealing.aad
      = some sealing.ciphertext
  authentic : ∀ key nonce plaintext aad ciphertext,
    aead.decrypt key nonce ciphertext aad = some plaintext →
    made ⟨key, nonce, plaintext, aad, ciphertext⟩
  -- no ciphertext came out of two different calls
  distinct : ∀ first second, made first → made second →
    first.ciphertext = second.ciphertext → first = second

structure Opened (cbor : Minicbor) (aead : Aead) (key : Bytes) (ctx : Context)
    (envelope plaintext : Bytes) (parts : EnvelopeParts) : Prop where
  decoded : decodeEnvelope cbor envelope = .ok parts
  keySize : key.length = keyLen
  valid : ctx.validate = .ok ()
  small : ctx.keyVersion.toNat < 2 ^ 63
  kind : parts.kind = ctx.recordKind
  keyVersion : parts.keyVersion = ctx.keyVersion
  aad : parts.aad = canonicalAad ctx
  embedded : decodeAad cbor (canonicalAad ctx) = .ok ctx
  decrypted : aead.decrypt key parts.nonce parts.ciphertextAndTag (canonicalAad ctx)
    = some plaintext

theorem openEnvelope_eq_ok {cbor : Minicbor} (conforms : cbor.Conforms) {aead : Aead}
    {key envelope plaintext : Bytes} {ctx : Context}
    (opened : openEnvelope cbor aead key ctx envelope = .ok plaintext) :
    ∃ parts, Opened cbor aead key ctx envelope plaintext parts := by
  simp only [openEnvelope, bind_eq_ok] at opened
  rcases opened with ⟨_, valid, opened⟩
  split_ifs at opened with keySize
  simp only [bind_eq_ok] at opened
  rcases opened with ⟨parts, decoded, aad, encoded, embedded, read, opened⟩
  rcases (encodeAad_eq_ok conforms).mp encoded with ⟨_, small, rfl⟩
  split_ifs at opened with binding same
  simp only [not_or, not_not] at binding same
  rcases binding with ⟨kind, rfl, keyVersion⟩
  rcases bind_eq_ok.mp opened with ⟨released, unsealed, opened⟩
  split_ifs at opened
  cases opened
  simp only [aeadOpen] at unsealed
  split_ifs at unsealed
  rw [same] at read
  exact ⟨parts, decoded, not_not.mp keySize, valid, small, kind, keyVersion.symm, same, read,
    orError_eq_ok.mp unsealed⟩

theorem Opened.canonical {cbor : Minicbor} (conforms : cbor.Conforms) {aead : Aead}
    {key envelope plaintext : Bytes} {ctx : Context} {parts : EnvelopeParts}
    (opened : Opened cbor aead key ctx envelope plaintext parts) :
    envelope = canonicalEnvelope ctx.recordKind ctx.keyVersion parts.nonce
      parts.ciphertextAndTag (canonicalAad ctx) := by
  have bytes := (decodeEnvelope_eq_ok conforms opened.decoded).1
  rw [opened.kind, opened.keyVersion, opened.aad] at bytes
  exact bytes

/-- `seal_envelope` returned `envelope`, and this is the call of the cipher it made. -/
structure SealedBy (cbor : Minicbor) (aead : Aead) (made : Sealing → Prop) (nonce : Nonce)
    (key : Bytes) (ctx : Context) (plaintext ciphertext envelope : Bytes) : Prop where
  returned : sealEnvelope cbor aead nonce key ctx plaintext = .ok envelope
  call : made ⟨key, nonce.bytes, plaintext, canonicalAad ctx, ciphertext⟩

theorem sealEnvelope_eq_ok {cbor : Minicbor} (conforms : cbor.Conforms) {aead : Aead}
    {nonce : Nonce} {key plaintext envelope : Bytes} {ctx : Context}
    (returned : sealEnvelope cbor aead nonce key ctx plaintext = .ok envelope) :
    ctx.validate = .ok () ∧ ctx.keyVersion.toNat < 2 ^ 63 ∧
      envelope.length ≤ envelopeLimit ctx.recordKind ∧
      ∃ ciphertext,
        aead.encrypt key nonce.bytes plaintext (canonicalAad ctx) = some ciphertext ∧
        envelope = canonicalEnvelope ctx.recordKind ctx.keyVersion nonce.bytes ciphertext
          (canonicalAad ctx) := by
  simp only [sealEnvelope, bind_eq_ok] at returned
  rcases returned with ⟨_, valid, returned⟩
  split_ifs at returned with keySize limit
  simp only [bind_eq_ok, orError_eq_ok] at returned
  rcases returned with ⟨aad, encoded, ciphertext, encrypted, version, converted, bytes, written,
    returned⟩
  rcases (encodeAad_eq_ok conforms).mp encoded with ⟨_, small, rfl⟩
  split_ifs at returned with fits
  cases returned
  simp only [i64FromU64, if_pos small, Option.some.injEq] at converted
  cases converted
  rw [encodeMap_envelopeEntries conforms _ _ small] at written
  simp only [aeadSeal] at encrypted
  split_ifs at encrypted
  exact ⟨valid, small, Nat.le_of_not_lt fits, ciphertext, orError_eq_ok.mp encrypted,
    (Except.ok.inj written).symm⟩

theorem sealEnvelope_canonical {cbor : Minicbor} (conforms : cbor.Conforms) {aead : Aead}
    {nonce : Nonce} {key plaintext ciphertext : Bytes} {ctx : Context}
    (valid : ctx.validate = .ok ()) (small : ctx.keyVersion.toNat < 2 ^ 63)
    (keySize : key.length = keyLen)
    (within : plaintextWithinLimit ctx.recordKind plaintext.length = true)
    (encrypted : aead.encrypt key nonce.bytes plaintext (canonicalAad ctx) = some ciphertext)
    (fits : (canonicalEnvelope ctx.recordKind ctx.keyVersion nonce.bytes ciphertext
      (canonicalAad ctx)).length ≤ envelopeLimit ctx.recordKind) :
    sealEnvelope cbor aead nonce key ctx plaintext
      = .ok (canonicalEnvelope ctx.recordKind ctx.keyVersion nonce.bytes ciphertext
        (canonicalAad ctx)) := by
  have aad := (encodeAad_eq_ok conforms).mpr ⟨valid, small, rfl⟩
  have version : i64FromU64 ctx.keyVersion = some ctx.keyVersion.toInt64 := if_pos small
  simp only [sealEnvelope, valid, ok_bind, keySize, within, aad, aeadSeal, nonce.size, encrypted,
    orError, version, encodeMap_envelopeEntries conforms _ _ small]
  simp [fits]

theorem encodeEntry_length (entry : Nat × Cbor.Item) :
    (Cbor.encodeEntry entry).length = Cbor.headLength entry.1 + entry.2.encode.length := by
  simp [Cbor.encodeEntry]

theorem canonicalEnvelope_parts_le (kind : RecordKind) (keyVersion : UInt64)
    (nonce ciphertext aad : Bytes) :
    nonce.length + ciphertext.length + aad.length
      ≤ (canonicalEnvelope kind keyVersion nonce ciphertext aad).length := by
  simp only [canonicalEnvelope, Cbor.encodeMap, List.flatMap_cons, List.flatMap_nil,
    List.length_append, encodeEntry_length, Cbor.Item.encode]
  omega

theorem canonicalAad_ids_le (ctx : Context) :
    (Cbor.utf8 ctx.accountId).length ≤ (canonicalAad ctx).length ∧
      (∀ id, ctx.vaultId = some id → (Cbor.utf8 id).length ≤ (canonicalAad ctx).length) ∧
      (∀ id, ctx.itemId = some id → (Cbor.utf8 id).length ≤ (canonicalAad ctx).length) := by
  simp only [canonicalAad, Cbor.encodeMap, List.flatMap_cons, List.flatMap_nil,
    List.length_append, encodeEntry_length, Cbor.Item.encode]
  refine ⟨by omega, ?_, ?_⟩
  · intro id vault
    simp only [vault, optionalItem, List.length_append]
    omega
  · intro id item
    simp only [item, optionalItem, List.length_append]
    omega

theorem Context.fits_of_canonicalAad {ctx : Context}
    (bound : (canonicalAad ctx).length < 2 ^ 64) : ctx.Fits := by
  rcases canonicalAad_ids_le ctx with ⟨account, vault, item⟩
  constructor
  · omega
  · intro id found
    have le := vault id found
    omega
  · intro id found
    have le := item id found
    omega

theorem encodeMap_items_injective {cbor : Minicbor} (conforms : cbor.Conforms)
    {first second third fourth fifth sixth first' second' third' fourth' fifth' sixth' : Field}
    (fits : ∀ field ∈ [first, second, third, fourth, fifth, sixth], field.Fits)
    (fits' : ∀ field ∈ [first', second', third', fourth', fifth', sixth'], field.Fits)
    (same : Cbor.encodeMap (items (sixEntries first second third fourth fifth sixth))
      = Cbor.encodeMap (items (sixEntries first' second' third' fourth' fifth' sixth'))) :
    sixMap first second third fourth fifth sixth
      = sixMap first' second' third' fourth' fifth' sixth' := by
  have accepts := accepts_encodeMap conforms first second third fourth fifth sixth fits
  have accepts' := accepts_encodeMap conforms first' second' third' fourth' fifth' sixth' fits'
  have decoded := accepts.decoded
  rw [same, accepts'.decoded] at decoded
  exact (Except.ok.inj decoded).symm

theorem canonicalEnvelope_injective {cbor : Minicbor} (conforms : cbor.Conforms)
    {kind kind' : RecordKind} {keyVersion keyVersion' : UInt64}
    {nonce ciphertext aad nonce' ciphertext' aad' : Bytes}
    (small : keyVersion.toNat < 2 ^ 63) (small' : keyVersion'.toNat < 2 ^ 63)
    (bound : (canonicalEnvelope kind keyVersion nonce ciphertext aad).length < 2 ^ 64)
    (same : canonicalEnvelope kind keyVersion nonce ciphertext aad
      = canonicalEnvelope kind' keyVersion' nonce' ciphertext' aad') :
    nonce = nonce' ∧ ciphertext = ciphertext' ∧ aad = aad' := by
  have fits : ∀ (kind : RecordKind) (keyVersion : UInt64) (nonce ciphertext aad : Bytes),
      (canonicalEnvelope kind keyVersion nonce ciphertext aad).length < 2 ^ 64 →
      ∀ field ∈ [.text formatVersion, .text kind.asStr, .int keyVersion.toInt64, .bytes nonce,
        .bytes ciphertext, .bytes aad], Field.Fits field := by
    intro kind keyVersion nonce ciphertext aad bound
    have parts := canonicalEnvelope_parts_le kind keyVersion nonce ciphertext aad
    have format := formatVersion_length
    have kindLength := asStr_length kind
    simp only [List.forall_mem_cons, Field.Fits]
    exact ⟨by omega, by omega, trivial, by omega, by omega, by omega, by simp⟩
  have bound' := bound
  rw [same] at bound'
  rw [← items_envelopeEntries kind keyVersion small,
    ← items_envelopeEntries kind' keyVersion' small'] at same
  have maps := encodeMap_items_injective conforms (fits _ _ _ _ _ bound) (fits _ _ _ _ _ bound')
    same
  simp only [sixMap, sixEntries, StrictMap.mk.injEq, List.cons.injEq, Prod.mk.injEq,
    Field.bytes.injEq, true_and, and_true] at maps
  exact maps.2.2

theorem envelopeLimit_lt (kind : RecordKind) : envelopeLimit kind < 2 ^ 64 := by
  cases kind <;> decide

section Sealed

variable {cbor : Minicbor} {aead : Aead} {made : Sealing → Prop} {nonce : Nonce}
  {key plaintext ciphertext envelope : Bytes} {ctx : Context}

theorem SealedBy.canonical (conforms : cbor.Conforms) (ideal : aead.Ideal made)
    (sealed : SealedBy cbor aead made nonce key ctx plaintext ciphertext envelope) :
    envelope = canonicalEnvelope ctx.recordKind ctx.keyVersion nonce.bytes ciphertext
      (canonicalAad ctx) := by
  rcases sealEnvelope_eq_ok conforms sealed.returned with ⟨_, _, _, found, encrypted, bytes⟩
  have call := ideal.produced _ sealed.call
  rw [encrypted] at call
  cases call
  exact bytes

theorem SealedBy.bound (conforms : cbor.Conforms)
    (sealed : SealedBy cbor aead made nonce key ctx plaintext ciphertext envelope) :
    envelope.length < 2 ^ 64 := by
  rcases sealEnvelope_eq_ok conforms sealed.returned with ⟨_, _, fits, _⟩
  have limit := envelopeLimit_lt ctx.recordKind
  omega

theorem SealedBy.decodeAad (conforms : cbor.Conforms) (ideal : aead.Ideal made)
    (sealed : SealedBy cbor aead made nonce key ctx plaintext ciphertext envelope) :
    decodeAad cbor (canonicalAad ctx) = .ok ctx := by
  rcases sealEnvelope_eq_ok conforms sealed.returned with ⟨valid, small, _⟩
  have bound := sealed.bound conforms
  rw [sealed.canonical conforms ideal] at bound
  have parts := canonicalEnvelope_parts_le ctx.recordKind ctx.keyVersion nonce.bytes ciphertext
    (canonicalAad ctx)
  exact decodeAad_canonicalAad conforms valid small (Context.fits_of_canonicalAad (by omega))

-- The cipher gives up a sealed text only where it was sealed.
theorem SealedBy.same_call (conforms : cbor.Conforms) (ideal : aead.Ideal made)
    (sealed : SealedBy cbor aead made nonce key ctx plaintext ciphertext envelope)
    {key' released envelope' : Bytes} {ctx' : Context} {parts : EnvelopeParts}
    (opened : Opened cbor aead key' ctx' envelope' released parts)
    (same : parts.ciphertextAndTag = ciphertext) :
    key' = key ∧ parts.nonce = nonce.bytes ∧ released = plaintext ∧ ctx' = ctx := by
  have call := ideal.authentic _ _ _ _ _ opened.decrypted
  have equal := ideal.distinct _ _ call sealed.call same
  simp only [Sealing.mk.injEq] at equal
  rcases equal with ⟨sameKey, sameNonce, samePlaintext, sameAad, _⟩
  have embedded := opened.embedded
  rw [sameAad, sealed.decodeAad conforms ideal] at embedded
  exact ⟨sameKey, sameNonce, samePlaintext, (Except.ok.inj embedded).symm⟩

theorem SealedBy.opens_only (conforms : cbor.Conforms) (ideal : aead.Ideal made)
    (sealed : SealedBy cbor aead made nonce key ctx plaintext ciphertext envelope)
    {key' released : Bytes} {ctx' : Context}
    (opened : openEnvelope cbor aead key' ctx' envelope = .ok released) :
    key' = key ∧ ctx' = ctx ∧ released = plaintext := by
  rcases openEnvelope_eq_ok conforms opened with ⟨parts, opened⟩
  rcases sealEnvelope_eq_ok conforms sealed.returned with ⟨_, small, _⟩
  have bytes := sealed.canonical conforms ideal
  have bytes' := opened.canonical conforms
  have bound := sealed.bound conforms
  rw [bytes] at bound
  have same := canonicalEnvelope_injective conforms small opened.small bound
    (bytes.symm.trans bytes')
  rcases sealed.same_call conforms ideal opened same.2.1.symm
    with ⟨sameKey, _, samePlaintext, sameCtx⟩
  exact ⟨sameKey, sameCtx, samePlaintext⟩

theorem SealedBy.rejects_others (conforms : cbor.Conforms) (ideal : aead.Ideal made)
    (sealed : SealedBy cbor aead made nonce key ctx plaintext ciphertext envelope)
    {other : Bytes} (different : other ≠ envelope)
    (carries : ∀ parts, decodeEnvelope cbor other = .ok parts →
      parts.nonce = nonce.bytes ∧ parts.ciphertextAndTag = ciphertext)
    (key' : Bytes) (ctx' : Context) :
    ∃ error, openEnvelope cbor aead key' ctx' other = .error error := by
  cases result : openEnvelope cbor aead key' ctx' other with
  | error error => exact ⟨error, rfl⟩
  | ok released =>
    rcases openEnvelope_eq_ok conforms result with ⟨parts, opened⟩
    rcases carries parts opened.decoded with ⟨sameNonce, sameCiphertext⟩
    rcases sealed.same_call conforms ideal opened sameCiphertext with ⟨_, _, _, rfl⟩
    have bytes := opened.canonical conforms
    rw [sameNonce, sameCiphertext, ← sealed.canonical conforms ideal] at bytes
    exact absurd bytes different

end Sealed

/-- An envelope that opens is the canonical one of its context around a sealing of what it
opens to. One that was sealed opens under its key and its context only, and no other bytes
with its nonce and ciphertext open at all. -/
theorem envelope_binding (cbor : Minicbor) (conforms : cbor.Conforms) (aead : Aead)
    (made : Sealing → Prop) (ideal : aead.Ideal made) :
    (∀ key ctx envelope plaintext,
      openEnvelope cbor aead key ctx envelope = .ok plaintext →
      ∃ nonce ciphertext aad,
        nonce.length = nonceLen ∧ encodeAad cbor ctx = .ok aad ∧
        envelope = canonicalEnvelope ctx.recordKind ctx.keyVersion nonce ciphertext aad ∧
        aeadSeal aead key nonce plaintext aad = .ok ciphertext) ∧
    (∀ nonce key ctx plaintext ciphertext envelope,
      SealedBy cbor aead made nonce key ctx plaintext ciphertext envelope →
      (∀ key' ctx' released, openEnvelope cbor aead key' ctx' envelope = .ok released →
        key' = key ∧ ctx' = ctx ∧ released = plaintext) ∧
      (∀ other, other ≠ envelope →
        (∀ parts, decodeEnvelope cbor other = .ok parts →
          parts.nonce = nonce.bytes ∧ parts.ciphertextAndTag = ciphertext) →
        ∀ key' ctx', ∃ error, openEnvelope cbor aead key' ctx' other = .error error)) := by
  constructor
  · intro key ctx envelope plaintext opened
    rcases openEnvelope_eq_ok conforms opened with ⟨parts, opened⟩
    have size := (decodeEnvelope_eq_ok conforms opened.decoded).2.2.1
    have encoded := (encodeAad_eq_ok conforms).mpr ⟨opened.valid, opened.small, rfl⟩
    have call := ideal.produced _ (ideal.authentic _ _ _ _ _ opened.decrypted)
    refine ⟨parts.nonce, parts.ciphertextAndTag, canonicalAad ctx, size, encoded,
      opened.canonical conforms, ?_⟩
    simp only [aeadSeal, opened.keySize, size, call, orError]
    simp
  · intro nonce key ctx plaintext ciphertext envelope sealed
    constructor
    · intro key' ctx' released opened
      exact sealed.opens_only conforms ideal opened
    · intro other different carries key' ctx'
      exact sealed.rejects_others conforms ideal different carries key' ctx'

def recordedCipher (call : Sealing) : Aead where
  encrypt key nonce msg aad :=
    if key = call.key ∧ nonce = call.nonce ∧ msg = call.plaintext ∧ aad = call.aad then
      some call.ciphertext
    else none
  decrypt key nonce msg aad :=
    if key = call.key ∧ nonce = call.nonce ∧ msg = call.ciphertext ∧ aad = call.aad then
      some call.plaintext
    else none

theorem recordedCipher_ideal (call : Sealing) : (recordedCipher call).Ideal (· = call) where
  produced sealing made := by
    subst made
    simp [recordedCipher]
  authentic key nonce plaintext aad ciphertext opened := by
    simp only [recordedCipher] at opened
    split_ifs at opened with same
    rcases same with ⟨rfl, rfl, rfl, rfl⟩
    cases opened
    rfl
  distinct first second isFirst isSecond _ := isFirst.trans isSecond.symm

def itemCtx : Context where
  accountId := "account_01"
  vaultId := some "vault_01"
  itemId := some "item_01"
  recordKind := .itemPayload
  keyVersion := 1

def itemNonce : Nonce where
  bytes := [0, 1, 2, 3, 4, 5, 6, 7, 8, 9, 10, 11, 12, 13, 14, 15, 16, 17, 18, 19, 20, 21, 22, 23]
  size := rfl

-- XChaCha20-Poly1305 of the text "secret payload" under a key of sevens
def itemSealing : Sealing where
  key := List.replicate 32 7
  nonce := itemNonce.bytes
  plaintext := Cbor.utf8 "secret payload"
  aad := canonicalAad itemCtx
  ciphertext := [219, 114, 200, 247, 159, 104, 123, 213, 68, 190, 237, 40, 135, 134, 37, 1, 228,
    93, 88, 127, 179, 222, 108, 150, 199, 64, 39, 154, 51, 219]

def itemEnvelope : Bytes :=
  canonicalEnvelope .itemPayload 1 itemNonce.bytes itemSealing.ciphertext (canonicalAad itemCtx)

-- the same ciphertext and AAD under another outer kind
def substitutedEnvelope : Bytes :=
  canonicalEnvelope .itemWrap 1 itemNonce.bytes itemSealing.ciphertext (canonicalAad itemCtx)

theorem itemEnvelope_sealedBy :
    SealedBy Minicbor.rfc8949 (recordedCipher itemSealing) (· = itemSealing) itemNonce
      itemSealing.key itemCtx itemSealing.plaintext itemSealing.ciphertext itemEnvelope where
  returned := sealEnvelope_canonical Minicbor.rfc8949_conforms (by rfl) (by decide) (by rfl)
    (by rfl) (by rfl) (by decide +kernel)
  call := rfl

theorem substitutedEnvelope_decodes :
    decodeEnvelope Minicbor.rfc8949 substitutedEnvelope
      = .ok ⟨.itemWrap, 1, itemNonce.bytes, itemSealing.ciphertext, canonicalAad itemCtx⟩ :=
  decodeEnvelope_canonicalEnvelope Minicbor.rfc8949_conforms .itemWrap 1 (by decide)
    itemNonce.bytes itemSealing.ciphertext (canonicalAad itemCtx) rfl (by decide) (by decide)
    (by decide +kernel)

theorem envelope_binding_substitutedKind :
    ∃ error, openEnvelope Minicbor.rfc8949 (recordedCipher itemSealing) itemSealing.key itemCtx
      substitutedEnvelope = .error error :=
  ((envelope_binding Minicbor.rfc8949 Minicbor.rfc8949_conforms (recordedCipher itemSealing)
    (· = itemSealing) (recordedCipher_ideal itemSealing)).2 itemNonce itemSealing.key itemCtx
    itemSealing.plaintext itemSealing.ciphertext itemEnvelope itemEnvelope_sealedBy).2
    substitutedEnvelope (by decide +kernel) (by
      intro parts decoded
      rw [substitutedEnvelope_decodes] at decoded
      cases decoded
      exact ⟨rfl, rfl⟩) itemSealing.key itemCtx

end ZenPass.Crypto
