import ZenPass.Crypto.RecoveryErrors

set_option autoImplicit false

namespace ZenPass.Crypto

open Cbor (Bytes)

-- `validate_aad` is `decode_aad` for the callers outside.
def validateAad (cbor : Minicbor) (bytes : Bytes) : Except Error Context := decodeAad cbor bytes

structure Context.Valid (ctx : Context) : Prop where
  account : ctx.accountId ≠ ""
  vault : ctx.vaultId.isSome = ctx.recordKind.expectsVault
  vaultNamed : ctx.vaultId ≠ some ""
  item : ctx.itemId.isSome = ctx.recordKind.expectsItem
  itemNamed : ctx.itemId ≠ some ""
  versionPos : 1 ≤ ctx.keyVersion.toNat
  versionMax : ctx.keyVersion.toNat ≤ 2 ^ 63 - 1

theorem any_isEmpty_iff (id : Option String) : id.any String.isEmpty = true ↔ id = some "" := by
  cases id with
  | none => simp
  | some value => simp

theorem keyVersion_eq_zero_iff (version : UInt64) : version = 0 ↔ version.toNat = 0 := by
  constructor
  · rintro rfl
    rfl
  · intro zero
    exact UInt64.toNat_inj.mp zero

theorem Context.valid_iff {ctx : Context} :
    ctx.Valid ↔ ctx.validate = .ok () ∧ ctx.keyVersion.toNat < 2 ^ 63 := by
  unfold Context.validate
  simp only [guard_eq_ok, and_true, Bool.or_eq_true, any_isEmpty_iff, String.isEmpty_iff, not_or,
    not_not, keyVersion_eq_zero_iff]
  constructor
  · intro valid
    have positive := valid.versionPos
    have most := valid.versionMax
    refine ⟨⟨valid.account, ⟨valid.vaultNamed, valid.itemNamed⟩, valid.vault, valid.item, ?_⟩, ?_⟩
    · omega
    · omega
  · rintro ⟨⟨account, ⟨vaultNamed, itemNamed⟩, vault, item, nonzero⟩, small⟩
    exact ⟨account, vault, vaultNamed, item, itemNamed, by omega, by omega⟩

section Codec

variable {cbor : Minicbor} (conforms : cbor.Conforms)

-- the last of the checks of `decode_aad`
theorem validate_of_decodeAad {aad : Bytes} {ctx : Context} (accepted : decodeAad cbor aad = .ok ctx) :
    ctx.validate = .ok () := by
  simp only [decodeAad, bind_eq_ok, guard_eq_ok] at accepted
  obtain ⟨_, -, _, -, _, -, -, _, -, _, -, _, -, _, -, _, -, _, -, _, -, _, valid, same⟩ := accepted
  cases same
  exact valid

include conforms

theorem encodeAad_of_valid {ctx : Context} (valid : ctx.Valid) :
    encodeAad cbor ctx = .ok (canonicalAad ctx) := by
  obtain ⟨validated, small⟩ := Context.valid_iff.mp valid
  exact (encodeAad_eq_ok conforms).mpr ⟨validated, small, rfl⟩

theorem valid_of_encodeAad {ctx : Context} {aad : Bytes} (encoded : encodeAad cbor ctx = .ok aad) :
    ctx.Valid ∧ aad = canonicalAad ctx := by
  obtain ⟨validated, small, same⟩ := (encodeAad_eq_ok conforms).mp encoded
  exact ⟨Context.valid_iff.mpr ⟨validated, small⟩, same⟩

theorem validateAad_of_encodeAad {ctx : Context} {aad : Bytes} (fits : ctx.Fits)
    (encoded : encodeAad cbor ctx = .ok aad) : validateAad cbor aad = .ok ctx := by
  obtain ⟨validated, small, rfl⟩ := (encodeAad_eq_ok conforms).mp encoded
  exact decodeAad_canonicalAad conforms validated small fits

theorem encodeAad_of_validateAad {ctx : Context} {aad : Bytes}
    (accepted : validateAad cbor aad = .ok ctx) : encodeAad cbor ctx = .ok aad := by
  obtain ⟨bytes, small⟩ := decodeAad_eq_ok conforms accepted
  exact (encodeAad_eq_ok conforms).mpr ⟨validate_of_decodeAad accepted, small, bytes⟩

end Codec

/-- The writer takes the valid contexts and gives each bytes of its own; the reader takes these bytes
and no others, and gives the context back. -/
theorem aad_codec_injective (cbor : Minicbor) (conforms : cbor.Conforms) :
    (∀ ctx, (∃ aad, encodeAad cbor ctx = .ok aad) ↔ ctx.Valid) ∧
    (∀ first second, first.Valid → second.Valid → first.Fits → second.Fits →
      encodeAad cbor first = encodeAad cbor second → first = second) ∧
    (∀ ctx aad, ctx.Fits → encodeAad cbor ctx = .ok aad → validateAad cbor aad = .ok ctx) ∧
    (∀ aad ctx, validateAad cbor aad = .ok ctx → ctx.Valid ∧ encodeAad cbor ctx = .ok aad) := by
  refine ⟨?_, ?_, ?_, ?_⟩
  · intro ctx
    constructor
    · rintro ⟨aad, encoded⟩
      exact (valid_of_encodeAad conforms encoded).1
    · intro valid
      exact ⟨_, encodeAad_of_valid conforms valid⟩
  · intro first second firstValid secondValid firstFits secondFits same
    -- both are what the reader makes of the one encoding
    have encoded := encodeAad_of_valid conforms firstValid
    have read := validateAad_of_encodeAad conforms firstFits encoded
    have read' := validateAad_of_encodeAad conforms secondFits (same ▸ encoded)
    rw [read] at read'
    exact Except.ok.inj read'
  · intro ctx aad fits encoded
    exact validateAad_of_encodeAad conforms fits encoded
  · intro aad ctx accepted
    have encoded := encodeAad_of_validateAad conforms accepted
    exact ⟨(valid_of_encodeAad conforms encoded).1, encoded⟩

theorem itemCtx_fits : itemCtx.Fits where
  account := by decide
  vault id named := by
    cases named
    decide
  item id named := by
    cases named
    decide

theorem aad_codec_item : validateAad Minicbor.rfc8949 (canonicalAad itemCtx) = .ok itemCtx :=
  (aad_codec_injective Minicbor.rfc8949 Minicbor.rfc8949_conforms).2.2.1 itemCtx (canonicalAad itemCtx)
    itemCtx_fits ((encodeAad_eq_ok Minicbor.rfc8949_conforms).mpr ⟨rfl, by decide, rfl⟩)

end ZenPass.Crypto
