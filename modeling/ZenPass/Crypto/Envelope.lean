import ZenPass.Crypto.Canon

set_option autoImplicit false

namespace ZenPass.Crypto

open Cbor (Bytes)

structure Aead where
  encrypt (key nonce msg aad : Bytes) : Option Bytes
  decrypt (key nonce msg aad : Bytes) : Option Bytes

def keyLen : Nat := 32
def nonceLen : Nat := 24
def tagLen : Nat := 16
def maxItemPlaintextLen : Nat := 1024 * 1024
def maxWrappedKeyLen : Nat := 64 * 1024

def aeadSeal (aead : Aead) (key nonce plaintext aad : Bytes) : Except Error Bytes :=
  if key.length ≠ keyLen then .error .invalidKeyLength
  else if nonce.length ≠ nonceLen then .error .invalidNonce
  else orError .authenticationFailed (aead.encrypt key nonce plaintext aad)

def aeadOpen (aead : Aead) (key nonce ciphertextAndTag aad : Bytes) : Except Error Bytes :=
  if key.length ≠ keyLen then .error .invalidKeyLength
  else if nonce.length ≠ nonceLen then .error .invalidNonce
  else if ciphertextAndTag.length < tagLen then .error .invalidEncoding
  else orError .authenticationFailed (aead.decrypt key nonce ciphertextAndTag aad)

inductive RecordKind where
  | accountWrap | recoveryWrap | vaultWrap | itemWrap | itemPayload | exportManifest
  deriving DecidableEq

def RecordKind.asStr : RecordKind → String
  | .accountWrap => "account-wrap"
  | .recoveryWrap => "recovery-wrap"
  | .vaultWrap => "vault-wrap"
  | .itemWrap => "item-wrap"
  | .itemPayload => "item-payload"
  | .exportManifest => "export-manifest"

def RecordKind.parse : String → Option RecordKind
  | "account-wrap" => some .accountWrap
  | "recovery-wrap" => some .recoveryWrap
  | "vault-wrap" => some .vaultWrap
  | "item-wrap" => some .itemWrap
  | "item-payload" => some .itemPayload
  | "export-manifest" => some .exportManifest
  | _ => none

def RecordKind.expectsVault : RecordKind → Bool
  | .vaultWrap | .itemWrap | .itemPayload => true
  | _ => false

def RecordKind.expectsItem : RecordKind → Bool
  | .itemWrap | .itemPayload => true
  | _ => false

structure Context where
  accountId : String
  vaultId : Option String
  itemId : Option String
  recordKind : RecordKind
  keyVersion : UInt64
  deriving DecidableEq

def Context.validate (ctx : Context) : Except Error Unit :=
  if ctx.accountId.isEmpty then .error .invalidContext
  else if ctx.vaultId.any String.isEmpty || ctx.itemId.any String.isEmpty then
    .error .invalidContext
  else if ctx.vaultId.isSome ≠ ctx.recordKind.expectsVault then .error .invalidContext
  else if ctx.itemId.isSome ≠ ctx.recordKind.expectsItem then .error .invalidContext
  else if ctx.keyVersion = 0 then .error .invalidContext
  else .ok ()

def idField : Option String → Field
  | some id => .text id
  | none => .null

def aadEntries (ctx : Context) (keyVersion : Int64) : List Entry :=
  sixEntries (.text formatVersion) (.text ctx.accountId) (idField ctx.vaultId)
    (idField ctx.itemId) (.text ctx.recordKind.asStr) (.int keyVersion)

def encodeAad (cbor : Minicbor) (ctx : Context) : Except Error Bytes := do
  ctx.validate
  let keyVersion ← orError .invalidContext (i64FromU64 ctx.keyVersion)
  encodeMap cbor (aadEntries ctx keyVersion)

-- a text, or a null for no identifier
def optionalId (map : StrictMap) (key : UInt64) : Except Error (Option String) :=
  match map.getText key with
  | some id => .ok (some id)
  | none => if (map.getNull key).isSome then .ok none else .error .invalidEncoding

def decodeAad (cbor : Minicbor) (bytes : Bytes) : Except Error Context := do
  let map ← StrictMap.decode cbor bytes
  map.requireKeys [1, 2, 3, 4, 5, 6]
  map.assertCanonicalBytes cbor bytes
  if ¬(map.textIs 1 formatVersion).getD false then .error .unsupportedVersion
  else
    let accountId ← orError .invalidEncoding (map.getText 2)
    let kind ← orError .invalidEncoding (map.getText 5)
    let recordKind ← orError .invalidEncoding (RecordKind.parse kind)
    let keyVersion ← orError .invalidEncoding (map.getInt 6)
    let keyVersion ← orError .invalidContext (u64FromI64 keyVersion)
    let vaultId ← optionalId map 3
    let itemId ← optionalId map 4
    let ctx : Context := { accountId, vaultId, itemId, recordKind, keyVersion }
    ctx.validate
    .ok ctx

structure EnvelopeParts where
  kind : RecordKind
  keyVersion : UInt64
  nonce : Bytes
  ciphertextAndTag : Bytes
  aad : Bytes

def envelopeEntries (kind : RecordKind) (keyVersion : Int64) (nonce ciphertext aad : Bytes) :
    List Entry :=
  sixEntries (.text formatVersion) (.text kind.asStr) (.int keyVersion) (.bytes nonce)
    (.bytes ciphertext) (.bytes aad)

def decodeEnvelope (cbor : Minicbor) (bytes : Bytes) : Except Error EnvelopeParts := do
  let map ← StrictMap.decode cbor bytes
  map.requireKeys [1, 2, 3, 4, 5, 6]
  map.assertCanonicalBytes cbor bytes
  if ¬(map.textIs 1 formatVersion).getD false then .error .unsupportedVersion
  else
    let kind ← orError .invalidEncoding (map.getText 2)
    let kind ← orError .invalidEncoding (RecordKind.parse kind)
    let keyVersion ← orError .invalidEncoding (map.getInt 3)
    let keyVersion ← orError .invalidContext (u64FromI64 keyVersion)
    let nonce ← orError .invalidEncoding (map.getBytes 4)
    let ciphertext ← orError .invalidEncoding (map.getBytes 5)
    let aad ← orError .invalidEncoding (map.getBytes 6)
    if nonce.length ≠ nonceLen then .error .invalidNonce
    else if ciphertext.length < tagLen then .error .invalidEncoding
    else .ok { kind, keyVersion, nonce, ciphertextAndTag := ciphertext, aad }

def plaintextWithinLimit : RecordKind → Nat → Bool
  | .itemPayload, len | .exportManifest, len => len ≠ 0 && len ≤ maxItemPlaintextLen
  | .accountWrap, len | .recoveryWrap, len | .vaultWrap, len | .itemWrap, len => len = keyLen

def envelopeLimit : RecordKind → Nat
  | .accountWrap | .recoveryWrap | .vaultWrap | .itemWrap => maxWrappedKeyLen
  | .itemPayload | .exportManifest => maxItemPlaintextLen + tagLen + 1024

-- what `fill_random` puts into an array of that size
structure Nonce where
  bytes : Bytes
  size : bytes.length = nonceLen

def sealEnvelope (cbor : Minicbor) (aead : Aead) (nonce : Nonce) (key : Bytes) (ctx : Context)
    (plaintext : Bytes) : Except Error Bytes := do
  ctx.validate
  if key.length ≠ keyLen then .error .invalidKeyLength
  else if ¬plaintextWithinLimit ctx.recordKind plaintext.length then .error .invalidKeyLength
  else
    let aad ← encodeAad cbor ctx
    let ciphertext ← aeadSeal aead key nonce.bytes plaintext aad
    let keyVersion ← orError .invalidContext (i64FromU64 ctx.keyVersion)
    let envelope ← encodeMap cbor
      (envelopeEntries ctx.recordKind keyVersion nonce.bytes ciphertext aad)
    if envelopeLimit ctx.recordKind < envelope.length then .error .internal
    else .ok envelope

def openEnvelope (cbor : Minicbor) (aead : Aead) (key : Bytes) (expectedCtx : Context)
    (envelope : Bytes) : Except Error Bytes := do
  expectedCtx.validate
  if key.length ≠ keyLen then .error .invalidKeyLength
  else
    let parts ← decodeEnvelope cbor envelope
    let expectedAad ← encodeAad cbor expectedCtx
    let embeddedCtx ← decodeAad cbor parts.aad
    if parts.kind ≠ embeddedCtx.recordKind ∨ embeddedCtx ≠ expectedCtx ∨
        embeddedCtx.keyVersion ≠ parts.keyVersion then .error .invalidContext
    else if parts.aad ≠ expectedAad then .error .invalidContext
    else
      let plaintext ← aeadOpen aead key parts.nonce parts.ciphertextAndTag expectedAad
      if ¬plaintextWithinLimit expectedCtx.recordKind plaintext.length then
        .error .invalidKeyLength
      else .ok plaintext

@[simp] theorem RecordKind.parse_asStr (kind : RecordKind) :
    RecordKind.parse kind.asStr = some kind := by
  cases kind <;> rfl

theorem RecordKind.asStr_of_parse {text : String} {kind : RecordKind}
    (parsed : RecordKind.parse text = some kind) : text = kind.asStr := by
  unfold RecordKind.parse at parsed
  split at parsed <;> cases parsed <;> rfl

end ZenPass.Crypto
