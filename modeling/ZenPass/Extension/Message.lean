import Mathlib.Algebra.Order.Ring.Rat
import ZenPass.Lib.Utf16
import ZenPass.Wire.B64

set_option autoImplicit false

namespace ZenPass.Extension

open Wire

inductive JsValue where
  | undefined
  | null
  | boolean (value : Bool)
  | number (value : Rat)
  -- NaN and the infinities.
  | nonFinite
  | string (value : String)
  | array (items : List JsValue)
  | object (members : List (String × JsValue))

abbrev Members := List (String × JsValue)

def Members.get (members : Members) (key : String) : Option JsValue := List.lookup key members

def maxIdLength : Nat := 128
def maxUrlLength : Nat := 4096
def maxAccountIdLength : Nat := 256
def maxOriginLength : Nat := 512
def maxTitleLength : Nat := 500
def maxUsernameLength : Nat := 1024
def maxNotesBytes : Nat := 128 * 1024
def maxSecretBytes : Nat := 4096

def hasExactKeys (members : Members) (required : List String) (optional : List String := []) :
    Bool :=
  members.all (fun member => (required ++ optional).contains member.1) &&
    required.all fun key => (members.get key).isSome

def boundedString (maxLength : Nat) : JsValue → Option String
  | .string value =>
      if 0 < (Utf16.codeUnits value).length ∧ (Utf16.codeUnits value).length ≤ maxLength then
        some value
      else none
  | _ => none

def byteOf : JsValue → Option UInt8
  | .number value =>
      if value.den = 1 ∧ 0 ≤ value.num ∧ value.num ≤ 255 then some (UInt8.ofNat value.num.toNat)
      else none
  | _ => none

/-- `isByteArray` together with `fromByteArray`. -/
def asByteArray (maxLength : Nat) : JsValue → Option Bytes
  | .array items => if items.length > maxLength then none else items.mapM byteOf
  | _ => none

inductive ItemType where
  | login
  | note
  | totpLogin
deriving DecidableEq, Repr

def ItemType.text : ItemType → String
  | .login => "login"
  | .note => "note"
  | .totpLogin => "totp-login"

def parseItemType : JsValue → Option ItemType
  | .string "login" => some .login
  | .string "note" => some .note
  | .string "totp-login" => some .totpLogin
  | _ => none

structure SaveItemMessage where
  title : String
  itemType : ItemType
  itemId : Option String
  username : Option String
  password : Option Bytes
  url : Option String
  notes : Option Bytes
  totpSecret : Option Bytes
deriving DecidableEq, Repr

inductive ValidatedPopupMessage where
  | getState
  | requestCandidates
  | fillSelected (requestId itemId : String)
  | lock
  | logout
  | listItems
  | getTotp (itemId : String)
  | unlock (accountId apiOrigin : String) (password : Bytes)
  | saveItem (message : SaveItemMessage)
deriving DecidableEq, Repr

def optionalMember {α : Type} (members : Members) (key : String) (check : JsValue → Option α) :
    Option (Option α) :=
  match members.get key with
  | none => some none
  | some value => (check value).map some

def requiredMember {α : Type} (members : Members) (key : String) (check : JsValue → Option α) :
    Option α :=
  (members.get key).bind check

def parseSaveItem (members : Members) : Option SaveItemMessage := do
  if !hasExactKeys members ["type", "title", "itemType"]
      ["itemId", "username", "password", "url", "notes", "totpSecret"] then
    none
  let title ← requiredMember members "title" (boundedString maxTitleLength)
  let itemType ← requiredMember members "itemType" parseItemType
  let itemId ← optionalMember members "itemId" (boundedString maxIdLength)
  let username ← optionalMember members "username" (boundedString maxUsernameLength)
  let url ← optionalMember members "url" (boundedString maxUrlLength)
  let password ← optionalMember members "password" (asByteArray maxSecretBytes)
  let notes ← optionalMember members "notes" (asByteArray maxNotesBytes)
  let totpSecret ← optionalMember members "totpSecret" (asByteArray maxSecretBytes)
  some { title, itemType, itemId, username, password, url, notes, totpSecret }

def parseUnlock (members : Members) : Option ValidatedPopupMessage := do
  if !hasExactKeys members ["type", "accountId", "apiOrigin", "password"] then none
  let accountId ← requiredMember members "accountId" (boundedString maxAccountIdLength)
  let apiOrigin ← requiredMember members "apiOrigin" (boundedString maxOriginLength)
  let password ← requiredMember members "password" (asByteArray maxSecretBytes)
  if password.isEmpty then none
  some (.unlock accountId apiOrigin password)

def parseFillSelected (members : Members) : Option ValidatedPopupMessage := do
  if !hasExactKeys members ["type", "requestId", "itemId"] then none
  let requestId ← requiredMember members "requestId" (boundedString maxIdLength)
  let itemId ← requiredMember members "itemId" (boundedString maxIdLength)
  some (.fillSelected requestId itemId)

def parseGetTotp (members : Members) : Option ValidatedPopupMessage := do
  if !hasExactKeys members ["type", "itemId"] then none
  let itemId ← requiredMember members "itemId" (boundedString maxIdLength)
  some (.getTotp itemId)

def parsePopupMessage : JsValue → Option ValidatedPopupMessage
  | .object members =>
      -- A message of one word has no other member.
      let bare (message : ValidatedPopupMessage) : Option ValidatedPopupMessage :=
        if hasExactKeys members ["type"] then some message else none
      match Members.get members "type" with
      | some (.string "get-state") => bare .getState
      | some (.string "request-candidates") => bare .requestCandidates
      | some (.string "lock") => bare .lock
      | some (.string "logout") => bare .logout
      | some (.string "list-items") => bare .listItems
      | some (.string "fill-selected") => parseFillSelected members
      | some (.string "get-totp") => parseGetTotp members
      | some (.string "unlock") => parseUnlock members
      | some (.string "save-item") => (parseSaveItem members).map .saveItem
      | _ => none
  | _ => none

theorem optionalMember_none {α : Type} {members : Members} {key : String}
    {check : JsValue → Option α} {found : Option α} (absent : members.get key = none)
    (checked : optionalMember members key check = some found) : found = none := by
  rw [optionalMember, absent] at checked
  cases checked
  rfl

theorem optionalMember_some {α : Type} {members : Members} {key : String}
    {check : JsValue → Option α} {found : Option α} {value : JsValue}
    (present : members.get key = some value)
    (checked : optionalMember members key check = some found) :
    ∃ result, check value = some result ∧ found = some result := by
  rw [optionalMember, present] at checked
  dsimp only at checked
  rw [Option.map_eq_some_iff] at checked
  obtain ⟨result, good, rfl⟩ := checked
  exact ⟨result, good, rfl⟩

structure SaveItemMessage.Read (members : Members) (message : SaveItemMessage) : Prop where
  title : requiredMember members "title" (boundedString maxTitleLength) = some message.title
  itemType : requiredMember members "itemType" parseItemType = some message.itemType
  itemId : optionalMember members "itemId" (boundedString maxIdLength) = some message.itemId
  username : optionalMember members "username" (boundedString maxUsernameLength) =
    some message.username
  url : optionalMember members "url" (boundedString maxUrlLength) = some message.url
  password : optionalMember members "password" (asByteArray maxSecretBytes) = some message.password
  notes : optionalMember members "notes" (asByteArray maxNotesBytes) = some message.notes
  totpSecret : optionalMember members "totpSecret" (asByteArray maxSecretBytes) =
    some message.totpSecret

theorem parseSaveItem_read {members : Members} {message : SaveItemMessage}
    (parsed : parseSaveItem members = some message) : message.Read members := by
  unfold parseSaveItem at parsed
  split at parsed
  · cases parsed
  · simp only [Option.bind_eq_bind, Option.bind_eq_some_iff, Option.some.injEq] at parsed
    obtain ⟨title, hasTitle, itemType, hasType, itemId, hasId, username, hasUsername, url, hasUrl,
      password, hasPassword, notes, hasNotes, totpSecret, hasTotp, rfl⟩ := parsed
    exact ⟨hasTitle, hasType, hasId, hasUsername, hasUrl, hasPassword, hasNotes, hasTotp⟩

theorem parsePopupMessage_saveItem {members : Members} {message : SaveItemMessage}
    (parsed : parsePopupMessage (.object members) = some (.saveItem message)) :
    message.Read members := by
  unfold parsePopupMessage at parsed
  dsimp only at parsed
  split at parsed
  case h_9 =>
    rw [Option.map_eq_some_iff] at parsed
    obtain ⟨read, good, same⟩ := parsed
    cases same
    exact parseSaveItem_read good
  case h_6 => simp [parseFillSelected, Option.bind_eq_some_iff] at parsed
  case h_7 => simp [parseGetTotp, Option.bind_eq_some_iff] at parsed
  case h_8 => simp [parseUnlock, Option.bind_eq_some_iff] at parsed
  all_goals simp at parsed

end ZenPass.Extension
