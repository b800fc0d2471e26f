import ZenPass.Lib.KeyedStore
import ZenPass.Sdk.Repository
import ZenPass.Wire.B64

set_option autoImplicit false

-- What the vault managers of the extension and of the Android app have in common. The payload of
-- an item is the list of the members of its JSON object, in the order in which they are written.

namespace ZenPass.Client

open KeyedStore Sdk Wire

structure VaultItemData where
  type : String
  title : String
  username : Option String
  password : Option String
  url : Option String
  notes : Option String
  totpSecret : Option String
deriving DecidableEq, Repr

abbrev Payload := List (String × String)

def payloadMember (key : String) (value : Option String) : Payload :=
  (value.map fun text => (key, text)).toList

def encodeItemData (data : VaultItemData) : Payload :=
  payloadMember "type" (some data.type) ++ payloadMember "title" (some data.title) ++
    payloadMember "username" data.username ++ payloadMember "password" data.password ++
    payloadMember "url" data.url ++ payloadMember "notes" data.notes ++
    payloadMember "totpSecret" data.totpSecret

def isFalsy (value : Option String) : Bool := (value.getD "").isEmpty

structure ItemSummary where
  itemId : Id
  title : String
  type : String
  username : Option String
  url : Option String
deriving DecidableEq, Repr

structure ItemEntry where
  itemId : Id
  revision : Int
  data : VaultItemData
deriving DecidableEq, Repr

def ItemEntry.summary (entry : ItemEntry) : ItemSummary where
  itemId := entry.itemId
  title := entry.data.title
  type := entry.data.type
  username := entry.data.username
  url := entry.data.url

structure SaveItemInput where
  itemId : Option Id
  data : VaultItemData
deriving DecidableEq, Repr

structure SealRequest where
  session : Nat
  accountId : Id
  vaultId : Id
  itemId : Id
  plaintext : Payload
deriving DecidableEq, Repr

structure ApiSession where
  accessToken : String
  expiresAt : Option Nat
deriving DecidableEq, Repr

/-- A record of a page of changes with its decrypted data, `none` if it cannot be opened. -/
structure LoadedRecord where
  itemId : Id
  revision : Int
  deleted : Bool
  opened : Option VaultItemData
deriving DecidableEq, Repr

structure LoadedPage where
  changes : List LoadedRecord
  nextCursor : Option String
deriving DecidableEq, Repr

def loadRecord (items : InsertionMap Id ItemEntry) (record : LoadedRecord) :
    InsertionMap Id ItemEntry :=
  if record.deleted then items.delete record.itemId
  else
    match record.opened with
    | none => items
    | some data => items.set record.itemId ⟨record.itemId, record.revision, data⟩

structure TotpDisplay where
  code : String
  secondsRemaining : Nat
deriving DecidableEq, Repr

def secondsRemaining (now : Nat) : Nat := 30 - now / 1000 % 30

end ZenPass.Client
