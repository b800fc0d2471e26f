import ZenPass.Importers.Records

set_option autoImplicit false

namespace ZenPass.Importers

open JsonText (Units Value lookup units)

-- A property of what is an object; neither an array nor an object inherits one of the names in use here.
def property (value : Value) (name : String) : Option Value :=
  match value with
  | .object members => lookup members (units name)
  | _ => none

-- `typeof value === "object" && value !== null`
def isObject : Value → Bool
  | .object _ => true
  | .array _ => true
  | _ => false

-- `typeof value === "string"`
def textOf : Option Value → Option Units
  | some (.string text) => some text
  | _ => none

-- `Array.isArray(value)`
def itemsOf : Option Value → Option (List Value)
  | some (.array items) => some items
  | _ => none

-- Whether the value was truncated is not looked at.
def str (value : Option Value) : Option Units := (boundField (textOf value)).1

def normalizeRecord (make : Value → Except String NormalizedItem) (idx : Nat) (raw : Value)
    (result : NormalizeResult) : NormalizeResult :=
  if result.items.length ≥ maxItems then result.issue idx droppedReason
  else
    match make raw with
    | .error reason => result.issue idx reason
    | .ok item => result.item item

def normalizeJson (expected : String) (syntaxError : Units → String)
    (make : Value → Value → Except String NormalizedItem) (input : Units) :
    Except String NormalizeResult := do
  assertInputSize input
  match JsonText.parse input with
  | none => .ok (NormalizeResult.empty.issue 0 ("invalid JSON: " ++ syntaxError input))
  | some doc =>
    match itemsOf (property doc "items") with
    | none => .ok (NormalizeResult.empty.issue 0 expected)
    | some rawItems => .ok (eachRecord (normalizeRecord (make doc)) 0 rawItems .empty)

def notObjectReason : String := "item is not an object; skipped"

namespace Bitwarden

def addFolder (folderNameById : Units → Option Units) (f : Value) : Units → Option Units :=
  match textOf (property f "id"), textOf (property f "name") with
  | some id, some name => Function.update folderNameById id (some name)
  | _, _ => folderNameById

def folderNames (doc : Value) : Units → Option Units :=
  ((itemsOf (property doc "folders")).getD []).foldl addFolder fun _ => none

def loginOf (it : Value) : Option Value := (property it "login").filter fun login => isObject login

def loginProperty (it : Value) (name : String) : Option Value :=
  (loginOf it).bind fun login => property login name

def urisOf (it : Value) : List Value := (itemsOf (loginProperty it "uris")).getD []

-- the name goes on the item as the folder has it
def folderOf (doc it : Value) : Option Units :=
  ((textOf (property it "folderId")).filter fun folderId => folderId ≠ []).bind (folderNames doc)

def normalizeItem (doc raw : Value) : Except String NormalizedItem :=
  if isObject raw then
    match str (property raw "name") with
    | none => .error "item has no name; skipped"
    | some title =>
      let uris := (urisOf raw).filterMap fun u => str (property u "uri")
      .ok
        { title
          username := str (loginProperty raw "username")
          password := str (loginProperty raw "password")
          url := uris.head?
          otherUrls := if uris.tail.length = 0 then none else some uris.tail
          notes := str (property raw "notes")
          totp := str (loginProperty raw "totp")
          folder := folderOf doc raw
          source := .bitwarden }
  else .error notObjectReason

end Bitwarden

def normalizeBitwardenJson (syntaxError : Units → String) (input : Units) : Except String NormalizeResult :=
  normalizeJson "expected a Bitwarden export object with an 'items' array" syntaxError
    Bitwarden.normalizeItem input

namespace Enpass

-- the variables of the loop over the fields
structure Fields where
  username : Option Units
  url : Option Units
  otherUrls : List Units
  password : Option Units
  totpSecret : Option Units

section

-- the conversion of the language
variable (toLowerCase : Units → Units)

def addField (fields : Fields) (f : Value) : Fields :=
  match (textOf (property f "type")).map toLowerCase, str (property f "value") with
  | some type, some value =>
    if type = [] then fields
    else if type = units "username" ∧ fields.username = none then { fields with username := some value }
    else if type = units "password" ∧ fields.password = none then { fields with password := some value }
    else if type = units "url" then
      if fields.url = none then { fields with url := some value }
      else { fields with otherUrls := fields.otherUrls ++ [value] }
    else if type = units "totp" ∧ fields.totpSecret = none then { fields with totpSecret := some value }
    else fields
  | _, _ => fields

def fieldsOf (it : Value) : List Value := (itemsOf (property it "fields")).getD []

def normalizeItem (raw : Value) : Except String NormalizedItem :=
  if isObject raw then
    match str (property raw "title") with
    | none => .error "item has no title; skipped"
    | some title =>
      let fields := (fieldsOf raw).foldl (addField toLowerCase)
        { username := none, url := none, otherUrls := [], password := none, totpSecret := none }
      .ok
        { title
          username := fields.username
          password := fields.password
          url := fields.url
          otherUrls := if fields.otherUrls.length > 0 then some fields.otherUrls else none
          notes := str (property raw "note")
          totp := fields.totpSecret
          folder := none
          source := .enpass }
  else .error notObjectReason

end

end Enpass

def normalizeEnpassJson (toLowerCase : Units → Units) (syntaxError : Units → String) (input : Units) :
    Except String NormalizeResult :=
  normalizeJson "expected an Enpass export object with an 'items' array" syntaxError
    (fun _ => Enpass.normalizeItem toLowerCase) input

end ZenPass.Importers
