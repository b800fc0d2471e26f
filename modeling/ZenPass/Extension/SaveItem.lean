import ZenPass.Client.VaultItems
import ZenPass.Extension.Message
import ZenPass.Sdk.SyncEngine

set_option autoImplicit false

namespace ZenPass.Extension

open Client KeyedStore Sdk Wire

def isJsSpace (c : Char) : Bool :=
  [0x09, 0x0A, 0x0B, 0x0C, 0x0D, 0x20, 0xA0, 0x1680, 0x2028, 0x2029, 0x202F, 0x205F, 0x3000,
      0xFEFF].contains c.toNat ||
    decide (0x2000 ≤ c.toNat ∧ c.toNat ≤ 0x200A)

def validateItemData (data : VaultItemData) : List String :=
  let login := data.type == "login" || data.type == "totp-login"
  (if data.title.toList.all isJsSpace then ["Title is required."] else []) ++
    (if (Utf16.codeUnits data.title).length > 500 then ["Title is too long."] else []) ++
    (if login && isFalsy data.username && isFalsy data.password then
      ["A login needs a username or a password."] else []) ++
    (if data.type == "totp-login" && isFalsy data.totpSecret then
      ["A TOTP login needs a secret."] else []) ++
    (if (Utf16.codeUnits (data.notes.getD "")).length > 100000 then
      ["Notes are too long."] else [])

structure SaveForm where
  itemId : String
  title : String
  type : String
  username : String
  password : String
  url : String
  notes : String
  totpSecret : String
deriving DecidableEq, Repr

def editForm (item : ItemSummary) : SaveForm where
  itemId := item.itemId
  title := item.title
  type := item.type
  username := item.username.getD ""
  password := ""
  url := item.url.getD ""
  notes := ""
  totpSecret := ""

def stringToByteArray (value : String) : JsValue :=
  .array (value.toUTF8.toList.map fun byte => .number byte.toNat)

def orUndefined (value : String) (encode : String → JsValue) : JsValue :=
  if value.isEmpty then .undefined else encode value

def saveMessage (form : SaveForm) : Members :=
  [("type", .string "save-item"), ("itemId", orUndefined form.itemId .string),
    ("title", .string form.title), ("itemType", .string form.type),
    ("username", orUndefined form.username .string),
    ("password", orUndefined form.password stringToByteArray),
    ("url", orUndefined form.url .string), ("notes", orUndefined form.notes stringToByteArray),
    ("totpSecret", orUndefined form.totpSecret stringToByteArray)]

/-- A member that is undefined is lost in a JSON message. -/
def overJson (members : Members) : Members :=
  members.filter fun member =>
    match member.2 with
    | .undefined => false
    | _ => true

structure UnlockedState where
  session : Nat
  accountId : Id
  vaultId : Id
  accessToken : Option String
  items : InsertionMap Id ItemEntry

inductive SaveItemResult where
  | ok (itemId : Id)
  | validation (problems : List String)
  | conflict
  | locked
  | network
deriving DecidableEq, Repr

/-- How the awaits of one call come out: the items that the manager then holds, if it is still
fresh and in the same session. -/
structure SaveAwaits where
  checked : Option (InsertionMap Id ItemEntry)
  itemUuid : Id
  mutationUuid : Id
  reply : Reply ItemRecord
  answered : Option (InsertionMap Id ItemEntry)

/-- What one call has done: what it gave to the crypto host and to the server, and the items that
the session then holds. -/
structure SaveRun where
  result : SaveItemResult
  items : Option (InsertionMap Id ItemEntry)
  sealed : Option SealRequest := none
  uploaded : Option Mutation := none

def baseRevision (items : InsertionMap Id ItemEntry) : Option Id → Int
  | none => 0
  | some itemId => if itemId.isEmpty then 0 else ((items.get itemId).map ItemEntry.revision).getD 0

def finishSave (run : SaveRun) (itemId : Id) (data : VaultItemData)
    (outcome : Except (Thrown ItemRecord Unit) (MutateOutcome ItemRecord)) : SaveRun :=
  match outcome, run.items with
  | .error (.httpError 401 _), _ => { run with result := .network, items := none }
  | .error _, _ => { run with result := .network }
  | .ok _, none => { run with result := .locked }
  | .ok (.conflict _), some _ => { run with result := .conflict }
  -- Without a body the revision cannot be read, and the `catch` reports a network failure.
  | .ok (.created none), some _ => { run with result := .network }
  | .ok (.created (some item)), some items =>
      { run with result := .ok itemId, items := some (items.set itemId ⟨itemId, item.revision, data⟩) }

def saveRequest (state : UnlockedState) (itemId : Id) (data : VaultItemData) : SealRequest where
  session := state.session
  accountId := state.accountId
  vaultId := state.vaultId
  itemId := itemId
  plaintext := encodeItemData data

def saveMutation (state : UnlockedState) (items : InsertionMap Id ItemEntry) (input : SaveItemInput)
    (itemId mutationUuid : Id) (envelope : Bytes) : Mutation where
  mutationId := mutationUuid
  itemId := itemId
  vaultId := state.vaultId
  baseRevision := baseRevision items input.itemId
  ciphertext := encodeB64 envelope
  envelopeVersion := Sync.envelopeVersionV1
  deleted := false

def saveItem (sealPayload : SealRequest → Option Bytes) (state : Option UnlockedState)
    (input : SaveItemInput) (awaits : SaveAwaits) : SaveRun :=
  match state with
  | none => { result := .locked, items := none }
  | some state =>
      let problems := validateItemData input.data
      if problems ≠ [] then { result := .validation problems, items := some state.items }
      else
        match awaits.checked with
        | none => { result := .network, items := none }
        | some items =>
            let itemId := input.itemId.getD awaits.itemUuid
            let request := saveRequest state itemId input.data
            match sealPayload request with
            | none => { result := .locked, items := some items, sealed := some request }
            | some envelope =>
                finishSave
                  { result := .locked
                    items := awaits.answered
                    sealed := some request
                    uploaded :=
                      some (saveMutation state items input itemId awaits.mutationUuid envelope) }
                  itemId input.data (mutateItem state.accessToken awaits.reply)

/-- A fatal decoder that drops a leading byte order mark. -/
def byteArrayToString (bytes : Bytes) : Option String :=
  (String.fromUTF8? ⟨bytes.toArray⟩).map fun text =>
    match text.toList with
    | '\uFEFF' :: rest => String.ofList rest
    | _ => text

def optionalSecret : Option Bytes → Option (Option String)
  | none => some none
  | some bytes => (byteArrayToString bytes).map some

def saveInput (parsed : SaveItemMessage) : Option SaveItemInput := do
  let password ← optionalSecret parsed.password
  let notes ← optionalSecret parsed.notes
  let totpSecret ← optionalSecret parsed.totpSecret
  some
    { itemId := parsed.itemId
      data :=
        { type := parsed.itemType.text
          title := parsed.title
          username := parsed.username
          password
          url := parsed.url
          notes
          totpSecret } }

inductive SaveResponse where
  | refused
  | locked
  | saved (itemId : Id)
  | saveFailed (reason : String) (problems : Option (List String))
deriving DecidableEq, Repr

def saveResponse (lockedAfter : Bool) (result : SaveItemResult) : SaveResponse :=
  if lockedAfter then .locked
  else
    match result with
    | .ok itemId => .saved itemId
    | .locked => .locked
    | .validation problems => .saveFailed "validation" (some problems)
    | .conflict => .saveFailed "conflict" none
    | .network => .saveFailed "network" none

def handleSaveItem (locked : Bool) (sealPayload : SealRequest → Option Bytes) (state : Option UnlockedState)
    (parsed : SaveItemMessage) (awaits : SaveAwaits) (lockedAfter : Bool) :
    Option (SaveResponse × Option SaveRun) :=
  if locked then some (.refused, none)
  else
    (saveInput parsed).map fun input =>
      let run := saveItem sealPayload state input awaits
      (saveResponse lockedAfter run.result, some run)

theorem lookup_payloadMember (key other : String) (value : Option String) :
    (payloadMember key value).lookup other = if other = key then value else none := by
  cases value with
  | none => simp [payloadMember]
  | some text =>
      by_cases same : other = key
      · simp [payloadMember, same]
      · simp [payloadMember, same, beq_false_of_ne same]

theorem lookup_append (first second : Payload) (key : String) :
    (first ++ second).lookup key = (first.lookup key).or (second.lookup key) := by
  induction first with
  | nil => rfl
  | cons member rest ih =>
      obtain ⟨name, text⟩ := member
      cases same : key == name <;> simp [List.lookup_cons, same, ih]

def plainText : JsValue → Option String
  | .string value => some value
  | _ => none

def secretText (maxLength : Nat) (value : JsValue) : Option String :=
  (asByteArray maxLength value).bind byteArrayToString

structure Carries (members : Members) (payload : Payload) (key : String)
    (text : JsValue → Option String) : Prop where
  absent : members.get key = none → payload.lookup key = none
  supplied : ∀ value, members.get key = some value →
    ∃ written, text value = some written ∧ payload.lookup key = some written

theorem carries_of_optional {α : Type} {members : Members} {payload : Payload} {key : String}
    {check : JsValue → Option α} {found : Option α} {field : Option String}
    {text : JsValue → Option String} (write : α → Option String)
    (read : optionalMember members key check = some found) (written : payload.lookup key = field)
    (absent : found = none → field = none)
    (present : ∀ result, found = some result → ∃ value, write result = some value ∧ field = some value)
    (same : ∀ value result, check value = some result → text value = write result) :
    Carries members payload key text := by
  constructor
  · intro missing
    rw [written, absent (optionalMember_none missing read)]
  · intro value there
    obtain ⟨result, good, known⟩ := optionalMember_some there read
    obtain ⟨text, decodes, is⟩ := present result known
    exact ⟨text, by rw [same value result good, decodes], by rw [written, is]⟩

theorem plainText_of_boundedString (maxLength : Nat) (value : JsValue) (result : String)
    (good : boundedString maxLength value = some result) : plainText value = some result := by
  cases value with
  | string text =>
      simp only [boundedString, Option.ite_none_right_eq_some, Option.some.injEq] at good
      rw [plainText, good.2]
  | _ => cases good

theorem optionalSecret_absent {found : Option Bytes} {field : Option String}
    (decoded : optionalSecret found = some field) (absent : found = none) : field = none := by
  subst absent
  cases decoded
  rfl

theorem optionalSecret_present {found : Option Bytes} {field : Option String}
    (decoded : optionalSecret found = some field) (bytes : Bytes) (present : found = some bytes) :
    ∃ value, byteArrayToString bytes = some value ∧ field = some value := by
  subst present
  rw [optionalSecret, Option.map_eq_some_iff] at decoded
  obtain ⟨text, good, rfl⟩ := decoded
  exact ⟨text, good, rfl⟩

structure SaveItemMessage.Gives (parsed : SaveItemMessage) (input : SaveItemInput) : Prop where
  itemId : input.itemId = parsed.itemId
  type : input.data.type = parsed.itemType.text
  title : input.data.title = parsed.title
  username : input.data.username = parsed.username
  url : input.data.url = parsed.url
  password : optionalSecret parsed.password = some input.data.password
  notes : optionalSecret parsed.notes = some input.data.notes
  totpSecret : optionalSecret parsed.totpSecret = some input.data.totpSecret

theorem saveInput_of {parsed : SaveItemMessage} {input : SaveItemInput}
    (made : saveInput parsed = some input) : parsed.Gives input := by
  simp only [saveInput, Option.bind_eq_bind, Option.bind_eq_some_iff, Option.some.injEq] at made
  obtain ⟨password, hasPassword, notes, hasNotes, totpSecret, hasTotp, rfl⟩ := made
  exact ⟨rfl, rfl, rfl, rfl, rfl, hasPassword, hasNotes, hasTotp⟩

def payloadKeys : List String :=
  ["type", "title", "username", "password", "url", "notes", "totpSecret"]

/-- The payload carries what the message has, and nothing else. -/
structure SealsMessage (members : Members) (payload : Payload) : Prop where
  type : payload.lookup "type" = (members.get "itemType").bind plainText
  title : payload.lookup "title" = (members.get "title").bind plainText
  username : Carries members payload "username" plainText
  password : Carries members payload "password" (secretText maxSecretBytes)
  url : Carries members payload "url" plainText
  notes : Carries members payload "notes" (secretText maxNotesBytes)
  totpSecret : Carries members payload "totpSecret" (secretText maxSecretBytes)
  only : ∀ key, key ∉ payloadKeys → payload.lookup key = none

theorem parseItemType_text (value : JsValue) (itemType : ItemType)
    (parsed : parseItemType value = some itemType) : plainText value = some itemType.text := by
  unfold parseItemType at parsed
  split at parsed <;> cases parsed <;> rfl

section Encode

variable (data : VaultItemData)

theorem lookup_encodeItemData (key : String) :
    (encodeItemData data).lookup key =
      (((((((if key = "type" then some data.type else none).or
        (if key = "title" then some data.title else none)).or
        (if key = "username" then data.username else none)).or
        (if key = "password" then data.password else none)).or
        (if key = "url" then data.url else none)).or
        (if key = "notes" then data.notes else none)).or
        (if key = "totpSecret" then data.totpSecret else none)) := by
  simp only [encodeItemData, lookup_append, lookup_payloadMember]

theorem sealsMessage_of {members : Members} {parsed : SaveItemMessage} {input : SaveItemInput}
    (read : parsed.Read members) (made : parsed.Gives input) :
    SealsMessage members (encodeItemData input.data) := by
  have optionalText {key : String} {maxLength : Nat} {found field : Option String}
      (checked : optionalMember members key (boundedString maxLength) = some found)
      (same : field = found) (written : (encodeItemData input.data).lookup key = field) :
      Carries members (encodeItemData input.data) key plainText := by
    refine carries_of_optional some checked written (fun absent => same.trans absent) ?_
      (plainText_of_boundedString maxLength)
    exact fun result present => ⟨result, rfl, same.trans present⟩
  have optionalBytes {key : String} {maxLength : Nat} {found : Option Bytes}
      {field : Option String}
      (checked : optionalMember members key (asByteArray maxLength) = some found)
      (decoded : optionalSecret found = some field)
      (written : (encodeItemData input.data).lookup key = field) :
      Carries members (encodeItemData input.data) key (secretText maxLength) := by
    refine carries_of_optional byteArrayToString checked written
      (optionalSecret_absent decoded) (optionalSecret_present decoded) ?_
    intro value result good
    rw [secretText, good, Option.bind_some]
  constructor
  · obtain ⟨value, there, good⟩ := Option.bind_eq_some_iff.mp read.itemType
    rw [lookup_encodeItemData, there, Option.bind_some, parseItemType_text value _ good, made.type]
    simp
  · obtain ⟨value, there, good⟩ := Option.bind_eq_some_iff.mp read.title
    rw [lookup_encodeItemData, there, Option.bind_some, plainText_of_boundedString _ value _ good,
      made.title]
    simp
  · exact optionalText read.username made.username (by simp [lookup_encodeItemData])
  · exact optionalBytes read.password made.password (by simp [lookup_encodeItemData])
  · exact optionalText read.url made.url (by simp [lookup_encodeItemData])
  · exact optionalBytes read.notes made.notes (by simp [lookup_encodeItemData])
  · exact optionalBytes read.totpSecret made.totpSecret (by simp [lookup_encodeItemData])
  · intro key other
    simp only [payloadKeys, List.mem_cons, List.not_mem_nil, or_false, not_or] at other
    simp [lookup_encodeItemData, other]

end Encode

section Edit

variable {sealPayload : SealRequest → Option Bytes}

theorem finishSave_requests (run : SaveRun) (itemId : Id) (data : VaultItemData)
    (outcome : Except (Thrown ItemRecord Unit) (MutateOutcome ItemRecord)) :
    (finishSave run itemId data outcome).sealed = run.sealed ∧
      (finishSave run itemId data outcome).uploaded = run.uploaded := by
  unfold finishSave
  split <;> exact ⟨rfl, rfl⟩

theorem finishSave_items (run : SaveRun) (itemId : Id) (data : VaultItemData)
    (outcome : Except (Thrown ItemRecord Unit) (MutateOutcome ItemRecord))
    {items : InsertionMap Id ItemEntry}
    (held : (finishSave run itemId data outcome).items = some items) :
    ∃ before, run.items = some before ∧ ∀ other, other ≠ itemId → items.get other = before.get other := by
  unfold finishSave at held
  split at held
  · cases held
  · exact ⟨items, held, fun _ _ => rfl⟩
  · exact ⟨items, held, fun _ _ => rfl⟩
  · exact ⟨items, held, fun _ _ => rfl⟩
  · exact ⟨items, held, fun _ _ => rfl⟩
  · rename_i before here
    cases held
    exact ⟨before, here, fun other different => before.get_set_of_ne _ different⟩

/-- What one call seals, uploads and leaves in the session. -/
structure SaveRun.Saves (sealPayload : SealRequest → Option Bytes) (state : UnlockedState)
    (input : SaveItemInput) (itemId : Id) (awaits : SaveAwaits) (run : SaveRun) : Prop where
  sealed : ∀ request, run.sealed = some request →
    request = ⟨state.session, state.accountId, state.vaultId, itemId, encodeItemData input.data⟩
  uploaded : ∀ mutation, run.uploaded = some mutation →
    ∃ request envelope, run.sealed = some request ∧ sealPayload request = some envelope ∧
      mutation.itemId = itemId ∧ mutation.vaultId = state.vaultId ∧ mutation.deleted = false ∧
      mutation.ciphertext = encodeB64 envelope
  items : ∀ items, run.items = some items →
    ∃ before, (before = state.items ∨ awaits.checked = some before ∨ awaits.answered = some before) ∧
      ∀ other, other ≠ itemId → items.get other = before.get other

theorem saveItem_saves (state : UnlockedState) (input : SaveItemInput) (awaits : SaveAwaits) :
    (saveItem sealPayload (some state) input awaits).Saves sealPayload state input
      (input.itemId.getD awaits.itemUuid) awaits := by
  unfold saveItem
  dsimp only
  split
  · refine ⟨nofun, nofun, ?_⟩
    rintro items ⟨⟩
    exact ⟨state.items, .inl rfl, fun _ _ => rfl⟩
  · cases checked : awaits.checked with
    | none => exact ⟨nofun, nofun, nofun⟩
    | some held =>
        dsimp only
        split
        · refine ⟨?_, nofun, ?_⟩
          · rintro request ⟨⟩
            rfl
          · rintro items ⟨⟩
            exact ⟨held, .inr (.inl checked), fun _ _ => rfl⟩
        · rename_i envelope here
          refine ⟨?_, ?_, ?_⟩
          · intro request asked
            rw [(finishSave_requests _ _ _ _).1] at asked
            cases asked
            rfl
          · intro mutation asked
            rw [(finishSave_requests _ _ _ _).2] at asked
            cases asked
            exact ⟨_, envelope, (finishSave_requests _ _ _ _).1, here, rfl, rfl, rfl, rfl⟩
          · intro items left
            obtain ⟨before, was, others⟩ := finishSave_items _ _ _ _ left
            exact ⟨before, .inr (.inr was), others⟩

/-- A save that names an item seals and uploads exactly what its message has, whatever the item
held before, and touches no other item. -/
theorem edit_seals_message {members : Members} {parsed : SaveItemMessage} {itemId : Id}
    (valid : parsePopupMessage (.object members) = some (.saveItem parsed))
    (names : parsed.itemId = some itemId) {locked lockedAfter : Bool} {state : UnlockedState}
    {awaits : SaveAwaits} {response : SaveResponse} {run : SaveRun}
    (handled : handleSaveItem locked sealPayload (some state) parsed awaits lockedAfter =
      some (response, some run)) :
    (∀ request, run.sealed = some request →
      request.itemId = itemId ∧ SealsMessage members request.plaintext) ∧
    (∀ mutation, run.uploaded = some mutation →
      mutation.itemId = itemId ∧ ∃ request envelope, run.sealed = some request ∧
        sealPayload request = some envelope ∧ mutation.ciphertext = encodeB64 envelope) ∧
    (∀ items, run.items = some items →
      ∃ before, (before = state.items ∨ awaits.checked = some before ∨
          awaits.answered = some before) ∧
        ∀ other, other ≠ itemId → items.get other = before.get other) := by
  unfold handleSaveItem at handled
  split at handled
  · cases handled
  · rw [Option.map_eq_some_iff] at handled
    obtain ⟨input, made, same⟩ := handled
    cases same
    have fromMessage := saveInput_of made
    have saves : (saveItem sealPayload (some state) input awaits).Saves sealPayload state input _
        awaits := saveItem_saves state input awaits
    rw [fromMessage.itemId, names, Option.getD_some] at saves
    refine ⟨?_, ?_, saves.items⟩
    · intro request asked
      have is := saves.sealed request asked
      subst is
      exact ⟨rfl, sealsMessage_of (parsePopupMessage_saveItem valid) fromMessage⟩
    · intro mutation asked
      obtain ⟨request, envelope, sent, sealedAs, item, -, -, ciphertext⟩ :=
        saves.uploaded mutation asked
      exact ⟨item, request, envelope, sent, sealedAs, ciphertext⟩

end Edit

section Samples

def sampleItem : ItemEntry where
  itemId := "item"
  revision := 3
  data :=
    { type := "login"
      title := "Mail"
      username := some "alice"
      password := some "secret"
      url := none
      notes := some "note"
      totpSecret := none }

def sampleState : UnlockedState where
  session := 1
  accountId := "account"
  vaultId := "vault"
  accessToken := some "token"
  items := InsertionMap.empty.set "item" sampleItem

def sampleAwaits : SaveAwaits where
  checked := some sampleState.items
  itemUuid := "u1"
  mutationUuid := "u2"
  reply := .response 201 (.json (sampleRecord 4))
  answered := some sampleState.items

def renamed (password : String) : Members :=
  overJson (saveMessage { editForm sampleItem.summary with title := "Post", password })

def parsedRename (password : Option Bytes) : SaveItemMessage where
  title := "Post"
  itemType := .login
  itemId := some "item"
  username := some "alice"
  password := password
  url := none
  notes := none
  totpSecret := none

def sampleSeal (_ : SealRequest) : Option Bytes := some [1, 2, 3]

def renameInput (password : Option String) : SaveItemInput where
  itemId := some "item"
  data :=
    { type := "login"
      title := "Post"
      username := some "alice"
      password := password
      url := none
      notes := none
      totpSecret := none }

def renameRun (password : Option String) : SaveRun :=
  saveItem sampleSeal (some sampleState) (renameInput password) sampleAwaits

theorem handleSaveItem_rename {bytes : Option Bytes} {password : Option String}
    (decodes : optionalSecret bytes = some password) :
    handleSaveItem false sampleSeal (some sampleState) (parsedRename bytes) sampleAwaits false =
      some (saveResponse false (renameRun password).result, some (renameRun password)) := by
  have made : saveInput (parsedRename bytes) = some (renameInput password) := by
    simp only [saveInput, parsedRename, decodes]
    rfl
  rw [handleSaveItem, if_neg Bool.false_ne_true, made]
  rfl

theorem edit_seals_message_password :
    (renameRun (some "pw")).sealed =
        some ⟨1, "account", "vault", "item", encodeItemData (renameInput (some "pw")).data⟩ ∧
      SealsMessage (renamed "pw") (encodeItemData (renameInput (some "pw")).data) := by
  have valid : parsePopupMessage (.object (renamed "pw")) =
      some (.saveItem (parsedRename (some [112, 119]))) := by
    decide +kernel
  have asked : (renameRun (some "pw")).sealed =
      some ⟨1, "account", "vault", "item", encodeItemData (renameInput (some "pw")).data⟩ := by
    decide +kernel
  exact ⟨asked,
    ((edit_seals_message valid rfl (handleSaveItem_rename (by decide +kernel))).1 _ asked).2⟩

def KeepsUnsupplied (members : Members) (stored : VaultItemData) (payload : Payload) : Prop :=
  (members.get "password" = none → payload.lookup "password" = stored.password) ∧
    (members.get "notes" = none → payload.lookup "notes" = stored.notes) ∧
    (members.get "totpSecret" = none → payload.lookup "totpSecret" = stored.totpSecret)

/-- Only the title is changed in the form, and the stored password is lost. -/
theorem rename_drops_password :
    ¬ ∀ (members : Members) (parsed : SaveItemMessage) (itemId : Id) (entry : ItemEntry)
      (state : UnlockedState) (awaits : SaveAwaits) (response : SaveResponse) (run : SaveRun)
      (request : SealRequest),
      parsePopupMessage (.object members) = some (.saveItem parsed) →
      parsed.itemId = some itemId → state.items.get itemId = some entry →
      handleSaveItem false sampleSeal (some state) parsed awaits false = some (response, some run) →
      run.sealed = some request → KeepsUnsupplied members entry.data request.plaintext := by
  intro always
  have keeps := always (renamed "") (parsedRename none) "item" sampleItem sampleState sampleAwaits _ _
    ⟨1, "account", "vault", "item", encodeItemData (renameInput none).data⟩
    (by decide +kernel) rfl (by decide +kernel) (handleSaveItem_rename rfl) (by decide +kernel)
  have absent : (renamed "").get "password" = none := by rfl
  have lost := keeps.1 absent
  revert lost
  decide +kernel

end Samples

end ZenPass.Extension
