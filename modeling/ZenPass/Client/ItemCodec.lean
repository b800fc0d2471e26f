import Mathlib.Data.List.DropRight
import ZenPass.Lib.TextEncoding

set_option autoImplicit false

-- `item-codec.ts` of the web client and of the extension, which are the same code, and
-- `ItemCodec.kt`. A string is a sequence of UTF-16 code units.

namespace ZenPass.Client.ItemCodec

open JsonText TextEncoding
open Cbor (Bytes)

structure VaultItemData where
  type : Units
  title : Units
  username : Option Units := none
  password : Option Units := none
  url : Option Units := none
  notes : Option Units := none
  totpSecret : Option Units := none
deriving DecidableEq

inductive App where
  | web
  | extension
  | android
deriving DecidableEq, Repr

def isTrimmed (c : UInt16) : Bool :=
  (0x09 ≤ c && c ≤ 0x0D) || c == 0x20 || c == 0xA0 || c == 0x1680 || (0x2000 ≤ c && c ≤ 0x200A) ||
    c == 0x2028 || c == 0x2029 || c == 0x202F || c == 0x205F || c == 0x3000 || c == 0xFEFF

def trim (text : Units) : Units := ((text.dropWhile isTrimmed).reverse.dropWhile isTrimmed).reverse

def isWhitespace (c : UInt16) : Bool :=
  (0x09 ≤ c && c ≤ 0x0D) || (0x1C ≤ c && c ≤ 0x20) || c == 0xA0 || c == 0x1680 ||
    (0x2000 ≤ c && c ≤ 0x200A) || c == 0x2028 || c == 0x2029 || c == 0x202F || c == 0x205F ||
    c == 0x3000

def isBlank (text : Units) : Bool := text.all isWhitespace

def isMissing (text : Option Units) : Bool := text.all List.isEmpty

def problem (present : Bool) (text : String) : List String := if present then [text] else []

def otherProblems (data : VaultItemData) : List String :=
  problem (500 < data.title.length) "Title is too long." ++
    problem ((data.type == units "login" || data.type == units "totp-login") &&
      (isMissing data.username && isMissing data.password))
      "A login needs a username or a password." ++
    problem (data.type == units "totp-login" && isMissing data.totpSecret)
      "A TOTP login needs a secret." ++
    problem (data.notes.any fun notes => 100000 < notes.length) "Notes are too long."

def validateItemData : App → VaultItemData → List String
  | .web, data | .extension, data =>
      problem (data.title.isEmpty || (trim data.title).length == 0) "Title is required." ++
        otherProblems data
  | .android, data => problem (isBlank data.title) "Title is required." ++ otherProblems data

def VaultItemData.fields (data : VaultItemData) : List (String × Option Units) :=
  [("type", some data.type), ("title", some data.title), ("username", data.username),
    ("password", data.password), ("url", data.url), ("notes", data.notes),
    ("totpSecret", data.totpSecret)]

def VaultItemData.members (data : VaultItemData) : List (Units × Units) :=
  data.fields.filterMap fun field => field.2.map fun text => (units field.1, text)

/-- What a reader finds in an object; other members are ignored. -/
def itemOf (members : List (Units × Value)) : Option VaultItemData := do
  let type ← stringField members "type"
  let title ← stringField members "title"
  some { type, title, username := stringField members "username",
         password := stringField members "password", url := stringField members "url",
         notes := stringField members "notes", totpSecret := stringField members "totpSecret" }

structure Libraries where
  -- `TextDecoder` and Java's `String` on malformed bytes
  textDecoder : Bytes → Units
  javaString : Bytes → Units
  -- kotlinx.serialization
  encodeToString : VaultItemData → Units
  decodeFromString : Units → Option VaultItemData

/-- Kotlin's serializer writes the fields that are not null in the order of their declaration and
escapes nothing but quotation marks, backslashes and control characters; it reads objects of
strings. -/
structure Libraries.Serializes (libraries : Libraries) : Prop where
  writes : ∀ data, libraries.encodeToString data =
    write quoteRaw (.object (stringMembers data.members))
  reads : ∀ text members, JsonText.parse text = some (.object (stringMembers members)) →
    (members.map Prod.fst).Nodup → (∀ member ∈ members, WellFormed member.2) →
    libraries.decodeFromString text = itemOf (stringMembers members)

variable (libraries : Libraries)

def jsEncodeItemData (object : List (Units × Units)) : Bytes :=
  textEncode (stringify (.object (stringMembers object)))

def kotlinEncodeItemData (data : VaultItemData) : Bytes := javaEncode (libraries.encodeToString data)

def Encodes (data : VaultItemData) (bytes : Bytes) : App → Prop
  | .web | .extension => ∃ object, object.Perm data.members ∧ bytes = jsEncodeItemData object
  | .android => bytes = kotlinEncodeItemData libraries data

def jsDecodeItemData (bytes : Bytes) : Option (List (Units × Value)) :=
  match JsonText.parse (dropMark ((decode bytes).getD (libraries.textDecoder bytes))) with
  | some (.object members) =>
      if (stringField members "title").isSome && (stringField members "type").isSome then
        some members
      else none
  | _ => none

def kotlinDecodeItemData (bytes : Bytes) : Option VaultItemData :=
  (libraries.decodeFromString ((decode bytes).getD (libraries.javaString bytes))).bind fun parsed =>
    if parsed.title.isEmpty && parsed.type.isEmpty then none else some parsed

def SameItem (members : List (Units × Value)) (data : VaultItemData) : Prop :=
  ∀ name value, lookup members name = some value ↔
    ∃ text, (name, text) ∈ data.members ∧ value = .string text

def Decodes (bytes : Bytes) (data : VaultItemData) : App → Prop
  | .web | .extension => ∃ members, jsDecodeItemData libraries bytes = some members ∧
      SameItem members data
  | .android => kotlinDecodeItemData libraries bytes = some data

/-- The item is judged alike, and what one client accepts and encodes is read back by all. -/
structure OneCodec (data : VaultItemData) : Prop where
  judged : ∀ first second, validateItemData first data = validateItemData second data
  readBack : ∀ writer reader bytes, validateItemData writer data = [] →
    Encodes libraries data bytes writer → Decodes libraries bytes data reader

/-- What validation asks for, by the white space of ECMAScript. -/
structure Acceptable (data : VaultItemData) : Prop where
  title : ¬ ∀ c ∈ data.title, isTrimmed c = true
  short : data.title.length ≤ 500
  login : data.type = units "login" ∨ data.type = units "totp-login" →
    ¬ (isMissing data.username = true ∧ isMissing data.password = true)
  secret : data.type = units "totp-login" → isMissing data.totpSecret = false
  notes : ∀ notes, data.notes = some notes → notes.length ≤ 100000

theorem trim_eq_nil {text : Units} : trim text = [] ↔ ∀ c ∈ text, isTrimmed c = true := by
  change (text.dropWhile isTrimmed).rdropWhile isTrimmed = [] ↔ _
  rw [List.rdropWhile_eq_nil_iff]
  constructor
  · intro rest
    have nothing : text.dropWhile isTrimmed = [] := by
      cases left : text.dropWhile isTrimmed with
      | nil => rfl
      | cons c later =>
          have first := rest c (by rw [left]; simp)
          have stays := List.head_dropWhile_not isTrimmed (by rw [left]; simp)
          simp only [left, List.head_cons] at stays
          rw [first] at stays
          cases stays
    exact List.dropWhile_eq_nil_iff.mp nothing
  · intro all c member
    exact all c ((List.dropWhile_sublist isTrimmed).subset member)

theorem problem_eq_nil {present : Bool} {text : String} :
    problem present text = [] ↔ present = false := by
  cases present <;> simp [problem]

theorem problem_append_inj {first second : Bool} {text : String} {others : List String} :
    problem first text ++ others = problem second text ++ others ↔ first = second := by
  rw [List.append_left_inj]
  cases first <;> cases second <;> simp [problem]

theorem title_missing {data : VaultItemData} :
    (data.title.isEmpty || (trim data.title).length == 0) = true ↔
      ∀ c ∈ data.title, isTrimmed c = true := by
  rw [Bool.or_eq_true, beq_iff_eq, List.length_eq_zero_iff, trim_eq_nil, List.isEmpty_iff]
  constructor
  · rintro (empty | all)
    · simp [empty]
    · exact all
  · exact .inr

theorem judged_iff {data : VaultItemData} :
    (∀ first second, validateItemData first data = validateItemData second data) ↔
      ((∀ c ∈ data.title, isTrimmed c = true) ↔ ∀ c ∈ data.title, isWhitespace c = true) := by
  have blank : isBlank data.title = true ↔ ∀ c ∈ data.title, isWhitespace c = true :=
    List.all_eq_true
  rw [← title_missing, ← blank, ← Bool.eq_iff_iff]
  constructor
  · intro judged
    exact problem_append_inj.mp (judged .web .android)
  · intro same first second
    cases first <;> cases second <;> simp only [validateItemData, same]

theorem accepted_iff {data : VaultItemData} :
    validateItemData .web data = [] ↔ Acceptable data := by
  simp only [validateItemData, otherProblems, List.append_eq_nil_iff, problem_eq_nil,
    decide_eq_false_iff_not, Nat.not_lt]
  rw [← Bool.not_eq_true, title_missing]
  simp only [Bool.and_eq_false_iff, Bool.or_eq_false_iff, beq_eq_false_iff_ne]
  constructor
  · rintro ⟨title, ⟨⟨short, login⟩, secret⟩, notes⟩
    refine ⟨title, short, ?_, ?_, ?_⟩
    · rintro known ⟨noName, noPassword⟩
      rcases login with other | named | named
      · exact known.elim other.1 other.2
      · rw [noName] at named
        cases named
      · rw [noPassword] at named
        cases named
    · intro known
      exact secret.resolve_left (absurd known)
    · intro text found
      rw [found] at notes
      simpa using notes
  · intro acceptable
    refine ⟨acceptable.title, ⟨⟨acceptable.short, ?_⟩, ?_⟩, ?_⟩
    · by_cases known : data.type = units "login" ∨ data.type = units "totp-login"
      · have named := acceptable.login known
        right
        by_contra neither
        rw [not_or, Bool.not_eq_false, Bool.not_eq_false] at neither
        exact named neither
      · rw [not_or] at known
        exact .inl known
    · by_cases known : data.type = units "totp-login"
      · exact .inr (acceptable.secret known)
      · exact .inl known
    · cases found : data.notes with
      | none => rfl
      | some text => simpa using acceptable.notes text found

theorem names_distinct (data : VaultItemData) :
    (data.fields.map fun field => units field.1).Nodup := by
  have names : (data.fields.map fun field => units field.1) =
      ["type", "title", "username", "password", "url", "notes", "totpSecret"].map units := rfl
  rw [names]
  decide +kernel

theorem mem_members {data : VaultItemData} {name text : Units} :
    (name, text) ∈ data.members ↔
      ∃ field, (field, some text) ∈ data.fields ∧ units field = name := by
  rw [VaultItemData.members, List.mem_filterMap]
  constructor
  · rintro ⟨⟨field, value⟩, member, same⟩
    cases value with
    | none => cases same
    | some value =>
        cases same
        exact ⟨field, member, rfl⟩
  · rintro ⟨field, member, rfl⟩
    exact ⟨_, member, rfl⟩

theorem members_distinct (data : VaultItemData) : (data.members.map Prod.fst).Nodup := by
  refine (names_distinct data).sublist ?_
  rw [VaultItemData.members]
  generalize data.fields = fields
  induction fields with
  | nil => exact List.Sublist.slnil
  | cons field rest ih =>
      obtain ⟨name, value⟩ := field
      cases value with
      | none => exact ih.cons _
      | some text => exact ih.cons_cons _

section Members

variable {data : VaultItemData} {object : List (Units × Units)} (order : object.Perm data.members)

include order

theorem object_distinct : (object.map Prod.fst).Nodup :=
  (order.map Prod.fst).nodup_iff.mpr (members_distinct data)

theorem sameItem_of_perm : SameItem (stringMembers object) data := by
  intro name value
  have distinct : ((stringMembers object).map Prod.fst).Nodup := by
    rw [map_fst_stringMembers]
    exact object_distinct order
  constructor
  · intro found
    have member := mem_of_lookup found
    obtain ⟨⟨key, text⟩, inside, same⟩ := List.mem_map.mp member
    cases same
    exact ⟨text, order.mem_iff.mp inside, rfl⟩
  · rintro ⟨text, member, rfl⟩
    exact lookup_of_mem distinct (List.mem_map.mpr ⟨_, order.mem_iff.mpr member, rfl⟩)

theorem stringField_of_field {field : String} {value : Option Units}
    (member : (field, value) ∈ data.fields) :
    stringField (stringMembers object) field = value := by
  have same := sameItem_of_perm order (units field)
  rw [stringField]
  cases value with
  | some text =>
      rw [(same (.string text)).mpr ⟨text, mem_members.mpr ⟨field, member, rfl⟩, rfl⟩]
  | none =>
      cases found : lookup (stringMembers object) (units field) with
      | none => rfl
      | some value =>
          obtain ⟨text, inside, -⟩ := (same value).mp found
          obtain ⟨other, there, name⟩ := mem_members.mp inside
          have one := List.inj_on_of_nodup_map (names_distinct data) there member name
          cases one

theorem itemOf_object : itemOf (stringMembers object) = some data := by
  have field {name : String} {value : Option Units} (member : (name, value) ∈ data.fields) :=
    stringField_of_field order member
  simp only [itemOf, field (show ("type", some data.type) ∈ data.fields by simp [VaultItemData.fields]),
    field (show ("title", some data.title) ∈ data.fields by simp [VaultItemData.fields]),
    field (show ("username", data.username) ∈ data.fields by simp [VaultItemData.fields]),
    field (show ("password", data.password) ∈ data.fields by simp [VaultItemData.fields]),
    field (show ("url", data.url) ∈ data.fields by simp [VaultItemData.fields]),
    field (show ("notes", data.notes) ∈ data.fields by simp [VaultItemData.fields]),
    field (show ("totpSecret", data.totpSecret) ∈ data.fields by simp [VaultItemData.fields]),
    Option.bind_eq_bind, Option.bind_some]

end Members

def VaultItemData.WellFormed (data : VaultItemData) : Prop :=
  ∀ member ∈ data.members, TextEncoding.WellFormed member.2

theorem dropMark_object (quote : Units → Units) (members : List (Units × Units)) :
    dropMark (write quote (.object (stringMembers members))) =
      write quote (.object (stringMembers members)) := by
  rw [write, dropMark, if_neg (by decide)]

theorem decode_jsEncodeItemData (object : List (Units × Units)) :
    decode (jsEncodeItemData object) = some (stringify (.object (stringMembers object))) :=
  decode_textEncode (wellFormed_stringify object)

/-- What Kotlin writes has question marks for lone surrogates. -/
def questioned (data : VaultItemData) : List (Units × Units) :=
  data.members.map fun member => (replaced 0x3F member.1, replaced 0x3F member.2)

theorem replaced_name {data : VaultItemData} {name text : Units}
    (member : (name, text) ∈ data.members) : replaced 0x3F name = name := by
  have all : ∀ field ∈ ["type", "title", "username", "password", "url", "notes", "totpSecret"],
      replaced 0x3F (units field) = units field := by decide +kernel
  obtain ⟨field, inside, rfl⟩ := mem_members.mp member
  refine all field ?_
  simp only [VaultItemData.fields, List.mem_cons, Prod.mk.injEq, List.not_mem_nil, or_false] at inside
  rcases inside with ⟨rfl, -⟩ | ⟨rfl, -⟩ | ⟨rfl, -⟩ | ⟨rfl, -⟩ | ⟨rfl, -⟩ | ⟨rfl, -⟩ | ⟨rfl, -⟩ <;> simp

theorem questioned_distinct (data : VaultItemData) : ((questioned data).map Prod.fst).Nodup := by
  have names : (questioned data).map Prod.fst = data.members.map Prod.fst := by
    rw [questioned, List.map_map]
    exact List.map_congr_left fun member inside => replaced_name inside
  rw [names]
  exact members_distinct data

theorem questioned_wellFormed {data : VaultItemData} (wellFormed : data.WellFormed) :
    questioned data = data.members := by
  refine (List.map_congr_left fun member inside => ?_).trans (List.map_id _)
  rw [replaced_name inside, replaced_of_wellFormed (wellFormed member inside)]
  rfl

section Laws

variable {libraries : Libraries} (serializes : libraries.Serializes)

include serializes

theorem decode_kotlinEncodeItemData (data : VaultItemData) :
    decode (kotlinEncodeItemData libraries data) =
      some (write quoteRaw (.object (stringMembers (questioned data)))) := by
  have unit : (Utf16.unitsOfChar '?').map UInt16.ofNat = [0x3F] := by decide
  rw [kotlinEncodeItemData, javaEncode, decode_encode unit, serializes.writes,
    replaced_writeRaw (by decide), questioned]

theorem encodes_text {data : VaultItemData} (wellFormed : data.WellFormed) {writer : App}
    {bytes : Bytes} (written : Encodes libraries data bytes writer) :
    ∃ text object, decode bytes = some text ∧ dropMark text = text ∧
      JsonText.parse text = some (.object (stringMembers object)) ∧ object.Perm data.members := by
  have js (object : List (Units × Units)) (order : object.Perm data.members)
      (same : bytes = jsEncodeItemData object) :
      ∃ text object, decode bytes = some text ∧ dropMark text = text ∧
        JsonText.parse text = some (.object (stringMembers object)) ∧ object.Perm data.members :=
    ⟨_, object, same ▸ decode_jsEncodeItemData object, dropMark_object _ object,
      parse_write quotes_quote object, order⟩
  cases writer with
  | web =>
      obtain ⟨object, order, same⟩ := written
      exact js object order same
  | extension =>
      obtain ⟨object, order, same⟩ := written
      exact js object order same
  | android =>
      obtain rfl := written
      have read := decode_kotlinEncodeItemData serializes data
      rw [questioned_wellFormed wellFormed] at read
      exact ⟨_, data.members, read, dropMark_object _ _, parse_write quotes_quoteRaw _, .refl _⟩

theorem decodes_of_text {data : VaultItemData} (wellFormed : data.WellFormed)
    (titled : data.title ≠ []) {bytes : Bytes} {text : Units} {object : List (Units × Units)}
    (read : decode bytes = some text) (noMark : dropMark text = text)
    (parsed : JsonText.parse text = some (.object (stringMembers object)))
    (order : object.Perm data.members) (reader : App) : Decodes libraries bytes data reader := by
  have title : ("title", some data.title) ∈ data.fields := by simp [VaultItemData.fields]
  have type : ("type", some data.type) ∈ data.fields := by simp [VaultItemData.fields]
  have js : ∃ members, jsDecodeItemData libraries bytes = some members ∧ SameItem members data := by
    refine ⟨stringMembers object, ?_, sameItem_of_perm order⟩
    rw [jsDecodeItemData, read, Option.getD_some, noMark, parsed]
    simp only [stringField_of_field order title, stringField_of_field order type, Option.isSome_some,
      Bool.and_true, if_true]
  cases reader with
  | web => exact js
  | extension => exact js
  | android =>
      have item := serializes.reads text object parsed (object_distinct order)
        fun member inside => wellFormed member (order.mem_iff.mp inside)
      have present : (data.title.isEmpty && data.type.isEmpty) = false := by
        simp [titled]
      rw [Decodes, kotlinDecodeItemData, read, Option.getD_some, item, itemOf_object order,
        Option.bind_some, present]
      rfl

theorem wellFormed_of_decodes {data : VaultItemData}
    (decoded : Decodes libraries (kotlinEncodeItemData libraries data) data .web) :
    data.WellFormed := by
  obtain ⟨members, read, same⟩ := decoded
  rw [jsDecodeItemData, decode_kotlinEncodeItemData serializes, Option.getD_some,
    dropMark_object, parse_write quotes_quoteRaw] at read
  dsimp only at read
  split at read
  · obtain rfl := Option.some.inj read
    intro member inside
    have written : (replaced 0x3F member.1, replaced 0x3F member.2) ∈ questioned data :=
      List.mem_map.mpr ⟨member, inside, rfl⟩
    rw [replaced_name inside] at written
    have distinct : ((stringMembers (questioned data)).map Prod.fst).Nodup := by
      rw [map_fst_stringMembers]
      exact questioned_distinct data
    have found := lookup_of_mem distinct (List.mem_map.mpr ⟨_, written, rfl⟩)
    rw [(same member.1 (.string member.2)).mpr ⟨member.2, inside, rfl⟩] at found
    have text : replaced 0x3F member.2 = member.2 := by
      injection found with value
      injection value with text
      exact text.symm
    exact wellFormed_of_replaced (by decide) text
  · cases read

end Laws

/-- An item is judged alike and travels between all clients exactly when the two languages agree on
whether its title is blank, and, if it is accepted, no field has a lone surrogate. -/
theorem item_codec_same_iff (libraries : Libraries) (serializes : libraries.Serializes)
    (data : VaultItemData) :
    OneCodec libraries data ↔
      ((∀ c ∈ data.title, isTrimmed c = true) ↔ ∀ c ∈ data.title, isWhitespace c = true) ∧
        (Acceptable data → data.WellFormed) := by
  constructor
  · intro one
    refine ⟨judged_iff.mp one.judged, fun acceptable => ?_⟩
    have accepted : validateItemData .android data = [] := by
      rw [one.judged .android .web]
      exact accepted_iff.mpr acceptable
    exact wellFormed_of_decodes serializes (one.readBack .android .web _ accepted rfl)
  · rintro ⟨blank, whole⟩
    have judged := judged_iff.mpr blank
    refine ⟨judged, fun writer reader bytes accepted written => ?_⟩
    rw [judged writer .web] at accepted
    have acceptable := accepted_iff.mp accepted
    have titled : data.title ≠ [] := by
      intro empty
      apply acceptable.title
      simp [empty]
    obtain ⟨text, object, read, noMark, parsed, order⟩ :=
      encodes_text serializes (whole acceptable) written
    exact decodes_of_text serializes (whole acceptable) titled read noMark parsed order reader

def plainLibraries : Libraries where
  textDecoder _ := []
  javaString _ := []
  encodeToString data := write quoteRaw (.object (stringMembers data.members))
  decodeFromString text :=
    match JsonText.parse text with
    | some (.object members) => itemOf members
    | _ => none

theorem plainLibraries_serializes : plainLibraries.Serializes where
  writes _ := rfl
  reads text members parsed _ _ := by
    simp only [plainLibraries, parsed]

def plainNote : VaultItemData where
  type := units "note"
  title := units "Site"

theorem plainNote_wellFormed : plainNote.WellFormed := by
  intro member inside
  have all : ∀ member ∈ plainNote.members, replaced 0x3F member.2 = member.2 := by decide +kernel
  exact wellFormed_of_replaced (by decide) (all member inside)

theorem item_codec_same_iff_plain : OneCodec plainLibraries plainNote :=
  (item_codec_same_iff plainLibraries plainLibraries_serializes plainNote).mpr
    ⟨by decide +kernel, fun _ => plainNote_wellFormed⟩

def loneTitle : VaultItemData where
  type := units "note"
  title := [0xD83D]

/-- Half of a pair in a title comes back from Android as a question mark. -/
theorem lone_surrogate_lost : ¬ OneCodec plainLibraries loneTitle := by
  intro one
  have accepted : validateItemData .android loneTitle = [] := by decide +kernel
  have whole := wellFormed_of_decodes plainLibraries_serializes
    (one.readBack .android .web _ accepted rfl)
  have title := whole (units "title", [0xD83D]) (by decide +kernel)
  exact title (.inl (by decide))

example : validateItemData .web { type := units "note", title := [0x1C] } = [] ∧
    validateItemData .android { type := units "note", title := [0x1C] } = ["Title is required."] ∧
    validateItemData .web { type := units "note", title := [0xFEFF] } = ["Title is required."] ∧
    validateItemData .android { type := units "note", title := [0xFEFF] } = [] := by
  decide +kernel

end ZenPass.Client.ItemCodec
