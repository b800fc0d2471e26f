import ZenPass.Importers.CsvRows
import ZenPass.Importers.Json

set_option autoImplicit false

namespace ZenPass.Importers

open JsonText (Units Value units)

structure WithinBounds (result : NormalizeResult) : Prop where
  count : result.items.length ≤ maxItems
  fields : ∀ item ∈ result.items, ∀ text ∈ item.strings, text.length ≤ maxFieldChars

def NormalizeResult.Reports (result : NormalizeResult) (index : Nat) : Prop :=
  ∃ issue ∈ result.issues, issue.index = index

/-- `after` gives the result once some records have been read, `texts` the texts of a record that are
handed to `boundField`; the first record has the index `first`. -/
structure Accounted {Record : Type} (result : NormalizeResult) (after : List Record → NormalizeResult)
    (texts : Record → List Units) (first : Nat) (records : List Record) : Prop where
  cut : ∀ (i : Nat) record, records[i]? = some record → ∀ text ∈ texts record,
    maxFieldChars < text.length → result.Reports (first + i)
  dropped : ∀ (i : Nat) record, records[i]? = some record →
    maxItems ≤ (after (records.take i)).items.length → result.Reports (first + i)

def rowTexts (columns : List (Option Column)) (row : List Units) : List Units :=
  (columns.zip row).filterMap fun entry => entry.1.map fun _ => entry.2

def CsvBounded (toLowerCase : Units → Units) (input : Units) : Prop :=
  ∀ result, normalizeCsv toLowerCase input = .ok result →
    WithinBounds result ∧
    ∀ header rows, parseCsv input = header :: rows →
      recognized (columnRoles toLowerCase header) = true →
      Accounted result (fun before => normalizeRows (columnRoles toLowerCase header) 1 before .empty)
        (rowTexts (columnRoles toLowerCase header)) 1 rows

theorem rowItem_strings {columns : List (Option Column)} {row : List Units} {title : Units}
    (found : rowTitle columns row = some title) {text : Units}
    (mem : text ∈ (rowItem columns row title).strings) : text.length ≤ maxFieldChars := by
  have short : ∀ role text, mappedRow columns row role = some text → text.length ≤ maxFieldChars := by
    intro role text taken
    obtain ⟨cell, -, rfl⟩ := Option.map_eq_some_iff.mp taken
    exact List.length_take_le _ _
  obtain rfl | other | taken | taken | taken | taken | taken | taken := NormalizedItem.mem_strings.mp mem
  · simp only [rowTitle, Option.or_eq_some_iff] at found
    obtain taken | ⟨-, taken | ⟨-, taken⟩⟩ := found
    all_goals exact short _ _ taken
  · simp [rowItem] at other
  all_goals exact short _ _ taken

theorem mem_rowTexts {columns : List (Option Column)} {row : List Units} {text : Units}
    (mem : text ∈ rowTexts columns row) : ∃ column, (some column, text) ∈ columns.zip row := by
  obtain ⟨⟨column, cell⟩, entry, picked⟩ := List.mem_filterMap.mp mem
  obtain ⟨known, same, rfl⟩ := Option.map_eq_some_iff.mp picked
  obtain rfl : column = some known := same
  exact ⟨known, entry⟩

theorem withinBounds_empty (issues : List NormalizeIssue) : WithinBounds { items := [], issues } where
  count := Nat.zero_le _
  fields := by simp

theorem normalizeRows_bounded (columns : List (Option Column)) (rows : List (List Units)) :
    WithinBounds (normalizeRows columns 1 rows .empty) where
  count := (adds_normalizeRow columns).length_le 1 rows (Nat.zero_le _)
  fields := by
    intro item mem text
    obtain ⟨i, row, -, made⟩ := (adds_normalizeRow columns).mem_items.mp mem
    obtain ⟨-, title, found, rfl⟩ := rowOutcome_items.mp made
    exact rowItem_strings found

theorem normalizeRows_accounted (columns : List (Option Column)) (rows : List (List Units)) :
    Accounted (normalizeRows columns 1 rows .empty) (fun before => normalizeRows columns 1 before .empty)
      (rowTexts columns) 1 rows := by
  have adds := adds_normalizeRow columns
  have reports : ∀ (i : Nat) row, rows[i]? = some row →
      (maxItems ≤ (rows.take i).countP (titled columns) ∨ ∃ column cell,
        (some column, cell) ∈ columns.zip row ∧ maxFieldChars < cell.length) →
      (normalizeRows columns 1 rows .empty).Reports (1 + i) := by
    intro i row at' why
    obtain ⟨issue, mem, index⟩ := rowOutcome_reports (1 + i) (why.imp_left decide_eq_true)
    exact ⟨issue, adds.mem_issues.mpr ⟨i, row, at', mem⟩, index⟩
  constructor
  · intro i row at' text mem long
    obtain ⟨column, entry⟩ := mem_rowTexts mem
    exact reports i row at' (.inr ⟨column, text, entry, long⟩)
  · intro i row at' full
    have count := (adds.full_iff 1 (rows.take i) .empty).mp full
    exact reports i row at' (.inl (by simpa [NormalizeResult.empty] using count))

theorem csvBounded (toLowerCase : Units → Units) (input : Units) : CsvBounded toLowerCase input := by
  intro result done
  rw [normalizeCsv_eq toLowerCase (size_of_accepted done)] at done
  cases parsed : parseCsv input with
  | nil =>
    rw [parsed] at done
    cases done
    exact ⟨withinBounds_empty _, by simp⟩
  | cons header rows =>
    rw [parsed] at done
    dsimp only at done
    by_cases recognised : recognized (columnRoles toLowerCase header) = true
    · rw [if_pos recognised] at done
      cases done
      refine ⟨normalizeRows_bounded _ rows, ?_⟩
      intro header' rows' same _
      cases same
      exact normalizeRows_accounted _ rows
    · rw [if_neg recognised] at done
      cases done
      refine ⟨withinBounds_empty _, ?_⟩
      intro header' rows' same recognised'
      cases same
      exact absurd recognised' recognised

def hasTitle (name : String) (raw : Value) : Bool := (str (property raw name)).isSome

def JsonBounded (run : Units → Except String NormalizeResult)
    (make : Value → Value → Except String NormalizedItem) (texts : Value → List Units) (input : Units) :
    Prop :=
  ∀ result, run input = .ok result →
    WithinBounds result ∧
    ∀ doc rawItems, JsonText.parse input = some doc → itemsOf (property doc "items") = some rawItems →
      Accounted result (fun before => eachRecord (normalizeRecord (make doc)) 0 before .empty) texts 0 rawItems

/-- No text of a record that becomes an item is over the limit; `texts` gives those texts. -/
def JsonFits (title : String) (texts : Value → Value → List Units) (input : Units) : Prop :=
  input.length ≤ maxInputChars → ∀ doc rawItems, JsonText.parse input = some doc →
    itemsOf (property doc "items") = some rawItems → ∀ (i : Nat) raw, rawItems[i]? = some raw →
    (rawItems.take i).countP (hasTitle title) < maxItems → hasTitle title raw = true →
    ∀ text ∈ texts doc raw, text.length ≤ maxFieldChars

def recordOutcome (make : Value → Except String NormalizedItem) (index : Nat) (full : Bool) (raw : Value) :
    Outcome :=
  if full then { items := [], issues := [⟨index, droppedReason⟩] }
  else
    match make raw with
    | .error reason => { items := [], issues := [⟨index, reason⟩] }
    | .ok item => { items := [item], issues := [] }

theorem adds_normalizeRecord {make : Value → Except String NormalizedItem} {gives : Value → Bool}
    (given : ∀ raw, (make raw).isOk = gives raw) :
    Adds (normalizeRecord make) (recordOutcome make) gives where
  eq index raw result := by
    by_cases full : maxItems ≤ result.items.length
    · simp [normalizeRecord, recordOutcome, full, NormalizeResult.issue]
    · cases made : make raw <;>
        simp [normalizeRecord, recordOutcome, full, made, NormalizeResult.issue, NormalizeResult.item]
  full index raw := rfl
  count index raw := by
    rw [← given]
    cases made : make raw <;> simp [recordOutcome, made, Except.isOk, Except.toBool]

theorem recordOutcome_reported {make : Value → Except String NormalizedItem} {gives : Value → Bool}
    (given : ∀ raw, (make raw).isOk = gives raw) {index position : Nat} {full : Bool} {raw : Value} :
    (∃ issue ∈ (recordOutcome make index full raw).issues, issue.index = position) ↔
      (full = true ∨ gives raw = false) ∧ position = index := by
  rw [← given]
  cases full with
  | true => simpa [recordOutcome] using eq_comm
  | false =>
    cases made : make raw with
    | error reason => simpa [recordOutcome, made, Except.isOk, Except.toBool] using eq_comm
    | ok item => simp [recordOutcome, made, Except.isOk, Except.toBool]

/-- For an importer whose items hold texts of `texts`, cut to the limit, and texts of `whole`, which are
put on them as they are. -/
structure Makes (make : Value → Value → Except String NormalizedItem) (title : String)
    (whole : Value → Value → List Units) : Prop where
  given : ∀ doc raw, (make doc raw).isOk = hasTitle title raw
  strings : ∀ doc raw item, make doc raw = .ok item →
    ((∀ text ∈ item.strings, text.length ≤ maxFieldChars) ↔
      ∀ text ∈ whole doc raw, text.length ≤ maxFieldChars)

theorem normalizeJson_eq (expected : String) (syntaxError : Units → String)
    (make : Value → Value → Except String NormalizedItem) {input : Units}
    (size : input.length ≤ maxInputChars) :
    normalizeJson expected syntaxError make input =
      match JsonText.parse input with
      | none => .ok (NormalizeResult.empty.issue 0 ("invalid JSON: " ++ syntaxError input))
      | some doc =>
        match itemsOf (property doc "items") with
        | none => .ok (NormalizeResult.empty.issue 0 expected)
        | some rawItems => .ok (eachRecord (normalizeRecord (make doc)) 0 rawItems .empty) := by
  have accepted : assertInputSize input = .ok () := if_neg (Nat.not_lt.mpr size)
  simp only [normalizeJson, accepted]
  rfl

section Json

variable {make : Value → Value → Except String NormalizedItem} {title : String}
  {whole : Value → Value → List Units} {texts : Value → List Units}

theorem recordOutcome_items {make : Value → Except String NormalizedItem} {index : Nat} {full : Bool}
    {raw : Value} {item : NormalizedItem} :
    item ∈ (recordOutcome make index full raw).items ↔ full = false ∧ make raw = .ok item := by
  cases full with
  | true => simp [recordOutcome]
  | false => cases made : make raw <;> simp [recordOutcome, made, eq_comm]

theorem records_report_iff (makes : Makes make title whole) (doc : Value) {rawItems : List Value} {i : Nat}
    {raw : Value} (at' : rawItems[i]? = some raw) :
    (eachRecord (normalizeRecord (make doc)) 0 rawItems .empty).Reports (0 + i) ↔
      maxItems ≤ (rawItems.take i).countP (hasTitle title) ∨ hasTitle title raw = false := by
  have adds := adds_normalizeRecord (makes.given doc)
  constructor
  · rintro ⟨issue, mem, index⟩
    obtain ⟨j, other, at'', mem⟩ := adds.mem_issues.mp mem
    obtain ⟨why, same⟩ := (recordOutcome_reported (makes.given doc)).mp ⟨issue, mem, index⟩
    obtain rfl : i = j := by omega
    cases at'.symm.trans at''
    exact why.imp_left of_decide_eq_true
  · intro why
    obtain ⟨issue, mem, index⟩ := (recordOutcome_reported (makes.given doc)).mpr
      ⟨why.imp_left decide_eq_true, rfl⟩
    exact ⟨issue, adds.mem_issues.mpr ⟨i, raw, at', mem⟩, index⟩

theorem records_withinBounds_iff (makes : Makes make title whole) (doc : Value) (rawItems : List Value) :
    WithinBounds (eachRecord (normalizeRecord (make doc)) 0 rawItems .empty) ↔
      ∀ (i : Nat) raw, rawItems[i]? = some raw → (rawItems.take i).countP (hasTitle title) < maxItems →
        hasTitle title raw = true → ∀ text ∈ whole doc raw, text.length ≤ maxFieldChars := by
  have adds := adds_normalizeRecord (makes.given doc)
  constructor
  · intro within i raw at' notFull titled
    cases made : make doc raw with
    | error reason => simp [← makes.given doc, made, Except.isOk, Except.toBool] at titled
    | ok item =>
      have mem : item ∈ (eachRecord (normalizeRecord (make doc)) 0 rawItems .empty).items :=
        adds.mem_items.mpr ⟨i, raw, at', recordOutcome_items.mpr
          ⟨decide_eq_false (Nat.not_le.mpr notFull), made⟩⟩
      exact (makes.strings doc raw item made).mp (within.fields item mem)
  · intro fits
    constructor
    · exact adds.length_le 0 rawItems (Nat.zero_le _)
    · intro item mem
      obtain ⟨i, raw, at', mem⟩ := adds.mem_items.mp mem
      obtain ⟨notFull, made⟩ := recordOutcome_items.mp mem
      have titled : hasTitle title raw = true := by
        rw [← makes.given doc, made]
        rfl
      exact (makes.strings doc raw item made).mpr
        (fits i raw at' (Nat.lt_of_not_le (of_decide_eq_false notFull)) titled)

theorem records_bounded_iff (makes : Makes make title whole) (doc : Value) (rawItems : List Value) :
    (WithinBounds (eachRecord (normalizeRecord (make doc)) 0 rawItems .empty) ∧
      Accounted (eachRecord (normalizeRecord (make doc)) 0 rawItems .empty)
        (fun before => eachRecord (normalizeRecord (make doc)) 0 before .empty) texts 0 rawItems) ↔
      ∀ (i : Nat) raw, rawItems[i]? = some raw → (rawItems.take i).countP (hasTitle title) < maxItems →
        hasTitle title raw = true → ∀ text ∈ texts raw ++ whole doc raw, text.length ≤ maxFieldChars := by
  rw [records_withinBounds_iff makes]
  constructor
  · rintro ⟨within, accounted⟩ i raw at' notFull titled text mem
    obtain mem | mem := List.mem_append.mp mem
    · by_contra long
      have reported := accounted.cut i raw at' text mem (Nat.lt_of_not_le long)
      obtain full | untitled := (records_report_iff makes doc at').mp reported
      · omega
      · rw [titled] at untitled
        cases untitled
    · exact within i raw at' notFull titled text mem
  · intro fits
    refine ⟨fun i raw at' notFull titled text mem =>
      fits i raw at' notFull titled text (List.mem_append_right _ mem), ?_, ?_⟩
    · intro i raw at' text mem long
      refine (records_report_iff makes doc at').mpr ?_
      by_contra neither
      obtain ⟨notFull, titled⟩ := not_or.mp neither
      have short := fits i raw at' (Nat.lt_of_not_le notFull) (by simpa using titled) text
        (List.mem_append_left _ mem)
      omega
    · intro i raw at' full
      have count := ((adds_normalizeRecord (makes.given doc)).full_iff 0 (rawItems.take i) .empty).mp full
      exact (records_report_iff makes doc at').mpr (.inl (by simpa [NormalizeResult.empty] using count))

theorem json_bounded_iff (makes : Makes make title whole) (expected : String) (syntaxError : Units → String)
    (input : Units) :
    JsonBounded (normalizeJson expected syntaxError make) make texts input ↔
      JsonFits title (fun doc raw => texts raw ++ whole doc raw) input := by
  constructor
  · intro bounded size doc rawItems parsed items
    have run := normalizeJson_eq expected syntaxError make size
    simp only [parsed, items] at run
    obtain ⟨within, accounted⟩ := bounded _ run
    exact (records_bounded_iff makes doc rawItems).mp ⟨within, accounted doc rawItems parsed items⟩
  · intro fits result done
    have size := size_of_accepted done
    rw [normalizeJson_eq expected syntaxError make size] at done
    cases parsed : JsonText.parse input with
    | none =>
      rw [parsed] at done
      cases done
      exact ⟨withinBounds_empty _, by simp⟩
    | some doc =>
      rw [parsed] at done
      dsimp only at done
      cases items : itemsOf (property doc "items") with
      | none =>
        rw [items] at done
        cases done
        refine ⟨withinBounds_empty _, fun doc' rawItems same found => ?_⟩
        cases same
        rw [items] at found
        cases found
      | some rawItems =>
        rw [items] at done
        cases done
        obtain ⟨within, accounted⟩ :=
          (records_bounded_iff makes doc rawItems).mpr (fits size doc rawItems parsed items)
        refine ⟨within, fun doc' rawItems' same found => ?_⟩
        cases same
        cases items.symm.trans found
        exact accounted

end Json

theorem str_length_le {value : Option Value} {text : Units} (taken : str value = some text) :
    text.length ≤ maxFieldChars :=
  (boundField_length_le taken).2

theorem str_none_of_not_object {value : Value} (other : isObject value = false) (name : String) :
    str (property value name) = none := by
  cases value with
  | object members => cases other
  | null => rfl
  | bool flag => rfl
  | number numeral => rfl
  | string text => rfl
  | array items => rfl

def Bitwarden.texts (raw : Value) : List Units :=
  ([property raw "name", property raw "notes", loginProperty raw "username", loginProperty raw "password",
    loginProperty raw "totp"] ++ (urisOf raw).map fun u => property u "uri").filterMap textOf

def BitwardenBounded (syntaxError : Units → String) (input : Units) : Prop :=
  JsonBounded (normalizeBitwardenJson syntaxError) Bitwarden.normalizeItem Bitwarden.texts input

def Bitwarden.itemOf (doc raw : Value) (title : Units) : NormalizedItem :=
  let uris := (urisOf raw).filterMap fun u => str (property u "uri")
  { title
    username := str (loginProperty raw "username")
    password := str (loginProperty raw "password")
    url := uris.head?
    otherUrls := if uris.tail.length = 0 then none else some uris.tail
    notes := str (property raw "notes")
    totp := str (loginProperty raw "totp")
    folder := folderOf doc raw
    source := .bitwarden }

theorem Bitwarden.normalizeItem_ok {doc raw : Value} {item : NormalizedItem}
    (made : normalizeItem doc raw = .ok item) :
    ∃ title, str (property raw "name") = some title ∧ item = itemOf doc raw title := by
  cases object : isObject raw with
  | false => simp [normalizeItem, object] at made
  | true =>
    cases title : str (property raw "name") with
    | none => simp [normalizeItem, object, title] at made
    | some title' =>
      simp only [normalizeItem, object, title, if_true] at made
      cases made
      exact ⟨title', rfl, rfl⟩

theorem Bitwarden.makes : Makes normalizeItem "name" fun doc raw => (folderOf doc raw).toList where
  given doc raw := by
    cases object : isObject raw with
    | false => simp [normalizeItem, object, hasTitle, str_none_of_not_object object, Except.isOk, Except.toBool]
    | true =>
      cases title : str (property raw "name") <;>
        simp [normalizeItem, object, hasTitle, title, Except.isOk, Except.toBool]
  strings doc raw item made := by
    obtain ⟨title, found, rfl⟩ := normalizeItem_ok made
    have uris : ∀ text ∈ (urisOf raw).filterMap (fun u => str (property u "uri")),
        text.length ≤ maxFieldChars := by
      intro text mem
      obtain ⟨u, -, taken⟩ := List.mem_filterMap.mp mem
      exact str_length_le taken
    constructor
    · intro short text mem
      exact short text (NormalizedItem.mem_strings.mpr (by simp [Option.mem_toList.mp mem, itemOf]))
    · intro short text mem
      obtain rfl | mem | taken | taken | taken | taken | taken | taken := NormalizedItem.mem_strings.mp mem
      · exact str_length_le found
      · simp only [itemOf] at mem
        split_ifs at mem
        · cases mem
        · exact uris text (List.mem_of_mem_tail mem)
      · exact str_length_le taken
      · exact str_length_le taken
      · exact uris text (List.mem_of_head? taken)
      · exact str_length_le taken
      · exact str_length_le taken
      · exact short text (Option.mem_toList.mpr taken)

def Enpass.texts (raw : Value) : List Units :=
  ([property raw "title", property raw "note"] ++ (fieldsOf raw).map fun f => property f "value").filterMap
    textOf

def EnpassBounded (toLowerCase : Units → Units) (syntaxError : Units → String) (input : Units) : Prop :=
  JsonBounded (normalizeEnpassJson toLowerCase syntaxError) (fun _ => Enpass.normalizeItem toLowerCase)
    Enpass.texts input

def Enpass.Fields.texts (fields : Fields) : List Units :=
  fields.otherUrls ++ [fields.username, fields.url, fields.password, fields.totpSecret].filterMap id

theorem Enpass.Fields.mem_texts {fields : Fields} {text : Units} :
    text ∈ fields.texts ↔ text ∈ fields.otherUrls ∨ fields.username = some text ∨ fields.url = some text ∨
      fields.password = some text ∨ fields.totpSecret = some text := by
  simp [texts, eq_comm]

theorem Enpass.addField_texts (toLowerCase : Units → Units) (fields : Fields) (f : Value) {text : Units}
    (mem : text ∈ (addField toLowerCase fields f).texts) :
    text ∈ fields.texts ∨ str (property f "value") = some text := by
  cases type : (textOf (property f "type")).map toLowerCase with
  | none => exact .inl (by simpa [addField, type] using mem)
  | some type' =>
    cases value : str (property f "value") with
    | none => exact .inl (by simpa [addField, type, value] using mem)
    | some value' =>
      simp only [addField, type, value] at mem
      rw [Fields.mem_texts] at mem ⊢
      split_ifs at mem <;> grind

theorem Enpass.foldl_addField_texts (toLowerCase : Units → Units) (fs : List Value) {fields : Fields}
    (short : ∀ text ∈ fields.texts, text.length ≤ maxFieldChars) :
    ∀ text ∈ (fs.foldl (addField toLowerCase) fields).texts, text.length ≤ maxFieldChars := by
  induction fs generalizing fields with
  | nil => exact short
  | cons f fs ih =>
    apply ih
    intro text mem
    obtain before | taken := addField_texts toLowerCase fields f mem
    · exact short text before
    · exact str_length_le taken

theorem Enpass.normalizeItem_short (toLowerCase : Units → Units) {raw : Value} {item : NormalizedItem}
    (made : normalizeItem toLowerCase raw = .ok item) :
    ∀ text ∈ item.strings, text.length ≤ maxFieldChars := by
  have fields := foldl_addField_texts toLowerCase (fieldsOf raw)
    (show ∀ text ∈ Fields.texts ⟨none, none, [], none, none⟩, text.length ≤ maxFieldChars by simp [Fields.texts])
  cases object : isObject raw with
  | false => simp [normalizeItem, object] at made
  | true =>
    cases title : str (property raw "title") with
    | none => simp [normalizeItem, object, title] at made
    | some title' =>
      simp only [normalizeItem, object, title, if_true] at made
      cases made
      intro text mem
      simp only [Fields.mem_texts] at fields
      obtain rfl | mem | taken | taken | taken | taken | taken | taken := NormalizedItem.mem_strings.mp mem
      · exact str_length_le title
      · split_ifs at mem
        · exact fields text (.inl mem)
        · cases mem
      · exact fields text (.inr (.inl taken))
      · exact fields text (.inr (.inr (.inr (.inl taken))))
      · exact fields text (.inr (.inr (.inl taken)))
      · exact str_length_le taken
      · exact fields text (.inr (.inr (.inr (.inr taken))))
      · cases taken

theorem Enpass.makes (toLowerCase : Units → Units) :
    Makes (fun _ => normalizeItem toLowerCase) "title" fun _ _ => [] where
  given doc raw := by
    cases object : isObject raw with
    | false => simp [normalizeItem, object, hasTitle, str_none_of_not_object object, Except.isOk, Except.toBool]
    | true =>
      cases title : str (property raw "title") <;>
        simp [normalizeItem, object, hasTitle, title, Except.isOk, Except.toBool]
  strings doc raw item made := ⟨fun _ => by simp, fun _ => normalizeItem_short toLowerCase made⟩

/-- The CSV importer always stays within the limits and accounts for every cut. The others do exactly if
nothing of a record that becomes an item is over the limit, for Bitwarden its folder's name included. -/
theorem importers_bounded_iff (toLowerCase : Units → Units) (syntaxError : Units → String) (input : Units) :
    CsvBounded toLowerCase input ∧
    (EnpassBounded toLowerCase syntaxError input ↔
      JsonFits "title" (fun _ raw => Enpass.texts raw) input) ∧
    (BitwardenBounded syntaxError input ↔
      JsonFits "name" (fun doc raw => Bitwarden.texts raw ++ (Bitwarden.folderOf doc raw).toList) input) := by
  refine ⟨csvBounded toLowerCase input, ?_, json_bounded_iff Bitwarden.makes _ syntaxError input⟩
  have enpass := @json_bounded_iff _ _ _ Enpass.texts (Enpass.makes toLowerCase)
    "expected an Enpass export object with an 'items' array" syntaxError input
  simp only [List.append_nil] at enpass
  exact enpass

def enpassRaw (text : Units) : Value := .object [(units "title", .string text)]

def enpassDoc (text : Units) : Value := .object [(units "items", .array [enpassRaw text])]

def bitwardenRaw : Value := .object [(units "name", .string (units "n")), (units "folderId", .string (units "f"))]

def bitwardenDoc (text : Units) : Value :=
  .object
    [(units "folders", .array [.object [(units "id", .string (units "f")), (units "name", .string text)]]),
      (units "items", .array [bitwardenRaw])]

section

variable {text : Units}

theorem length_enpassDoc :
    (JsonText.stringify (enpassDoc text)).length = (JsonText.quote text).length + 22 := by
  have items : (JsonText.quote (units "items")).length = 7 := by decide +kernel
  have title : (JsonText.quote (units "title")).length = 7 := by decide +kernel
  simp only [JsonText.stringify, enpassDoc, enpassRaw, JsonText.write, JsonText.writeMembers,
    JsonText.writeItems, List.length_append, List.length_cons, List.length_nil, items, title]
  omega

theorem length_bitwardenDoc :
    (JsonText.stringify (bitwardenDoc text)).length = (JsonText.quote text).length + 70 := by
  have folders : (JsonText.quote (units "folders")).length = 9 := by decide +kernel
  have items : (JsonText.quote (units "items")).length = 7 := by decide +kernel
  have id : (JsonText.quote (units "id")).length = 4 := by decide +kernel
  have name : (JsonText.quote (units "name")).length = 6 := by decide +kernel
  have folderId : (JsonText.quote (units "folderId")).length = 10 := by decide +kernel
  have f : (JsonText.quote (units "f")).length = 3 := by decide +kernel
  have n : (JsonText.quote (units "n")).length = 3 := by decide +kernel
  simp only [JsonText.stringify, bitwardenDoc, bitwardenRaw, JsonText.write, JsonText.writeMembers,
    JsonText.writeItems, List.length_append, List.length_cons, List.length_nil, folders, items, id, name,
    folderId, f, n]
  omega

theorem parse_enpassDoc :
    JsonText.parse (JsonText.stringify (enpassDoc text)) = some (enpassDoc text) :=
  JsonText.parse_write_value JsonText.quotes_quote rfl

theorem parse_bitwardenDoc :
    JsonText.parse (JsonText.stringify (bitwardenDoc text)) = some (bitwardenDoc text) :=
  JsonText.parse_write_value JsonText.quotes_quote rfl

theorem itemsOf_enpassDoc : itemsOf (property (enpassDoc text) "items") = some [enpassRaw text] := by
  rfl

theorem itemsOf_bitwardenDoc : itemsOf (property (bitwardenDoc text) "items") = some [bitwardenRaw] := by
  rfl

theorem enpassRaw_made (long : maxFieldChars < text.length) :
    Enpass.normalizeItem lowerAscii (enpassRaw text) =
      .ok ⟨text.take maxFieldChars, none, none, none, none, none, none, none, .enpass⟩ := by
  have title : str (property (enpassRaw text) "title") = some (text.take maxFieldChars) := by
    have some' : text ≠ [] := List.ne_nil_of_length_pos (Nat.lt_of_le_of_lt (Nat.zero_le _) long)
    have value := boundField_value text
    rwa [if_neg some'] at value
  have object : isObject (enpassRaw text) = true := rfl
  have fields : Enpass.fieldsOf (enpassRaw text) = [] := rfl
  have note : str (property (enpassRaw text) "note") = none := rfl
  simp only [Enpass.normalizeItem, object, title, fields, note, if_true]
  rfl

theorem bitwardenRaw_made :
    Bitwarden.normalizeItem (bitwardenDoc text) bitwardenRaw =
      .ok ⟨units "n", none, none, none, none, none, none, some text, .bitwarden⟩ := by
  have title : str (property bitwardenRaw "name") = some (units "n") := by decide +kernel
  have object : isObject bitwardenRaw = true := rfl
  have folder : Bitwarden.folderOf (bitwardenDoc text) bitwardenRaw = some text := by
    rfl
  simp only [Bitwarden.normalizeItem, object, title, folder, if_true]
  rfl

theorem normalizeEnpassJson_enpassDoc (long : maxFieldChars < text.length)
    (size : (JsonText.quote text).length + 22 ≤ maxInputChars) :
    normalizeEnpassJson lowerAscii (fun _ => "") (JsonText.stringify (enpassDoc text)) = .ok
      { items := [⟨text.take maxFieldChars, none, none, none, none, none, none, none, .enpass⟩]
        issues := [] } := by
  have size : (JsonText.stringify (enpassDoc text)).length ≤ maxInputChars := by rwa [length_enpassDoc]
  rw [normalizeEnpassJson, normalizeJson_eq _ _ _ size, parse_enpassDoc]
  simp only [itemsOf_enpassDoc, eachRecord, normalizeRecord, enpassRaw_made long]
  rfl

theorem normalizeBitwardenJson_bitwardenDoc (size : (JsonText.quote text).length + 70 ≤ maxInputChars) :
    normalizeBitwardenJson (fun _ => "") (JsonText.stringify (bitwardenDoc text)) = .ok
      { items := [⟨units "n", none, none, none, none, none, none, some text, .bitwarden⟩]
        issues := [] } := by
  have size : (JsonText.stringify (bitwardenDoc text)).length ≤ maxInputChars := by rwa [length_bitwardenDoc]
  rw [normalizeBitwardenJson, normalizeJson_eq _ _ _ size, parse_bitwardenDoc]
  simp only [itemsOf_bitwardenDoc, eachRecord, normalizeRecord, bitwardenRaw_made]
  rfl

theorem enpassDoc_not_bounded (long : maxFieldChars < text.length)
    (size : (JsonText.quote text).length + 22 ≤ maxInputChars) :
    ¬EnpassBounded lowerAscii (fun _ => "") (JsonText.stringify (enpassDoc text)) := by
  intro bounded
  have accounted := (bounded _ (normalizeEnpassJson_enpassDoc long size)).2 _ _ parse_enpassDoc
    itemsOf_enpassDoc
  obtain ⟨issue, mem, -⟩ := accounted.cut 0 (enpassRaw text) rfl text List.mem_cons_self long
  cases mem

theorem bitwardenDoc_not_bounded (long : maxFieldChars < text.length)
    (size : (JsonText.quote text).length + 70 ≤ maxInputChars) :
    ¬BitwardenBounded (fun _ => "") (JsonText.stringify (bitwardenDoc text)) := by
  intro bounded
  have within := (bounded _ (normalizeBitwardenJson_bitwardenDoc size)).1
  have short := within.fields _ List.mem_cons_self text (NormalizedItem.mem_strings.mpr (by simp))
  omega

end

theorem length_quote_replicate (n : Nat) : (JsonText.quote (List.replicate n 0x61)).length = n + 2 := by
  have plain : JsonText.escaped (List.replicate n 0x61) = List.replicate n 0x61 := by
    apply JsonText.escaped_plain
    intro c mem
    rw [List.eq_of_mem_replicate mem]
    decide
  rw [JsonText.quote, plain]
  simp

def longText : Units := List.replicate (maxFieldChars + 1) 0x61

theorem longText_over : maxFieldChars < longText.length ∧ (JsonText.quote longText).length + 70 ≤ maxInputChars := by
  rw [longText, length_quote_replicate, List.length_replicate]
  decide

theorem importers_cut_silently :
    normalizeEnpassJson lowerAscii (fun _ => "") (JsonText.stringify (enpassDoc longText)) = .ok
        { items := [⟨longText.take maxFieldChars, none, none, none, none, none, none, none, .enpass⟩]
          issues := [] } ∧
      ¬EnpassBounded lowerAscii (fun _ => "") (JsonText.stringify (enpassDoc longText)) ∧
      normalizeBitwardenJson (fun _ => "") (JsonText.stringify (bitwardenDoc longText)) = .ok
        { items := [⟨units "n", none, none, none, none, none, none, some longText, .bitwarden⟩]
          issues := [] } ∧
      ¬BitwardenBounded (fun _ => "") (JsonText.stringify (bitwardenDoc longText)) := by
  obtain ⟨long, size⟩ := longText_over
  have enpassSize : (JsonText.quote longText).length + 22 ≤ maxInputChars := by omega
  exact ⟨normalizeEnpassJson_enpassDoc long enpassSize, enpassDoc_not_bounded long enpassSize,
    normalizeBitwardenJson_bitwardenDoc size, bitwardenDoc_not_bounded long size⟩

end ZenPass.Importers
