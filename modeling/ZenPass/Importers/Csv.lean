import ZenPass.Client.ItemCodec
import ZenPass.Importers.CsvParser
import ZenPass.Importers.Records

set_option autoImplicit false

namespace ZenPass.Importers

open Client.ItemCodec (isTrimmed trim)
open JsonText (Units units)

-- the keys of `MappedRow`
inductive Role where
  | title | username | password | url | notes | totp | folder
  deriving DecidableEq

def Role.name : Role → String
  | .title => "title"
  | .username => "username"
  | .password => "password"
  | .url => "url"
  | .notes => "notes"
  | .totp => "totp"
  | .folder => "folder"

def headerAliases : List (String × Role) :=
  [("title", .title), ("name", .title), ("itemname", .title), ("username", .username),
    ("user", .username), ("login", .username), ("email", .username), ("password", .password),
    ("pass", .password), ("pwd", .password), ("url", .url), ("website", .url), ("uri", .url),
    ("site", .url), ("notes", .notes), ("note", .notes), ("comments", .notes), ("totp", .totp),
    ("otp", .totp), ("otp secret", .totp), ("folder", .folder), ("group", .folder)]

-- What `HEADER_ALIASES[h]` gives: of the properties that every object inherits only `constructor` is
-- written without capitals and underscores.
inductive Column where
  | role (role : Role)
  | inherited
  deriving DecidableEq

def Column.text : Column → String
  | .role mapped => mapped.name
  | .inherited => "function Object() \x7b [native code] \x7d"

def columnRole (header : Units) : Option Column :=
  match headerAliases.find? fun entry => units entry.1 = header with
  | some entry => some (.role entry.2)
  | none => if header = units "constructor" then some .inherited else none

-- `text.replace(/[..]+/g, " ")`
def replaceRuns (inClass : UInt16 → Bool) : Units → Units
  | [] => []
  | c :: rest =>
    if inClass c then
      match rest with
      | next :: _ => if inClass next then replaceRuns inClass rest else 0x20 :: replaceRuns inClass rest
      | [] => [0x20]
    else c :: replaceRuns inClass rest

section Normalizer

-- the conversion of the language
variable (toLowerCase : Units → Units)

def normalizeHeader (header : Units) : Units :=
  replaceRuns isTrimmed (replaceRuns (fun c => c = 0x5F || c = 0x2D) (toLowerCase (trim header)))

def columnRoles (header : List Units) : List (Option Column) :=
  header.map fun cell => columnRole (normalizeHeader toLowerCase cell)

end Normalizer

def truncatedReason (column : Column) : String :=
  "field '" ++ column.text ++ "' truncated to size limit"

abbrev MappedRow := Role → Option Units

-- The loop over the columns; a row may have fewer cells, and further ones are not looked at.
def mapCells (index : Nat) : List (Option Column) → List Units → MappedRow × List NormalizeIssue →
    MappedRow × List NormalizeIssue
  | [], _, mapped => mapped
  | _ :: _, [], mapped => mapped
  | none :: columns, _ :: cells, mapped => mapCells index columns cells mapped
  | some column :: columns, cell :: cells, (mapped, issues) =>
    let (value, truncated) := boundField (some cell)
    let mapped := match column, value with
      | .role role, some value => Function.update mapped role (some value)
      | _, _ => mapped
    let issues :=
      if truncated then issues ++ [⟨index, truncatedReason column⟩] else issues
    mapCells index columns cells (mapped, issues)

def noTitleReason : String := "row has no title, username, or url; skipped"

-- The body of the loop over the rows
def normalizeRow (columns : List (Option Column)) (index : Nat) (row : List Units)
    (result : NormalizeResult) : NormalizeResult :=
  if result.items.length ≥ maxItems then result.issue index droppedReason
  else
    let (mapped, issues) := mapCells index columns row (fun _ => none, [])
    let result := { result with issues := result.issues ++ issues }
    match (mapped .title).or ((mapped .username).or (mapped .url)) with
    | none => result.issue index noTitleReason
    | some title =>
      if title = [] then result.issue index noTitleReason
      else
        result.item
          { title
            username := mapped .username
            password := mapped .password
            url := mapped .url
            otherUrls := none
            notes := mapped .notes
            totp := (mapped .totp).filter fun secret => secret ≠ []
            folder := mapped .folder
            source := .csv }

def normalizeRows (columns : List (Option Column)) : Nat → List (List Units) → NormalizeResult →
    NormalizeResult :=
  eachRecord (normalizeRow columns)

-- `columnRoles.includes("title") || columnRoles.includes("username")`
def recognized (columns : List (Option Column)) : Bool :=
  columns.contains (some (.role .title)) || columns.contains (some (.role .username))

def noHeaderReason : String := "no recognizable header row (title/username/password/url column)"

def normalizeCsv (toLowerCase : Units → Units) (input : Units) : Except String NormalizeResult := do
  assertInputSize input
  match parseCsv input with
  | [] => .ok .empty
  | header :: rows =>
    let columns := columnRoles toLowerCase header
    if recognized columns then .ok (normalizeRows columns 1 rows .empty)
    else .ok (NormalizeResult.empty.issue 0 noHeaderReason)

theorem normalizeCsv_eq (toLowerCase : Units → Units) {input : Units} (size : input.length ≤ maxInputChars) :
    normalizeCsv toLowerCase input =
      match parseCsv input with
      | [] => .ok .empty
      | header :: rows =>
        if recognized (columnRoles toLowerCase header) then
          .ok (normalizeRows (columnRoles toLowerCase header) 1 rows .empty)
        else .ok (NormalizeResult.empty.issue 0 noHeaderReason) := by
  have accepted : assertInputSize input = .ok () := if_neg (Nat.not_lt.mpr size)
  simp only [normalizeCsv, accepted]
  rfl

end ZenPass.Importers
