import ZenPass.Lib.JsonText

set_option autoImplicit false

namespace ZenPass.Importers

open JsonText (Units units)

def maxInputChars : Nat := 25000000
def maxItems : Nat := 50000
def maxFieldChars : Nat := 100000

inductive Source where
  | enpass | onePassword | bitwarden | csv
  deriving DecidableEq

structure NormalizedItem where
  title : Units
  username : Option Units
  password : Option Units
  url : Option Units
  otherUrls : Option (List Units)
  notes : Option Units
  -- the secret of `totp`
  totp : Option Units
  folder : Option Units
  source : Source
  deriving DecidableEq

structure NormalizeIssue where
  index : Nat
  reason : String
  deriving DecidableEq

structure NormalizeResult where
  items : List NormalizedItem
  issues : List NormalizeIssue
  deriving DecidableEq

def NormalizeResult.empty : NormalizeResult := { items := [], issues := [] }

def NormalizeResult.issue (result : NormalizeResult) (index : Nat) (reason : String) : NormalizeResult :=
  { result with issues := result.issues ++ [⟨index, reason⟩] }

def NormalizeResult.item (result : NormalizeResult) (item : NormalizedItem) : NormalizeResult :=
  { result with items := result.items ++ [item] }

-- `ImportSizeError`
def assertInputSize (input : Units) : Except String Unit :=
  if input.length > maxInputChars then
    .error "import input exceeds maximum size of 25000000 characters"
  else .ok ()

theorem size_of_accepted {α : Type} {input : Units} {rest : Except String α} {result : α}
    (done : (do assertInputSize input; rest) = .ok result) : input.length ≤ maxInputChars := by
  by_contra large
  have refused : assertInputSize input = .error _ := if_pos (Nat.lt_of_not_le large)
  rw [refused] at done
  cases done

def droppedReason : String := "dropped: exceeds max item limit of 50000"

/-- The value and whether it was truncated; what is no string is `none`. -/
def boundField : Option Units → Option Units × Bool
  | none => (none, false)
  | some value =>
    if value.length = 0 then (none, false)
    else if value.length ≤ maxFieldChars then (some value, false)
    else (some (value.take maxFieldChars), true)

def NormalizedItem.strings (item : NormalizedItem) : List Units :=
  item.title :: ((item.otherUrls.getD []) ++
    [item.username, item.password, item.url, item.notes, item.totp, item.folder].filterMap id)

theorem NormalizedItem.mem_strings {item : NormalizedItem} {text : Units} :
    text ∈ item.strings ↔ text = item.title ∨ text ∈ item.otherUrls.getD [] ∨ item.username = some text ∨
      item.password = some text ∨ item.url = some text ∨ item.notes = some text ∨ item.totp = some text ∨
      item.folder = some text := by
  simp [strings, eq_comm]

theorem boundField_length_le {value : Option Units} {bounded : Units}
    (result : (boundField value).1 = some bounded) :
    0 < bounded.length ∧ bounded.length ≤ maxFieldChars := by
  cases value with
  | none => cases result
  | some value =>
    simp only [boundField] at result
    split_ifs at result with empty short
    · cases result
      exact ⟨Nat.pos_of_ne_zero empty, short⟩
    · cases result
      rw [List.length_take, Nat.min_eq_left (Nat.le_of_not_le short)]
      exact ⟨by decide, Nat.le_refl _⟩

theorem boundField_truncated {value : Option Units} :
    (boundField value).2 = true ↔ ∃ text, value = some text ∧ maxFieldChars < text.length := by
  cases value with
  | none => simp [boundField]
  | some value =>
    simp only [boundField]
    split_ifs with empty short
    · simp [empty]
    · simp [short]
    · simp [Nat.lt_of_not_le short]

end ZenPass.Importers
