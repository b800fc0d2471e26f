import ZenPass.Lib.Utf16
import Mathlib.Order.Basic

set_option autoImplicit false

-- An expression may also be `undefined`, and a conversion may throw.

namespace ZenPass.JavaScript

/-- What `JSON.parse` gives; `ν` are the numbers, among which there is no NaN. -/
inductive Json (ν : Type) where
  | null
  | bool (value : Bool)
  | number (value : ν)
  | string (value : String)
  | array (items : List (Json ν))
  | object (fields : List (String × Json ν))

/-- `none` is `undefined`. -/
abbrev Value (ν : Type) := Option (Json ν)

/-- How numbers are written and read; a text that `parse` maps to `none` is NaN. -/
structure Numerals (ν : Type) where
  text : ν → String
  parse : String → Option ν
  zero : ν
  one : ν

variable {ν : Type}

def Json.get : Json ν → String → Value ν
  | .object fields, name => fields.reverse.lookup name
  | _, _ => none

def member : Value ν → String → Option (Value ν)
  | none, _ => none
  | some .null, _ => none
  | some json, name => some (json.get name)

theorem member_getD (json : Json ν) (name : String) :
    (member (some json) name).getD none = json.get name := by
  cases json <;> rfl

def isNullish : Value ν → Bool
  | none => true
  | some .null => true
  | _ => false

def coalesce (a b : Value ν) : Value ν := if isNullish a then b else a

mutual

def Json.text (numerals : Numerals ν) : Json ν → Option String
  | .null => some "null"
  | .bool value => some (if value then "true" else "false")
  | .number value => some (numerals.text value)
  | .string value => some value
  | .array items => (texts numerals items).map (String.intercalate ",")
  | .object fields =>
      if fields.any (fun field => field.1 == "toString") then none else some "[object Object]"

def texts (numerals : Numerals ν) : List (Json ν) → Option (List String)
  | [] => some []
  | .null :: rest => (texts numerals rest).map fun later => "" :: later
  | json :: rest =>
      match json.text numerals, texts numerals rest with
      | some first, some later => some (first :: later)
      | _, _ => none

end

def text (numerals : Numerals ν) : Value ν → Option String
  | none => some "undefined"
  | some json => json.text numerals

def Json.truthy [DecidableEq ν] (numerals : Numerals ν) : Json ν → Bool
  | .null => false
  | .bool value => value
  | .number value => value ≠ numerals.zero
  | .string value => !value.isEmpty
  | _ => true

def toPrimitive (numerals : Numerals ν) : Value ν → Option (Value ν)
  | some (.array items) => ((Json.array items).text numerals).map fun value => some (.string value)
  | some (.object fields) => ((Json.object fields).text numerals).map fun value => some (.string value)
  | value => some value

def toNumber (numerals : Numerals ν) : Value ν → Option ν
  | some .null => some numerals.zero
  | some (.bool value) => some (if value then numerals.one else numerals.zero)
  | some (.number value) => some value
  | some (.string value) => numerals.parse value
  | _ => none

/-- `a < b`; `none` is a TypeError. -/
def less [LinearOrder ν] (numerals : Numerals ν) (a b : Value ν) : Option Bool :=
  match toPrimitive numerals a, toPrimitive numerals b with
  | some (some (.string a)), some (some (.string b)) =>
      some (decide (Utf16.codeUnits a < Utf16.codeUnits b))
  | some a, some b =>
      match toNumber numerals a, toNumber numerals b with
      | some a, some b => some (decide (a < b))
      | _, _ => some false
  | _, _ => none

/-- `a === b` of values out of different texts: no array and no object is in both. -/
def strictEq [DecidableEq ν] : Value ν → Value ν → Bool
  | none, none => true
  | some .null, some .null => true
  | some (.bool a), some (.bool b) => a == b
  | some (.number a), some (.number b) => a = b
  | some (.string a), some (.string b) => a == b
  | _, _ => false

section Equality

variable [DecidableEq ν]

theorem eq_of_strictEq {a b : Value ν} (same : strictEq a b = true) : a = b := by
  unfold strictEq at same
  split at same
  · rfl
  · rfl
  · rw [beq_iff_eq] at same
    rw [same]
  · rw [decide_eq_true_eq] at same
    rw [same]
  · rw [beq_iff_eq] at same
    rw [same]
  · cases same

@[simp] theorem strictEq_string {value : Value ν} {text : String} :
    strictEq value (some (.string text)) = true ↔ value = some (.string text) := by
  constructor
  · exact eq_of_strictEq
  · rintro rfl
    exact beq_self_eq_true text

@[simp] theorem strictEq_number {value : Value ν} {number : ν} :
    strictEq value (some (.number number)) = true ↔ value = some (.number number) := by
  constructor
  · exact eq_of_strictEq
  · rintro rfl
    exact decide_eq_true rfl

end Equality

@[simp] theorem less_number [LinearOrder ν] (numerals : Numerals ν) (a b : ν) :
    less numerals (some (.number a)) (some (.number b)) = some (decide (a < b)) := rfl

theorem truthy_of_get [DecidableEq ν] (numerals : Numerals ν) {json : Json ν} {name : String}
    (has : (json.get name).isSome = true) : json.truthy numerals = true := by
  cases json with
  | object fields => rfl
  | _ => cases has

end ZenPass.JavaScript
