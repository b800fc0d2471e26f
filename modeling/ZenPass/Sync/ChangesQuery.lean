import ZenPass.Lib.NumberText
import ZenPass.Wire.Cursor

set_option autoImplicit false

namespace ZenPass.Sync

open Wire NumberText

/-- The decoded values of one query parameter: none when it is absent, several when it is repeated. -/
abbrev QueryParameter := List String

/-- What comes of a query: an answer 400, a database query that fails, or one that reads. -/
inductive QueryOutcome where
  | badRequest
  | failingQuery
  | reads (afterSequence limit : Nat)
deriving DecidableEq, Repr

def InBigint (sequence : Nat) : Prop := sequence < 9223372036854775808

instance (sequence : Nat) : Decidable (InBigint sequence) := inferInstanceAs (Decidable (_ < _))

-- `Buffer.from(cursor, 'base64url')` of a JavaScript runtime. What RFC 4648 spells reads back; of any
-- other text nothing is documented, and runtimes differ in what they skip and where they stop.
structure BufferFrom where
  decode : String → Bytes
  documented : ∀ bytes, decode (encodeBase64Url bytes) = bytes

def BufferFrom.node : BufferFrom where
  decode text := (Wire.Node.bufferFrom text.toList).getD []
  documented bytes := by
    have lenient := decodeBase64Url_encode false bytes
    rw [decodeBase64Url, if_neg Bool.false_ne_true] at lenient
    rw [lenient, Option.getD_some]

def cursorDigits (decode : String → Option Bytes) (cursor : String) : Option (List Char) :=
  if cursor.isEmpty then none
  else
    (decode cursor).bind fun bytes =>
      if bytes.isEmpty || !bytes.all isDigitByte then none
      else some (bytes.map fun byte => Char.ofNat byte.toNat)

theorem decodeCursor_eq (strict : Bool) (cursor : String) :
    decodeCursor strict cursor = (cursorDigits (decodeBase64Url strict) cursor).map digitsValue := by
  rw [decodeCursor, cursorDigits]
  split
  · rfl
  · cases decodeBase64Url strict cursor with
    | none => rfl
    | some bytes =>
        simp only [Option.bind_some]
        split <;> rfl

namespace Node

section Runtime

variable (buffer : BufferFrom)

def readCursor : QueryParameter → Option Nat
  | [] => some 0
  | [cursor] => (cursorDigits (fun text => some (buffer.decode text)) cursor).map digitsValue
  | _ => none

/-- `Number.isInteger(limit)` with its bounds; `Number` of an array is `NaN`, since the text of the
array has a comma. -/
def readLimit : QueryParameter → Option Nat
  | [] => some 100
  | [limit] =>
      (stringToNumber limit).bind fun limit =>
        if limit.den = 1 ∧ 1 ≤ limit.num ∧ limit.num ≤ 200 then some limit.num.toNat else none
  | _ => none

def changesQuery (cursor limit : QueryParameter) : QueryOutcome :=
  match readCursor buffer cursor, readLimit limit with
  | some afterSequence, some limit =>
      if InBigint afterSequence then .reads afterSequence limit else .failingQuery
  | _, _ => .badRequest

end Runtime

-- The cursor of the rows' model is the one that Node reads.
theorem readCursor_node (cursor : String) :
    readCursor .node [cursor] = decodeCursor false cursor := by
  have total (text : String) : some (BufferFrom.node.decode text) = decodeBase64Url false text := by
    obtain ⟨bytes, read⟩ := Option.isSome_iff_exists.mp (Node.bufferFrom_isSome text.toList)
    rw [decodeBase64Url, if_neg Bool.false_ne_true, read]
    exact congrArg (fun result => some (Option.getD result [])) read
  simp only [readCursor, total, decodeCursor_eq]

end Node

namespace Rust

/-- `after_sequence`; the extractor refuses a field that comes twice. -/
def readCursor : QueryParameter → Option Nat
  | [] => some 0
  | [cursor] =>
      (cursorDigits (decodeBase64Url true) cursor).bind fun digits => (parseI64 digits).map Int.toNat
  | _ => none

def readLimit : QueryParameter → Option Nat
  | [] => some 100
  | [raw] =>
      (parseI64 raw.toList).bind fun value =>
        if (1 ≤ value ∧ value ≤ 200) ∧ raw.toList.all Char.isDigit then some value.toNat else none
  | _ => none

def changesQuery (cursor limit : QueryParameter) : QueryOutcome :=
  match readCursor cursor, readLimit limit with
  | some afterSequence, some limit => .reads afterSequence limit
  | _, _ => .badRequest

end Rust

def WellFormedCursor (cursor : String) : Prop :=
  ∃ digits : List Char, IsDigits digits ∧ InBigint (digitsValue digits) ∧
    cursor = encodeBase64Url (digits.map digitByte)

def WellFormedLimit (limit : String) : Prop :=
  IsDigits limit.toList ∧ 1 ≤ digitsValue limit.toList ∧ digitsValue limit.toList ≤ 200

def OnceOrAbsent (wellFormed : String → Prop) : QueryParameter → Prop
  | [] => True
  | [value] => wellFormed value
  | _ => False

def WellFormedQuery (cursor limit : QueryParameter) : Prop :=
  OnceOrAbsent WellFormedCursor cursor ∧ OnceOrAbsent WellFormedLimit limit

/-- Both backends answer 400 or read the same, and what is not well formed is answered with 400. -/
def QueryAgrees (buffer : BufferFrom) (cursor limit : QueryParameter) : Prop :=
  let node := Node.changesQuery buffer cursor limit
  let rust := Rust.changesQuery cursor limit
  ((node = .badRequest ∧ rust = .badRequest) ∨
      ∃ afterSequence size, node = .reads afterSequence size ∧ rust = .reads afterSequence size) ∧
    (¬ WellFormedQuery cursor limit → node = .badRequest ∧ rust = .badRequest)

def ReadableCursor (buffer : BufferFrom) (cursor : String) : Prop :=
  cursor ≠ "" ∧ ∃ digits : List Char, IsDigits digits ∧
    buffer.decode cursor = digits.map digitByte

def ReadableLimit (limit : String) : Prop :=
  ∃ size : Nat, 1 ≤ size ∧ size ≤ 200 ∧ stringToNumber limit = some (size : Rat)

def ReadableQuery (buffer : BufferFrom) (cursor limit : QueryParameter) : Prop :=
  OnceOrAbsent (ReadableCursor buffer) cursor ∧ OnceOrAbsent ReadableLimit limit

theorem char_of_isDigitByte {byte : UInt8} (digit : isDigitByte byte = true) :
    (Char.ofNat byte.toNat).isDigit = true ∧ digitByte (Char.ofNat byte.toNat) = byte := by
  have range : 48 ≤ byte.toNat ∧ byte.toNat ≤ 57 := by
    simp only [isDigitByte, Bool.and_eq_true, decide_eq_true_eq, UInt8.le_iff_toNat_le] at digit
    exact digit
  have each : ∀ i : Fin 10, (Char.ofNat (48 + i.val)).isDigit = true ∧
      digitByte (Char.ofNat (48 + i.val)) = UInt8.ofNat (48 + i.val) := by decide
  obtain ⟨isDigit, same⟩ := each ⟨byte.toNat - 48, by omega⟩
  have back : 48 + (byte.toNat - 48) = byte.toNat := by omega
  dsimp only at isDigit same
  rw [back] at isDigit same
  exact ⟨isDigit, same.trans UInt8.ofNat_toNat⟩

theorem cursorDigits_eq_some {decode : String → Option Bytes} {cursor : String}
    {digits : List Char} :
    cursorDigits decode cursor = some digits ↔
      cursor ≠ "" ∧ IsDigits digits ∧ decode cursor = some (digits.map digitByte) := by
  rw [cursorDigits]
  by_cases empty : cursor = ""
  · subst empty
    simp
  · have present : cursor.isEmpty = false := by
      rw [← Bool.not_eq_true, String.isEmpty_iff]
      exact empty
    simp only [present, Bool.false_eq_true, if_false, Option.bind_eq_some_iff]
    constructor
    · rintro ⟨bytes, decoded, read⟩
      split at read
      · cases read
      · rename_i plain
        simp only [Bool.or_eq_true, List.isEmpty_iff, Bool.not_eq_true', not_or,
          Bool.not_eq_false, List.all_eq_true] at plain
        obtain ⟨nonempty, all⟩ := plain
        cases read
        have same : (bytes.map fun byte => Char.ofNat byte.toNat).map digitByte = bytes := by
          rw [List.map_map]
          exact (List.map_congr_left fun byte member => (char_of_isDigitByte (all byte member)).2).trans
            (List.map_id _)
        refine ⟨empty, ⟨by simpa using nonempty, fun c member => ?_⟩, by rw [same, decoded]⟩
        obtain ⟨byte, inside, rfl⟩ := List.mem_map.mp member
        exact (char_of_isDigitByte (all byte inside)).1
    · rintro ⟨-, isDigits, decoded⟩
      refine ⟨_, decoded, ?_⟩
      have plain : ((digits.map digitByte).isEmpty || !(digits.map digitByte).all isDigitByte) =
          false := by
        rw [Bool.or_eq_false_iff, List.isEmpty_map, List.isEmpty_eq_false_iff, List.all_map,
          Bool.not_eq_false', List.all_eq_true]
        exact ⟨isDigits.1, fun c member => (digit_cases (isDigits.2 c member)).1⟩
      rw [plain, if_neg (by decide), List.map_map, Option.some.injEq]
      exact (List.map_congr_left fun c member => (digit_cases (isDigits.2 c member)).2).trans
        (List.map_id _)

theorem cursorDigits_strict {cursor : String} {digits : List Char} :
    cursorDigits (decodeBase64Url true) cursor = some digits ↔
      IsDigits digits ∧ cursor = encodeBase64Url (digits.map digitByte) := by
  rw [cursorDigits_eq_some]
  constructor
  · rintro ⟨-, isDigits, decoded⟩
    exact ⟨isDigits, (encodeBase64Url_decode decoded).symm⟩
  · rintro ⟨isDigits, rfl⟩
    refine ⟨?_, isDigits, decodeBase64Url_encode true _⟩
    intro empty
    have decoded := decodeBase64Url_encode true (digits.map digitByte)
    rw [empty] at decoded
    have nothing : digits.map digitByte = [] := (Option.some.inj decoded).symm
    exact isDigits.1 (List.map_eq_nil_iff.mp nothing)

theorem cursorDigits_runtime (buffer : BufferFrom) {cursor : String} {digits : List Char}
    (strict : cursorDigits (decodeBase64Url true) cursor = some digits) :
    cursorDigits (fun text => some (buffer.decode text)) cursor = some digits := by
  obtain ⟨present, isDigits, decoded⟩ := cursorDigits_eq_some.mp strict
  refine cursorDigits_eq_some.mpr ⟨present, isDigits, ?_⟩
  rw [← encodeBase64Url_decode decoded, buffer.documented]

theorem inI64_eq_some {value : Nat} {read : Int} :
    inI64 value = some read ↔ InBigint value ∧ read = value := by
  rw [inI64, InBigint]
  split
  · simp only [Option.some.injEq]
    omega
  · simp only [reduceCtorEq, false_iff, not_and]
    omega

theorem Rust.readCursor_eq_some {cursor : String} {sequence : Nat} :
    Rust.readCursor [cursor] = some sequence ↔
      ∃ digits, cursorDigits (decodeBase64Url true) cursor = some digits ∧
        InBigint (digitsValue digits) ∧ sequence = digitsValue digits := by
  simp only [Rust.readCursor, Option.bind_eq_some_iff, Option.map_eq_some_iff]
  constructor
  · rintro ⟨digits, read, value, parsed, rfl⟩
    rw [parseI64_digits (cursorDigits_eq_some.mp read).2.1, inI64_eq_some] at parsed
    obtain ⟨bound, rfl⟩ := parsed
    exact ⟨digits, read, bound, rfl⟩
  · rintro ⟨digits, read, bound, rfl⟩
    refine ⟨digits, read, digitsValue digits, ?_, rfl⟩
    rw [parseI64_digits (cursorDigits_eq_some.mp read).2.1, inI64_eq_some]
    exact ⟨bound, rfl⟩

theorem Node.readCursor_of_rust (buffer : BufferFrom) {cursor : QueryParameter} {sequence : Nat}
    (read : Rust.readCursor cursor = some sequence) :
    Node.readCursor buffer cursor = some sequence ∧ InBigint sequence := by
  match cursor, read with
  | [], read =>
      cases read
      exact ⟨rfl, by decide⟩
  | [cursor], read =>
      obtain ⟨digits, strict, bound, rfl⟩ := Rust.readCursor_eq_some.mp read
      refine ⟨?_, bound⟩
      rw [Node.readCursor, cursorDigits_runtime buffer strict, Option.map_some]

theorem Rust.readCursor_isSome (cursor : QueryParameter) :
    (Rust.readCursor cursor).isSome = true ↔ OnceOrAbsent WellFormedCursor cursor := by
  match cursor with
  | [] => simp [Rust.readCursor, OnceOrAbsent]
  | [cursor] =>
      simp only [Option.isSome_iff_exists, Rust.readCursor_eq_some, OnceOrAbsent, WellFormedCursor,
        cursorDigits_strict]
      constructor
      · rintro ⟨-, digits, ⟨isDigits, spelled⟩, bound, -⟩
        exact ⟨digits, isDigits, bound, spelled⟩
      · rintro ⟨digits, isDigits, bound, spelled⟩
        exact ⟨_, digits, ⟨isDigits, spelled⟩, bound, rfl⟩
  | _ :: _ :: _ => simp [Rust.readCursor, OnceOrAbsent]

theorem Node.readCursor_isSome (buffer : BufferFrom) (cursor : QueryParameter) :
    (Node.readCursor buffer cursor).isSome = true ↔
      OnceOrAbsent (ReadableCursor buffer) cursor := by
  match cursor with
  | [] => simp [Node.readCursor, OnceOrAbsent]
  | [cursor] =>
      simp only [Node.readCursor, Option.isSome_map, Option.isSome_iff_exists,
        cursorDigits_eq_some, Option.some.injEq, OnceOrAbsent, ReadableCursor]
      constructor
      · rintro ⟨digits, present, isDigits, decoded⟩
        exact ⟨present, digits, isDigits, decoded⟩
      · rintro ⟨present, digits, isDigits, decoded⟩
        exact ⟨digits, present, isDigits, decoded⟩
  | _ :: _ :: _ => simp [Node.readCursor, OnceOrAbsent]

theorem Node.readLimit_eq_some {limit : String} {size : Nat} :
    Node.readLimit [limit] = some size ↔
      1 ≤ size ∧ size ≤ 200 ∧ stringToNumber limit = some (size : Rat) := by
  simp only [Node.readLimit, Option.bind_eq_some_iff]
  constructor
  · rintro ⟨value, number, read⟩
    split at read
    · rename_i whole
      obtain ⟨integer, low, high⟩ := whole
      have same := Option.some.inj read
      have value_eq : value = (size : Rat) := by
        rw [← Rat.coe_int_num_of_den_eq_one integer, ← same]
        have positive : ((value.num.toNat : Int) : Rat) = value.num := by
          rw [Int.toNat_of_nonneg (by omega)]
        exact_mod_cast positive.symm
      exact ⟨by omega, by omega, by rw [← value_eq, number]⟩
    · cases read
  · rintro ⟨low, high, number⟩
    refine ⟨_, number, ?_⟩
    rw [Rat.den_natCast, Rat.num_natCast, if_pos ⟨rfl, by omega, by omega⟩, Int.toNat_natCast]

theorem Rust.readLimit_eq_some {limit : String} {size : Nat} :
    Rust.readLimit [limit] = some size ↔
      WellFormedLimit limit ∧ size = digitsValue limit.toList := by
  simp only [Rust.readLimit, Option.bind_eq_some_iff, WellFormedLimit]
  constructor
  · rintro ⟨value, parsed, read⟩
    split at read
    · rename_i plain
      obtain ⟨⟨low, high⟩, all⟩ := plain
      have nonempty : limit.toList ≠ [] := by
        intro empty
        rw [empty] at parsed
        cases parsed
      have isDigits : IsDigits limit.toList := ⟨nonempty, List.all_eq_true.mp all⟩
      rw [parseI64_digits isDigits, inI64_eq_some] at parsed
      have same := Option.some.inj read
      exact ⟨⟨isDigits, by omega, by omega⟩, by omega⟩
    · cases read
  · rintro ⟨⟨isDigits, low, high⟩, rfl⟩
    refine ⟨digitsValue limit.toList, ?_, ?_⟩
    · rw [parseI64_digits isDigits, inI64_eq_some]
      exact ⟨by rw [InBigint]; omega, rfl⟩
    · rw [if_pos ⟨⟨by omega, by omega⟩, List.all_eq_true.mpr isDigits.2⟩, Int.toNat_natCast]

theorem Node.readLimit_of_rust {limit : QueryParameter} {size : Nat}
    (read : Rust.readLimit limit = some size) : Node.readLimit limit = some size := by
  match limit, read with
  | [], read => exact read
  | [limit], read =>
      obtain ⟨⟨isDigits, low, high⟩, rfl⟩ := Rust.readLimit_eq_some.mp read
      rw [Node.readLimit_eq_some, stringToNumber_digits isDigits,
        Double.roundNat_small (by omega)]
      exact ⟨low, high, rfl⟩

theorem Rust.readLimit_isSome (limit : QueryParameter) :
    (Rust.readLimit limit).isSome = true ↔ OnceOrAbsent WellFormedLimit limit := by
  match limit with
  | [] => simp [Rust.readLimit, OnceOrAbsent]
  | [limit] => simp [Option.isSome_iff_exists, Rust.readLimit_eq_some, OnceOrAbsent]
  | _ :: _ :: _ => simp [Rust.readLimit, OnceOrAbsent]

theorem Node.readLimit_isSome (limit : QueryParameter) :
    (Node.readLimit limit).isSome = true ↔ OnceOrAbsent ReadableLimit limit := by
  match limit with
  | [] => simp [Node.readLimit, OnceOrAbsent]
  | [limit] =>
      simp [Option.isSome_iff_exists, Node.readLimit_eq_some, OnceOrAbsent, ReadableLimit]
  | _ :: _ :: _ => simp [Node.readLimit, OnceOrAbsent]

section Queries

variable {buffer : BufferFrom} {cursor limit : QueryParameter}

theorem Node.changesQuery_badRequest :
    Node.changesQuery buffer cursor limit = .badRequest ↔ ¬ ReadableQuery buffer cursor limit := by
  rw [ReadableQuery, ← Node.readCursor_isSome, ← Node.readLimit_isSome, Node.changesQuery]
  cases Node.readCursor buffer cursor <;> cases Node.readLimit limit <;> simp
  split <;> simp

theorem Rust.changesQuery_badRequest :
    Rust.changesQuery cursor limit = .badRequest ↔ ¬ WellFormedQuery cursor limit := by
  rw [WellFormedQuery, ← Rust.readCursor_isSome, ← Rust.readLimit_isSome, Rust.changesQuery]
  cases Rust.readCursor cursor <;> cases Rust.readLimit limit <;> simp

theorem changesQuery_wellFormed (buffer : BufferFrom) (wellFormed : WellFormedQuery cursor limit) :
    ∃ afterSequence size, Node.changesQuery buffer cursor limit = .reads afterSequence size ∧
      Rust.changesQuery cursor limit = .reads afterSequence size := by
  obtain ⟨cursorRead, limitRead⟩ := wellFormed
  obtain ⟨afterSequence, ofCursor⟩ :=
    Option.isSome_iff_exists.mp ((Rust.readCursor_isSome cursor).mpr cursorRead)
  obtain ⟨size, ofLimit⟩ := Option.isSome_iff_exists.mp ((Rust.readLimit_isSome limit).mpr limitRead)
  obtain ⟨nodeCursor, bound⟩ := Node.readCursor_of_rust buffer ofCursor
  refine ⟨afterSequence, size, ?_, ?_⟩
  · rw [Node.changesQuery, nodeCursor, Node.readLimit_of_rust ofLimit]
    exact if_pos bound
  · rw [Rust.changesQuery, ofCursor, ofLimit]

theorem readable_of_wellFormed (wellFormed : WellFormedQuery cursor limit) :
    ReadableQuery buffer cursor limit := by
  obtain ⟨afterSequence, size, node, -⟩ := changesQuery_wellFormed buffer wellFormed
  by_contra unreadable
  rw [Node.changesQuery_badRequest.mpr unreadable] at node
  cases node

theorem cursorDigits_encodeCursor (sequence : Nat) :
    cursorDigits (decodeBase64Url true) (encodeCursor sequence) = some (Nat.toDigits 10 sequence) := by
  rw [cursorDigits_strict]
  exact ⟨⟨Nat.toDigits_ne_nil, fun c member =>
    Nat.isDigit_of_mem_toDigits (by decide) (by decide) member⟩, rfl⟩

end Queries

/-- Minted cursors read back in both backends, and a query means the same in both exactly when what
Node can make sense of is well formed. -/
theorem changes_query_parity (buffer : BufferFrom) (cursor limit : List String) :
    (∀ sequence, InBigint sequence →
      Node.readCursor buffer [encodeCursor sequence] = some sequence ∧
        Rust.readCursor [encodeCursor sequence] = some sequence) ∧
      (QueryAgrees buffer cursor limit ↔
        (ReadableQuery buffer cursor limit → WellFormedQuery cursor limit)) := by
  constructor
  · intro sequence bound
    have rust : Rust.readCursor [encodeCursor sequence] = some sequence := by
      have value : digitsValue (Nat.toDigits 10 sequence) = sequence :=
        Nat.ofDigitChars_ten_toDigits
      refine Rust.readCursor_eq_some.mpr ⟨_, cursorDigits_encodeCursor sequence, ?_, value.symm⟩
      rw [value]
      exact bound
    exact ⟨(Node.readCursor_of_rust buffer rust).1, rust⟩
  · constructor
    · intro agrees readable
      by_contra illFormed
      exact Node.changesQuery_badRequest.mp (agrees.2 illFormed).1 readable
    · intro condition
      by_cases readable : ReadableQuery buffer cursor limit
      · have wellFormed := condition readable
        exact ⟨.inr (changesQuery_wellFormed buffer wellFormed),
          fun illFormed => absurd wellFormed illFormed⟩
      · have refused := Node.changesQuery_badRequest.mpr readable
        have rust := Rust.changesQuery_badRequest.mpr fun wellFormed =>
          readable (readable_of_wellFormed wellFormed)
        exact ⟨.inl ⟨refused, rust⟩, fun _ => ⟨refused, rust⟩⟩

theorem changes_query_parity_first :
    (Node.readCursor .node [encodeCursor 5] = some 5 ∧ Rust.readCursor [encodeCursor 5] = some 5) ∧
      QueryAgrees .node [encodeCursor 5] ["10"] ∧ ¬ QueryAgrees .node ["Nŷ"] [] := by
  have rust : Rust.changesQuery [encodeCursor 5] ["10"] ≠ .badRequest := by decide +kernel
  have wellFormed : WellFormedQuery [encodeCursor 5] ["10"] := by
    by_contra illFormed
    exact rust (Rust.changesQuery_badRequest.mpr illFormed)
  refine ⟨(changes_query_parity .node [] []).1 5 (by decide),
    (changes_query_parity .node _ _).2.mpr fun _ => wellFormed, ?_⟩
  -- the low byte of the second character is a `w`
  have node : Node.changesQuery .node ["Nŷ"] [] = .reads 7 100 := by decide +kernel
  rintro ⟨⟨refused, -⟩ | ⟨_, _, -, other⟩, -⟩
  · rw [node] at refused
    cases refused
  · have refused : Rust.changesQuery ["Nŷ"] [] = .badRequest := by decide +kernel
    rw [refused] at other
    cases other

/-- The cursor of 2 ^ 63 is answered with 400 in Rust and fails in Node's query. -/
theorem huge_cursor_fails : ¬ ∀ cursor limit, QueryAgrees .node cursor limit := by
  intro all
  have node : Node.changesQuery .node [encodeCursor 9223372036854775808] [] = .failingQuery := by
    decide +kernel
  rcases (all [encodeCursor 9223372036854775808] []).1 with ⟨refused, -⟩ | ⟨_, _, reads, -⟩
  · rw [node] at refused
    cases refused
  · rw [node] at reads
    cases reads

example : Node.changesQuery .node [] ["0x10"] = .reads 0 16 ∧
    Rust.changesQuery [] ["0x10"] = .badRequest := by
  decide +kernel

end ZenPass.Sync
