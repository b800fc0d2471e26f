import ZenPass.Lib.JsonText

set_option autoImplicit false

namespace ZenPass.Importers

open JsonText (Units)

def quote : UInt16 := 0x22
def comma : UInt16 := 0x2C
def carriageReturn : UInt16 := 0x0D
def lineFeed : UInt16 := 0x0A

-- the variables of the loop
structure CsvState where
  rows : List (List Units)
  row : List Units
  field : Units
  inQuotes : Bool

namespace CsvState

def endField (state : CsvState) : CsvState :=
  { state with row := state.row ++ [state.field], field := [] }

def endRow (state : CsvState) : CsvState :=
  let ended := state.endField
  { ended with rows := ended.rows ++ [ended.row], row := [] }

def push (state : CsvState) (c : UInt16) : CsvState := { state with field := state.field ++ [c] }

def scan (state : CsvState) : Units → CsvState
  | [] => state
  | c :: rest =>
    if state.inQuotes then
      if c = quote then
        match rest with
        | next :: later =>
          if next = quote then (state.push quote).scan later
          else { state with inQuotes := false }.scan (next :: later)
        | [] => { state with inQuotes := false }.scan []
      else (state.push c).scan rest
    else if c = quote ∧ state.field.length = 0 then { state with inQuotes := true }.scan rest
    else if c = comma then state.endField.scan rest
    else if c = carriageReturn then state.scan rest
    else if c = lineFeed then state.endRow.scan rest
    else (state.push c).scan rest

-- what is left over at the end of the input is flushed
def finish (state : CsvState) : List (List Units) :=
  if state.field.length > 0 ∨ state.row.length > 0 then state.endRow.rows else state.rows

end CsvState

def parseCsv (input : Units) : List (List Units) :=
  let state : CsvState := { rows := [], row := [], field := [], inQuotes := false }
  (state.scan input).finish.filter fun row => ¬(row = [[]])

inductive Form where
  | bare | quoted
  deriving DecidableEq

def IsBare (text : Units) : Prop :=
  ∀ c ∈ text, c ≠ comma ∧ c ≠ quote ∧ c ≠ carriageReturn ∧ c ≠ lineFeed

/-- A field and the form it is written in; only some texts can stand bare. -/
structure Cell where
  text : Units
  form : Form
  allowed : form = .bare → IsBare text

inductive LineEnd where
  | lf | crlf
  deriving DecidableEq

def LineEnd.units : LineEnd → Units
  | .lf => [lineFeed]
  | .crlf => [carriageReturn, lineFeed]

def doubled (text : Units) : Units := text.flatMap fun c => if c = quote then [quote, quote] else [c]

def Cell.write (cell : Cell) : Units :=
  match cell.form with
  | .bare => cell.text
  | .quoted => quote :: (doubled cell.text ++ [quote])

def writeRow : List Cell → Units
  | [] => []
  | [cell] => cell.write
  | cell :: next :: rest => cell.write ++ comma :: writeRow (next :: rest)

/-- Every row brings its line end; that of the last one is written or left out. -/
def writeCsv (final : Bool) : List (List Cell × LineEnd) → Units
  | [] => []
  | [(row, lineEnd)] => writeRow row ++ if final then lineEnd.units else []
  | (row, lineEnd) :: next :: rest => writeRow row ++ lineEnd.units ++ writeCsv final (next :: rest)

def texts (row : List Cell) : List Units := row.map Cell.text

namespace CsvState

theorem scan_outside {state : CsvState} (outside : state.inQuotes = false) (c : UInt16) (rest : Units) :
    state.scan (c :: rest) =
      if c = quote ∧ state.field.length = 0 then { state with inQuotes := true }.scan rest
      else if c = comma then state.endField.scan rest
      else if c = carriageReturn then state.scan rest
      else if c = lineFeed then state.endRow.scan rest
      else (state.push c).scan rest := by
  cases rest <;> simp [scan, outside]

theorem scan_inside {state : CsvState} (inside : state.inQuotes = true) {c : UInt16}
    (other : c ≠ quote) (rest : Units) : state.scan (c :: rest) = (state.push c).scan rest := by
  cases rest <;> simp [scan, inside, other]

theorem scan_escaped {state : CsvState} (inside : state.inQuotes = true) (rest : Units) :
    state.scan (quote :: quote :: rest) = (state.push quote).scan rest := by
  simp [scan, inside]

theorem scan_closing {state : CsvState} (inside : state.inQuotes = true) {rest : Units}
    (ended : rest.head? ≠ some quote) :
    state.scan (quote :: rest) = { state with inQuotes := false }.scan rest := by
  cases rest with
  | nil => simp [scan, inside]
  | cons next later =>
    have other : next ≠ quote := fun same => ended (congrArg some same)
    simp [scan, inside, other]

theorem scan_bare {state : CsvState} (outside : state.inQuotes = false) {text : Units}
    (bare : IsBare text) (rest : Units) :
    state.scan (text ++ rest) = { state with field := state.field ++ text }.scan rest := by
  induction text generalizing state with
  | nil => simp
  | cons c text ih =>
    obtain ⟨⟨notComma, notQuote, notReturn, notFeed⟩, later⟩ := List.forall_mem_cons.mp bare
    have next := @ih (state.push c) outside later
    have step := scan_outside outside c (text ++ rest)
    rw [if_neg (fun opens => notQuote opens.1), if_neg notComma, if_neg notReturn, if_neg notFeed] at step
    rw [List.cons_append, step, next]
    simp [push]

theorem scan_doubled {state : CsvState} (inside : state.inQuotes = true) (text : Units) {rest : Units}
    (ended : rest.head? ≠ some quote) :
    state.scan (doubled text ++ quote :: rest)
      = { state with field := state.field ++ text, inQuotes := false }.scan rest := by
  induction text generalizing state with
  | nil =>
    rw [doubled, List.flatMap_nil, List.nil_append, scan_closing inside ended]
    simp
  | cons c text ih =>
    have next := @ih (state.push c) inside
    simp only [doubled, List.flatMap_cons] at next ⊢
    by_cases isQuote : c = quote
    · subst isQuote
      simp only [if_true, List.cons_append, List.nil_append]
      rw [scan_escaped inside, next]
      simp [push]
    · simp only [if_neg isQuote, List.cons_append, List.nil_append]
      rw [scan_inside inside isQuote, next]
      simp [push]

theorem scan_cell {state : CsvState} (outside : state.inQuotes = false) (empty : state.field = [])
    (cell : Cell) {rest : Units} (ended : rest.head? ≠ some quote) :
    state.scan (cell.write ++ rest) = { state with field := cell.text }.scan rest := by
  obtain ⟨text, form, allowed⟩ := cell
  cases form with
  | bare =>
    have read := scan_bare outside (allowed rfl) rest
    rw [empty, List.nil_append] at read
    exact read
  | quoted =>
    have opened := scan_outside outside quote (doubled text ++ quote :: rest)
    rw [if_pos ⟨rfl, by rw [empty, List.length_nil]⟩] at opened
    have read := @scan_doubled { state with inQuotes := true } rfl text rest ended
    simp only [Cell.write, List.cons_append, List.append_assoc, List.nil_append]
    rw [opened, read]
    simp [empty, outside]

theorem scan_row {state : CsvState} (outside : state.inQuotes = false) (empty : state.field = [])
    {row : List Cell} (cells : row ≠ []) {rest : Units} (ended : rest.head? ≠ some quote) :
    ∃ before last, before ++ [last] = state.row ++ texts row ∧
      state.scan (writeRow row ++ rest) = { state with row := before, field := last }.scan rest := by
  induction row generalizing state with
  | nil => exact absurd rfl cells
  | cons cell row ih =>
    cases row with
    | nil => exact ⟨state.row, cell.text, rfl, scan_cell outside empty cell ended⟩
    | cons next row =>
      have separated : (comma :: (writeRow (next :: row) ++ rest)).head? ≠ some quote := by
        rw [List.head?_cons]
        decide
      have first := scan_cell outside empty cell separated
      have delimiter := @scan_outside { state with field := cell.text } outside comma
        (writeRow (next :: row) ++ rest)
      rw [if_neg (by rintro ⟨same, -⟩; exact absurd same (by decide)), if_pos rfl] at delimiter
      obtain ⟨before, last, same, later⟩ := @ih { state with field := cell.text }.endField outside rfl
        (List.cons_ne_nil _ _)
      refine ⟨before, last, ?_, ?_⟩
      · rw [same]
        simp [endField, texts]
      · rw [writeRow, List.append_assoc, List.cons_append, first, delimiter, later]
        rfl

theorem scan_lineEnd {state : CsvState} (outside : state.inQuotes = false) (lineEnd : LineEnd)
    (rest : Units) : state.scan (lineEnd.units ++ rest) = state.endRow.scan rest := by
  have feed := scan_outside outside lineFeed rest
  rw [if_neg (by rintro ⟨same, -⟩; exact absurd same (by decide)), if_neg (by decide),
    if_neg (by decide), if_pos rfl] at feed
  cases lineEnd with
  | lf => exact feed
  | crlf =>
    have skipped := scan_outside outside carriageReturn (lineFeed :: rest)
    rw [if_neg (by rintro ⟨same, -⟩; exact absurd same (by decide)), if_neg (by decide),
      if_pos rfl] at skipped
    exact skipped.trans feed

theorem head?_lineEnd (lineEnd : LineEnd) (rest : Units) :
    (lineEnd.units ++ rest).head? ≠ some quote := by
  cases lineEnd <;> exact by simp [LineEnd.units, quote, lineFeed, carriageReturn]

def fresh (rows : List (List Units)) : CsvState := { rows, row := [], field := [], inQuotes := false }

theorem finish_fresh (rows : List (List Units)) : (fresh rows).finish = rows :=
  if_neg (by simp [fresh])

theorem scan_endedRow {row : List Cell} (cells : row ≠ []) (lineEnd : LineEnd) (rows : List (List Units))
    (rest : Units) :
    (fresh rows).scan (writeRow row ++ lineEnd.units ++ rest) = (fresh (rows ++ [texts row])).scan rest := by
  obtain ⟨before, last, same, read⟩ :=
    @scan_row (fresh rows) rfl rfl row cells (lineEnd.units ++ rest) (head?_lineEnd lineEnd rest)
  have ended := @scan_lineEnd { fresh rows with row := before, field := last } rfl lineEnd rest
  rw [List.append_assoc, read, ended]
  simp only [endRow, endField, same, fresh, List.nil_append]

-- The last row without a line end is flushed: it is more than one empty field.
theorem finish_lastRow {row : List Cell} (cells : row ≠ []) (visible : texts row ≠ [[]])
    (rows : List (List Units)) : ((fresh rows).scan (writeRow row)).finish = rows ++ [texts row] := by
  obtain ⟨before, last, same, read⟩ := @scan_row (fresh rows) rfl rfl row cells [] (by simp)
  rw [List.append_nil] at read
  have left : last.length > 0 ∨ before.length > 0 := by
    by_contra nothing
    simp only [not_or, Nat.not_lt, Nat.le_zero, List.length_eq_zero_iff] at nothing
    obtain ⟨rfl, rfl⟩ := nothing
    exact visible same.symm
  rw [read, scan, finish, if_pos left]
  simp only [endRow, endField, same, fresh, List.nil_append]

theorem finish_writeCsv (final : Bool) {table : List (List Cell × LineEnd)}
    (cells : ∀ row ∈ table, row.1 ≠ []) (visible : ∀ row ∈ table, texts row.1 ≠ [[]])
    (rows : List (List Units)) :
    ((fresh rows).scan (writeCsv final table)).finish = rows ++ table.map fun row => texts row.1 := by
  induction table generalizing rows with
  | nil => simp [writeCsv, scan, finish_fresh]
  | cons row table ih =>
    obtain ⟨row, lineEnd⟩ := row
    obtain ⟨here, later⟩ := List.forall_mem_cons.mp cells
    obtain ⟨hereVisible, laterVisible⟩ := List.forall_mem_cons.mp visible
    cases table with
    | nil =>
      cases final with
      | true =>
        have read := scan_endedRow here lineEnd rows []
        rw [List.append_nil] at read
        simp only [writeCsv, if_true, read, scan, finish_fresh, List.map_cons, List.map_nil]
      | false =>
        simp only [writeCsv, Bool.false_eq_true, if_false, List.append_nil, List.map_cons, List.map_nil]
        exact finish_lastRow here hereVisible rows
    | cons next table =>
      have read := scan_endedRow here lineEnd rows (writeCsv final (next :: table))
      rw [writeCsv, read, ih later laterVisible, List.map_cons, List.append_assoc]
      rfl

end CsvState

/-- A table that is written in any of the ways is read back. -/
theorem parseCsv_writeCsv (final : Bool) (table : List (List Cell × LineEnd))
    (cells : ∀ row ∈ table, row.1 ≠ []) (visible : ∀ row ∈ table, texts row.1 ≠ [[]]) :
    parseCsv (writeCsv final table) = table.map fun row => texts row.1 := by
  have read := CsvState.finish_writeCsv final cells visible []
  rw [List.nil_append] at read
  rw [parseCsv]
  refine Eq.trans (congrArg (List.filter _) read) (List.filter_eq_self.mpr ?_)
  intro row member
  obtain ⟨written, there, rfl⟩ := List.mem_map.mp member
  simpa using visible written there

def quotedCell (text : String) : Cell := ⟨JsonText.units text, .quoted, by rintro ⟨⟩⟩

-- an empty field at the end of a row, a quote and a line end inside a field
def sampleTable : List (List Cell × LineEnd) :=
  [([quotedCell "a\"", quotedCell ""], .crlf), ([quotedCell "b,\r\nc"], .lf)]

theorem parseCsv_sampleTable :
    parseCsv (writeCsv false sampleTable) = sampleTable.map fun row => texts row.1 :=
  parseCsv_writeCsv false sampleTable (by decide) (by decide)

end ZenPass.Importers
