import ZenPass.Importers.Csv

set_option autoImplicit false

namespace ZenPass.Importers

open JsonText (Units units)

def rowOutcomes (columns : List (Option Column)) : Nat → List (List Units) → NormalizeResult →
    List Outcome :=
  outcomes (normalizeRow columns)

def NormalizedItem.field (item : NormalizedItem) : Role → Option Units
  | .title => some item.title
  | .username => item.username
  | .password => item.password
  | .url => item.url
  | .notes => item.notes
  | .totp => item.totp
  | .folder => item.folder

-- The rows of the file with their positions in it; `parseCsv` leaves the blank ones out.
def fileRows (input : Units) : List (List Units) := ((CsvState.fresh []).scan input).finish

def visibleRows (input : Units) : List (List Units × Nat) :=
  (fileRows input).zipIdx.filter fun row => ¬(row.1 = [[]])

-- An issue says that the row was left out as a whole.
def Outcome.Skipped (outcome : Outcome) (position : Nat) : Prop :=
  ∃ issue ∈ outcome.issues,
    issue.index = position ∧ (issue.reason = noTitleReason ∨ issue.reason = droppedReason)

-- An issue says that this very cell was cut.
def Outcome.Cut (outcome : Outcome) (position : Nat) (role : Role) (cell : Units) : Prop :=
  maxFieldChars < cell.length ∧ ⟨position, truncatedReason (.role role)⟩ ∈ outcome.issues

structure RowKept (columns : List (Option Column)) (row : List Units) (position : Nat)
    (outcome : Outcome) : Prop where
  given : outcome.items ≠ [] ∨ outcome.Skipped position
  cells : ∀ role cell, (some (.role role), cell) ∈ columns.zip row → cell ≠ [] →
    (∃ item ∈ outcome.items, item.field role = some cell) ∨ outcome.Cut position role cell ∨
      outcome.Skipped position
  shape : row.length ≠ columns.length → outcome.Skipped position

/-- `rows` are the rows below the header, each with its position in the file. -/
def LosesNothing (columns : List (Option Column)) (rows : List (List Units × Nat)) : Prop :=
  ∀ (i : Nat) row position outcome, rows[i]? = some (row, position) →
    (rowOutcomes columns 1 (rows.map Prod.fst) .empty)[i]? = some outcome →
    RowKept columns row position outcome

def cellsUnder (role : Role) (columns : List (Option Column)) (row : List Units) : List Units :=
  (columns.zip row).filterMap fun entry =>
    if entry.1 = some (.role role) ∧ entry.2 ≠ [] then some entry.2 else none

def titled (columns : List (Option Column)) (row : List Units) : Bool :=
  [Role.title, .username, .url].any fun role => cellsUnder role columns row ≠ []

/-- Of several cells under one role the last one that is not empty is taken, cut to the limit. -/
def mappedRow (columns : List (Option Column)) (row : List Units) : MappedRow := fun role =>
  (cellsUnder role columns row).getLast?.map (List.take maxFieldChars)

/-- The row is as long as the header, and each cell is what its role keeps, or is over the limit where
the index of its issue is right. -/
structure Plain (columns : List (Option Column)) (row : List Units) (index position : Nat) : Prop where
  shape : row.length = columns.length
  cells : ∀ role, ∀ cell ∈ cellsUnder role columns row,
    mappedRow columns row role = some cell ∨ (maxFieldChars < cell.length ∧ position = index)

/-- A row that is left out stands where no blank line came before it; any other row is plain. -/
def RowSafe (columns : List (Option Column)) (full : Prop) (row : List Units) (index position : Nat) :
    Prop :=
  ((full ∨ titled columns row = false) ∧ position = index) ∨
    (¬full ∧ titled columns row = true ∧ Plain columns row index position)

def NothingToLose (columns : List (Option Column)) (rows : List (List Units × Nat)) : Prop :=
  ∀ (i : Nat) row position, rows[i]? = some (row, position) →
    RowSafe columns (maxItems ≤ ((rows.map Prod.fst).take i).countP (titled columns)) row (i + 1) position

theorem boundField_value (cell : Units) :
    (boundField (some cell)).1 = if cell = [] then none else some (cell.take maxFieldChars) := by
  simp only [boundField, List.length_eq_zero_iff]
  split_ifs with empty short
  · rfl
  · rw [List.take_of_length_le short]
  · rfl

def cutIssues (index : Nat) (columns : List (Option Column)) (row : List Units) : List NormalizeIssue :=
  (columns.zip row).filterMap fun entry =>
    entry.1.bind fun column =>
      if (boundField (some entry.2)).2 then
        some ⟨index, truncatedReason column⟩
      else none

theorem mapCells_issues (index : Nat) (columns : List (Option Column)) (row : List Units)
    (mapped : MappedRow) (issues : List NormalizeIssue) :
    (mapCells index columns row (mapped, issues)).2 = issues ++ cutIssues index columns row := by
  induction columns generalizing row mapped issues with
  | nil => simp [mapCells, cutIssues]
  | cons column columns ih =>
    cases row with
    | nil => cases column <;> simp [mapCells, cutIssues]
    | cons cell row =>
      cases column with
      | none => simpa [mapCells, cutIssues] using ih row mapped issues
      | some column =>
        simp only [mapCells, ih]
        by_cases truncated : (boundField (some cell)).2 = true
        · simp [cutIssues, truncated]
        · simp [cutIssues, truncated]

theorem cellsUnder_cons (role : Role) (column : Option Column) (columns : List (Option Column))
    (cell : Units) (row : List Units) :
    cellsUnder role (column :: columns) (cell :: row) =
      if column = some (.role role) ∧ cell ≠ [] then cell :: cellsUnder role columns row
      else cellsUnder role columns row := by
  simp only [cellsUnder, List.zip_cons_cons, List.filterMap_cons]
  by_cases under : column = some (.role role) ∧ cell ≠ []
  · rw [if_pos under, if_pos under]
  · rw [if_neg under, if_neg under]

theorem mapCells_mapped (index : Nat) (columns : List (Option Column)) (row : List Units)
    (mapped : MappedRow) (issues : List NormalizeIssue) (role : Role) :
    (mapCells index columns row (mapped, issues)).1 role = (mappedRow columns row role).or (mapped role) := by
  induction columns generalizing row mapped issues with
  | nil => simp [mapCells, mappedRow, cellsUnder]
  | cons column columns ih =>
    cases row with
    | nil => cases column <;> simp [mapCells, mappedRow, cellsUnder]
    | cons cell row =>
      cases column with
      | none =>
        have next := ih row mapped issues
        simpa [mapCells, mappedRow, cellsUnder_cons] using next
      | some column =>
        simp only [mapCells, ih, mappedRow, cellsUnder_cons, boundField_value]
        cases column with
        | inherited => simp
        | role taken =>
          by_cases empty : cell = []
          · simp [empty]
          · by_cases same : taken = role
            · subst same
              simp only [empty, ↓reduceIte, Function.update_self, ne_eq, not_false_eq_true, and_self,
                List.getLast?_cons]
              cases (cellsUnder taken columns row).getLast? <;> simp
            · have other : role ≠ taken := fun eq => same eq.symm
              simp [empty, same, Function.update_of_ne other]

theorem mem_cellsUnder {role : Role} {columns : List (Option Column)} {row : List Units} {cell : Units} :
    cell ∈ cellsUnder role columns row ↔ (some (.role role), cell) ∈ columns.zip row ∧ cell ≠ [] := by
  simp only [cellsUnder, List.mem_filterMap]
  constructor
  · rintro ⟨⟨column, text⟩, mem, picked⟩
    split_ifs at picked with under
    cases picked
    exact ⟨under.1 ▸ mem, under.2⟩
  · rintro ⟨mem, filled⟩
    exact ⟨_, mem, if_pos ⟨rfl, filled⟩⟩

theorem mem_cutIssues {index : Nat} {columns : List (Option Column)} {row : List Units}
    {issue : NormalizeIssue} :
    issue ∈ cutIssues index columns row ↔
      ∃ column cell, (some column, cell) ∈ columns.zip row ∧ maxFieldChars < cell.length ∧
        issue = ⟨index, truncatedReason column⟩ := by
  constructor
  · intro mem
    obtain ⟨⟨column, cell⟩, entry, picked⟩ := List.mem_filterMap.mp mem
    obtain ⟨known, same, picked⟩ := Option.bind_eq_some_iff.mp picked
    obtain rfl : column = some known := same
    split_ifs at picked with truncated
    obtain ⟨text, whole, long⟩ := boundField_truncated.mp truncated
    cases whole
    exact ⟨known, cell, entry, long, (Option.some.inj picked).symm⟩
  · rintro ⟨column, cell, entry, long, rfl⟩
    refine List.mem_filterMap.mpr ⟨_, entry, ?_⟩
    simp [boundField_truncated.mpr ⟨cell, rfl, long⟩]

theorem truncatedReason_not_skipped (column : Column) :
    ¬(truncatedReason column = noTitleReason ∨ truncatedReason column = droppedReason) := by
  cases column with
  | inherited => decide
  | role role => cases role <;> decide

theorem mappedRow_eq_none {columns : List (Option Column)} {row : List Units} {role : Role} :
    mappedRow columns row role = none ↔ cellsUnder role columns row = [] := by
  simp [mappedRow]

theorem mappedRow_ne_nil {columns : List (Option Column)} {row : List Units} {role : Role} {text : Units}
    (taken : mappedRow columns row role = some text) : text ≠ [] := by
  obtain ⟨cell, last, rfl⟩ := Option.map_eq_some_iff.mp taken
  have filled := (mem_cellsUnder.mp (List.mem_of_getLast? last)).2
  simpa [maxFieldChars] using filled

def rowTitle (columns : List (Option Column)) (row : List Units) : Option Units :=
  (mappedRow columns row .title).or ((mappedRow columns row .username).or (mappedRow columns row .url))

theorem rowTitle_isSome (columns : List (Option Column)) (row : List Units) :
    (rowTitle columns row).isSome = titled columns row := by
  rw [Bool.eq_iff_iff]
  simp [rowTitle, titled, Option.isSome_or, Option.isSome_iff_ne_none, mappedRow_eq_none]

theorem rowTitle_ne_nil {columns : List (Option Column)} {row : List Units} {title : Units}
    (found : rowTitle columns row = some title) : title ≠ [] := by
  simp only [rowTitle, Option.or_eq_some_iff] at found
  obtain taken | ⟨-, taken | ⟨-, taken⟩⟩ := found
  all_goals exact mappedRow_ne_nil taken

def rowItem (columns : List (Option Column)) (row : List Units) (title : Units) : NormalizedItem :=
  { title
    username := mappedRow columns row .username
    password := mappedRow columns row .password
    url := mappedRow columns row .url
    otherUrls := none
    notes := mappedRow columns row .notes
    totp := mappedRow columns row .totp
    folder := mappedRow columns row .folder
    source := .csv }

def rowOutcome (columns : List (Option Column)) (index : Nat) (full : Bool) (row : List Units) :
    Outcome :=
  if full then { items := [], issues := [⟨index, droppedReason⟩] }
  else
    match rowTitle columns row with
    | none => { items := [], issues := cutIssues index columns row ++ [⟨index, noTitleReason⟩] }
    | some title => { items := [rowItem columns row title], issues := cutIssues index columns row }

theorem normalizeRow_eq (columns : List (Option Column)) (index : Nat) (row : List Units)
    (result : NormalizeResult) :
    normalizeRow columns index row result =
      let outcome := rowOutcome columns index (decide (maxItems ≤ result.items.length)) row
      { items := result.items ++ outcome.items, issues := result.issues ++ outcome.issues } := by
  have mapped : (mapCells index columns row (fun _ => none, [])).1 = mappedRow columns row := by
    funext role
    simp [mapCells_mapped]
  by_cases full : maxItems ≤ result.items.length
  · simp [normalizeRow, rowOutcome, full, NormalizeResult.issue]
  · simp only [normalizeRow, rowOutcome, ge_iff_le, full, ↓reduceIte, decide_false, Bool.false_eq_true, mapped,
      mapCells_issues, List.nil_append]
    rw [← rowTitle]
    cases found : rowTitle columns row with
    | none => simp [NormalizeResult.issue]
    | some title =>
      have secret : (mappedRow columns row .totp).filter (fun secret => decide (secret ≠ [])) =
          mappedRow columns row .totp := by
        cases taken : mappedRow columns row .totp with
        | none => simp
        | some text => simp [Option.filter_some, mappedRow_ne_nil taken]
      rw [secret]
      simp [rowTitle_ne_nil found, NormalizeResult.item, rowItem]

theorem rowOutcome_skipped {columns : List (Option Column)} {index position : Nat} {full : Bool}
    {row : List Units} :
    (rowOutcome columns index full row).Skipped position ↔
      (full = true ∨ titled columns row = false) ∧ position = index := by
  have cut {issue : NormalizeIssue} (mem : issue ∈ cutIssues index columns row) :
      ¬(issue.reason = noTitleReason ∨ issue.reason = droppedReason) := by
    obtain ⟨column, -, -, -, rfl⟩ := mem_cutIssues.mp mem
    exact truncatedReason_not_skipped column
  have title := rowTitle_isSome columns row
  cases full with
  | true => simpa [rowOutcome, Outcome.Skipped] using eq_comm
  | false =>
    cases found : rowTitle columns row with
    | none =>
      have untitled : titled columns row = false := by simpa [found] using title.symm
      have own : (rowOutcome columns index false row).issues =
          cutIssues index columns row ++ [⟨index, noTitleReason⟩] := by simp [rowOutcome, found]
      rw [Outcome.Skipped, own]
      constructor
      · rintro ⟨issue, mem, rfl, why⟩
        obtain mem | mem := List.mem_append.mp mem
        · exact absurd why (cut mem)
        · rw [List.mem_singleton.mp mem]
          exact ⟨.inr untitled, rfl⟩
      · rintro ⟨-, rfl⟩
        exact ⟨_, List.mem_append_right _ (List.mem_singleton_self _), rfl, .inl rfl⟩
    | some title' =>
      have named : titled columns row = true := by simpa [found] using title.symm
      have own : (rowOutcome columns index false row).issues = cutIssues index columns row := by
        simp [rowOutcome, found]
      rw [Outcome.Skipped, own, named]
      constructor
      · rintro ⟨issue, mem, -, why⟩
        exact absurd why (cut mem)
      · rintro ⟨full | untitled, -⟩
        · cases full
        · cases untitled

theorem rowOutcome_cut {columns : List (Option Column)} {index position : Nat} {row : List Units}
    {role : Role} {cell : Units} (entry : (some (.role role), cell) ∈ columns.zip row)
    (named : titled columns row = true) :
    (rowOutcome columns index false row).Cut position role cell ↔
      maxFieldChars < cell.length ∧ position = index := by
  obtain ⟨title, found⟩ := Option.isSome_iff_exists.mp ((rowTitle_isSome columns row).trans named)
  have own : (rowOutcome columns index false row).issues = cutIssues index columns row := by
    simp [rowOutcome, found]
  rw [Outcome.Cut, own]
  refine and_congr_right fun long => ?_
  constructor
  · intro mem
    obtain ⟨_, _, _, _, same⟩ := mem_cutIssues.mp mem
    exact congrArg NormalizeIssue.index same
  · rintro rfl
    exact mem_cutIssues.mpr ⟨_, cell, entry, long, rfl⟩

/-- A cell that is over the limit is always reported, whatever else becomes of its row. -/
theorem rowOutcome_reports {columns : List (Option Column)} (index : Nat) {full : Bool}
    {row : List Units} (why : full = true ∨ ∃ column cell,
      (some column, cell) ∈ columns.zip row ∧ maxFieldChars < cell.length) :
    ∃ issue ∈ (rowOutcome columns index full row).issues, issue.index = index := by
  cases full with
  | true => exact ⟨_, List.mem_singleton_self _, rfl⟩
  | false =>
    obtain full | ⟨column, cell, entry, long⟩ := why
    · cases full
    have mem : ⟨index, truncatedReason column⟩ ∈ cutIssues index columns row :=
      mem_cutIssues.mpr ⟨column, cell, entry, long, rfl⟩
    refine ⟨⟨index, truncatedReason column⟩, ?_, rfl⟩
    cases found : rowTitle columns row with
    | none => simpa [rowOutcome, found] using .inl mem
    | some title => simpa [rowOutcome, found] using mem

theorem rowOutcome_items {columns : List (Option Column)} {index : Nat} {full : Bool} {row : List Units}
    {item : NormalizedItem} :
    item ∈ (rowOutcome columns index full row).items ↔
      full = false ∧ ∃ title, rowTitle columns row = some title ∧ item = rowItem columns row title := by
  cases full with
  | true => simp [rowOutcome]
  | false => cases found : rowTitle columns row <;> simp [rowOutcome, found]

theorem rowItem_field {columns : List (Option Column)} {row : List Units} {title : Units}
    (found : rowTitle columns row = some title) {role : Role} {text : Units}
    (taken : mappedRow columns row role = some text) : (rowItem columns row title).field role = some text := by
  cases role with
  | title =>
    have first : rowTitle columns row = some text := by rw [rowTitle, taken, Option.some_or]
    rw [NormalizedItem.field, rowItem, ← found, first]
  | username => exact taken
  | password => exact taken
  | url => exact taken
  | notes => exact taken
  | totp => exact taken
  | folder => exact taken

theorem cell_kept_iff {columns : List (Option Column)} {row : List Units} {title : Units}
    (found : rowTitle columns row = some title) {role : Role} {cell : Units}
    (mem : cell ∈ cellsUnder role columns row) :
    (rowItem columns row title).field role = some cell ↔ mappedRow columns row role = some cell := by
  constructor
  · intro field
    cases taken : mappedRow columns row role with
    | none =>
      rw [mappedRow_eq_none.mp taken] at mem
      cases mem
    | some text => exact (rowItem_field found taken).symm.trans field
  · exact rowItem_field found

theorem rowKept_iff {columns : List (Option Column)} {index position : Nat} {full : Bool}
    {row : List Units} :
    RowKept columns row position (rowOutcome columns index full row) ↔
      RowSafe columns (full = true) row index position := by
  by_cases skipped : (rowOutcome columns index full row).Skipped position
  · constructor
    · intro
      exact .inl (rowOutcome_skipped.mp skipped)
    · intro
      exact ⟨.inr skipped, fun _ _ _ _ => .inr (.inr skipped), fun _ => skipped⟩
  · have unskipped := mt rowOutcome_skipped.mpr skipped
    constructor
    · intro kept
      obtain ⟨item, made⟩ := List.exists_mem_of_ne_nil _ (kept.given.resolve_right skipped)
      obtain ⟨rfl, title, found, rfl⟩ := rowOutcome_items.mp made
      have named : titled columns row = true := by rw [← rowTitle_isSome, found, Option.isSome_some]
      refine .inr ⟨Bool.false_ne_true, named, ?_, ?_⟩
      · exact of_not_not fun ragged => skipped (kept.shape ragged)
      · intro role cell mem
        obtain ⟨under, filled⟩ := mem_cellsUnder.mp mem
        obtain ⟨item, made, holds⟩ | cut | absurd' := kept.cells role cell under filled
        · obtain ⟨-, other, found', rfl⟩ := rowOutcome_items.mp made
          cases found.symm.trans found'
          exact .inl ((cell_kept_iff found mem).mp holds)
        · exact .inr ((rowOutcome_cut under named).mp cut)
        · exact absurd absurd' skipped
    · rintro (leftOut | ⟨notFull, named, plain⟩)
      · exact absurd leftOut unskipped
      · obtain rfl : full = false := by simpa using notFull
        obtain ⟨title, found⟩ := Option.isSome_iff_exists.mp ((rowTitle_isSome columns row).trans named)
        have made : rowItem columns row title ∈ (rowOutcome columns index false row).items :=
          rowOutcome_items.mpr ⟨rfl, title, found, rfl⟩
        refine ⟨.inl (List.ne_nil_of_mem made), ?_, fun ragged => absurd plain.shape ragged⟩
        intro role cell under filled
        have mem := mem_cellsUnder.mpr ⟨under, filled⟩
        obtain taken | long := plain.cells role cell mem
        · exact .inl ⟨_, made, (cell_kept_iff found mem).mpr taken⟩
        · exact .inr (.inl ((rowOutcome_cut under named).mpr long))

theorem adds_normalizeRow (columns : List (Option Column)) :
    Adds (normalizeRow columns) (rowOutcome columns) (titled columns) where
  eq index row result := normalizeRow_eq columns index row result
  full index row := rfl
  count index row := by
    rw [← rowTitle_isSome]
    cases found : rowTitle columns row <;> simp [rowOutcome, found]

theorem parseCsv_eq_visibleRows (input : Units) : parseCsv input = (visibleRows input).map Prod.fst := by
  have rows : fileRows input = (fileRows input).zipIdx.map Prod.fst := by simp
  calc parseCsv input
    _ = (fileRows input).filter fun row => ¬(row = [[]]) := rfl
    _ = ((fileRows input).zipIdx.map Prod.fst).filter fun row => ¬(row = [[]]) := by rw [← rows]
    _ = (visibleRows input).map Prod.fst := List.filter_map

def lowerAscii (text : Units) : Units := text.map fun c => if 0x41 ≤ c ∧ c ≤ 0x5A then c + 0x20 else c

def plainFile : Units := units "Title,Password\nsite,a\n,b"

def lossyFile : Units := units "title,password,pass\n\nsite,a,b\nother,c\n,d,e"

def lossyColumns : List (Option Column) := columnRoles lowerAscii [units "title", units "password", units "pass"]

def lossyRows : List (List Units × Nat) :=
  [([units "site", units "a", units "b"], 2), ([units "other", units "c"], 3), ([[], units "d", units "e"], 4)]

end ZenPass.Importers
