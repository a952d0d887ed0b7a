import Bhiksha.ActivePlan.SheetRows
import Bhiksha.Library.BijectiveNumeral

/-! The client of a tab of a Google sheet: what it reads, and the ranges that it writes. -/

namespace Bhiksha.Integrations

open Library
open ActivePlan (Cell Payload)

/-- A tab: the text that is shown at a row and a column, both counted from zero. -/
abbrev Tab := ℕ → ℕ → String

/-- The text at a place of the values that the service returns; what is left out is blank. -/
def cellAt (values : List (List String)) (row column : ℕ) : String :=
  (values.getD row []).getD column ""

/-! ### The service -/

/-- A range of one row and the values for its cells. Rows are counted from one. -/
structure RangeUpdate where
  firstColumn : List Char
  lastColumn : List Char
  row : ℕ
  values : List Cell

/-- The column that letters name. -/
def columnNumber (letters : List Char) : ℕ :=
  numeralValue 26 (letters.map fun letter => letter.toNat - 'A'.toNat) - 1

/-- The spreadsheet service: the values of the first rows and columns of a tab, and the text that is
shown where a value has been entered. -/
structure SheetsService where
  get : Tab → ℕ → ℕ → List (List String)
  entered : Cell → String
  cellAt_get : ∀ tab rows columns row column, cellAt (get tab rows columns) row column =
    if row < rows ∧ column < columns then tab row column else ""

/-- `_sheet_cell_value`. -/
def sheetCellValue : Cell → Cell
  | .none => .text ""
  | .bool b => .text (if b then "TRUE" else "FALSE")
  | cell => cell

def SheetsService.enter (service : SheetsService) (tab : Tab) (update : RangeUpdate) : Tab :=
  fun row column =>
    if row + 1 = update.row ∧ columnNumber update.firstColumn ≤ column ∧
        column ≤ columnNumber update.lastColumn then
      ((update.values[column - columnNumber update.firstColumn]?).map service.entered).getD
        (tab row column)
    else tab row column

def SheetsService.batchUpdate (service : SheetsService) (tab : Tab) (data : List RangeUpdate) : Tab :=
  data.foldl service.enter tab

/-! ### The layout -/

structure SheetLayout where
  headerRowNumber : ℕ
  headerStartIndex : ℕ
  headers : List String
deriving DecidableEq, Repr

def nonEmptyIndexes (row : List String) : List ℕ :=
  (List.range row.length).filter fun index => !Python.isBlank (row.getD index "")

def layoutOf (rowNumber : ℕ) (row : List String) : SheetLayout :=
  let start := (nonEmptyIndexes row).headD 0
  { headerRowNumber := rowNumber
    headerStartIndex := start
    headers := ((row.drop start).filter fun header => !Python.isBlank header).map Python.strip }

/-- `_detect_layout`, with the number of the row that comes next. -/
def detectLayoutFrom (rowNumber : ℕ) : List (List String) → Option SheetLayout
  | [] => none
  | row :: rest =>
    if (nonEmptyIndexes row).length < 2 then detectLayoutFrom (rowNumber + 1) rest
    else if (layoutOf rowNumber row).headers.isEmpty then detectLayoutFrom (rowNumber + 1) rest
    else some (layoutOf rowNumber row)

def detectLayout (values : List (List String)) : Option SheetLayout := detectLayoutFrom 1 values

/-- `_column_letters`. -/
def columnLetters (index : ℕ) : List Char :=
  (numeral 26 index).map fun digit => Char.ofNat ('A'.toNat + digit)

/-! ### The client -/

structure GoogleSheetTableClient where
  sheetName : String
  service : SheetsService

namespace GoogleSheetTableClient

variable (client : GoogleSheetTableClient) (tab : Tab)

/-- The columns `A:ZZ`. -/
@[irreducible] def rangeColumns : ℕ := 702

/-- The rows of `A1:ZZ2000`, which `read_rows` reads. -/
@[irreducible] def readRange : ℕ := 2000

/-- The rows of `A1:ZZ200`, in which the layout is looked for. -/
@[irreducible] def layoutRange : ℕ := 200

def readValues (rows : ℕ) : List (List String) := client.service.get tab rows rangeColumns

/-- The payload of a row whose cells from the first header on are given. -/
def rowPayload (headers : List String) (rowNumber : ℕ) (relevant : List String) : Payload :=
  let padded := relevant ++ List.replicate (headers.length - relevant.length) ""
  let payload := Payload.merge [] (headers.zip (padded.map Cell.text))
  Payload.set payload "row_index" (.int rowNumber)

def readRows : List Payload :=
  let values := client.readValues tab readRange
  match detectLayout values with
  | none => []
  | some layout =>
    ((values.drop layout.headerRowNumber).zipIdx (layout.headerRowNumber + 1)).filterMap
      fun (row, rowNumber) =>
        let relevant := row.drop layout.headerStartIndex
        if relevant.all Python.isBlank then none
        else some (rowPayload layout.headers rowNumber relevant)

def readLayout : Except PyException SheetLayout :=
  match detectLayout (client.readValues tab layoutRange) with
  | none => .error (.valueError
      ("Could not find a header row in Google Sheet tab " ++ Python.reprString client.sheetName))
  | some layout => .ok layout

/-- A pass of the loop that appends the missing columns, with the flag `changed`. -/
def appendColumn (state : List String × Bool) (column : String) : List String × Bool :=
  let normalized := Python.strip column
  if normalized ≠ "" ∧ normalized ∉ state.1 then (state.1 ++ [normalized], true) else state

/-- `ensure_columns`, with the tab that it leaves. -/
def ensureColumns (columns : List String) : Except PyException (List String) × Tab :=
  match client.readLayout tab with
  | .error e => (.error e, tab)
  | .ok layout =>
    let (headers, changed) := columns.foldl appendColumn (layout.headers, false)
    if changed then
      (.ok headers, client.service.batchUpdate tab
        [{ firstColumn := columnLetters layout.headerStartIndex
           lastColumn := columnLetters (layout.headerStartIndex + headers.length - 1)
           row := layout.headerRowNumber
           values := headers.map Cell.text }])
    else (.ok headers, tab)

/-- `headers.index(column_name)`. -/
def headerIndex (headers : List String) (columnName : String) : Except PyException ℕ :=
  if columnName ∈ headers then .ok (headers.idxOf columnName)
  else .error (.valueError (Python.reprString columnName ++ " is not in list"))

/-- The range of one named cell. -/
def cellUpdate (headers : List String) (startIndex rowIndex : ℕ) (value : String × Cell) :
    Except PyException RangeUpdate :=
  (headerIndex headers value.1).map fun index =>
    let column := columnLetters (startIndex + index)
    { firstColumn := column
      lastColumn := column
      row := rowIndex
      values := [sheetCellValue value.2] }

/-- `update_row_cells`, with the tab that it leaves. -/
def updateRowCells (rowIndex : ℕ) (values : Payload) : Except PyException Unit × Tab :=
  if values.isEmpty then (.ok (), tab)
  else
    match client.ensureColumns tab (values.map Prod.fst) with
    | (.error e, tab) => (.error e, tab)
    | (.ok headers, tab) =>
      match client.readLayout tab with
      | .error e => (.error e, tab)
      | .ok layout =>
        match values.mapM (cellUpdate headers layout.headerStartIndex rowIndex) with
        | .error e => (.error e, tab)
        | .ok data => (.ok (), client.service.batchUpdate tab data)

end GoogleSheetTableClient

end Bhiksha.Integrations
