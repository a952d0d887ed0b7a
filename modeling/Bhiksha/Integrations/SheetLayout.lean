import Mathlib.Data.List.GetD
import Mathlib.Tactic.IntervalCases
import Bhiksha.Integrations.GoogleSheets
import Bhiksha.Library.SortedBy

/-! The layout that is detected, in terms of the cells of the tab. -/

namespace Bhiksha.Integrations

open Library
open ActivePlan (Cell Payload)
open GoogleSheetTableClient (rangeColumns)

/-! ### Column letters -/

theorem columnNumber_columnLetters (index : ℕ) : columnNumber (columnLetters index) = index := by
  have hdigits : (columnLetters index).map (fun letter => letter.toNat - 'A'.toNat) =
      numeral 26 index := by
    unfold columnLetters
    rw [List.map_map]
    conv_rhs => rw [← List.map_id (numeral 26 index)]
    apply List.map_congr_left
    intro digit hdigit
    have hlt : digit < 26 := lt_of_mem_numeral (by omega) hdigit
    -- a letter is the character so many places after the first one
    interval_cases digit <;> rfl
  unfold columnNumber
  rw [hdigits, numeralValue_numeral, Nat.add_sub_cancel]

/-! ### A row of values -/

/-- The columns of the read range under which a row has text. -/
def headerColumns (cells : ℕ → String) : List ℕ :=
  (List.range rangeColumns).filter fun column => !Python.isBlank (cells column)

def headersOf (cells : ℕ → String) : List String :=
  (headerColumns cells).map fun column => Python.strip (cells column)

def firstColumn (cells : ℕ → String) : ℕ := (headerColumns cells).headD 0

section Row

variable {row : List String} {cells : ℕ → String} {column : ℕ}

theorem mem_headerColumns : column ∈ headerColumns cells ↔
    column < rangeColumns ∧ Python.isBlank (cells column) = false := by
  unfold headerColumns
  rw [List.mem_filter, List.mem_range, Bool.not_eq_true']

theorem headerColumns_sorted (cells : ℕ → String) : (headerColumns cells).Pairwise (· < ·) :=
  List.pairwise_lt_range.filter _

theorem mem_nonEmptyIndexes : column ∈ nonEmptyIndexes row ↔
    Python.isBlank (row.getD column "") = false := by
  unfold nonEmptyIndexes
  rw [List.mem_filter, List.mem_range, Bool.not_eq_true']
  refine and_iff_right_of_imp fun hcell => ?_
  by_contra hge
  have hempty : row.getD column "" = "" := by
    rw [List.getD_eq_getElem?_getD, List.getElem?_eq_none (not_lt.mp hge)]
    rfl
  rw [hempty] at hcell
  exact absurd hcell (by decide)

theorem nonEmptyIndexes_sorted (row : List String) : (nonEmptyIndexes row).Pairwise (· < ·) :=
  List.pairwise_lt_range.filter _

/-- The row of values shows the cells of a row of the tab. -/
def ShowsRow (row : List String) (cells : ℕ → String) : Prop :=
  ∀ column, row.getD column "" = if column < rangeColumns then cells column else ""

theorem nonEmptyIndexes_eq (h : ShowsRow row cells) : nonEmptyIndexes row = headerColumns cells := by
  have hkey : (nonEmptyIndexes row).Pairwise fun a b => id a < id b := nonEmptyIndexes_sorted row
  refine eq_of_strictly_sorted hkey (headerColumns_sorted cells) fun column => ?_
  rw [mem_nonEmptyIndexes, mem_headerColumns, h column]
  split_ifs with hcolumn
  · rw [and_iff_right hcolumn]
  · exact iff_of_false (by decide) fun hmem => hcolumn hmem.1

/-- The cells with text, by their indexes. -/
theorem filter_eq_map_nonEmptyIndexes (row : List String) :
    row.filter (fun header => !Python.isBlank header) =
      (nonEmptyIndexes row).map fun column => row.getD column "" := by
  have hrow : (List.range row.length).map (fun column => row.getD column "") = row := by
    apply List.ext_getElem
    · rw [List.length_map, List.length_range]
    · intro index hleft hright
      rw [List.getElem_map, List.getElem_range, List.getD_eq_getElem _ _ hright]
  conv_lhs => rw [← hrow]
  rw [List.filter_map]
  rfl

/-- Nothing stands before the first cell with text. -/
theorem filter_drop_headD (row : List String) :
    (row.drop ((nonEmptyIndexes row).headD 0)).filter (fun header => !Python.isBlank header) =
      row.filter fun header => !Python.isBlank header := by
  set start := (nonEmptyIndexes row).headD 0 with hstart
  have hbefore : (row.take start).filter (fun header => !Python.isBlank header) = [] := by
    rw [List.filter_eq_nil_iff]
    intro header hheader htext
    obtain ⟨index, hindex, rfl⟩ := List.mem_iff_getElem.mp hheader
    rw [List.length_take] at hindex
    have hmem : index ∈ nonEmptyIndexes row := by
      rw [mem_nonEmptyIndexes, List.getD_eq_getElem _ _ (by omega)]
      rw [List.getElem_take, Bool.not_eq_true'] at htext
      exact htext
    have hsorted := nonEmptyIndexes_sorted row
    cases hindexes : nonEmptyIndexes row with
    | nil =>
      rw [hindexes] at hmem
      cases hmem
    | cons first rest =>
      rw [hindexes] at hmem hsorted hstart
      have hstart' : start = first := hstart
      rcases List.mem_cons.mp hmem with heq | hrest
      · omega
      · have hlt := List.rel_of_pairwise_cons hsorted hrest
        omega
  conv_rhs => rw [← List.take_append_drop start row, List.filter_append, hbefore]
  rw [List.nil_append]

theorem layoutOf_eq (h : ShowsRow row cells) (rowNumber : ℕ) : layoutOf rowNumber row =
    { headerRowNumber := rowNumber
      headerStartIndex := firstColumn cells
      headers := headersOf cells } := by
  have hcolumns := nonEmptyIndexes_eq h
  have hheaders : ((row.drop ((nonEmptyIndexes row).headD 0)).filter
      (fun header => !Python.isBlank header)).map Python.strip = headersOf cells := by
    rw [filter_drop_headD, filter_eq_map_nonEmptyIndexes, hcolumns, List.map_map]
    apply List.map_congr_left
    intro column hcolumn
    have hlt : column < rangeColumns := (mem_headerColumns.mp hcolumn).1
    rw [Function.comp_apply, h column, if_pos hlt]
  unfold layoutOf firstColumn
  dsimp only
  rw [hheaders, hcolumns]

end Row

/-! ### The row that is detected -/

/-- The first row of the tab with two headers. -/
def IsHeaderRow (tab : Tab) (header : ℕ) : Prop :=
  2 ≤ (headerColumns (tab header)).length ∧
    ∀ row < header, (headerColumns (tab row)).length < 2

section Detect

variable {values : List (List String)} {tab : Tab} {header rows : ℕ}

theorem detectLayoutFrom_eq_none (rowNumber : ℕ)
    (h : ∀ row ∈ values, (nonEmptyIndexes row).length < 2) :
    detectLayoutFrom rowNumber values = none := by
  induction values generalizing rowNumber with
  | nil => rfl
  | cons row rest ih =>
    unfold detectLayoutFrom
    rw [if_pos (h row List.mem_cons_self)]
    exact ih (rowNumber + 1) fun row hrow => h row (List.mem_cons_of_mem _ hrow)

theorem detectLayoutFrom_eq_some (rowNumber : ℕ) {index : ℕ} {row : List String}
    (hrow : values[index]? = some row) (htwo : 2 ≤ (nonEmptyIndexes row).length)
    (hfirst : ∀ before ∈ values.take index, (nonEmptyIndexes before).length < 2)
    (hheaders : (layoutOf (rowNumber + index) row).headers ≠ []) :
    detectLayoutFrom rowNumber values = some (layoutOf (rowNumber + index) row) := by
  induction values generalizing rowNumber index with
  | nil => cases hrow
  | cons first rest ih =>
    unfold detectLayoutFrom
    cases index with
    | zero =>
      obtain rfl : first = row := Option.some.inj hrow
      rw [if_neg (by omega), if_neg (by rwa [List.isEmpty_iff])]
      rfl
    | succ index =>
      rw [List.take_succ_cons] at hfirst
      rw [if_pos (hfirst first List.mem_cons_self)]
      have hshift : rowNumber + 1 + index = rowNumber + (index + 1) := by omega
      rw [← hshift] at hheaders ⊢
      exact ih (rowNumber + 1) hrow (fun before hbefore => hfirst before (List.mem_cons_of_mem _ hbefore))
        hheaders

variable (service : SheetsService)

theorem showsRow_get (tab : Tab) {row : ℕ} (hrow : row < rows) :
    ShowsRow ((service.get tab rows rangeColumns).getD row []) (tab row) := by
  intro column
  have hcell := service.cellAt_get tab rows rangeColumns row column
  simp only [hrow, true_and] at hcell
  exact hcell

/-- The layout of a tab whose header row lies in the range. -/
theorem detectLayout_get (hheader : IsHeaderRow tab header) (hrange : header < rows) :
    detectLayout (service.get tab rows rangeColumns) = some
      { headerRowNumber := header + 1
        headerStartIndex := firstColumn (tab header)
        headers := headersOf (tab header) } := by
  set values := service.get tab rows rangeColumns with hvalues
  have hshows := showsRow_get service tab hrange
  have htwo : 2 ≤ (nonEmptyIndexes (values.getD header [])).length := by
    rw [nonEmptyIndexes_eq hshows]
    exact hheader.1
  have hsome : values[header]? = some (values.getD header []) := by
    rw [List.getD_eq_getElem?_getD]
    cases hget : values[header]? with
    | some row => rfl
    | none =>
      -- a row that is left out has no headers
      rw [List.getD_eq_getElem?_getD, hget] at htwo
      simp [nonEmptyIndexes] at htwo
  have hfirst : ∀ before ∈ values.take header, (nonEmptyIndexes before).length < 2 := by
    intro before hbefore
    obtain ⟨index, hindex, rfl⟩ := List.mem_iff_getElem.mp hbefore
    rw [List.length_take] at hindex
    have hrow : ShowsRow (values.getD index []) (tab index) := showsRow_get service tab (by omega)
    rw [List.getD_eq_getElem _ _ (by omega)] at hrow
    rw [List.getElem_take, nonEmptyIndexes_eq hrow]
    exact hheader.2 index (by omega)
  have hlayout := layoutOf_eq hshows (1 + header)
  have hnumber : header + 1 = 1 + header := Nat.add_comm header 1
  have hheaders : (layoutOf (1 + header) (values.getD header [])).headers ≠ [] := by
    rw [hlayout]
    intro hnil
    have hcolumns : headerColumns (tab header) = [] := List.map_eq_nil_iff.mp hnil
    have htwo := hheader.1
    rw [hcolumns] at htwo
    exact absurd htwo (by decide)
  unfold detectLayout
  rw [detectLayoutFrom_eq_some 1 hsome htwo hfirst hheaders, hlayout, hnumber]

/-- No layout is found before the header row. -/
theorem detectLayout_get_eq_none (hheader : IsHeaderRow tab header) (hrange : rows ≤ header) :
    detectLayout (service.get tab rows rangeColumns) = none := by
  unfold detectLayout
  apply detectLayoutFrom_eq_none
  intro row hrow
  obtain ⟨index, hindex, rfl⟩ := List.mem_iff_getElem.mp hrow
  set values := service.get tab rows rangeColumns with hvalues
  by_cases hin : index < rows
  · have hshows := showsRow_get service tab hin
    rw [← hvalues, List.getD_eq_getElem _ _ hindex] at hshows
    rw [nonEmptyIndexes_eq hshows]
    exact hheader.2 index (by omega)
  · -- nothing is shown past the range
    have hnone : nonEmptyIndexes values[index] = [] := by
      rw [List.eq_nil_iff_forall_not_mem]
      intro column hcolumn
      have hcell := service.cellAt_get tab rows rangeColumns index column
      rw [if_neg (fun h => hin h.1)] at hcell
      unfold cellAt at hcell
      rw [← hvalues, List.getD_eq_getElem _ _ hindex] at hcell
      rw [mem_nonEmptyIndexes, hcell] at hcolumn
      exact absurd hcolumn (by decide)
    rw [hnone]
    decide

end Detect

end Bhiksha.Integrations
