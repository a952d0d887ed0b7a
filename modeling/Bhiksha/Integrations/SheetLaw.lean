import Bhiksha.Integrations.SheetReading
import Bhiksha.Library.AssocList
import Bhiksha.Library.Transaction

/-! Which header rows keep the columns of a tab aligned: the places of the headers are the columns they
stand in, and what the client writes stays where it can be read. -/

namespace Bhiksha.Integrations

open Library
open ActivePlan (Cell Payload)
open GoogleSheetTableClient (rangeColumns readRange layoutRange appendColumn cellUpdate)

/-! ### What the operations should do -/

/-- `read_rows` gives each row of data with text, and each header the cell under it. -/
structure ReadsAligned (client : GoogleSheetTableClient) (tab : Tab) (header : ℕ) : Prop where
  rows : (client.readRows tab).map (fun payload => payload.get "row_index") =
    (dataRows tab header).map fun row : ℕ => Cell.int (row + 1)
  cells : ∀ payload ∈ client.readRows tab, ∀ row : ℕ, payload.get "row_index" = .int (row + 1) →
    ∀ column ∈ headerColumns (tab header),
      payload.get (Python.strip (tab header column)) = .text (tab row column)

/-- The second tab has the headers of the first where they were, and the named columns besides. -/
structure AddsColumns (tab tab' : Tab) (header : ℕ) (columns : List String) : Prop where
  elsewhere : ∀ row column, row ≠ header → tab' row column = tab row column
  kept : ∀ column, Python.isBlank (tab header column) = false →
    tab' header column = tab header column
  only : ∀ column, Python.isBlank (tab' header column) = true →
    tab' header column = tab header column
  distinct : (headersOf (tab' header)).Nodup
  added : ∀ name, name ∈ headersOf (tab' header) ↔
    name ∈ headersOf (tab header) ∨ name ≠ "" ∧ ∃ column ∈ columns, Python.strip column = name

/-- The tab with the values entered under the headers they name, in the row of that number. -/
def withCells (service : SheetsService) (tab : Tab) (header rowIndex : ℕ) (values : Payload) : Tab :=
  fun row column =>
    if row + 1 = rowIndex ∧ column ∈ headerColumns (tab header) then
      ((values.lookup (Python.strip (tab header column))).map fun value =>
        service.entered (sheetCellValue value)).getD (tab row column)
    else tab row column

/-- A later `read_rows` returns the values for the row, unless the row shows no text at all. -/
def ReadsBack (client : GoogleSheetTableClient) (tab : Tab) (header rowIndex : ℕ) (values : Payload) :
    Prop :=
  blankFrom (firstColumn (tab header)) (tab (rowIndex - 1)) = true ∨
    ∃ payload ∈ client.readRows tab, payload.get "row_index" = .int rowIndex ∧
      ∀ value ∈ values, payload.get value.1 =
        .text (client.service.entered (sheetCellValue value.2))

/-- On every tab with the header row, reading, adding the named columns and writing values under them
keep to the columns of the headers. -/
def ColumnsAligned (client : GoogleSheetTableClient) (header : ℕ) (cells : ℕ → String)
    (names : List String) (rowIndex : ℕ) : Prop :=
  ∀ tab : Tab, IsHeaderRow tab header → tab header = cells →
    ∀ values : Payload, values.map Prod.fst = names →
      ReadsAligned client tab header ∧
      (∃ headers tab', client.ensureColumns tab names = (.ok headers, tab') ∧
        AddsColumns tab tab' header names) ∧
      ∃ tab', AddsColumns tab tab' header names ∧
        client.updateRowCells tab rowIndex values =
          (.ok (), withCells client.service tab' header rowIndex values) ∧
        ReadsAligned client (withCells client.service tab' header rowIndex values) header ∧
        ReadsBack client (withCells client.service tab' header rowIndex values) header rowIndex values

/-! ### The header rows on which they do -/

/-- No cell between two headers is blank. -/
def NoGap (cells : ℕ → String) : Prop :=
  ∀ a ∈ headerColumns cells, ∀ b ∈ headerColumns cells, ∀ column, a ≤ column → column ≤ b →
    Python.isBlank (cells column) = false

/-- The names for which there is no header. -/
def missingNames (cells : ℕ → String) (names : List String) : List String :=
  names.filter fun name => name ∉ headersOf cells

/-- The header row lies in the range of the layout and has no gap; nothing is named `row_index`; each
name is stripped; and where names are missing, the headers are stripped and there is room. -/
structure SoundHeader (header : ℕ) (cells : ℕ → String) (names : List String) : Prop where
  within : header < layoutRange
  noGap : NoGap cells
  notRowIndex : ∀ name ∈ headersOf cells ++ names, name ≠ "row_index"
  named : ∀ name ∈ names, Python.strip name = name ∧ name ≠ ""
  stripped : missingNames cells names ≠ [] →
    ∀ column ∈ headerColumns cells, Python.strip (cells column) = cells column
  room : missingNames cells names ≠ [] → firstColumn cells + (headersOf cells).length +
    (missingNames cells names).length ≤ rangeColumns

/-! ### The columns of a header row without a gap -/

section Header

variable {cells : ℕ → String} {place column : ℕ}

theorem layoutRange_lt_readRange : layoutRange + 2 < readRange := by
  unfold layoutRange readRange
  omega

theorem length_headersOf (cells : ℕ → String) :
    (headersOf cells).length = (headerColumns cells).length := List.length_map _

theorem headerColumns_eq_range' (h : NoGap cells) :
    headerColumns cells = List.range' (firstColumn cells) (headerColumns cells).length := by
  have hsorted := headerColumns_sorted cells
  cases hcolumns : headerColumns cells with
  | nil => rfl
  | cons first rest =>
    rw [hcolumns] at hsorted
    have hfirst : firstColumn cells = first := by
      unfold firstColumn
      rw [hcolumns]
      rfl
    set last := (first :: rest).getLast (List.cons_ne_nil _ _) with hlast
    have hfirst_mem : first ∈ headerColumns cells := by rw [hcolumns]; exact List.mem_cons_self
    have hlast_mem : last ∈ headerColumns cells := by rw [hcolumns]; exact List.getLast_mem _
    have hge : ∀ column ∈ first :: rest, first ≤ column := by
      intro column hmem
      rcases List.mem_cons.mp hmem with rfl | hrest
      · exact le_refl _
      · exact (List.rel_of_pairwise_cons hsorted hrest).le
    have hle : ∀ column ∈ first :: rest, column ≤ last := by
      intro column hmem
      have hsplit := List.dropLast_append_getLast (List.cons_ne_nil first rest)
      rw [← hsplit] at hmem hsorted
      rcases List.mem_append.mp hmem with hbefore | hend
      · exact ((List.pairwise_append.mp hsorted).2.2 column hbefore last List.mem_cons_self).le
      · exact (List.mem_singleton.mp hend).le
    have hrange : first :: rest = List.range' first (last + 1 - first) := by
      have hkey : (first :: rest).Pairwise fun a b => id a < id b := hsorted
      refine eq_of_strictly_sorted hkey List.pairwise_lt_range' fun column => ?_
      rw [List.mem_range'_1]
      have hfirst_le : first ≤ last := hge last (by rw [← hcolumns]; exact hlast_mem)
      constructor
      · intro hmem
        have hlo := hge column hmem
        have hhi := hle column hmem
        omega
      · intro hmem
        have htext := h first hfirst_mem last hlast_mem column (by omega) (by omega)
        have hlt := (mem_headerColumns.mp hlast_mem).1
        rw [← hcolumns]
        exact mem_headerColumns.mpr ⟨by omega, htext⟩
    have hlength := congrArg List.length hrange
    rw [List.length_range'] at hlength
    rw [hlength, hfirst]
    exact hrange

theorem noGap_of_eq_range' {first n : ℕ} (h : headerColumns cells = List.range' first n) :
    NoGap cells := by
  intro a ha b hb column hlo hhi
  rw [h, List.mem_range'_1] at ha hb
  have hmem : column ∈ headerColumns cells := by
    rw [h, List.mem_range'_1]
    omega
  exact (mem_headerColumns.mp hmem).2

theorem getElem?_headersOf (hgap : NoGap cells) (h : place < (headersOf cells).length) :
    (headersOf cells)[place]? = some (Python.strip (cells (firstColumn cells + place))) := by
  rw [length_headersOf] at h
  have hcolumns := headerColumns_eq_range' hgap
  have hplace : (headerColumns cells)[place]? = some (firstColumn cells + place) := by
    rw [hcolumns, List.getElem?_range' h, Nat.one_mul]
  unfold headersOf
  rw [List.getElem?_map, hplace]
  rfl

theorem firstColumn_le (h : column ∈ headerColumns cells) : firstColumn cells ≤ column := by
  have hsorted := headerColumns_sorted cells
  unfold firstColumn
  cases hcolumns : headerColumns cells with
  | nil =>
    rw [hcolumns] at h
    cases h
  | cons first rest =>
    rw [hcolumns] at h hsorted
    rcases List.mem_cons.mp h with rfl | hrest
    · exact le_refl _
    · exact (List.rel_of_pairwise_cons hsorted hrest).le

theorem mem_headerColumns_iff (hgap : NoGap cells) : column ∈ headerColumns cells ↔
    ∃ place, place < (headersOf cells).length ∧ column = firstColumn cells + place := by
  rw [headerColumns_eq_range' hgap, List.mem_range'_1, length_headersOf]
  constructor
  · intro hmem
    exact ⟨column - firstColumn cells, by omega, by omega⟩
  · rintro ⟨place, hplace, rfl⟩
    omega

/-- A header is stripped, and not blank. -/
theorem strip_of_mem_headersOf {name : String} (h : name ∈ headersOf cells) :
    Python.strip name = name ∧ name ≠ "" := by
  obtain ⟨column, hcolumn, rfl⟩ := List.mem_map.mp h
  refine ⟨Python.strip_strip _, fun hempty => ?_⟩
  have htext := (mem_headerColumns.mp hcolumn).2
  rw [Python.isBlank_iff.mpr hempty] at htext
  cases htext

end Header

/-! ### Reading -/

section Reading

variable {tab : Tab} {header row place : ℕ}

theorem get_payloadAt_rowIndex (tab : Tab) (header row : ℕ) :
    (payloadAt tab header row).get "row_index" = .int (row + 1) := by
  unfold payloadAt Payload.get
  dsimp only
  rw [Payload.lookup_set, if_pos rfl]
  rfl

/-- The header at a place is given the cell that many columns after the first header. -/
theorem get_payloadAt {name : String} (hdistinct : (headersOf (tab header)).Nodup)
    (hname : (headersOf (tab header))[place]? = some name) (hindex : name ≠ "row_index") :
    (payloadAt tab header row).get name = .text (tab row (firstColumn (tab header) + place)) := by
  set headers := headersOf (tab header) with hheaders
  obtain ⟨hplace, rfl⟩ := List.getElem?_eq_some_iff.mp hname
  set fields := (List.range headers.length).map fun place =>
    (headers.getD place "", Cell.text (tab row (firstColumn (tab header) + place))) with hfields
  have hkeys : fields.map Prod.fst = headers := by
    apply List.ext_getElem
    · simp [hfields]
    · intro index hleft hright
      simp [hfields, hright]
  have hmem : (headers[place], Cell.text (tab row (firstColumn (tab header) + place))) ∈ fields := by
    refine List.mem_map.mpr ⟨place, List.mem_range.mpr hplace, ?_⟩
    rw [List.getD_eq_getElem _ _ hplace]
  have hlookup : (Payload.merge [] fields).lookup headers[place] =
      some (.text (tab row (firstColumn (tab header) + place))) :=
    Payload.lookup_merge_of_mem (hkeys ▸ hdistinct) hmem
  unfold payloadAt Payload.get
  dsimp only
  rw [Payload.lookup_set, if_neg hindex]
  rw [hlookup]
  rfl

variable (client : GoogleSheetTableClient)

theorem readsAligned_of_noGap (hheader : IsHeaderRow tab header) (hrange : header < readRange)
    (hdistinct : (headersOf (tab header)).Nodup) (hgap : NoGap (tab header))
    (hindex : ∀ name ∈ headersOf (tab header), name ≠ "row_index") : ReadsAligned client tab header := by
  have hread := readRows_eq client hheader hrange
  refine ⟨?_, ?_⟩
  · rw [hread, List.map_map]
    exact List.map_congr_left fun row _ => get_payloadAt_rowIndex tab header row
  · intro payload hpayload row hrow column hcolumn
    rw [hread] at hpayload
    obtain ⟨row', -, rfl⟩ := List.mem_map.mp hpayload
    have heq : row' = row := by
      rw [get_payloadAt_rowIndex] at hrow
      have hint : ((row' : ℤ) + 1) = row + 1 := Cell.int.inj hrow
      omega
    subst heq
    obtain ⟨place, hplace, rfl⟩ := (mem_headerColumns_iff hgap).mp hcolumn
    have hname := getElem?_headersOf hgap hplace
    exact get_payloadAt hdistinct hname (hindex _ (List.mem_of_getElem? hname))

/-- A text of its own for each column. -/
def tally (column : ℕ) : String := String.ofList (List.replicate (column + 1) 'x')

theorem isBlank_tally (column : ℕ) : Python.isBlank (tally column) = false := by
  unfold tally Python.isBlank
  rw [String.toList_ofList, List.replicate_succ, List.all_cons]
  rfl

theorem tally_inj {a b : ℕ} (h : tally a = tally b) : a = b := by
  have hlists := String.ofList_injective h
  have hlength := congrArg List.length hlists
  rw [List.length_replicate, List.length_replicate] at hlength
  omega

/-- The tab with the header row and a text of its own in each cell below it. -/
def probeTab (header : ℕ) (cells : ℕ → String) : Tab := fun row column =>
  if row = header then cells column else if header < row then tally column else ""

theorem probeTab_header (header : ℕ) (cells : ℕ → String) : probeTab header cells header = cells := by
  funext column
  exact if_pos rfl

variable {cells : ℕ → String}

theorem probeTab_below (h : header < row) : probeTab header cells row = tally := by
  funext column
  unfold probeTab
  rw [if_neg (by omega), if_pos h]

theorem isHeaderRow_probeTab (htwo : 2 ≤ (headerColumns cells).length) :
    IsHeaderRow (probeTab header cells) header := by
  refine ⟨by rwa [probeTab_header], fun row hrow => ?_⟩
  have hblank : probeTab header cells row = fun _ => "" := by
    funext column
    unfold probeTab
    rw [if_neg (by omega), if_neg (by omega)]
  have hnil : headerColumns (probeTab header cells row) = [] := by
    rw [List.eq_nil_iff_forall_not_mem, hblank]
    intro column hmem
    exact absurd (mem_headerColumns.mp hmem).2 (by decide)
  rw [hnil]
  exact Nat.zero_lt_two

theorem firstColumn_lt (h : headerColumns cells ≠ []) : firstColumn cells < rangeColumns := by
  obtain ⟨first, rest, hcolumns⟩ := List.exists_cons_of_ne_nil h
  have hmem : first ∈ headerColumns cells := by rw [hcolumns]; exact List.mem_cons_self
  unfold firstColumn
  rw [hcolumns]
  exact (mem_headerColumns.mp hmem).1

theorem mem_dataRows_probeTab (htwo : 2 ≤ (headerColumns cells).length) (hrow : header < row)
    (hrange : row < readRange) : row ∈ dataRows (probeTab header cells) header := by
  have hne : headerColumns cells ≠ [] := by
    intro hnil
    rw [hnil] at htwo
    exact absurd htwo (by decide)
  rw [mem_dataRows, probeTab_header, probeTab_below hrow, blankFrom_eq_false_iff]
  exact ⟨hrow, hrange, firstColumn cells, le_refl _, firstColumn_lt hne, isBlank_tally _⟩

/-- No header can be `row_index` where a row is read. -/
theorem notRowIndex_of_readsAligned (hheader : IsHeaderRow tab header) (hrange : header < readRange)
    (hrow : row ∈ dataRows tab header) (haligned : ReadsAligned client tab header) :
    ∀ name ∈ headersOf (tab header), name ≠ "row_index" := by
  intro name hname heq
  obtain ⟨column, hcolumn, hstrip⟩ := List.mem_map.mp hname
  have hread : payloadAt tab header row ∈ client.readRows tab := by
    rw [readRows_eq client hheader hrange]
    exact List.mem_map_of_mem hrow
  have hindex := get_payloadAt_rowIndex tab header row
  have hcell := haligned.cells _ hread row hindex column hcolumn
  rw [hstrip, heq, hindex] at hcell
  cases hcell

theorem noGap_of_readsAligned (htwo : 2 ≤ (headerColumns cells).length)
    (hdistinct : (headersOf cells).Nodup) (hrange : header + 1 < readRange)
    (haligned : ReadsAligned client (probeTab header cells) header) : NoGap cells := by
  have hheader : IsHeaderRow (probeTab header cells) header := isHeaderRow_probeTab htwo
  have hdata := mem_dataRows_probeTab htwo (Nat.lt_succ_self header) hrange
  have hindex := notRowIndex_of_readsAligned client hheader (by omega) hdata haligned
  have hread : payloadAt (probeTab header cells) header (header + 1) ∈
      client.readRows (probeTab header cells) := by
    rw [readRows_eq client hheader (by omega)]
    exact List.mem_map_of_mem hdata
  have hrow := get_payloadAt_rowIndex (probeTab header cells) header (header + 1)
  have hcells := haligned.cells _ hread (header + 1) hrow
  rw [probeTab_header] at hcells hindex
  have hcolumns : headerColumns cells =
      List.range' (firstColumn cells) (headerColumns cells).length := ?_
  · exact noGap_of_eq_range' hcolumns
  apply List.ext_getElem
  · rw [List.length_range']
  · intro place hplace _
    -- the header at a place has the cell of its column, and of the place
    have hname : (headersOf cells)[place]? =
        some (Python.strip (cells (headerColumns cells)[place])) := by
      unfold headersOf
      rw [List.getElem?_map, List.getElem?_eq_getElem hplace]
      rfl
    have hcolumn := hcells _ (List.getElem_mem hplace)
    have hat : (payloadAt (probeTab header cells) header (header + 1)).get
          (Python.strip (cells (headerColumns cells)[place])) =
        .text (probeTab header cells (header + 1)
          (firstColumn (probeTab header cells header) + place)) :=
      get_payloadAt (by rwa [probeTab_header]) (by rwa [probeTab_header])
        (hindex _ (List.mem_of_getElem? hname))
    rw [hat, probeTab_header, probeTab_below (Nat.lt_succ_self header)] at hcolumn
    have heq := tally_inj (Cell.text.inj hcolumn)
    rw [List.getElem_range', Nat.one_mul]
    exact heq.symm

end Reading

/-! ### Adding columns -/

section Adding

variable {headers names : List String}

/-- What the loop over the columns appends. -/
theorem foldl_appendColumn (hnames : names.Nodup)
    (hnamed : ∀ name ∈ names, Python.strip name = name ∧ name ≠ "") (changed : Bool) :
    names.foldl appendColumn (headers, changed) =
      (headers ++ names.filter (fun name => name ∉ headers),
        changed || !(names.filter fun name => name ∉ headers).isEmpty) := by
  induction names generalizing headers changed with
  | nil => simp
  | cons name rest ih =>
    have hfresh : name ∉ rest := (List.nodup_cons.mp hnames).1
    have hrest := (List.nodup_cons.mp hnames).2
    have hnamed' : ∀ name ∈ rest, Python.strip name = name ∧ name ≠ "" :=
      fun name hname => hnamed name (List.mem_cons_of_mem _ hname)
    obtain ⟨hstrip, hname⟩ := hnamed name List.mem_cons_self
    rw [List.foldl_cons]
    unfold appendColumn
    dsimp only
    rw [hstrip]
    by_cases hmem : name ∈ headers
    · rw [if_neg (fun h => h.2 hmem), List.filter_cons_of_neg (by simpa using hmem)]
      exact ih hrest hnamed' changed
    · rw [if_pos ⟨hname, hmem⟩, List.filter_cons_of_pos (by simpa using hmem)]
      have hsame : rest.filter (fun other => other ∉ headers ++ [name]) =
          rest.filter fun other => other ∉ headers := by
        apply List.filter_congr
        intro other hother
        have hne : other ≠ name := fun heq => hfresh (heq ▸ hother)
        simp [hne]
      have hstep : rest.foldl appendColumn (headers ++ [name], true) = _ := ih hrest hnamed' true
      rw [hsame] at hstep
      refine hstep.trans ?_
      simp

/-- The loop leaves headers that are stripped, and not blank. -/
theorem foldl_appendColumn_strip (hheaders : ∀ name ∈ headers, Python.strip name = name ∧ name ≠ "")
    (changed : Bool) : ∀ name ∈ (names.foldl appendColumn (headers, changed)).1,
      Python.strip name = name ∧ name ≠ "" := by
  induction names generalizing headers changed with
  | nil => exact hheaders
  | cons column rest ih =>
    rw [List.foldl_cons]
    unfold appendColumn
    dsimp only
    split_ifs with happend
    · refine ih ?_ true
      intro name hname
      rcases List.mem_append.mp hname with hold | hnew
      · exact hheaders name hold
      · rw [List.mem_singleton.mp hnew]
        exact ⟨Python.strip_strip column, happend.1⟩
    · exact ih hheaders changed

variable (service : SheetsService) {tab : Tab} {header start : ℕ}

/-- The cells of the header range, once the headers have been entered. -/
theorem batchUpdate_headers (hne : headers ≠ [])
    (hplain : ∀ name ∈ headers, service.entered (.text name) = name) (row column : ℕ) :
    service.batchUpdate tab
        [{ firstColumn := columnLetters start
           lastColumn := columnLetters (start + headers.length - 1)
           row := header + 1
           values := headers.map Cell.text }] row column =
      if row = header ∧ start ≤ column ∧ column < start + headers.length then
        headers.getD (column - start) "" else tab row column := by
  have hpos : 0 < headers.length := List.length_pos_of_ne_nil hne
  have hrange : row + 1 = header + 1 ∧ start ≤ column ∧ column ≤ start + headers.length - 1 ↔
      row = header ∧ start ≤ column ∧ column < start + headers.length := by omega
  unfold SheetsService.batchUpdate
  rw [List.foldl_cons, List.foldl_nil]
  unfold SheetsService.enter
  dsimp only
  simp only [columnNumber_columnLetters, hrange]
  split_ifs with hin
  · have hplace : column - start < headers.length := by omega
    rw [List.getElem?_map, List.getElem?_eq_getElem hplace, List.getD_eq_getElem _ _ hplace]
    exact hplain _ (List.getElem_mem hplace)
  · rfl

variable {client : GoogleSheetTableClient} {cells : ℕ → String}

theorem readLayout_eq (hheader : IsHeaderRow tab header) (hlayout : header < layoutRange) :
    client.readLayout tab = .ok
      { headerRowNumber := header + 1
        headerStartIndex := firstColumn (tab header)
        headers := headersOf (tab header) } := by
  have hdetect : detectLayout (client.readValues tab layoutRange) = some
      { headerRowNumber := header + 1
        headerStartIndex := firstColumn (tab header)
        headers := headersOf (tab header) } := detectLayout_get client.service hheader hlayout
  unfold GoogleSheetTableClient.readLayout
  rw [hdetect]

/-- Past the range of the layout no columns can be added. -/
theorem ensureColumns_raises (hheader : IsHeaderRow tab header) (hlayout : layoutRange ≤ header) :
    ∃ e, client.ensureColumns tab names = (.error e, tab) := by
  have hdetect : detectLayout (client.readValues tab layoutRange) = none :=
    detectLayout_get_eq_none client.service hheader hlayout
  unfold GoogleSheetTableClient.ensureColumns GoogleSheetTableClient.readLayout
  rw [hdetect]
  exact ⟨_, rfl⟩

/-- The tab with the header row written over from the first header on. -/
def withHeaders (tab : Tab) (header : ℕ) (headers : List String) : Tab := fun row column =>
  if row = header ∧ firstColumn (tab header) ≤ column ∧
      column < firstColumn (tab header) + headers.length then
    headers.getD (column - firstColumn (tab header)) "" else tab row column

/-- The tab that `ensure_columns` leaves. -/
def ensuredTab (tab : Tab) (header : ℕ) (names : List String) : Tab :=
  if missingNames (tab header) names = [] then tab
  else withHeaders tab header (headersOf (tab header) ++ missingNames (tab header) names)

theorem ensureColumns_eq (hheader : IsHeaderRow tab header) (hlayout : header < layoutRange)
    (hnames : names.Nodup) (hnamed : ∀ name ∈ names, Python.strip name = name ∧ name ≠ "")
    (hplain : ∀ name ∈ headersOf (tab header) ++ names, client.service.entered (.text name) = name) :
    client.ensureColumns tab names =
      (.ok (headersOf (tab header) ++ missingNames (tab header) names),
        ensuredTab tab header names) := by
  set missing := missingNames (tab header) names with hmissing
  set headers := headersOf (tab header) with hheaders
  have hfold : names.foldl appendColumn (headers, false) =
      (headers ++ missing, false || !missing.isEmpty) := foldl_appendColumn hnames hnamed false
  unfold GoogleSheetTableClient.ensureColumns ensuredTab
  rw [readLayout_eq hheader hlayout]
  dsimp only
  rw [hfold, ← hmissing]
  by_cases hnone : missing = []
  · rw [if_pos hnone, hnone]
    rfl
  · have hchanged : (false || !missing.isEmpty) = true := by simpa using hnone
    dsimp only
    rw [if_neg hnone, hchanged, if_pos rfl]
    congr 1
    funext row column
    have hall : ∀ name ∈ headers ++ missing, client.service.entered (.text name) = name := by
      intro name hname
      apply hplain
      rcases List.mem_append.mp hname with hold | hnew
      · exact List.mem_append_left _ hold
      · exact List.mem_append_right _ (List.mem_filter.mp hnew).1
    exact batchUpdate_headers client.service (by simp [hnone]) hall row column

/-! ### The tab with the added columns -/

theorem mem_missingNames {name : String} :
    name ∈ missingNames cells names ↔ name ∈ names ∧ name ∉ headersOf cells := by
  unfold missingNames
  rw [List.mem_filter, decide_eq_true_eq]

theorem nodup_headers (hdistinct : (headersOf cells).Nodup) (hnames : names.Nodup) :
    (headersOf cells ++ missingNames cells names).Nodup := by
  refine List.nodup_append.mpr ⟨hdistinct, hnames.filter _, ?_⟩
  intro name hname other hother heq
  exact (mem_missingNames.mp hother).2 (heq ▸ hname)

/-- A cell of the header row that is written over. -/
theorem withHeaders_header (column : ℕ) : withHeaders tab header headers header column =
    if firstColumn (tab header) ≤ column ∧ column < firstColumn (tab header) + headers.length then
      headers.getD (column - firstColumn (tab header)) "" else tab header column := by
  unfold withHeaders
  simp only [true_and]

theorem withHeaders_of_ne {row : ℕ} (h : row ≠ header) :
    withHeaders tab header headers row = tab row := by
  funext column
  unfold withHeaders
  rw [if_neg fun hrow => h hrow.1]

/-- The columns of the header row that is written over. -/
theorem headerColumns_withHeaders (hgap : NoGap (tab header))
    (hheaders : ∀ name ∈ headers, Python.strip name = name ∧ name ≠ "")
    (hlength : (headersOf (tab header)).length ≤ headers.length)
    (hroom : firstColumn (tab header) + headers.length ≤ rangeColumns) :
    headerColumns (withHeaders tab header headers header) =
      List.range' (firstColumn (tab header)) headers.length := by
  have hsorted : (headerColumns (withHeaders tab header headers header)).Pairwise
      fun a b => id a < id b := headerColumns_sorted _
  refine eq_of_strictly_sorted hsorted List.pairwise_lt_range' fun column => ?_
  rw [mem_headerColumns, List.mem_range'_1, withHeaders_header]
  split_ifs with hin
  · have hplace : column - firstColumn (tab header) < headers.length := by omega
    refine iff_of_true ⟨by omega, ?_⟩ hin
    rw [List.getD_eq_getElem _ _ hplace, ← Bool.not_eq_true, Python.isBlank_iff]
    obtain ⟨hstrip, hname⟩ := hheaders _ (List.getElem_mem hplace)
    rwa [hstrip]
  · refine iff_of_false (fun hmem => hin ?_) hin
    obtain ⟨place, hplace, rfl⟩ := (mem_headerColumns_iff hgap).mp (mem_headerColumns.mpr hmem)
    omega

theorem headersOf_withHeaders (hgap : NoGap (tab header))
    (hheaders : ∀ name ∈ headers, Python.strip name = name ∧ name ≠ "")
    (hlength : (headersOf (tab header)).length ≤ headers.length)
    (hroom : firstColumn (tab header) + headers.length ≤ rangeColumns) :
    headersOf (withHeaders tab header headers header) = headers := by
  have hcolumns := headerColumns_withHeaders hgap hheaders hlength hroom
  apply List.ext_getElem
  · rw [length_headersOf, hcolumns, List.length_range']
  · intro place hleft hright
    unfold headersOf
    simp only [hcolumns, List.getElem_map, List.getElem_range', Nat.one_mul]
    rw [withHeaders_header, if_pos ⟨Nat.le_add_right _ _, Nat.add_lt_add_left hright _⟩,
      Nat.add_sub_cancel_left, List.getD_eq_getElem _ _ hright]
    exact (hheaders _ (List.getElem_mem hright)).1

theorem strip_headers (hnamed : ∀ name ∈ names, Python.strip name = name ∧ name ≠ "") :
    ∀ name ∈ headersOf cells ++ missingNames cells names, Python.strip name = name ∧ name ≠ "" := by
  intro name hname
  rcases List.mem_append.mp hname with hold | hnew
  · exact strip_of_mem_headersOf hold
  · exact hnamed name (mem_missingNames.mp hnew).1

/-- What stays the same about the header row that `ensure_columns` leaves. -/
structure Extends (tab tab' : Tab) (header : ℕ) (names : List String) : Prop where
  elsewhere : ∀ row, row ≠ header → tab' row = tab row
  columns : headerColumns (tab' header) = List.range' (firstColumn (tab header))
    ((headersOf (tab header)).length + (missingNames (tab header) names).length)
  headers : headersOf (tab' header) = headersOf (tab header) ++ missingNames (tab header) names

theorem extends_ensuredTab (hsound : SoundHeader header (tab header) names) :
    Extends tab (ensuredTab tab header names) header names := by
  unfold ensuredTab
  split_ifs with hnone
  · have hcolumns := headerColumns_eq_range' hsound.noGap
    refine ⟨fun _ _ => rfl, ?_, ?_⟩
    · rw [hnone, List.length_nil, Nat.add_zero, length_headersOf]
      exact hcolumns
    · rw [hnone, List.append_nil]
  · have hheaders : ∀ name ∈ headersOf (tab header) ++ missingNames (tab header) names,
        Python.strip name = name ∧ name ≠ "" := strip_headers hsound.named
    have hroom := hsound.room hnone
    have hlength : (headersOf (tab header)).length ≤
        (headersOf (tab header) ++ missingNames (tab header) names).length := by
      rw [List.length_append]
      exact Nat.le_add_right _ _
    rw [Nat.add_assoc, ← List.length_append] at hroom
    refine ⟨fun row hrow => withHeaders_of_ne hrow, ?_, ?_⟩
    · rw [headerColumns_withHeaders hsound.noGap hheaders hlength hroom, List.length_append]
    · exact headersOf_withHeaders hsound.noGap hheaders hlength hroom

theorem addsColumns_ensuredTab (hdistinct : (headersOf (tab header)).Nodup) (hnames : names.Nodup)
    (hsound : SoundHeader header (tab header) names) :
    AddsColumns tab (ensuredTab tab header names) header names := by
  have hextends := extends_ensuredTab hsound
  refine ⟨fun row column hrow => congrFun (hextends.elsewhere row hrow) column, ?_, ?_, ?_, ?_⟩
  · intro column htext
    unfold ensuredTab
    split_ifs with hnone
    · rfl
    · rw [withHeaders_header]
      split_ifs with hin
      · -- the range is written over with the stripped headers, which the cells already are
        have hroom := hsound.room hnone
        rw [List.length_append] at hin
        have hmem : column ∈ headerColumns (tab header) :=
          mem_headerColumns.mpr ⟨by omega, htext⟩
        obtain ⟨place, hplace, rfl⟩ := (mem_headerColumns_iff hsound.noGap).mp hmem
        have hname := getElem?_headersOf hsound.noGap hplace
        rw [hsound.stripped hnone _ hmem] at hname
        rw [Nat.add_sub_cancel_left, List.getD_eq_getElem?_getD, List.getElem?_append_left hplace, hname]
        rfl
      · rfl
  · intro column hblank
    unfold ensuredTab at hblank ⊢
    split_ifs at hblank ⊢ with hnone
    · rfl
    · rw [withHeaders_header] at hblank ⊢
      split_ifs at hblank ⊢ with hin
      · have hplace : column - firstColumn (tab header) <
            (headersOf (tab header) ++ missingNames (tab header) names).length := by omega
        rw [List.getD_eq_getElem _ _ hplace, Python.isBlank_iff] at hblank
        obtain ⟨hstrip, hname⟩ := strip_headers hsound.named _ (List.getElem_mem hplace)
        exact absurd (hstrip.symm.trans hblank) hname
      · rfl
  · rw [hextends.headers]
    exact nodup_headers hdistinct hnames
  · intro name
    rw [hextends.headers, List.mem_append, mem_missingNames]
    constructor
    · rintro (hold | ⟨hname, -⟩)
      · exact Or.inl hold
      · obtain ⟨hstrip, hne⟩ := hsound.named name hname
        exact Or.inr ⟨hne, name, hname, hstrip⟩
    · rintro (hold | ⟨-, column, hcolumn, rfl⟩)
      · exact Or.inl hold
      · rw [(hsound.named column hcolumn).1]
        by_cases hold : column ∈ headersOf (tab header)
        · exact Or.inl hold
        · exact Or.inr ⟨hcolumn, hold⟩

/-- Writing the headers over keeps them only where they are stripped. -/
theorem stripped_of_addsColumns (hgap : NoGap (tab header))
    (hadds : AddsColumns tab (ensuredTab tab header names) header names)
    (hsome : missingNames (tab header) names ≠ []) :
    ∀ column ∈ headerColumns (tab header),
      Python.strip (tab header column) = tab header column := by
  intro column hcolumn
  have hkept := hadds.kept column (mem_headerColumns.mp hcolumn).2
  obtain ⟨place, hplace, rfl⟩ := (mem_headerColumns_iff hgap).mp hcolumn
  have hname := getElem?_headersOf hgap hplace
  unfold ensuredTab at hkept
  rw [if_neg hsome, withHeaders_header, if_pos, Nat.add_sub_cancel_left, List.getD_eq_getElem?_getD,
    List.getElem?_append_left hplace, hname] at hkept
  · exact hkept
  · rw [List.length_append]
    omega

/-- The last of the added columns is found only where there is room for it. -/
theorem room_of_addsColumns (hgap : NoGap (tab header)) (hdistinct : (headersOf (tab header)).Nodup)
    (hnames : names.Nodup) (hnamed : ∀ name ∈ names, Python.strip name = name ∧ name ≠ "")
    (hadds : AddsColumns tab (ensuredTab tab header names) header names)
    (hsome : missingNames (tab header) names ≠ []) :
    firstColumn (tab header) + (headersOf (tab header)).length +
      (missingNames (tab header) names).length ≤ rangeColumns := by
  by_contra hroom
  set missing := missingNames (tab header) names with hmissing
  set headers := headersOf (tab header) ++ missing with hheaders
  have hlength : headers.length = (headersOf (tab header)).length + missing.length :=
    List.length_append
  have hpos : 0 < missing.length := List.length_pos_of_ne_nil hsome
  have hnodup : headers.Nodup := nodup_headers hdistinct hnames
  have hlast : headers.length - 1 < headers.length := by omega
  set name := headers[headers.length - 1] with hname
  have hmem : name ∈ missing := by
    rw [hname, List.getElem_append_right (by omega)]
    exact List.getElem_mem _
  obtain ⟨hstrip, hne⟩ := hnamed name (mem_missingNames.mp hmem).1
  have hadded : name ∈ headersOf (ensuredTab tab header names header) :=
    (hadds.added name).mpr (Or.inr ⟨hne, name, (mem_missingNames.mp hmem).1, hstrip⟩)
  obtain ⟨column, hcolumn, heq⟩ := List.mem_map.mp hadded
  obtain ⟨hlt, htext⟩ := mem_headerColumns.mp hcolumn
  unfold ensuredTab at heq htext
  rw [if_neg hsome, ← hmissing, withHeaders_header] at heq htext
  split_ifs at heq htext with hin
  · have hplace : column - firstColumn (tab header) < headers.length := by omega
    rw [List.getD_eq_getElem _ _ hplace,
      (strip_headers hnamed _ (List.getElem_mem hplace)).1, hname] at heq
    have hindex := (List.Nodup.getElem_inj_iff hnodup).mp heq
    omega
  · -- outside the range that is written there is no header
    obtain ⟨place, hplace, rfl⟩ :=
      (mem_headerColumns_iff hgap).mp (mem_headerColumns.mpr ⟨hlt, htext⟩)
    rw [List.length_append] at hin
    omega

end Adding

/-! ### Writing values -/

section Writing

variable {service : SheetsService} {headers : List String} {start rowIndex : ℕ}

/-- The range of the cell under a header. -/
def namedCell (headers : List String) (start rowIndex : ℕ) (value : String × Cell) : RangeUpdate :=
  { firstColumn := columnLetters (start + headers.idxOf value.1)
    lastColumn := columnLetters (start + headers.idxOf value.1)
    row := rowIndex
    values := [sheetCellValue value.2] }

theorem cellUpdate_eq {value : String × Cell} (h : value.1 ∈ headers) :
    cellUpdate headers start rowIndex value = .ok (namedCell headers start rowIndex value) := by
  unfold cellUpdate GoogleSheetTableClient.headerIndex
  rw [if_pos h]
  rfl

theorem mapM_cellUpdate {values : Payload} (h : ∀ value ∈ values, value.1 ∈ headers) :
    values.mapM (cellUpdate headers start rowIndex) =
      .ok (values.map (namedCell headers start rowIndex)) := by
  induction values with
  | nil => rfl
  | cons value rest ih =>
    rw [List.mapM_cons, cellUpdate_eq (h value List.mem_cons_self),
      ih fun value hvalue => h value (List.mem_cons_of_mem _ hvalue)]
    rfl

theorem mem_of_mapM_cellUpdate {values : Payload} {data : List RangeUpdate}
    (h : values.mapM (cellUpdate headers start rowIndex) = .ok data) :
    ∀ value ∈ values, value.1 ∈ headers := by
  induction values generalizing data with
  | nil => exact fun _ hmem => absurd hmem List.not_mem_nil
  | cons first rest ih =>
    rw [List.mapM_cons] at h
    obtain ⟨update, hupdate, h⟩ := Except.bind_eq_ok_iff.mp h
    obtain ⟨updates, hupdates, -⟩ := Except.bind_eq_ok_iff.mp h
    intro value hvalue
    rcases List.mem_cons.mp hvalue with rfl | hrest
    · unfold cellUpdate GoogleSheetTableClient.headerIndex at hupdate
      by_contra hmem
      rw [if_neg hmem] at hupdate
      cases hupdate
    · exact ih hupdates value hrest

theorem enter_namedCell (tab : Tab) (value : String × Cell) (row column : ℕ) :
    service.enter tab (namedCell headers start rowIndex value) row column =
      if row + 1 = rowIndex ∧ column = start + headers.idxOf value.1 then
        service.entered (sheetCellValue value.2) else tab row column := by
  have hplace (n : ℕ) : row + 1 = rowIndex ∧ n ≤ column ∧ column ≤ n ↔
      row + 1 = rowIndex ∧ column = n := by omega
  unfold SheetsService.enter namedCell
  dsimp only
  simp only [columnNumber_columnLetters, hplace]
  split_ifs with hcell
  · rw [hcell.2, Nat.sub_self]
    rfl
  · rfl

/-- The cells that are under no header keep their text. -/
theorem batchUpdate_of_forall_ne {values : Payload} {tab : Tab} {row column : ℕ}
    (h : ∀ value ∈ values, row + 1 = rowIndex → column ≠ start + headers.idxOf value.1) :
    service.batchUpdate tab (values.map (namedCell headers start rowIndex)) row column =
      tab row column := by
  unfold SheetsService.batchUpdate
  induction values generalizing tab with
  | nil => rfl
  | cons value rest ih =>
    rw [List.map_cons, List.foldl_cons, ih fun value hvalue => h value (List.mem_cons_of_mem _ hvalue),
      enter_namedCell, if_neg fun hcell => h value List.mem_cons_self hcell.1 hcell.2]

/-- The cell under a header takes the value that is named so. -/
theorem batchUpdate_at {values : Payload} {tab : Tab} {row place : ℕ} {name : String}
    (hrow : row + 1 = rowIndex) (hheaders : headers.Nodup) (hname : headers[place]? = some name)
    (hkeys : (values.map Prod.fst).Nodup) (hmem : ∀ value ∈ values, value.1 ∈ headers) :
    service.batchUpdate tab (values.map (namedCell headers start rowIndex)) row (start + place) =
      ((values.lookup name).map fun value => service.entered (sheetCellValue value)).getD
        (tab row (start + place)) := by
  obtain ⟨hplace, hat⟩ := List.getElem?_eq_some_iff.mp hname
  unfold SheetsService.batchUpdate
  induction values generalizing tab with
  | nil => rfl
  | cons value rest ih =>
    rw [List.map_cons, List.nodup_cons] at hkeys
    have hvalue := hmem value List.mem_cons_self
    rw [List.map_cons, List.foldl_cons,
      ih hkeys.2 fun value hvalue => hmem value (List.mem_cons_of_mem _ hvalue), enter_namedCell,
      List.lookup_cons]
    by_cases hsame : name = value.1
    · have hindex : headers.idxOf value.1 = place := by
        rw [← hsame, ← hat, hheaders.idxOf_getElem]
      have hnone : rest.lookup name = none := lookup_eq_none_of_notMem (hsame ▸ hkeys.1)
      rw [hnone, hindex, if_pos ⟨hrow, rfl⟩, hsame, beq_self_eq_true]
      rfl
    · have hindex : start + place ≠ start + headers.idxOf value.1 := by
        intro heq
        have hidx : headers.idxOf value.1 = place := by omega
        apply hsame
        rw [← hat]
        simp only [← hidx]
        exact List.getElem_idxOf _
      have hbeq : (name == value.1) = false := by simpa using hsame
      rw [if_neg fun h => hindex h.2, hbeq]

variable {tab tab' : Tab} {header : ℕ} {names : List String}

/-- The header row stays as it is when a row below it is written. -/
theorem withCells_header {values : Payload} (hrow : header + 1 < rowIndex) {row : ℕ}
    (h : row ≤ header) : withCells service tab header rowIndex values row = tab row := by
  funext column
  unfold withCells
  rw [if_neg fun hcell => by omega]

theorem isHeaderRow_withCells {values : Payload} (hheader : IsHeaderRow tab header)
    (hrow : header + 1 < rowIndex) :
    IsHeaderRow (withCells service tab header rowIndex values) header := by
  refine ⟨?_, fun row hlt => ?_⟩
  · rw [withCells_header hrow (le_refl header)]
    exact hheader.1
  · rw [withCells_header hrow hlt.le]
    exact hheader.2 row hlt

theorem isHeaderRow_of_extends (hheader : IsHeaderRow tab header)
    (h : Extends tab tab' header names) : IsHeaderRow tab' header := by
  have htwo := hheader.1
  refine ⟨?_, fun row hlt => ?_⟩
  · rw [h.columns, List.length_range', length_headersOf]
    omega
  · rw [h.elsewhere row hlt.ne]
    exact hheader.2 row hlt

theorem mem_headers_of_mem {name : String} (h : Extends tab tab' header names) (hname : name ∈ names) :
    name ∈ headersOf (tab' header) := by
  rw [h.headers, List.mem_append, mem_missingNames]
  by_cases hold : name ∈ headersOf (tab header)
  · exact Or.inl hold
  · exact Or.inr ⟨hname, hold⟩

/-- One batch of named cells is the values under their headers. -/
theorem batchUpdate_namedCells {values : Payload} (hgap : NoGap (tab header))
    (hdistinct : (headersOf (tab header)).Nodup) (hkeys : (values.map Prod.fst).Nodup)
    (hmem : ∀ value ∈ values, value.1 ∈ headersOf (tab header)) :
    service.batchUpdate tab (values.map
        (namedCell (headersOf (tab header)) (firstColumn (tab header)) rowIndex)) =
      withCells service tab header rowIndex values := by
  funext row column
  unfold withCells
  split_ifs with hcell
  · obtain ⟨place, hplace, rfl⟩ := (mem_headerColumns_iff hgap).mp hcell.2
    exact batchUpdate_at hcell.1 hdistinct (getElem?_headersOf hgap hplace) hkeys hmem
  · apply batchUpdate_of_forall_ne
    intro value hvalue hrow heq
    apply hcell
    refine ⟨hrow, (mem_headerColumns_iff hgap).mpr ⟨_, ?_, heq⟩⟩
    exact List.idxOf_lt_length_of_mem (hmem value hvalue)

variable {client : GoogleSheetTableClient}

theorem updateRowCells_eq {values : Payload} (hheader : IsHeaderRow tab header)
    (hdistinct : (headersOf (tab header)).Nodup) (hnames : names.Nodup)
    (hsound : SoundHeader header (tab header) names) (hvalues : values.map Prod.fst = names)
    (hplain : ∀ name ∈ headersOf (tab header) ++ names, client.service.entered (.text name) = name) :
    client.updateRowCells tab rowIndex values =
      (.ok (), withCells client.service (ensuredTab tab header names) header rowIndex values) := by
  have hextends := extends_ensuredTab hsound
  set tab' := ensuredTab tab header names with htab'
  unfold GoogleSheetTableClient.updateRowCells
  split_ifs with hnone
  · obtain rfl : values = [] := List.isEmpty_iff.mp hnone
    have hmissing : missingNames (tab header) names = [] := by
      rw [← hvalues]
      rfl
    have hsame : tab' = tab := if_pos hmissing
    rw [hsame]
    congr 1
    funext row column
    unfold withCells
    split_ifs <;> rfl
  · have hheader' := isHeaderRow_of_extends hheader hextends
    have hgap' : NoGap (tab' header) := noGap_of_eq_range' hextends.columns
    have hdistinct' : (headersOf (tab' header)).Nodup := by
      rw [hextends.headers]
      exact nodup_headers hdistinct hnames
    have hmem : ∀ value ∈ values, value.1 ∈ headersOf (tab' header) := by
      intro value hvalue
      apply mem_headers_of_mem hextends
      rw [← hvalues]
      exact List.mem_map_of_mem hvalue
    rw [hvalues, ensureColumns_eq hheader hsound.within hnames hsound.named hplain, ← htab']
    dsimp only
    rw [readLayout_eq hheader' hsound.within, ← hextends.headers]
    dsimp only
    rw [mapM_cellUpdate hmem]
    dsimp only
    rw [batchUpdate_namedCells hgap' hdistinct' (hvalues ▸ hnames) hmem]

/-- The cell of a value that is written under its header. -/
theorem withCells_at {values : Payload} (hkeys : (values.map Prod.fst).Nodup) {value : String × Cell}
    (hvalue : value ∈ values) {column : ℕ} (hcolumn : column ∈ headerColumns (tab header))
    (hname : Python.strip (tab header column) = value.1) (hpos : 0 < rowIndex) :
    withCells service tab header rowIndex values (rowIndex - 1) column =
      service.entered (sheetCellValue value.2) := by
  unfold withCells
  rw [if_pos ⟨Nat.sub_add_cancel hpos, hcolumn⟩, hname, lookup_of_mem hkeys hvalue]
  rfl

theorem readsBack_of_readsAligned {values : Payload}
    (hheader : IsHeaderRow tab header) (hrow : header + 1 < rowIndex) (hrange : rowIndex ≤ readRange)
    (hkeys : (values.map Prod.fst).Nodup) (hmem : ∀ value ∈ values, value.1 ∈ headersOf (tab header))
    (haligned : ReadsAligned client (withCells client.service tab header rowIndex values) header) :
    ReadsBack client (withCells client.service tab header rowIndex values) header rowIndex values := by
  set final := withCells client.service tab header rowIndex values with hfinal
  have hheader' : IsHeaderRow final header := isHeaderRow_withCells hheader hrow
  have hsame : final header = tab header := withCells_header hrow (le_refl header)
  cases hblank : blankFrom (firstColumn (final header)) (final (rowIndex - 1)) with
  | true => exact Or.inl hblank
  | false =>
    have hdata : rowIndex - 1 ∈ dataRows final header :=
      mem_dataRows.mpr ⟨by omega, by omega, hblank⟩
    have hread : payloadAt final header (rowIndex - 1) ∈ client.readRows final := by
      rw [readRows_eq client hheader' (by omega)]
      exact List.mem_map_of_mem hdata
    have hindex := get_payloadAt_rowIndex final header (rowIndex - 1)
    have hnumber : ((rowIndex - 1 : ℕ) : ℤ) + 1 = rowIndex := by omega
    refine Or.inr ⟨_, hread, by rw [hindex, hnumber], fun value hvalue => ?_⟩
    obtain ⟨column, hcolumn, hname⟩ := List.mem_map.mp (hmem value hvalue)
    have hcell := haligned.cells _ hread (rowIndex - 1) hindex column (by rwa [hsame])
    rw [hsame, hname] at hcell
    rw [hcell, hfinal, withCells_at hkeys hvalue hcolumn hname (by omega)]

/-- The headers that `ensure_columns` returns are stripped. -/
theorem strip_of_ensureColumns {headers : List String}
    (hheader : IsHeaderRow tab header) (hlayout : header < layoutRange)
    (h : client.ensureColumns tab names = (.ok headers, tab')) :
    ∀ name ∈ headers, Python.strip name = name ∧ name ≠ "" := by
  have hfold : ∀ name ∈ (names.foldl appendColumn (headersOf (tab header), false)).1,
      Python.strip name = name ∧ name ≠ "" :=
    foldl_appendColumn_strip (fun name hname => strip_of_mem_headersOf hname) false
  unfold GoogleSheetTableClient.ensureColumns at h
  rw [readLayout_eq hheader hlayout] at h
  dsimp only at h
  split_ifs at h
  · cases h
    exact hfold
  · cases h
    exact hfold

theorem named_of_updateRowCells {values : Payload} {headers : List String} {final : Tab}
    (hheader : IsHeaderRow tab header) (hlayout : header < layoutRange)
    (hvalues : values.map Prod.fst = names)
    (hensure : client.ensureColumns tab names = (.ok headers, tab'))
    (h : client.updateRowCells tab rowIndex values = (.ok (), final)) :
    ∀ name ∈ names, Python.strip name = name ∧ name ≠ "" := by
  intro name hname
  have hheaders := strip_of_ensureColumns hheader hlayout hensure
  unfold GoogleSheetTableClient.updateRowCells at h
  rw [hvalues, hensure] at h
  split_ifs at h with hnone
  · obtain rfl : values = [] := List.isEmpty_iff.mp hnone
    rw [← hvalues] at hname
    cases hname
  · dsimp only at h
    cases hlayout' : client.readLayout tab' with
    | error e =>
      rw [hlayout'] at h
      cases h
    | ok layout =>
      rw [hlayout'] at h
      dsimp only at h
      cases hdata : values.mapM (cellUpdate headers layout.headerStartIndex rowIndex) with
      | error e =>
        rw [hdata] at h
        cases h
      | ok data =>
        rw [← hvalues] at hname
        obtain ⟨value, hvalue, rfl⟩ := List.mem_map.mp hname
        exact hheaders _ (mem_of_mapM_cellUpdate hdata value hvalue)

end Writing

/-! ### The two directions -/

section Aligned

variable {client : GoogleSheetTableClient} {header rowIndex : ℕ} {cells : ℕ → String}
  {names : List String}

theorem columnsAligned_of_soundHeader (hdistinct : (headersOf cells).Nodup) (hnames : names.Nodup)
    (hrow : header + 1 < rowIndex) (hrange : rowIndex ≤ readRange)
    (hplain : ∀ name ∈ headersOf cells ++ names, client.service.entered (.text name) = name)
    (hsound : SoundHeader header cells names) : ColumnsAligned client header cells names rowIndex := by
  rintro tab hheader rfl values hvalues
  set tab' := ensuredTab tab header names with htab'
  have hextends : Extends tab tab' header names := extends_ensuredTab hsound
  have hadds : AddsColumns tab tab' header names := addsColumns_ensuredTab hdistinct hnames hsound
  have hheader' := isHeaderRow_of_extends hheader hextends
  have hkeys : (values.map Prod.fst).Nodup := hvalues ▸ hnames
  have hmem : ∀ value ∈ values, value.1 ∈ headersOf (tab' header) := by
    intro value hvalue
    apply mem_headers_of_mem hextends
    rw [← hvalues]
    exact List.mem_map_of_mem hvalue
  set final := withCells client.service tab' header rowIndex values with hfinal
  have hsame : final header = tab' header := withCells_header hrow (le_refl header)
  have hindex : ∀ name ∈ headersOf (tab' header), name ≠ "row_index" := by
    intro name hname
    rw [hextends.headers, List.mem_append, mem_missingNames] at hname
    apply hsound.notRowIndex
    rw [List.mem_append]
    exact hname.imp_right And.left
  have hafter : ReadsAligned client final header := by
    have hbelow : IsHeaderRow final header := isHeaderRow_withCells hheader' hrow
    apply readsAligned_of_noGap client hbelow (by omega)
    · rw [hsame, hextends.headers]
      exact nodup_headers hdistinct hnames
    · rw [hsame]
      exact noGap_of_eq_range' hextends.columns
    · rw [hsame]
      exact hindex
  refine ⟨?_, ⟨_, tab', ensureColumns_eq hheader hsound.within hnames hsound.named hplain, hadds⟩, tab',
    hadds, updateRowCells_eq hheader hdistinct hnames hsound hvalues hplain, hafter,
    readsBack_of_readsAligned hheader' hrow hrange hkeys hmem hafter⟩
  apply readsAligned_of_noGap client hheader (by omega) hdistinct hsound.noGap
  intro name hname
  exact hsound.notRowIndex name (List.mem_append_left _ hname)

theorem soundHeader_of_columnsAligned (htwo : 2 ≤ (headerColumns cells).length)
    (hdistinct : (headersOf cells).Nodup) (hnames : names.Nodup) (hrow : header + 1 < rowIndex)
    (hplain : ∀ name ∈ headersOf cells ++ names, client.service.entered (.text name) = name)
    (h : ColumnsAligned client header cells names rowIndex) : SoundHeader header cells names := by
  -- every named column is given the text of the first header
  set tab := probeTab header cells with htab
  have hcells : tab header = cells := probeTab_header header cells
  have hheader : IsHeaderRow tab header := isHeaderRow_probeTab htwo
  obtain ⟨first, hfirst⟩ : ∃ first, first ∈ headersOf cells := by
    rw [← length_headersOf] at htwo
    exact List.exists_mem_of_length_pos (by omega)
  set values : Payload := names.map fun name => (name, Cell.text first) with hvalues
  have hkeys : values.map Prod.fst = names := by
    rw [hvalues, List.map_map]
    exact List.map_id' names
  obtain ⟨hread, ⟨headers, tab₁, hensure, hadds⟩, tab₂, hadds₂, hupdate, hafter, hback⟩ :=
    h tab hheader hcells values hkeys
  have hwithin : header < layoutRange := by
    by_contra hpast
    obtain ⟨e, hraise⟩ : ∃ e, client.ensureColumns tab names = (.error e, tab) :=
      ensureColumns_raises hheader (not_lt.mp hpast)
    rw [hensure] at hraise
    cases hraise
  have hlayout := layoutRange_lt_readRange
  have hnamed := named_of_updateRowCells hheader hwithin hkeys hensure hupdate
  have hgap : NoGap cells := noGap_of_readsAligned client htwo hdistinct (by omega) hread
  have htab₁ : tab₁ = ensuredTab tab header names := by
    have heq := ensureColumns_eq hheader hwithin hnames hnamed (by rwa [hcells])
    rw [hensure] at heq
    exact (Prod.mk.inj heq).2
  rw [htab₁] at hadds
  rw [← hcells] at hgap hdistinct hplain hfirst ⊢
  refine ⟨hwithin, hgap, ?_, hnamed, stripped_of_addsColumns hgap hadds,
    room_of_addsColumns hgap hdistinct hnames hnamed hadds⟩
  have hdata : header + 1 ∈ dataRows tab header :=
    mem_dataRows_probeTab htwo (Nat.lt_succ_self header) (by omega)
  intro name hname heq
  rcases List.mem_append.mp hname with hold | hnew
  · exact notRowIndex_of_readsAligned client hheader (by omega) hdata hread name hold heq
  · -- the row that is written shows text, so it is read back
    have hvalue : (name, Cell.text first) ∈ values := List.mem_map_of_mem hnew
    obtain ⟨hstrip, hne⟩ := hnamed name hnew
    have hadded : name ∈ headersOf (tab₂ header) :=
      (hadds₂.added name).mpr (Or.inr ⟨hne, name, hnew, hstrip⟩)
    obtain ⟨column, hcolumn, hat⟩ := List.mem_map.mp hadded
    have hentered : client.service.entered (sheetCellValue (.text first)) = first :=
      hplain first (List.mem_append_left _ hfirst)
    have hcell : withCells client.service tab₂ header rowIndex values (rowIndex - 1) column =
        client.service.entered (sheetCellValue (.text first)) :=
      withCells_at (hkeys ▸ hnames) hvalue hcolumn hat (by omega)
    rcases hback with hblank | ⟨payload, -, hindex, hpayload⟩
    · have hsame : withCells client.service tab₂ header rowIndex values header = tab₂ header :=
        withCells_header hrow (le_refl header)
      rw [hsame] at hblank
      have htext : blankFrom (firstColumn (tab₂ header))
          (withCells client.service tab₂ header rowIndex values (rowIndex - 1)) = false := by
        rw [blankFrom_eq_false_iff]
        refine ⟨column, firstColumn_le hcolumn, (mem_headerColumns.mp hcolumn).1, ?_⟩
        obtain ⟨hfirst_strip, hfirst_ne⟩ := strip_of_mem_headersOf hfirst
        rw [hcell, hentered, ← Bool.not_eq_true, Python.isBlank_iff, hfirst_strip]
        exact hfirst_ne
      rw [hblank] at htext
      cases htext
    · have hget := hpayload _ hvalue
      dsimp only at hget
      rw [heq, hindex] at hget
      cases hget

end Aligned

/-- Over every tab with a header row, reading, adding columns and writing a row stay aligned with the
headers exactly when the header row is sound. -/
theorem columns_aligned_iff (client : GoogleSheetTableClient) (header rowIndex : ℕ) (cells : ℕ → String)
    (names : List String) (htwo : 2 ≤ (headerColumns cells).length)
    (hdistinct : (headersOf cells).Nodup) (hnames : names.Nodup) (hrow : header + 1 < rowIndex)
    (hrange : rowIndex ≤ readRange)
    (hplain : ∀ name ∈ headersOf cells ++ names, client.service.entered (.text name) = name) :
    ColumnsAligned client header cells names rowIndex ↔ SoundHeader header cells names :=
  ⟨soundHeader_of_columnsAligned htwo hdistinct hnames hrow hplain,
    columnsAligned_of_soundHeader hdistinct hnames hrow hrange hplain⟩

/-- A service that returns every cell of the range and shows texts as they are. -/
def plainService : SheetsService where
  get tab rows columns := (List.range rows).map fun row => (List.range columns).map (tab row)
  entered
    | .text s => s
    | _ => ""
  cellAt_get tab rows columns row column := by
    unfold cellAt
    simp only [List.getD_eq_getElem?_getD, List.getElem?_map]
    by_cases hrow : row < rows
    · by_cases hcolumn : column < columns
      · simp [hrow, hcolumn]
      · simp [hrow, hcolumn]
    · simp [hrow]

def plainClient : GoogleSheetTableClient := { sheetName := "Trades", service := plainService }

/-- Two headers side by side, and two with a blank cell between them. -/
def tightHeader : ℕ → String
  | 0 => "id"
  | 1 => "status"
  | _ => ""

def gapHeader : ℕ → String
  | 0 => "id"
  | 2 => "status"
  | _ => ""

theorem columns_aligned_iff_tight :
    ColumnsAligned plainClient 0 tightHeader ["status", "note"] 3 ↔
      SoundHeader 0 tightHeader ["status", "note"] := by
  refine columns_aligned_iff plainClient 0 3 tightHeader ["status", "note"] ?_ ?_ ?_ ?_ ?_ ?_
  · decide +kernel
  · decide +kernel
  · decide +kernel
  · decide +kernel
  · decide +kernel
  · decide +kernel

/-- Behind a blank header cell, a header is read from the column before its own. -/
theorem gap_header_is_misread :
    ¬ ∀ (client : GoogleSheetTableClient) (header rowIndex : ℕ) (cells : ℕ → String)
      (names : List String), 2 ≤ (headerColumns cells).length → (headersOf cells).Nodup →
      names.Nodup → header + 1 < rowIndex → rowIndex ≤ readRange →
      (∀ name ∈ headersOf cells ++ names, client.service.entered (.text name) = name) →
        ColumnsAligned client header cells names rowIndex := by
  intro haligned
  have htwo : 2 ≤ (headerColumns gapHeader).length := by decide +kernel
  have hdistinct : (headersOf gapHeader).Nodup := by decide +kernel
  have h := haligned plainClient 0 3 gapHeader ["status"] htwo hdistinct (by decide) (by decide)
    (by decide +kernel) (by decide +kernel)
  have hread := (h (probeTab 0 gapHeader) (isHeaderRow_probeTab htwo) (probeTab_header 0 gapHeader)
    [("status", .text "open")] rfl).1
  have hgap : NoGap gapHeader := noGap_of_readsAligned plainClient htwo hdistinct (by decide +kernel) hread
  have htext := hgap 0 (by decide +kernel) 2 (by decide +kernel) 1 (by decide) (by decide)
  revert htext
  decide

end Bhiksha.Integrations
