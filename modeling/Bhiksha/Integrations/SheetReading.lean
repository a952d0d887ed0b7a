import Bhiksha.Integrations.SheetLayout

/-! What `read_rows` returns, in terms of the cells of the tab. -/

namespace Bhiksha.Integrations

open Library
open ActivePlan (Cell Payload)
open GoogleSheetTableClient (rangeColumns readRange rowPayload)

/-! ### Rows that are numbered -/

section Numbered

variable {α β : Type}

/-- Indexes with nothing to give can be left out at the end. -/
theorem filterMap_range_eq {f : ℕ → Option β} {m n : ℕ} (hm : ∀ i, m ≤ i → f i = none)
    (hn : ∀ i, n ≤ i → f i = none) : (List.range m).filterMap f = (List.range n).filterMap f := by
  have hextend {a b : ℕ} (hle : a ≤ b) (ha : ∀ i, a ≤ i → f i = none) :
      (List.range b).filterMap f = (List.range a).filterMap f := by
    obtain ⟨rest, rfl⟩ := Nat.exists_eq_add_of_le hle
    have hnone : ((List.range rest).map (a + ·)).filterMap f = [] := by
      rw [List.filterMap_eq_nil_iff]
      intro i hi
      obtain ⟨j, -, rfl⟩ := List.mem_map.mp hi
      exact ha (a + j) (Nat.le_add_right a j)
    rw [List.range_add, List.filterMap_append, hnone, List.append_nil]
  rcases le_total m n with hle | hle
  · exact (hextend hle hm).symm
  · exact hextend hle hn

/-- A pass over the numbered rows goes by the numbers. -/
theorem filterMap_zipIdx_eq (rows : List α) (blank : α) (first : ℕ) (f : α × ℕ → Option β) (n : ℕ)
    (hblank : ∀ i, rows.length ≤ i → f (blank, first + i) = none)
    (hn : ∀ i, n ≤ i → f (rows.getD i blank, first + i) = none) :
    (rows.zipIdx first).filterMap f =
      (List.range n).filterMap fun i => f (rows.getD i blank, first + i) := by
  have hrows : rows.zipIdx first =
      (List.range rows.length).map fun i => (rows.getD i blank, first + i) := by
    apply List.ext_getElem
    · simp
    · intro i hleft hright
      rw [List.length_zipIdx] at hleft
      rw [List.getElem_zipIdx, List.getElem_map, List.getElem_range,
        List.getD_eq_getElem _ _ hleft]
  rw [hrows, List.filterMap_map]
  refine filterMap_range_eq ?_ hn
  intro i hi
  have hdefault : rows.getD i blank = blank := by
    rw [List.getD_eq_getElem?_getD, List.getElem?_eq_none hi]
    rfl
  rw [Function.comp_apply, hdefault]
  exact hblank i hi

theorem filterMap_ite_eq {p : α → Bool} {f : α → β} (xs : List α) :
    xs.filterMap (fun x => if p x then none else some (f x)) =
      (xs.filter fun x => !p x).map f := by
  induction xs with
  | nil => rfl
  | cons x xs ih =>
    by_cases hx : p x
    · simp [hx, ih]
    · simp [hx, ih]

end Numbered

/-! ### The rows that are read -/

/-- The row has no text from the first header's column on. -/
def blankFrom (first : ℕ) (cells : ℕ → String) : Bool :=
  (List.range rangeColumns).all fun column => column < first ∨ Python.isBlank (cells column)

/-- The rows of the read range below the header row that have text. -/
def dataRows (tab : Tab) (header : ℕ) : List ℕ :=
  (List.range' (header + 1) (readRange - (header + 1))).filter fun row =>
    !blankFrom (firstColumn (tab header)) (tab row)

/-- The payload that `read_rows` makes of a row: the headers go by their place among the headers. -/
def payloadAt (tab : Tab) (header row : ℕ) : Payload :=
  let headers := headersOf (tab header)
  Payload.set
    (Payload.merge [] ((List.range headers.length).map fun place =>
      (headers.getD place "", Cell.text (tab row (firstColumn (tab header) + place)))))
    "row_index" (.int (row + 1))

section Rows

variable {tab : Tab} {header : ℕ} {cells : ℕ → String}

theorem blankFrom_eq_false_iff {first : ℕ} : blankFrom first cells = false ↔
    ∃ column, first ≤ column ∧ column < rangeColumns ∧ Python.isBlank (cells column) = false := by
  unfold blankFrom
  rw [List.all_eq_false]
  simp only [List.mem_range, decide_eq_true_eq, not_or, not_lt, Bool.not_eq_true]
  constructor
  · intro ⟨column, hlt, hfirst, htext⟩
    exact ⟨column, hfirst, hlt, htext⟩
  · intro ⟨column, hfirst, hlt, htext⟩
    exact ⟨column, hlt, hfirst, htext⟩

theorem mem_dataRows {row : ℕ} : row ∈ dataRows tab header ↔ header < row ∧ row < readRange ∧
    blankFrom (firstColumn (tab header)) (tab row) = false := by
  unfold dataRows
  rw [List.mem_filter, List.mem_range'_1, Bool.not_eq_true']
  have hrange : header + 1 ≤ row ∧ row < header + 1 + (readRange - (header + 1)) ↔
      header < row ∧ row < readRange := by omega
  rw [hrange, and_assoc]

/-- The cells of a row from some column on. -/
theorem getD_drop_of_shows {row : List String} (h : ShowsRow row cells) (first place : ℕ) :
    (row.drop first).getD place "" =
      if first + place < rangeColumns then cells (first + place) else "" := by
  rw [← h (first + place), List.getD_eq_getElem?_getD, List.getD_eq_getElem?_getD, List.getElem?_drop]

theorem all_isBlank_drop {row : List String} (h : ShowsRow row cells) (first : ℕ) :
    (row.drop first).all Python.isBlank = blankFrom first cells := by
  rw [Bool.eq_iff_iff, ← not_iff_not, Bool.not_eq_true, Bool.not_eq_true, blankFrom_eq_false_iff,
    List.all_eq_false]
  constructor
  · intro ⟨text, hmem, htext⟩
    obtain ⟨place, hplace, rfl⟩ := List.mem_iff_getElem.mp hmem
    have hcell := getD_drop_of_shows h first place
    rw [List.getD_eq_getElem _ _ hplace] at hcell
    rw [Bool.not_eq_true, hcell] at htext
    split_ifs at htext with hlt
    · exact ⟨first + place, Nat.le_add_right _ _, hlt, htext⟩
    · exact absurd htext (by decide)
  · intro ⟨column, hfirst, hlt, htext⟩
    have hcell := getD_drop_of_shows h first (column - first)
    rw [Nat.add_sub_cancel' hfirst, if_pos hlt] at hcell
    by_cases hplace : column - first < (row.drop first).length
    · refine ⟨(row.drop first)[column - first], List.getElem_mem hplace, ?_⟩
      rw [List.getD_eq_getElem _ _ hplace] at hcell
      rw [hcell, htext]
      decide
    · rw [List.getD_eq_getElem?_getD, List.getElem?_eq_none (not_lt.mp hplace)] at hcell
      rw [← hcell] at htext
      exact absurd htext (by decide)

/-- The headers fit into the read range. -/
theorem firstColumn_add_lt {place : ℕ} (h : place < (headerColumns cells).length) :
    firstColumn cells + place ≤ (headerColumns cells)[place] := by
  have hsorted := headerColumns_sorted cells
  induction place with
  | zero =>
    unfold firstColumn
    rw [List.headD_eq_head?_getD, List.head?_eq_getElem?, List.getElem?_eq_getElem h]
    exact le_refl _
  | succ place ih =>
    have hprevious := ih (by omega)
    have hstep := List.pairwise_iff_getElem.mp hsorted place (place + 1) (by omega) h (by omega)
    omega

theorem rowPayload_eq {row : List String} {number : ℕ} (h : ShowsRow row cells) :
    rowPayload (headersOf (tab header)) number (row.drop (firstColumn (tab header))) =
      Payload.set
        (Payload.merge [] ((List.range (headersOf (tab header)).length).map fun place =>
          ((headersOf (tab header)).getD place "",
            Cell.text (cells (firstColumn (tab header) + place))))) "row_index" (.int number) := by
  set headers := headersOf (tab header) with hheaders
  set relevant := row.drop (firstColumn (tab header)) with hrelevant
  have hpairs : headers.zip ((relevant ++ List.replicate (headers.length - relevant.length) "").map
      Cell.text) = (List.range headers.length).map fun place =>
        (headers.getD place "", Cell.text (cells (firstColumn (tab header) + place))) := by
    apply List.ext_getElem
    · simp only [List.length_zip, List.length_map, List.length_append, List.length_replicate,
        List.length_range]
      omega
    · intro place hleft hright
      rw [List.length_map, List.length_range] at hright
      have hcolumns : place < (headerColumns (tab header)).length := by
        rwa [hheaders, headersOf, List.length_map] at hright
      have hin : firstColumn (tab header) + place < rangeColumns :=
        lt_of_le_of_lt (firstColumn_add_lt hcolumns)
          (mem_headerColumns.mp (List.getElem_mem hcolumns)).1
      have hcell := getD_drop_of_shows h (firstColumn (tab header)) place
      rw [if_pos hin, ← hrelevant] at hcell
      rw [List.getElem_zip, List.getElem_map, List.getElem_map, List.getElem_range,
        List.getD_eq_getElem _ _ hright, ← hcell]
      congr 2
      -- the padding is what a cell that is left out shows
      by_cases hplace : place < relevant.length
      · rw [List.getElem_append_left hplace, List.getD_eq_getElem _ _ hplace]
      · rw [List.getElem_append_right (not_lt.mp hplace), List.getElem_replicate,
          List.getD_eq_getElem?_getD, List.getElem?_eq_none (not_lt.mp hplace)]
        rfl
  unfold rowPayload
  dsimp only
  rw [hpairs]

variable (client : GoogleSheetTableClient)

theorem showsRow_beyond {row : ℕ} (hrow : readRange ≤ row) :
    ShowsRow ((client.readValues tab readRange).getD row []) fun _ => "" := by
  intro column
  have hcell := client.service.cellAt_get tab readRange rangeColumns row column
  rw [if_neg (fun h => absurd h.1 (not_lt.mpr hrow))] at hcell
  rw [ite_self]
  exact hcell

/-- The rows that are read, one for each row of the range that has text. -/
theorem readRows_eq (hheader : IsHeaderRow tab header) (hrange : header < readRange) :
    client.readRows tab = (dataRows tab header).map (payloadAt tab header) := by
  set first := firstColumn (tab header) with hfirst
  set values := client.readValues tab readRange with hvalues
  have hlayout : detectLayout values = some
      { headerRowNumber := header + 1, headerStartIndex := first, headers := headersOf (tab header) } :=
    detectLayout_get client.service hheader hrange
  have hblank : blankFrom first (fun _ => "") = true := by
    rw [← Bool.not_eq_false, blankFrom_eq_false_iff]
    intro ⟨_, _, _, htext⟩
    exact absurd htext (by decide)
  unfold GoogleSheetTableClient.readRows
  dsimp only
  rw [← hvalues, hlayout]
  dsimp only
  have hshown (place : ℕ) : ((values.drop (header + 1)).getD place []) =
      values.getD (header + 1 + place) [] := by
    rw [List.getD_eq_getElem?_getD, List.getD_eq_getElem?_getD, List.getElem?_drop]
  rw [filterMap_zipIdx_eq (values.drop (header + 1)) [] (header + 1 + 1) _ (readRange - (header + 1))]
  · have hpass : ∀ place ∈ List.range (readRange - (header + 1)),
        (if (((values.drop (header + 1)).getD place []).drop first).all Python.isBlank then none
          else some (rowPayload (headersOf (tab header)) (header + 1 + 1 + place)
            (((values.drop (header + 1)).getD place []).drop first))) =
        if blankFrom first (tab (header + 1 + place)) then none
          else some (payloadAt tab header (header + 1 + place)) := by
      intro place hplace
      rw [List.mem_range] at hplace
      have hrow : ShowsRow (values.getD (header + 1 + place) []) (tab (header + 1 + place)) :=
        showsRow_get client.service tab (by omega)
      have hnumber : ((header + 1 + 1 + place : ℕ) : ℤ) = ((header + 1 + place : ℕ) : ℤ) + 1 := by
        push_cast
        omega
      rw [hshown, all_isBlank_drop hrow, rowPayload_eq hrow, hnumber]
      rfl
    rw [List.filterMap_congr hpass, filterMap_ite_eq]
    unfold dataRows
    rw [List.range'_eq_map_range, List.filter_map, List.map_map]
    rfl
  · -- a row that is left out has no text
    intro place _
    rw [List.drop_nil, List.all_nil, if_pos rfl]
  · intro place hplace
    have hrow : ShowsRow (values.getD (header + 1 + place) []) fun _ => "" :=
      showsRow_beyond client (by omega)
    have hskip : (((values.drop (header + 1)).getD place []).drop first).all Python.isBlank = true := by
      rw [hshown place, all_isBlank_drop hrow, hblank]
    exact if_pos hskip

end Rows

end Bhiksha.Integrations
