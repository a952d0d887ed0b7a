import Bhiksha.Library.AssocList
import Bhiksha.Python

/-! The rows of the operator's sheets: how a raw record becomes a payload, and what each loader makes of
it. -/

namespace Bhiksha.ActivePlan

/-- A cell, and more generally a JSON value. -/
inductive Cell where
  | none
  | bool (b : Bool)
  | int (n : ℤ)
  | float (x : ℚ)
  | text (s : String)
  | list (cells : List Cell)
  | object (fields : List (String × Cell))

abbrev Payload : Type := List (String × Cell)

/-- An exception that no loader and no compilation catches. -/
inductive Abort where
  | attributeError (message : String)
  | typeError (message : String)
  | other (name : String)
deriving DecidableEq, Repr

namespace Cell

def isNone : Cell → Bool
  | .none => true
  | _ => false

/-- `bool(value)`. -/
def truthy : Cell → Bool
  | .none => false
  | .bool b => b
  | .int n => n ≠ 0
  | .float x => x ≠ 0
  | .text s => s ≠ ""
  | .list cells => !cells.isEmpty
  | .object fields => !fields.isEmpty

def typeName : Cell → String
  | .none => "NoneType"
  | .bool _ => "bool"
  | .int _ => "int"
  | .float _ => "float"
  | .text _ => "str"
  | .list _ => "list"
  | .object _ => "dict"

/-- `str(value)`, over the texts of the values that are no texts. -/
def str (repr : Cell → String) : Cell → String
  | .text s => s
  | cell => repr cell

/-- `value.strip()`. -/
def strip (cell : Cell) : Except Abort String :=
  match cell with
  | .text s => .ok (Python.strip s)
  | _ => .error (.attributeError (Python.reprString cell.typeName ++ " object has no attribute " ++
      Python.reprString "strip"))

/-- The number that a value compares as. -/
def number? : Cell → Option ℚ
  | .bool b => some (if b then 1 else 0)
  | .int n => some n
  | .float x => some x
  | _ => Option.none

end Cell

mutual

/-- `value == other`: numbers by their value, dictionaries whatever the order of their keys. -/
def Cell.pyEq : Cell → Cell → Bool
  | .none, other => other.isNone
  | .bool b, other => other.number? = some (if b then 1 else 0)
  | .int n, other => other.number? = some (n : ℚ)
  | .float x, other => other.number? = some x
  | .text s, .text t => s = t
  | .list cells, .list others => Cell.pyEqList cells others
  | .object fields, .object others => fields.length = others.length && Cell.pyEqFields fields others
  | _, _ => false

def Cell.pyEqList : List Cell → List Cell → Bool
  | [], [] => true
  | cell :: cells, other :: others => cell.pyEq other && Cell.pyEqList cells others
  | _, _ => false

def Cell.pyEqFields : List (String × Cell) → List (String × Cell) → Bool
  | [], _ => true
  | (key, value) :: rest, others =>
    (match others.lookup key with
    | some other => value.pyEq other
    | Option.none => false) && Cell.pyEqFields rest others

end

namespace Payload

/-- `payload.get(key)`. -/
def get (payload : Payload) (key : String) : Cell := (payload.lookup key).getD .none

/-- `payload[key] = value`. -/
def set (payload : Payload) (key : String) (value : Cell) : Payload :=
  if (payload.lookup key).isSome then
    payload.map fun field => if field.1 = key then (key, value) else field
  else payload ++ [(key, value)]

/-- `{**payload, **other}`. -/
def merge (payload other : Payload) : Payload :=
  other.foldl (fun merged field => Payload.set merged field.1 field.2) payload

theorem lookup_set (payload : Payload) (key other : String) (value : Cell) :
    (payload.set key value).lookup other = if other = key then some value else payload.lookup other := by
  have hreplace (fields : Payload) :
      (fields.map fun field => if field.1 = key then (key, value) else field).lookup other =
        if other = key then (fields.lookup key).map fun _ => value else fields.lookup other := by
    induction fields with
    | nil => simp
    | cons field rest ih =>
      obtain ⟨name, old⟩ := field
      rw [List.map_cons]
      by_cases hname : name = key
      · subst hname
        by_cases hother : other = name
        · simp [hother]
        · have hbeq : (other == name) = false := by simpa using hother
          simp only [if_true, List.lookup_cons, hbeq, ih, if_neg hother]
      · have hbeq : (key == name) = false := by simpa using fun heq => hname heq.symm
        rw [if_neg hname, List.lookup_cons, List.lookup_cons, List.lookup_cons, hbeq, ih]
        by_cases hother : other = key
        · subst hother
          rw [hbeq]
        · simp [hother]
  unfold Payload.set
  by_cases hsome : (payload.lookup key).isSome
  · rw [if_pos hsome, hreplace]
    obtain ⟨old, hold⟩ := Option.isSome_iff_exists.mp hsome
    rw [hold]
    rfl
  · have hnone : payload.lookup key = none := Option.not_isSome_iff_eq_none.mp hsome
    rw [if_neg hsome, List.lookup_append]
    by_cases hother : other = key
    · simp [hother, hnone]
    · have hbeq : (other == key) = false := by simpa using hother
      rw [if_neg hother, List.lookup_cons, hbeq, List.lookup_nil, Option.or_none]

theorem lookup_merge_of_notMem {payload other : Payload} {key : String}
    (h : key ∉ other.map Prod.fst) : (payload.merge other).lookup key = payload.lookup key := by
  unfold merge
  induction other generalizing payload with
  | nil => rfl
  | cons field rest ih =>
    rw [List.map_cons, List.mem_cons, not_or] at h
    rw [List.foldl_cons, ih h.2, lookup_set, if_neg h.1]

/-- A field of a dictionary wins over those that were there. -/
theorem lookup_merge_of_mem {payload other : Payload} (hkeys : (other.map Prod.fst).Nodup)
    {field : String × Cell} (h : field ∈ other) :
    (payload.merge other).lookup field.1 = some field.2 := by
  induction other generalizing payload with
  | nil => cases h
  | cons first rest ih =>
    rw [List.map_cons, List.nodup_cons] at hkeys
    have hstep : payload.merge (first :: rest) =
        (payload.set first.1 first.2).merge rest := rfl
    rw [hstep]
    rcases List.mem_cons.mp h with rfl | hrest
    · rw [lookup_merge_of_notMem hkeys.1, lookup_set, if_pos rfl]
    · exact ih hkeys.2 hrest

theorem lookup_merge {payload other : Payload} (hkeys : (other.map Prod.fst).Nodup) (key : String) :
    (payload.merge other).lookup key = (other.lookup key).or (payload.lookup key) := by
  cases hother : other.lookup key with
  | none =>
    have hkey : key ∉ other.map Prod.fst := by
      rw [← Library.isSome_lookup_iff_mem_keys, hother]
      simp
    rw [lookup_merge_of_notMem hkey, Option.none_or]
  | some value =>
    rw [lookup_merge_of_mem hkeys (Library.mem_of_lookup hother), Option.some_or]

theorem keys_set (payload : Payload) (key : String) (value : Cell) :
    (payload.set key value).map Prod.fst =
      if (payload.lookup key).isSome then payload.map Prod.fst else payload.map Prod.fst ++ [key] := by
  unfold Payload.set
  by_cases hsome : (payload.lookup key).isSome
  · rw [if_pos hsome, if_pos hsome, List.map_map]
    apply List.map_congr_left
    intro field _
    by_cases hfield : field.1 = key <;> simp [hfield]
  · rw [if_neg hsome, if_neg hsome, List.map_append]
    rfl

theorem keys_set_nodup {payload : Payload} (h : (payload.map Prod.fst).Nodup) (key : String)
    (value : Cell) : ((payload.set key value).map Prod.fst).Nodup := by
  rw [keys_set]
  by_cases hsome : (payload.lookup key).isSome
  · rwa [if_pos hsome]
  · have hkey : key ∉ payload.map Prod.fst := fun hmem => hsome (Library.isSome_lookup_iff_mem_keys.mpr hmem)
    rw [if_neg hsome]
    rw [← List.concat_eq_append]
    exact List.Nodup.concat hkey h

theorem keys_merge_nodup {payload : Payload} (h : (payload.map Prod.fst).Nodup) (other : Payload) :
    ((payload.merge other).map Prod.fst).Nodup := by
  unfold merge
  induction other generalizing payload with
  | nil => exact h
  | cons field rest ih => exact ih (keys_set_nodup h field.1 field.2)

end Payload

def columnAliases : List (String × String) :=
  [("id", "row_id"), ("deployment_id", "row_id"), ("type", "row_type"),
    ("mode", "authorization_mode"), ("strategy", "strategy_id"), ("setup", "manual_setup_type"),
    ("entry_trigger", "trigger_price"), ("trigger", "trigger_price"),
    ("trigger_level", "trigger_price"), ("entry_condition", "trigger_direction"),
    ("trigger_when", "trigger_direction"), ("after", "after_time_et"), ("days", "end_in_days"),
    ("dte", "end_in_days"), ("end_in_days", "end_in_days"), ("not_before", "after_time_et"),
    ("entry_after_et", "after_time_et"), ("max_premium", "max_trade_premium_usd"),
    ("premium_cap", "max_trade_premium_usd"), ("contract_cap", "max_contracts"),
    ("stop_pct", "stop_loss_pct"), ("target_r", "profit_target_multiple"),
    ("profit_target_r", "profit_target_multiple"), ("target_pct", "option_profit_target_pct"),
    ("profit_target_pct", "option_profit_target_pct"),
    ("option_target_pct", "option_profit_target_pct"),
    ("option_profit_target", "option_profit_target_pct"), ("flat_time", "hard_flat_time_et"),
    ("hard_flat", "hard_flat_time_et"), ("start", "entry_window_start_et"),
    ("end", "entry_window_end_et"), ("strategy_params", "strategy_params_override"),
    ("strategy_overrides", "strategy_params_override"), ("execution", "execution_overrides"),
    ("risk", "risk_overrides"), ("exit", "exit_overrides"),
    ("management_policy_spec", "exit_profile_spec"), ("exit_profile", "exit_profile_spec"),
    ("exit_profile_spec", "exit_profile_spec"), ("management_exit", "management_exit"),
    ("exit_strategy", "management_exit"), ("compare_exits", "compare_exits"),
    ("compare_exit_strategies", "compare_exits"), ("candidate_exits", "compare_exits"),
    ("candidate_exit_strategies", "compare_exits"), ("metadata", "source_metadata")]

section Normalize

/-- The parser of JSON texts, and the texts of values that are no texts. -/
structure TextCodec where
  jsonLoads : String → Option Cell
  repr : Cell → String

variable (codec : TextCodec)

def normalizeKey (value : String) : String :=
  String.ofList ((Python.stripChars value.toList).map fun c =>
    if c = ' ' ∨ c = '-' then '_' else c.toLower)

def normalizeValue : Cell → Cell
  | .text s =>
    let stripped := Python.strip s
    if stripped = "" then .none
    else if stripped.toLower ∈ ["true", "yes", "y"] then .bool true
    else if stripped.toLower ∈ ["false", "no", "n"] then .bool false
    else if stripped.startsWith "\x7b" || stripped.startsWith "[" then
      (codec.jsonLoads stripped).getD (.text stripped)
    else .text stripped
  | value => value

def pad2 (n : ℕ) : String := if n < 10 then "0" ++ toString n else toString n

/-- `normalize_time_text` of a text. -/
def timeText (s : String) : Cell :=
  let stripped := Python.strip s
  let fits (part : List Char) (widths : List ℕ) : Option ℕ :=
    if part.length ∈ widths then Python.digits? part else none
  let clock : Option String :=
    match stripped.toList.splitOn ':' with
    | [h, m] => do
      let hour ← fits h [1, 2]
      let minute ← fits m [2]
      if hour ≤ 23 ∧ minute ≤ 59 then some (pad2 hour ++ ":" ++ pad2 minute) else none
    | [h, m, s] => do
      let hour ← fits h [1, 2]
      let minute ← fits m [2]
      let second ← fits s [2]
      if hour ≤ 23 ∧ minute ≤ 59 ∧ second ≤ 59 then
        some (pad2 hour ++ ":" ++ pad2 minute ++ ":" ++ pad2 second)
      else none
    | _ => none
  if stripped = "" then .none else .text (clock.getD stripped)

def normalizeTimeText (cell : Cell) : Except Abort Cell :=
  match cell with
  | .none => .ok .none
  | .text s => .ok (timeText s)
  | _ => do
    let _ ← cell.strip
    return cell

/-- One column of a record; the operator's two override columns are merged. -/
def putColumn (normalized : Payload) (column : String × Cell) : Payload :=
  let key := normalizeKey column.1
  let key := (columnAliases.lookup key).getD key
  match normalized.get key, normalizeValue codec column.2 with
  | .none, value => normalized.set key value
  | _, .none => normalized
  | .object earlier, .object later =>
    normalized.set key (.object (if key = "execution_overrides" then Payload.merge earlier later else later))
  | _, value => normalized.set key value

def normalizeSheetMapping (data : Payload) : Except Abort Payload :=
  ["after_time_et", "entry_window_start_et", "entry_window_end_et", "hard_flat_time_et"].foldlM
    (fun normalized key => do return normalized.set key (← normalizeTimeText (normalized.get key)))
    (data.foldl (putColumn codec) [])

/-- `{**(normalized.get("source_metadata") or {}), key: value}`. -/
def stampMetadata (normalized : Payload) (key : String) (value : Cell) : Except Abort Payload :=
  let metadata := normalized.get "source_metadata"
  match if metadata.truthy then metadata else .object [] with
  | .object fields => .ok (normalized.set "source_metadata" (.object (Payload.set fields key value)))
  | _ => .error (.typeError (Python.reprString metadata.typeName ++ " object is not a mapping"))

def slugify (parts : List Cell) : String :=
  let tokens := parts.filterMap fun part =>
    if part.isNone then none
    else
      let text := Python.strip (part.str codec.repr)
      -- runs of other characters collapse to one underscore, and none stands at an end
      let words := (text.toList.map fun c => if c.isAlphanum then c.toLower else '_').splitOn '_'
      let words := (words.filter (· ≠ [])).map String.ofList
      if words = [] then none else some ("_".intercalate words)
  if tokens = [] then "sheet_row" else "_".intercalate tokens

def normalizedManualSetupType (value : Cell) : Except Abort String := do
  let setup := (← (if value.truthy then value else .text "manual_trigger").strip).toLower
  return if setup ∈ ["trigger", "manual_trigger"] then "manual_trigger"
    else if setup ∈ ["breakout", "manual_breakout"] then "breakout"
    else setup

def defaultRowId (normalized : Payload) : Except Abort String := do
  let rowType := normalized.get "row_type"
  let rowType := (Python.strip (if rowType.truthy then rowType.str codec.repr else "row")).toLower
  let index := normalized.get "row_index"
  let row := if index.isNone then Cell.none else .text ("row_" ++ index.str codec.repr)
  if rowType = "strategy" then
    let mode := normalized.get "authorization_mode"
    return slugify codec [.text "strategy", normalized.get "strategy_id",
      if mode.truthy then mode else .text "shadow", row]
  else if rowType = "manual" then
    let setup := normalized.get "manual_setup_type"
    let setup ← normalizedManualSetupType (if setup.truthy then setup else normalized.get "strategy_id")
    return slugify codec [.text setup, normalized.get "symbol", normalized.get "direction",
      normalized.get "trigger_direction", normalized.get "trigger_price", row]
  else return slugify codec [.text rowType, row]

/-- `_prepare_sheet_row_payload`; the type and the sheet are given for some loaders only. -/
def prepareSheetRowPayload (rowType sheetName : Option String) (rowIndex : ℕ) (data : Payload) :
    Except Abort Payload := do
  let normalized ← normalizeSheetMapping codec data
  let normalized :=
    match rowType with
    | some type => if (normalized.get "row_type").isNone then normalized.set "row_type" (.text type)
      else normalized
    | none => normalized
  let normalized :=
    if (normalized.get "row_index").isNone then normalized.set "row_index" (.int rowIndex)
    else normalized
  let normalized :=
    if (normalized.lookup "source_metadata").isSome then normalized
    else normalized.set "source_metadata" (.object [])
  let normalized ←
    match sheetName with
    | some name => stampMetadata normalized "sheet_name" (.text name)
    | none => pure normalized
  let normalized ← stampMetadata normalized "row_index" (normalized.get "row_index")
  if (normalized.get "row_id").isNone then
    return normalized.set "row_id" (.text (← defaultRowId codec normalized))
  else return normalized

end Normalize

section Rows

inductive RowType where
  | strategy
  | manual
deriving DecidableEq, Repr

/-- What the schema makes of the other columns of a row; they are of a type of their own. -/
structure RowColumns (R : Type) where
  rowType : RowType
  manualSetupType : Option String
  sourceMetadata : Payload
  columns : R

structure SheetRow (R : Type) extends RowColumns R where
  rowId : String
  enabled : Bool

/-- A row is refused, or the validation itself fails. -/
inductive RowError where
  | invalid (message : String)
  | abort (exc : Abort)
deriving DecidableEq, Repr

structure SuppressedRow where
  reason : String
  rowId : Cell
  rowIndex : Cell
  rowType : Cell
  sheetName : Cell
  suppressionClass : Option String := none
  raw : Option Payload := none

/-- A boolean column, as the schema library reads one. -/
def boolColumn? : Cell → Option Bool
  | .bool b => some b
  | .int n => if n = 1 then some true else if n = 0 then some false else none
  | .float x => if x = 1 then some true else if x = 0 then some false else none
  | .text s =>
    if s.toLower ∈ ["1", "on", "t", "true", "y", "yes"] then some true
    else if s.toLower ∈ ["0", "off", "f", "false", "n", "no"] then some false
    else none
  | _ => none

variable {R : Type} (schema : Payload → Except RowError (RowColumns R))

/-- `ActivePlanSheetRow.model_validate`: the two columns that the coverage is about, and the others. -/
def validateRow (payload : Payload) : Except RowError (SheetRow R) := do
  let columns ← schema payload
  match payload.get "row_id", (payload.lookup "enabled").elim (some true) boolColumn? with
  | .text id, some enabled =>
    let rowId := Python.strip id
    if rowId = "" then .error (.invalid "row_id is required")
    else return ⟨columns, rowId, enabled⟩
  | .text _, none => .error (.invalid "enabled: input should be a valid boolean")
  | _, _ => .error (.invalid "row_id: input should be a valid string")

def isDisabled (payload : Payload) : Bool :=
  match payload.get "enabled" with
  | .bool false => true
  | _ => false

def isStrategy (payload : Payload) : Bool :=
  match payload.get "row_type" with
  | .text type => type = "strategy"
  | _ => false

def shouldSkipPreparedRow (payload : Payload) : Bool :=
  if isDisabled payload then true
  else if isStrategy payload then (payload.get "strategy_id").isNone
  else
    match payload.get "row_type" with
    | .text "manual" =>
      ["manual_setup_type", "strategy_id", "symbol", "direction", "trigger_price",
        "trigger_direction"].all fun key => (payload.get key).isNone
    | _ => false

/-- What becomes of a record in a loader. -/
inductive Loaded (R : Type) where
  | skipped
  | refused (row : SuppressedRow)
  | parsed (row : SheetRow R)

/-- `_suppressed_row` of a payload. -/
def suppressedPayload (reason : String) (payload raw : Payload) : SuppressedRow :=
  let metadata : Payload :=
    match payload.get "source_metadata" with
    | .object fields => fields
    | _ => []
  let type := payload.get "row_type"
  { reason := reason
    rowId := payload.get "row_id"
    rowIndex := metadata.get "row_index"
    rowType := if type.truthy then type else .text "unknown"
    sheetName := metadata.get "sheet_name"
    raw := some raw }

/-- A prepared payload; a strategy row without its strategy is reported where it was meant as one. -/
def loadPayload (meantAsStrategy : Bool) (raw payload : Payload) : Except Abort (Loaded R) :=
  if shouldSkipPreparedRow payload then
    .ok (if !isDisabled payload && meantAsStrategy then
      .refused (suppressedPayload "enabled strategy row is missing strategy_id" payload raw)
    else .skipped)
  else
    match validateRow schema payload with
    | .ok row => .ok (.parsed row)
    | .error (.invalid message) => .ok (.refused (suppressedPayload message payload raw))
    | .error (.abort exc) => .error exc

variable (codec : TextCodec)

/-- A record of a Google sheet of one row type. -/
def loadSheetRecord (rowType : RowType) (sheetName : Option String) (raw : Payload) (index : ℕ) :
    Except Abort (Loaded R) := do
  let name := match rowType with
    | .strategy => "strategy"
    | .manual => "manual"
  loadPayload schema (rowType = .strategy) raw
    (← prepareSheetRowPayload codec (some name) sheetName index raw)

/-- `load_rows_from_sheet_records_with_report`. -/
def loadRowsFromSheetRecords (rowType : RowType) (sheetName : Option String) (rows : List Payload) :
    Except Abort (List (Loaded R)) :=
  (rows.zipIdx 2).mapM fun (raw, index) => loadSheetRecord schema codec rowType sheetName raw index

/-- A line of a CSV export. -/
def loadCsvRecord (fileName : String) (raw : Payload) (index : ℕ) : Except Abort (Loaded R) := do
  if raw.all fun field => field.2.isNone || Python.strip (field.2.str codec.repr) = "" then
    return .skipped
  else
    let payload ← prepareSheetRowPayload codec none (some fileName) index raw
    loadPayload schema (isStrategy payload) raw payload

/-- `_load_csv_rows_with_report`. -/
def loadCsvRows (fileName : String) (rows : List Payload) : Except Abort (List (Loaded R)) :=
  (rows.zipIdx 2).mapM fun (raw, index) => loadCsvRecord schema codec fileName raw index

/-- An item of a JSON export; one that is no object is reported without a row id. -/
def loadJsonItem (fileName : String) (item : Cell) (index : ℕ) : Except Abort (Loaded R) :=
  match item with
  | .object raw => do
    let payload ← prepareSheetRowPayload codec none (some fileName) index raw
    loadPayload schema (isStrategy payload) raw payload
  | _ => .ok (.refused
      { reason := "JSON sheet rows must be objects"
        rowId := .none
        rowIndex := .int index
        rowType := .text "unknown"
        sheetName := .text fileName })

/-- `_load_json_rows_with_report`. -/
def loadJsonRows (fileName : String) (items : List Cell) : Except Abort (List (Loaded R)) :=
  (items.zipIdx 1).mapM fun (item, index) => loadJsonItem schema codec fileName item index

end Rows

end Bhiksha.ActivePlan
