import Bhiksha.ActivePlan.Coverage
import Bhiksha.Library.Accounting

/-! When a released plan accounts for every record of its export. -/

namespace Bhiksha.ActivePlan

open Library

variable {R : Type}

/-- The enabled deployments of one id. -/
def enabledDeployments (deployments : List Deployment) (id : String) : List Deployment :=
  deployments.filter fun deployment => deployment.enabled && decide (deployment.deploymentId = id)

/-- The enabled rows of one id, with their fates. -/
def enabledEntries (fates : List (SheetRow R × Fate)) (id : String) : List (SheetRow R × Fate) :=
  fates.filter fun entry => entry.1.enabled && decide (entry.1.rowId = id)

/-- Every record that is neither skipped nor disabled yields the one enabled deployment of its id, or a
policy gate suppressed it; and every enabled deployment comes from the one enabled record of its id. -/
structure Accounted (records : List (Loaded R)) (fates : List (SheetRow R × Fate)) : Prop where
  refused : refusedRows records = []
  parsed : fates.map Prod.fst = parsedRows records
  enabled : ∀ row fate, (row, fate) ∈ fates → row.enabled = true →
    (∃ reason, fate = .policyGate reason) ∨
      ∃ deployment, fate = .compiled deployment ∧
        enabledDeployments (deploymentsOf fates) row.rowId = [deployment]
  deployments : ∀ row deployment, (row, .compiled deployment) ∈ fates → deployment.enabled = true →
    enabledEntries fates deployment.deploymentId = [(row, .compiled deployment)]

/-- The rows that are compiled: the first of each id. -/
def firstRows : List String → List (SheetRow R) → List (SheetRow R)
  | _, [] => []
  | seen, row :: rows =>
    if row.rowId ∈ seen then firstRows seen rows
    else row :: firstRows (row.rowId :: seen) rows

/-- The reserved deployment of a row on the weekly route, which stands in for the row's own. -/
structure StandsIn (compilers : RowCompilers R) (row : SheetRow R) (deployment : Deployment) : Prop where
  manual : row.rowType = .manual
  setup : normalizedManualSetupType (row.manualSetupType.elim .none .text) = .ok "manual_trigger"
  weekly : row.sourceOwner = .text "cartographer_weekly"
  checked : compilers.manualTriggerRow row = .ok ()
  frozen : compilers.frozenDeployment row = some deployment

/-- No two records are confounded: a refused record has an id that counts, a policy gate on a disabled
row does not stand in for an expected id, and a reserved deployment is that of its own enabled row. -/
structure Unconfounded (compilers : RowCompilers R) (repr : Cell → String)
    (records : List (Loaded R)) : Prop where
  named : ∀ item ∈ refusedRows records, item.rowId.truthy = true
  unmasked : ∀ row ∈ firstRows [] (parsedRows records), row.enabled = false →
    (∃ reason, compileRow compilers repr row = .error (.policyGate reason)) →
      row.rowId ∉ expectedEnabledRowIds repr records
  own : ∀ row ∈ firstRows [] (parsedRows records), ∀ deployment,
    StandsIn compilers row deployment → row.enabled = true ∨ deployment.enabled = true →
      row.enabled = true ∧ deployment = ⟨row.rowId, true⟩

section Compilation

variable {compilers : RowCompilers R} {repr : Cell → String} {row : SheetRow R} {fate : Fate}

theorem fateOf_ne_duplicate (h : fateOf compilers repr row = .ok fate) : fate ≠ .duplicate := by
  unfold fateOf at h
  split at h <;> simp_all [eq_comm]

theorem compileRow_of_compiled {deployment : Deployment}
    (h : fateOf compilers repr row = .ok (.compiled deployment)) :
    compileRow compilers repr row = .ok deployment := by
  unfold fateOf at h
  split at h <;> simp_all

theorem compileRow_of_policyGate {reason : String}
    (h : fateOf compilers repr row = .ok (.policyGate reason)) :
    compileRow compilers repr row = .error (.policyGate reason) := by
  unfold fateOf at h
  split at h <;> simp_all

theorem StandsIn.compileRow_eq {deployment : Deployment} (h : StandsIn compilers row deployment) :
    compileRow compilers repr row = .ok deployment := by
  have hreserved : compileManualTriggerRow compilers row = .ok deployment := by
    unfold compileManualTriggerRow
    rw [h.weekly, h.checked, h.frozen]
    rfl
  unfold compileRow
  rw [h.manual, h.setup]
  dsimp only [Except.mapError, bind, Except.bind]
  rw [if_pos rfl, h.weekly]
  exact hreserved

/-- What a row compiles into carries the row's own id and switch, or it was reserved. -/
theorem own_or_standsIn {deployment : Deployment}
    (h : compileRow compilers repr row = .ok deployment) :
    deployment = row.deployment ∨ StandsIn compilers row deployment := by
  unfold compileRow at h
  cases htype : row.rowType with
  | strategy =>
    rw [htype] at h
    obtain ⟨_, -, hrow⟩ := Except.bind_eq_ok_iff.mp h
    exact .inl (Except.ok.inj hrow).symm
  | manual =>
    rw [htype] at h
    obtain ⟨setup, hsetup, h⟩ := Except.bind_eq_ok_iff.mp h
    split at h
    · next htrigger =>
      dsimp only at h
      -- the two compilers of manual triggers; only the second one looks for a reserved deployment
      by_cases hcartographer :
          (if row.sourceOwner.truthy then row.sourceOwner.str repr else "") = "market_cartographer"
      · rw [if_pos hcartographer] at h
        obtain ⟨_, -, hrow⟩ := Except.bind_eq_ok_iff.mp h
        exact .inl (Except.ok.inj hrow).symm
      · rw [if_neg hcartographer] at h
        obtain ⟨_, hchecked, hrow⟩ := Except.bind_eq_ok_iff.mp h
        split at hrow
        · next hweekly =>
          cases hfrozen : compilers.frozenDeployment row with
          | none =>
            rw [hfrozen] at hrow
            exact .inl (Except.ok.inj hrow).symm
          | some reserved =>
            rw [hfrozen] at hrow
            obtain rfl : reserved = deployment := Except.ok.inj hrow
            rw [htrigger] at hsetup
            exact .inr ⟨htype, Except.eq_ok_of_mapError hsetup, hweekly, hchecked, hfrozen⟩
        · exact .inl (Except.ok.inj hrow).symm
    · obtain ⟨_, -, hrow⟩ := Except.bind_eq_ok_iff.mp h
      exact .inl (Except.ok.inj hrow).symm

theorem fateOf_of_compileRow {deployment : Deployment}
    (h : compileRow compilers repr row = .ok deployment) :
    fateOf compilers repr row = .ok (.compiled deployment) := by
  unfold fateOf
  rw [h]

theorem fateOf_of_policyGate {reason : String}
    (h : compileRow compilers repr row = .error (.policyGate reason)) :
    fateOf compilers repr row = .ok (.policyGate reason) := by
  unfold fateOf
  rw [h]

theorem firstRows_fresh (seen : List String) (rows : List (SheetRow R)) :
    ∀ row ∈ firstRows seen rows, row.rowId ∉ seen := by
  induction rows generalizing seen with
  | nil => exact fun row hrow => absurd hrow List.not_mem_nil
  | cons first rows ih =>
    intro row hrow
    unfold firstRows at hrow
    split at hrow
    · exact ih seen row hrow
    · rename_i hfresh
      rcases List.mem_cons.mp hrow with rfl | hrest
      · exact hfresh
      · exact fun hseen => ih _ row hrest (List.mem_cons_of_mem _ hseen)

theorem nodup_firstRows (seen : List String) (rows : List (SheetRow R)) :
    ((firstRows seen rows).map fun row => row.rowId).Nodup := by
  induction rows generalizing seen with
  | nil => exact List.nodup_nil
  | cons first rows ih =>
    unfold firstRows
    split
    · exact ih seen
    · refine List.nodup_cons.mpr ⟨?_, ih _⟩
      intro hmem
      obtain ⟨row, hrow, hid⟩ := List.mem_map.mp hmem
      exact firstRows_fresh _ rows row hrow (hid ▸ List.mem_cons_self)

/-- What a compilation makes of its rows: the first row of each id has the fate of its own attempt, and
every other row is a duplicate. -/
structure Judged (compilers : RowCompilers R) (repr : Cell → String) (seen : List String)
    (rows : List (SheetRow R)) (fates : List (SheetRow R × Fate)) : Prop where
  parsed : fates.map Prod.fst = rows
  first : (fates.filter fun entry => entry.2 ≠ .duplicate).map Prod.fst = firstRows seen rows
  fate : ∀ entry ∈ fates, entry.2 ≠ .duplicate → fateOf compilers repr entry.1 = .ok entry.2

theorem judged_compileRows {seen : List String} {rows : List (SheetRow R)}
    {fates : List (SheetRow R × Fate)} (h : compileRows compilers repr seen rows = .ok fates) :
    Judged compilers repr seen rows fates := by
  induction rows generalizing seen fates with
  | nil =>
    obtain rfl : [] = fates := Except.ok.inj h
    exact ⟨rfl, rfl, fun entry hentry => absurd hentry List.not_mem_nil⟩
  | cons row rows ih =>
    unfold compileRows at h
    split at h
    · rename_i hseen
      obtain ⟨rest, hrest, hfates⟩ := Except.bind_eq_ok_iff.mp h
      obtain rfl : (row, Fate.duplicate) :: rest = fates := Except.ok.inj hfates
      have hjudged := ih hrest
      refine ⟨congrArg (row :: ·) hjudged.parsed, ?_, ?_⟩
      · rw [List.filter_cons_of_neg (by simp), hjudged.first, firstRows, if_pos hseen]
      · intro entry hentry hne
        rcases List.mem_cons.mp hentry with rfl | hmem
        · exact absurd rfl hne
        · exact hjudged.fate entry hmem hne
    · rename_i hfresh
      obtain ⟨fate, hfate, h⟩ := Except.bind_eq_ok_iff.mp h
      obtain ⟨rest, hrest, hfates⟩ := Except.bind_eq_ok_iff.mp h
      obtain rfl : (row, fate) :: rest = fates := Except.ok.inj hfates
      have hjudged := ih hrest
      have hne : fate ≠ .duplicate := fateOf_ne_duplicate hfate
      refine ⟨congrArg (row :: ·) hjudged.parsed, ?_, ?_⟩
      · rw [List.filter_cons_of_pos (by simpa using hne), List.map_cons, hjudged.first, firstRows,
          if_neg hfresh]
      · intro entry hentry hne'
        rcases List.mem_cons.mp hentry with rfl | hmem
        · exact hfate
        · exact hjudged.fate entry hmem hne'

namespace Judged

variable {seen : List String} {rows : List (SheetRow R)} {fates : List (SheetRow R × Fate)}

theorem mem_firstRows (h : Judged compilers repr seen rows fates) (hmem : (row, fate) ∈ fates)
    (hne : fate ≠ .duplicate) : row ∈ firstRows seen rows := by
  rw [← h.first]
  exact List.mem_map_of_mem (List.mem_filter.mpr ⟨hmem, by simpa using hne⟩)

/-- A first row is in the list with the fate of its attempt. -/
theorem mem_of_firstRows (h : Judged compilers repr seen rows fates) (hfirst : row ∈ firstRows seen rows)
    (hfate : fateOf compilers repr row = .ok fate) : (row, fate) ∈ fates := by
  rw [← h.first] at hfirst
  obtain ⟨⟨row', fate'⟩, hentry, heq⟩ := List.mem_map.mp hfirst
  obtain ⟨hmem, hne⟩ := List.mem_filter.mp hentry
  obtain rfl : row' = row := heq
  have hfate' := h.fate (row', fate') hmem (by simpa using hne)
  obtain rfl : fate' = fate := Except.ok.inj (hfate'.symm.trans hfate)
  exact hmem

/-- Two rows that were attempted under one id are one entry. -/
theorem eq_of_rowId_eq (h : Judged compilers repr seen rows fates) {row' : SheetRow R} {fate' : Fate}
    (hmem : (row, fate) ∈ fates) (hne : fate ≠ .duplicate) (hmem' : (row', fate') ∈ fates)
    (hne' : fate' ≠ .duplicate) (hid : row.rowId = row'.rowId) : (row, fate) = (row', fate') := by
  have hnodup : ((fates.filter fun entry => entry.2 ≠ .duplicate).map
      fun entry => entry.1.rowId).Nodup := by
    have hrows := nodup_firstRows seen rows
    rw [← h.first, List.map_map] at hrows
    exact hrows
  exact List.inj_on_of_nodup_map hnodup (List.mem_filter.mpr ⟨hmem, by simpa using hne⟩)
    (List.mem_filter.mpr ⟨hmem', by simpa using hne'⟩) hid

end Judged

end Compilation

section Ids

variable {repr : Cell → String} {records : List (Loaded R)} {fates : List (SheetRow R × Fate)}
  {id : String}

theorem mem_deploymentsOf {deployment : Deployment} :
    deployment ∈ deploymentsOf fates ↔ ∃ row, (row, Fate.compiled deployment) ∈ fates := by
  unfold deploymentsOf
  constructor
  · intro h
    obtain ⟨⟨row, fate⟩, hmem, hfate⟩ := List.mem_filterMap.mp h
    cases fate with
    | compiled compiled =>
      obtain rfl : compiled = deployment := Option.some.inj hfate
      exact ⟨row, hmem⟩
    | duplicate => exact absurd hfate (by simp [Fate.deployment?])
    | policyGate reason => exact absurd hfate (by simp [Fate.deployment?])
    | refused reason => exact absurd hfate (by simp [Fate.deployment?])
  · intro h
    obtain ⟨row, hmem⟩ := h
    exact List.mem_filterMap.mpr ⟨(row, .compiled deployment), hmem, rfl⟩

theorem exists_of_mem_loaded (h : id ∈ loadedDeploymentIds (deploymentsOf fates)) :
    ∃ row deployment, (row, Fate.compiled deployment) ∈ fates ∧ deployment.enabled = true ∧
      deployment.deploymentId = id := by
  obtain ⟨deployment, hdeployment, hid⟩ := List.mem_map.mp (List.mem_toFinset.mp h)
  obtain ⟨hmem, henabled⟩ := List.mem_filter.mp hdeployment
  obtain ⟨row, hrow⟩ := mem_deploymentsOf.mp hmem
  exact ⟨row, deployment, hrow, henabled, hid⟩

/-- Only a row of the compilation can be suppressed by a policy gate. -/
theorem exists_of_mem_policyGate {suppressed : List SuppressedRow}
    (hloaded : ∀ item ∈ suppressed, item.suppressionClass = none)
    (h : id ∈ policyGateRowIds repr (suppressed ++ suppressedOf fates)) :
    ∃ row reason, (row, Fate.policyGate reason) ∈ fates ∧ row.rowId = id := by
  obtain ⟨item, hitem, hid⟩ := List.mem_map.mp (List.mem_toFinset.mp h)
  obtain ⟨hmem, hgate⟩ := List.mem_filter.mp hitem
  have hclass : item.suppressionClass = some "policy_gate" := by
    simp only [Bool.and_eq_true, decide_eq_true_eq] at hgate
    exact hgate.2
  rcases List.mem_append.mp hmem with hold | hnew
  · rw [hloaded item hold] at hclass
    exact absurd hclass (by simp)
  · obtain ⟨⟨row, fate⟩, hentry, hfate⟩ := List.mem_filterMap.mp hnew
    cases fate with
    | policyGate reason =>
      obtain rfl : suppressedRow row reason (some "policy_gate") = item := Option.some.inj hfate
      exact ⟨row, reason, hentry, hid⟩
    | duplicate =>
      obtain rfl := Option.some.inj hfate
      exact absurd hclass (by simp [suppressedRow])
    | refused reason =>
      obtain rfl := Option.some.inj hfate
      exact absurd hclass (by simp [suppressedRow])
    | compiled deployment => exact absurd hfate (by simp [Fate.suppressed?])

theorem mem_expected_of_enabled {row : SheetRow R} (hrow : row ∈ parsedRows records)
    (henabled : row.enabled = true) : row.rowId ∈ expectedEnabledRowIds repr records :=
  List.mem_append_left _ (List.mem_map_of_mem (List.mem_filter.mpr ⟨hrow, henabled⟩))

theorem mem_expected_of_refused {item : SuppressedRow} (hitem : item ∈ refusedRows records)
    (htruthy : item.rowId.truthy = true) : item.rowId.str repr ∈ expectedEnabledRowIds repr records :=
  List.mem_append_right _ (List.mem_map_of_mem (f := fun item : SuppressedRow => item.rowId.str repr)
    (List.mem_filter.mpr ⟨hitem, htruthy⟩))

/-- Where the expected ids are distinct, no enabled row has the id of a refused record. -/
theorem ne_refused_of_nodup (hnodup : (expectedEnabledRowIds repr records).Nodup) {row : SheetRow R}
    (hrow : row ∈ parsedRows records) (henabled : row.enabled = true) {item : SuppressedRow}
    (hitem : item ∈ refusedRows records) (htruthy : item.rowId.truthy = true) :
    row.rowId ≠ item.rowId.str repr := by
  intro heq
  have hdisjoint := List.disjoint_of_nodup_append hnodup
  exact hdisjoint (List.mem_map_of_mem (List.mem_filter.mpr ⟨hrow, henabled⟩))
    (heq ▸ List.mem_map_of_mem (f := fun item : SuppressedRow => item.rowId.str repr)
      (List.mem_filter.mpr ⟨hitem, htruthy⟩))

/-- And no two enabled rows have one id. -/
theorem nodup_enabled (hnodup : (expectedEnabledRowIds repr records).Nodup)
    (hparsed : fates.map Prod.fst = parsedRows records) :
    ((fates.filter fun entry => entry.1.enabled).map fun entry => entry.1.rowId).Nodup := by
  have hrows := hnodup.of_append_left
  rw [← hparsed, List.filter_map, List.map_map] at hrows
  exact hrows

/-- Where each enabled deployment is that of its own enabled row, the ids of the enabled deployments
are ids of enabled rows, each as often at most. -/
theorem sublist_enabled (hown : ∀ row deployment, (row, Fate.compiled deployment) ∈ fates →
      deployment.enabled = true → row.enabled = true ∧ deployment = ⟨row.rowId, true⟩) :
    List.Sublist (((deploymentsOf fates).filter fun deployment => deployment.enabled).map
        Deployment.deploymentId)
      ((fates.filter fun entry => entry.1.enabled).map fun entry => entry.1.rowId) := by
  induction fates with
  | nil => exact List.Sublist.slnil
  | cons entry fates ih =>
    have hrest := ih fun row deployment hmem => hown row deployment (List.mem_cons_of_mem entry hmem)
    have hskip := hrest.trans (List.Sublist.map (fun entry : SheetRow R × Fate => entry.1.rowId)
      (List.Sublist.filter (fun entry => entry.1.enabled) (List.sublist_cons_self entry fates)))
    obtain ⟨row, fate⟩ := entry
    cases fate with
    | compiled deployment =>
      by_cases henabled : deployment.enabled = true
      · obtain ⟨hrow, heq⟩ := hown row deployment List.mem_cons_self henabled
        have hid : deployment.deploymentId = row.rowId := congrArg Deployment.deploymentId heq
        have hkeep : (deploymentsOf ((row, .compiled deployment) :: fates)).filter
            (fun deployment => deployment.enabled) =
              deployment :: (deploymentsOf fates).filter fun deployment => deployment.enabled :=
          List.filter_cons_of_pos henabled
        have hkeep' : ((row, Fate.compiled deployment) :: fates).filter (fun entry => entry.1.enabled) =
            (row, .compiled deployment) :: fates.filter fun entry => entry.1.enabled :=
          List.filter_cons_of_pos hrow
        rw [hkeep, hkeep', List.map_cons, List.map_cons, hid]
        exact List.Sublist.cons_cons row.rowId hrest
      · have hdrop : (deploymentsOf ((row, .compiled deployment) :: fates)).filter
            (fun deployment => deployment.enabled) =
              (deploymentsOf fates).filter fun deployment => deployment.enabled :=
          List.filter_cons_of_neg henabled
        rw [hdrop]
        exact hskip
    | duplicate => exact hskip
    | policyGate reason => exact hskip
    | refused reason => exact hskip

end Ids

section Release

variable {compilers : RowCompilers R} {validatePlan : List Deployment → Except Abort Unit}
  {repr : Cell → String} {loaded : LoadedExport R} {compiled : CompiledActivePlan R}

/-- The account that the coverage of a compilation keeps. -/
def account (repr : Cell → String) (expectedIds : List String) (deployments : List Deployment)
    (suppressed : List SuppressedRow) : Account String where
  expected := expectedIds
  found := loadedDeploymentIds deployments
  excusable := policyGateRowIds repr suppressed

/-- What a plan that may be released says of its own coverage. -/
theorem balanced_of_released {summary : Summary} {expectedIds : List String}
    {deployments : List Deployment} {suppressed : List SuppressedRow}
    (hcoverage : summary.coverage = some (coverageOf repr expectedIds deployments suppressed))
    (hreleased : requireReleaseSafeCoverage summary = .ok ()) :
    (account repr expectedIds deployments suppressed).Balanced := by
  unfold requireReleaseSafeCoverage at hreleased
  simp only [hcoverage] at hreleased
  have hsafe : (coverageOf repr expectedIds deployments suppressed).releaseSafe = true := by
    split at hreleased
    · exact absurd hreleased (by simp)
    · rename_i hnot
      exact Bool.eq_true_of_not_eq_false fun hfalse => hnot (.inl hfalse)
  obtain ⟨hlost, hgap⟩ := Bool.and_eq_true_iff.mp hsafe
  exact ⟨of_decide_eq_true hlost, of_decide_eq_true hgap⟩

/-- A compilation judges the parsed rows, and its coverage is that of its own fates. -/
theorem compileActivePlan_spec (h : compileActivePlan compilers validatePlan repr loaded = .ok compiled) :
    Judged compilers repr [] (parsedRows loaded.records) compiled.fates ∧
      compiled.summary.coverage = some (coverageOf repr (expectedEnabledRowIds repr loaded.records)
        (deploymentsOf compiled.fates)
        (loaded.catalogSuppressed ++ refusedRows loaded.records ++ suppressedOf compiled.fates)) := by
  obtain ⟨fates, hfates, h⟩ := Except.bind_eq_ok_iff.mp h
  obtain ⟨_, -, h⟩ := Except.bind_eq_ok_iff.mp h
  obtain rfl := Except.ok.inj h
  exact ⟨judged_compileRows hfates, rfl⟩

/-- No record that a loader refuses bears a suppression class. -/
theorem class_of_loadPayload {schema : Payload → Except RowError (RowColumns R)} {meantAsStrategy : Bool}
    {raw payload : Payload} {item : SuppressedRow}
    (h : loadPayload schema meantAsStrategy raw payload = .ok (.refused item)) :
    item.suppressionClass = none := by
  unfold loadPayload at h
  split at h
  · split at h
    · obtain rfl := Loaded.refused.inj (Except.ok.inj h)
      rfl
    · exact absurd (Except.ok.inj h) (by simp)
  · split at h
    · exact absurd (Except.ok.inj h) (by simp)
    · obtain rfl := Loaded.refused.inj (Except.ok.inj h)
      rfl
    · exact absurd h (by simp)

section Loaders

variable {schema : Payload → Except RowError (RowColumns R)} {codec : TextCodec} {item : SuppressedRow}

theorem class_of_loadSheetRecord {rowType : RowType} {sheetName : Option String} {raw : Payload}
    {index : ℕ} (h : loadSheetRecord schema codec rowType sheetName raw index = .ok (.refused item)) :
    item.suppressionClass = none := by
  obtain ⟨_, -, hpayload⟩ := Except.bind_eq_ok_iff.mp h
  exact class_of_loadPayload hpayload

theorem class_of_loadCsvRecord {fileName : String} {raw : Payload} {index : ℕ}
    (h : loadCsvRecord schema codec fileName raw index = .ok (.refused item)) :
    item.suppressionClass = none := by
  unfold loadCsvRecord at h
  split at h
  · exact absurd (Except.ok.inj h) (by simp)
  · obtain ⟨_, -, hpayload⟩ := Except.bind_eq_ok_iff.mp h
    exact class_of_loadPayload hpayload

theorem class_of_loadJsonItem {fileName : String} {cell : Cell} {index : ℕ}
    (h : loadJsonItem schema codec fileName cell index = .ok (.refused item)) :
    item.suppressionClass = none := by
  unfold loadJsonItem at h
  split at h
  · obtain ⟨_, -, hpayload⟩ := Except.bind_eq_ok_iff.mp h
    exact class_of_loadPayload hpayload
  · obtain rfl := Loaded.refused.inj (Except.ok.inj h)
    rfl

theorem mem_refusedRows {records : List (Loaded R)} :
    item ∈ refusedRows records ↔ Loaded.refused item ∈ records := by
  unfold refusedRows
  constructor
  · intro h
    obtain ⟨record, hrecord, heq⟩ := List.mem_filterMap.mp h
    cases record with
    | refused row =>
      obtain rfl : row = item := Option.some.inj heq
      exact hrecord
    | skipped => exact absurd heq (by simp)
    | parsed row => exact absurd heq (by simp)
  · intro h
    exact List.mem_filterMap.mpr ⟨.refused item, h, rfl⟩

/-- Before the compilation, no row bears a suppression class. -/
theorem class_of_loadExport {sheetExport : SheetExport R}
    (h : loadExport schema codec sheetExport = .ok loaded) :
    ∀ item ∈ loaded.catalogSuppressed ++ refusedRows loaded.records, item.suppressionClass = none := by
  intro item hitem
  cases sheetExport with
  | csv fileName rows =>
    obtain ⟨records, hrecords, h⟩ := Except.bind_eq_ok_iff.mp h
    obtain rfl := Except.ok.inj h
    obtain ⟨entry, -, hentry⟩ := Except.mem_of_mapM_eq_ok hrecords (mem_refusedRows.mp hitem)
    exact class_of_loadCsvRecord hentry
  | json fileName payload =>
    cases payload with
    | list items =>
      obtain ⟨records, hrecords, h⟩ := Except.bind_eq_ok_iff.mp h
      obtain rfl := Except.ok.inj h
      obtain ⟨entry, -, hentry⟩ := Except.mem_of_mapM_eq_ok hrecords (mem_refusedRows.mp hitem)
      exact class_of_loadJsonItem hentry
    | _ => exact absurd h (by simp [loadExport])
  | google strategySheet manualSheet strategyRows manualRows weeklyRows catalogRefusals =>
    obtain ⟨strategy, hstrategy, h⟩ := Except.bind_eq_ok_iff.mp h
    obtain ⟨manual, hmanual, h⟩ := Except.bind_eq_ok_iff.mp h
    obtain rfl := Except.ok.inj h
    rcases List.mem_append.mp hitem with hcatalog | hrefused
    · obtain ⟨refusal, -, rfl⟩ := List.mem_map.mp hcatalog
      rfl
    · rcases List.mem_append.mp (mem_refusedRows.mp hrefused) with hsheets | hweekly
      · rcases List.mem_append.mp hsheets with hmem | hmem
        · obtain ⟨entry, -, hentry⟩ := Except.mem_of_mapM_eq_ok hstrategy hmem
          exact class_of_loadSheetRecord hentry
        · obtain ⟨entry, -, hentry⟩ := Except.mem_of_mapM_eq_ok hmanual hmem
          exact class_of_loadSheetRecord hentry
      · obtain ⟨row, -, hrow⟩ := List.mem_map.mp hweekly
        exact absurd hrow (by simp)

end Loaders

section Accounts

variable {records : List (Loaded R)} {fates : List (SheetRow R × Fate)}

/-- Where every record is accounted for, none was confounded with another. -/
theorem unconfounded_of_accounted (hjudged : Judged compilers repr [] (parsedRows records) fates)
    (h : Accounted records fates) : Unconfounded compilers repr records where
  named := by
    intro item hitem
    rw [h.refused] at hitem
    exact absurd hitem List.not_mem_nil
  unmasked := by
    intro row hfirst hdisabled hgate hexpected
    obtain ⟨reason, hgate⟩ := hgate
    have hmem := hjudged.mem_of_firstRows hfirst (fateOf_of_policyGate hgate)
    -- nothing was refused, so the expected id is that of an enabled row
    unfold expectedEnabledRowIds at hexpected
    rw [h.refused, List.filter_nil, List.map_nil, List.append_nil] at hexpected
    obtain ⟨row', hrow', hid⟩ := List.mem_map.mp hexpected
    obtain ⟨hparsed, henabled⟩ := List.mem_filter.mp hrow'
    rw [← h.parsed] at hparsed
    obtain ⟨⟨row'', fate⟩, hmem', heq⟩ := List.mem_map.mp hparsed
    obtain rfl : row'' = row' := heq
    have hne : fate ≠ .duplicate := by
      rcases h.enabled row'' fate hmem' henabled with hgate' | hcompiled
      · obtain ⟨_, rfl⟩ := hgate'
        simp
      · obtain ⟨_, rfl, -⟩ := hcompiled
        simp
    have hsame := hjudged.eq_of_rowId_eq hmem' hne hmem (by simp) hid
    rw [congrArg (fun entry => entry.1.enabled) hsame] at henabled
    exact absurd (hdisabled.symm.trans henabled) (by simp)
  own := by
    intro row hfirst deployment hcompile hor
    have hmem := hjudged.mem_of_firstRows hfirst (fateOf_of_compileRow hcompile.compileRow_eq)
    rcases hor with henabled | henabled
    · rcases h.enabled row _ hmem henabled with hgate | hcompiled
      · exact absurd hgate (by simp)
      · obtain ⟨deployment', heq, honly⟩ := hcompiled
        obtain rfl : deployment = deployment' := Fate.compiled.inj heq
        have hkept : deployment ∈ enabledDeployments (deploymentsOf fates) row.rowId := by
          rw [honly]
          exact List.mem_singleton_self deployment
        have hfields := (List.mem_filter.mp hkept).2
        rw [Bool.and_eq_true, decide_eq_true_eq] at hfields
        exact ⟨henabled, by cases deployment; simp_all⟩
    · have hkept : (row, Fate.compiled deployment) ∈ enabledEntries fates deployment.deploymentId := by
        rw [h.deployments row deployment hmem henabled]
        exact List.mem_singleton_self _
      have hfields := (List.mem_filter.mp hkept).2
      rw [Bool.and_eq_true, decide_eq_true_eq] at hfields
      exact ⟨hfields.1, by cases deployment; simp_all⟩

/-- Where no record is confounded with another, a balanced account accounts for each. -/
theorem accounted_of_unconfounded (hjudged : Judged compilers repr [] (parsedRows records) fates)
    {suppressed : List SuppressedRow} (hclass : ∀ item ∈ suppressed, item.suppressionClass = none)
    (hbalanced : (account repr (expectedEnabledRowIds repr records) (deploymentsOf fates)
      (suppressed ++ suppressedOf fates)).Balanced)
    (h : Unconfounded compilers repr records) : Accounted records fates := by
  -- an enabled deployment is that of its own enabled row
  have hown : ∀ row deployment, (row, Fate.compiled deployment) ∈ fates →
      row.enabled = true ∨ deployment.enabled = true →
        row.enabled = true ∧ deployment = ⟨row.rowId, true⟩ := by
    intro row deployment hmem hor
    have hcompile := compileRow_of_compiled (hjudged.fate (row, .compiled deployment) hmem (by simp))
    rcases own_or_standsIn hcompile with hown | hstands
    · have henabled : row.enabled = true := by
        rw [hown] at hor
        exact hor.elim id id
      exact ⟨henabled, hown.trans (congrArg (Deployment.mk row.rowId) henabled)⟩
    · exact h.own row (hjudged.mem_firstRows hmem (by simp)) deployment hstands hor
  have hparsed : ∀ {row : SheetRow R} {fate : Fate}, (row, fate) ∈ fates → row ∈ parsedRows records := by
    intro row fate hmem
    rw [← hjudged.parsed]
    exact List.mem_map_of_mem (f := Prod.fst) hmem
  -- so every id that was found had been expected, and no id is expected twice
  have hfound : ∀ id ∈ loadedDeploymentIds (deploymentsOf fates),
      id ∈ expectedEnabledRowIds repr records := by
    intro id hid
    obtain ⟨row, deployment, hmem, henabled, rfl⟩ := exists_of_mem_loaded hid
    obtain ⟨hrow, rfl⟩ := hown row deployment hmem (.inr henabled)
    exact mem_expected_of_enabled (hparsed hmem) hrow
  have hnodup : (expectedEnabledRowIds repr records).Nodup := hbalanced.nodup hfound
  have hentries := nodup_enabled hnodup hjudged.parsed
  -- a policy gate that excuses an expected id suppressed an enabled row
  have hgated : ∀ {row : SheetRow R} {reason : String}, (row, Fate.policyGate reason) ∈ fates →
      row.rowId ∈ expectedEnabledRowIds repr records → row.enabled = true := by
    intro row reason hmem hexpected
    by_contra hdisabled
    exact h.unmasked row (hjudged.mem_firstRows hmem (by simp)) (Bool.eq_false_iff.mpr hdisabled)
      ⟨reason, compileRow_of_policyGate (hjudged.fate (row, .policyGate reason) hmem (by simp))⟩ hexpected
  -- an expected id is that of an enabled row that compiled or was gated
  have hfate : ∀ id ∈ expectedEnabledRowIds repr records, ∃ row fate, (row, fate) ∈ fates ∧
      row.enabled = true ∧ row.rowId = id ∧
        ((∃ reason, fate = .policyGate reason) ∨ ∃ deployment, fate = .compiled deployment) := by
    intro id hid
    rcases hbalanced.found_or_excusable hid with hloaded | hexcused
    · obtain ⟨row, deployment, hmem, henabled, hdeployment⟩ := exists_of_mem_loaded hloaded
      obtain ⟨hrow, rfl⟩ := hown row deployment hmem (.inr henabled)
      exact ⟨row, _, hmem, hrow, hdeployment, .inr ⟨_, rfl⟩⟩
    · obtain ⟨row, reason, hmem, rfl⟩ := exists_of_mem_policyGate hclass hexcused
      exact ⟨row, _, hmem, hgated hmem hid, rfl, .inl ⟨reason, rfl⟩⟩
  refine ⟨?_, hjudged.parsed, ?_, ?_⟩
  · apply List.eq_nil_iff_forall_not_mem.mpr
    intro item hitem
    have htruthy := h.named item hitem
    obtain ⟨row, fate, hmem, henabled, hid, -⟩ :=
      hfate (item.rowId.str repr) (mem_expected_of_refused hitem htruthy)
    exact ne_refused_of_nodup hnodup (hparsed hmem) henabled hitem htruthy hid
  · intro row fate hmem henabled
    obtain ⟨row', fate', hmem', henabled', hid, hcases⟩ :=
      hfate row.rowId (mem_expected_of_enabled (hparsed hmem) henabled)
    have hsame : (row', fate') = (row, fate) :=
      List.inj_on_of_nodup_map hentries (List.mem_filter.mpr ⟨hmem', henabled'⟩)
        (List.mem_filter.mpr ⟨hmem, henabled⟩) hid
    obtain ⟨rfl, rfl⟩ := Prod.mk.inj hsame
    rcases hcases with hgate | hcompiled
    · exact .inl hgate
    · obtain ⟨deployment, rfl⟩ := hcompiled
      obtain ⟨-, rfl⟩ := hown row' deployment hmem (.inl henabled)
      refine .inr ⟨_, rfl, ?_⟩
      have hdeployments : (((deploymentsOf fates).filter fun deployment => deployment.enabled).map
          Deployment.deploymentId).Nodup :=
        hentries.sublist (sublist_enabled fun row deployment hmem henabled =>
          hown row deployment hmem (.inr henabled))
      have honly := filter_key_eq_singleton hdeployments (x := ⟨row'.rowId, true⟩)
        (List.mem_filter.mpr ⟨mem_deploymentsOf.mpr ⟨row', hmem⟩, rfl⟩)
      rw [List.filter_filter] at honly
      unfold enabledDeployments
      simpa only [Bool.and_comm] using honly
  · intro row deployment hmem henabled
    obtain ⟨hrow, rfl⟩ := hown row deployment hmem (.inr henabled)
    have honly := filter_key_eq_singleton hentries (List.mem_filter.mpr ⟨hmem, hrow⟩)
    rw [List.filter_filter] at honly
    unfold enabledEntries
    simpa only [Bool.and_comm] using honly

end Accounts

/-- A plan that may be released accounts for every record exactly when no record of its export is
confounded with another. -/
theorem released_plan_accounts_iff {schema : Payload → Except RowError (RowColumns R)}
    {codec : TextCodec} {sheetExport : SheetExport R}
    (hload : loadExport schema codec sheetExport = .ok loaded)
    (hcompile : compileActivePlan compilers validatePlan codec.repr loaded = .ok compiled)
    (hreleased : requireReleaseSafeCoverage compiled.summary = .ok ()) :
    Accounted loaded.records compiled.fates ↔
      Unconfounded compilers codec.repr loaded.records := by
  obtain ⟨hjudged, hcoverage⟩ := compileActivePlan_spec hcompile
  have hbalanced := balanced_of_released hcoverage hreleased
  exact ⟨unconfounded_of_accounted hjudged,
    accounted_of_unconfounded hjudged (class_of_loadExport hload) hbalanced⟩

end Release

section Runs

/-- A codec that parses no JSON texts, a schema that refuses every payload, and row compilers that
refuse no row and reserve each weekly row its own deployment. -/
def plainCodec : TextCodec := ⟨fun _ => none, Cell.typeName⟩

def closedSchema (_ : Payload) : Except RowError (RowColumns Unit) :=
  .error (.invalid "row_type: input should be 'strategy' or 'manual'")

def openCompilers : RowCompilers Unit where
  strategyRow _ := .ok ()
  cartographerManualTriggerRow _ := .ok ()
  manualTriggerRow _ := .ok ()
  manualBreakoutRow _ := .ok ()
  frozenDeployment row := some row.deployment

def weeklyRow : SheetRow Unit where
  rowType := .manual
  manualSetupType := some "manual_trigger"
  sourceMetadata := [("source_owner", .text "cartographer_weekly")]
  columns := ()
  rowId := "weekly_spy"
  enabled := true

/-- The Google sheets on a day with one weekly row. -/
def weeklyExport : SheetExport Unit :=
  .google "active_strategy" "active_manual" [] [] [weeklyRow] []

def weeklyFates : List (SheetRow Unit × Fate) := [(weeklyRow, .compiled ⟨"weekly_spy", true⟩)]

theorem compileRow_weeklyRow :
    compileRow openCompilers plainCodec.repr weeklyRow = .ok ⟨"weekly_spy", true⟩ := by
  decide +kernel

theorem compile_weeklyExport : ∃ plan : CompiledActivePlan Unit,
    compileActivePlan openCompilers (fun _ => .ok ()) plainCodec.repr ⟨[.parsed weeklyRow], []⟩ = .ok plan ∧
      plan.fates = weeklyFates ∧ requireReleaseSafeCoverage plan.summary = .ok () := by
  have hrows : compileRows openCompilers plainCodec.repr [] [weeklyRow] = .ok weeklyFates := by
    simp only [compileRows, List.not_mem_nil, if_false, fateOf_of_compileRow compileRow_weeklyRow]
    rfl
  unfold compileActivePlan compileActivePlanFromRows
  rw [show parsedRows [Loaded.parsed weeklyRow] = [weeklyRow] from rfl, hrows]
  exact ⟨_, rfl, rfl, rfl⟩

/-- One weekly row is accounted for by the plan that is compiled of it. -/
theorem weekly_row_is_accounted : Accounted [.parsed weeklyRow] weeklyFates := by
  obtain ⟨plan, hcompile, hfates, hreleased⟩ := compile_weeklyExport
  rw [← hfates]
  have hload : loadExport closedSchema plainCodec weeklyExport = .ok ⟨[.parsed weeklyRow], []⟩ := rfl
  refine (released_plan_accounts_iff hload hcompile hreleased).mpr ⟨?_, ?_, ?_⟩
  · exact fun item hitem => absurd hitem List.not_mem_nil
  · intro row hrow hdisabled
    obtain rfl := List.mem_singleton.mp hrow
    exact absurd hdisabled (by decide)
  · intro row hrow deployment hstands _
    obtain rfl := List.mem_singleton.mp hrow
    exact ⟨rfl, (Option.some.inj hstands.frozen).symm⟩

/-- An item of a JSON export that is no row object is dropped from a plan that may be released. -/
theorem stray_item_is_not_accounted : ∃ (loaded : LoadedExport Unit) (plan : CompiledActivePlan Unit),
    loadExport closedSchema plainCodec (.json "active_plan.json" (.list [.text "TSLA"])) = .ok loaded ∧
      compileActivePlan openCompilers (fun _ => .ok ()) plainCodec.repr loaded = .ok plan ∧
        requireReleaseSafeCoverage plan.summary = .ok () ∧ ¬Accounted loaded.records plan.fates := by
  refine ⟨_, _, rfl, rfl, rfl, ?_⟩
  intro h
  exact absurd h.refused (by simp [refusedRows])

end Runs

end Bhiksha.ActivePlan
