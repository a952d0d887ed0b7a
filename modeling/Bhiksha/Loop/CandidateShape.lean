import Bhiksha.Library.Transaction
import Bhiksha.Loop.Importer

/-! The keys and the shapes that a candidate needs: for its manifest to be built, for its deployment to be
reported, and, where it is a manual one, for the board. -/

namespace Bhiksha.Loop

open ActivePlan (Cell Payload)
open Library

def HasKeys (payload : Payload) (keys : List String) : Prop :=
  ∀ key ∈ keys, (payload.lookup key).isSome

/-- Every value on the path is an object, as far as the path goes. -/
def ObjectsAlong : Payload → List String → Prop
  | _, [] => True
  | payload, key :: rest =>
    match payload.lookup key with
    | none => True
    | some (.object fields) => ObjectsAlong fields rest
    | some _ => False

/-- The value of a key in the object at the end of the path. -/
def valueAt : Payload → List String → String → Option Cell
  | payload, [], last => payload.lookup last
  | payload, key :: rest, last =>
    match payload.lookup key with
    | some (.object fields) => valueAt fields rest last
    | _ => none

/-- The value consists of texts, as the keys of an object and the characters of a text are. -/
def Joinable : Cell → Prop
  | .text _ | .object _ => True
  | .list cells => ∀ cell ∈ cells, ∃ s, cell = .text s
  | _ => False

/-- A manifest can be built of the candidate, from these fields. -/
structure Buildable (candidate fields : Payload) : Prop where
  manifest : candidate.lookup "manifest" = some (.object fields)
  execution : ObjectsAlong fields ["execution"]
  metadata : ObjectsAlong fields ["source", "metadata"]
  keys : HasKeys candidate
    ["candidate_id", "surface_class", "automation_status", "bias_template", "horizon"]

/-- The board and the report can show the candidate. -/
structure Listable (candidate : Payload) : Prop where
  summary : ObjectsAlong candidate ["evidence", "holdout", "summary"]
  monteCarlo : ObjectsAlong candidate ["evidence", "monte_carlo"]
  metadata : ObjectsAlong candidate ["manifest", "source", "metadata"]
  source : ObjectsAlong candidate ["source"]
  capabilities : ∀ value ∈ valueAt candidate ["manifest", "source", "metadata"]
    "required_bhiksha_capabilities", Joinable value
  keys : HasKeys candidate ["candidate_id", "symbol", "direction", "bias_template"]

section Paths

variable {payload fields : Payload} {key last : String} {path : List String}

theorem HasKeys.mono {keys keys' : List String} (h : HasKeys payload keys) (hsub : keys' ⊆ keys) :
    HasKeys payload keys' :=
  fun key hkey => h key (hsub hkey)

theorem HasKeys.append {keys keys' : List String} (h : HasKeys payload keys)
    (h' : HasKeys payload keys') : HasKeys payload (keys ++ keys') :=
  List.forall_mem_append.mpr ⟨h, h'⟩

theorem asDict_getOr_eq_ok_iff (method : String) :
    asDict (getOr payload key (.object [])) method = .ok fields ↔
      (payload.lookup key).getD (.object []) = .object fields := by
  unfold getOr
  cases (payload.lookup key).getD (.object []) with
  | object found => simp [asDict]
  | _ => simp [asDict]

theorem objectsAlong_nil (path : List String) : ObjectsAlong [] path := by
  cases path with
  | nil => trivial
  | cons key rest => trivial

theorem valueAt_nil (path : List String) (last : String) : valueAt [] path last = none := by
  cases path with
  | nil => rfl
  | cons key rest => rfl

/-- The first step along a path, as the code takes it. -/
theorem objectsAlong_cons_iff (method : String) :
    ObjectsAlong payload (key :: path) ↔
      ∃ fields, asDict (getOr payload key (.object [])) method = .ok fields ∧
        ObjectsAlong fields path := by
  simp only [asDict_getOr_eq_ok_iff]
  rw [ObjectsAlong]
  cases hlookup : payload.lookup key with
  | none => exact iff_of_true trivial ⟨[], rfl, objectsAlong_nil path⟩
  | some value =>
    cases value with
    | object found => simp
    | _ => simp

theorem valueAt_cons {method : String}
    (h : asDict (getOr payload key (.object [])) method = .ok fields) :
    valueAt payload (key :: path) last = valueAt fields path last := by
  rw [asDict_getOr_eq_ok_iff] at h
  rw [valueAt]
  cases hlookup : payload.lookup key with
  | none =>
    rw [hlookup] at h
    obtain rfl : [] = fields := Cell.object.inj h
    exact (valueAt_nil path last).symm
  | some value =>
    rw [hlookup] at h
    obtain rfl : value = .object fields := h
    rfl

theorem item_eq_ok_iff {value : Cell} : item payload key = .ok value ↔ payload.lookup key = some value := by
  unfold item
  cases payload.lookup key with
  | none => simp
  | some found => simp

theorem exists_item_iff : (∃ value, item payload key = .ok value) ↔ (payload.lookup key).isSome := by
  simp only [item_eq_ok_iff, Option.isSome_iff_exists]

end Paths

section Manifest

variable {candidate fields manifest : Payload}

theorem lookup_setDefaultDict {payload : Payload} {key other : String} (h : other ≠ key) :
    (setDefaultDict payload key).1.lookup other = payload.lookup other := by
  unfold setDefaultDict
  split
  · rfl
  · rw [Payload.lookup_set, if_neg h]

theorem setDefaultDict_snd (payload : Payload) (key : String) :
    (setDefaultDict payload key).2 = getOr payload key (.object []) := by
  unfold setDefaultDict getOr
  cases payload.lookup key with
  | none => rfl
  | some value => rfl

theorem setItem_eq_ok_iff {value field after : Cell} {key : String} (method : String) :
    setItem value key field = .ok after ↔
      ∃ fields, asDict value method = .ok fields ∧ after = .object (fields.set key field) := by
  cases value with
  | object found =>
    simp only [setItem, asDict, Except.ok.injEq, exists_eq_left']
    exact eq_comm
  | _ => simp [setItem, asDict]

theorem asDict_eq_ok_iff {value : Cell} {method : String} :
    asDict value method = .ok fields ↔ value = .object fields := by
  cases value with
  | object found => simp [asDict]
  | _ => simp [asDict]

/-- The manifest with its execution set, as far as its other keys go. -/
theorem lookup_withExecution {key : String} (execution : Cell) (hkey : key ≠ "execution") :
    ((setDefaultDict fields "execution").1.set "execution" execution).lookup key =
      fields.lookup key := by
  rw [Payload.lookup_set, if_neg hkey, lookup_setDefaultDict hkey]

theorem getOr_withExecution (execution : Cell) :
    getOr ((setDefaultDict fields "execution").1.set "execution" execution) "source" (.object []) =
      getOr fields "source" (.object []) := by
  unfold getOr
  rw [lookup_withExecution execution (by decide)]

/-- A manifest that was built keeps the id of the fields that it was built from, and its execution is
their settings put in shadow. -/
theorem buildable_of_built (h : buildGeneratedManifest candidate = .ok manifest) :
    ∃ fields, Buildable candidate fields ∧
      manifest.lookup "deployment_id" = fields.lookup "deployment_id" ∧
      ∃ settings : Payload, manifest.lookup "execution" =
        some (.object (settings.set "shadow_only" (.bool true))) := by
  unfold buildGeneratedManifest at h
  obtain ⟨raw, hraw, h⟩ := Except.bind_eq_ok_iff.mp h
  obtain ⟨fields, hfields, h⟩ := Except.bind_eq_ok_iff.mp h
  obtain ⟨execution, hexecution, h⟩ := Except.bind_eq_ok_iff.mp h
  obtain ⟨source, hsource, h⟩ := Except.bind_eq_ok_iff.mp h
  obtain ⟨metadata, hmetadata, h⟩ := Except.bind_eq_ok_iff.mp h
  obtain ⟨candidateId, hcandidateId, h⟩ := Except.bind_eq_ok_iff.mp h
  obtain ⟨surfaceClass, hsurfaceClass, h⟩ := Except.bind_eq_ok_iff.mp h
  obtain ⟨automationStatus, hautomationStatus, h⟩ := Except.bind_eq_ok_iff.mp h
  obtain ⟨biasTemplate, hbiasTemplate, h⟩ := Except.bind_eq_ok_iff.mp h
  obtain ⟨horizon, hhorizon, h⟩ := Except.bind_eq_ok_iff.mp h
  obtain rfl := Except.ok.inj h
  -- the source is read when the execution has been set, which leaves the source as it was
  rw [item_eq_ok_iff, asDict_eq_ok_iff.mp hfields] at hraw
  have hold : asDict (getOr fields "source" (.object [])) "setdefault" = .ok source := by
    rw [← getOr_withExecution execution, ← setDefaultDict_snd]
    exact hsource
  have hnested : asDict (getOr source "metadata" (.object [])) "update" = .ok metadata := by
    rw [← setDefaultDict_snd]
    exact hmetadata
  have hset : setItem (getOr fields "execution" (.object [])) "shadow_only" (.bool true) =
      .ok execution := by
    rw [← setDefaultDict_snd]
    exact hexecution
  obtain ⟨settings, hsettings, hshadow⟩ := (setItem_eq_ok_iff "setdefault").mp hset
  -- the source and its metadata are set last, beside the id and the execution
  have hbeside {key : String} (hkey : key ≠ "source") (execution : Cell) (metadata : Payload) :
      ((setDefaultDict ((setDefaultDict fields "execution").1.set "execution" execution)
        "source").1.set "source" (.object metadata)).lookup key =
      ((setDefaultDict fields "execution").1.set "execution" execution).lookup key := by
    rw [Payload.lookup_set, if_neg hkey, lookup_setDefaultDict hkey]
  refine ⟨fields, ⟨hraw, ?_, ?_, ?_⟩, ?_, settings, ?_⟩
  · exact (objectsAlong_cons_iff "setdefault").mpr ⟨settings, hsettings, trivial⟩
  · exact (objectsAlong_cons_iff "setdefault").mpr ⟨source, hold,
      (objectsAlong_cons_iff "update").mpr ⟨metadata, hnested, trivial⟩⟩
  · simp only [HasKeys, List.forall_mem_cons, ← exists_item_iff]
    exact ⟨⟨_, hcandidateId⟩, ⟨_, hsurfaceClass⟩, ⟨_, hautomationStatus⟩, ⟨_, hbiasTemplate⟩,
      ⟨_, hhorizon⟩, fun key hkey => absurd hkey List.not_mem_nil⟩
  · exact (hbeside (by decide) execution _).trans (lookup_withExecution execution (by decide))
  · rw [← hshadow]
    exact (hbeside (by decide) execution _).trans ((Payload.lookup_set ..).trans (if_pos rfl))

theorem built_of_buildable (h : Buildable candidate fields) :
    ∃ manifest, buildGeneratedManifest candidate = .ok manifest := by
  have hkey : ∀ key ∈ ["candidate_id", "surface_class", "automation_status", "bias_template",
      "horizon"], ∃ value, item candidate key = .ok value :=
    fun key hmem => exists_item_iff.mpr (h.keys key hmem)
  obtain ⟨candidateId, hcandidateId⟩ := hkey "candidate_id" (by decide)
  obtain ⟨surfaceClass, hsurfaceClass⟩ := hkey "surface_class" (by decide)
  obtain ⟨automationStatus, hautomationStatus⟩ := hkey "automation_status" (by decide)
  obtain ⟨biasTemplate, hbiasTemplate⟩ := hkey "bias_template" (by decide)
  obtain ⟨horizon, hhorizon⟩ := hkey "horizon" (by decide)
  obtain ⟨settings, hsettings, -⟩ := (objectsAlong_cons_iff "setdefault").mp h.execution
  obtain ⟨source, hsource, hmetadata⟩ := (objectsAlong_cons_iff "setdefault").mp h.metadata
  obtain ⟨metadata, hmetadata, -⟩ := (objectsAlong_cons_iff "update").mp hmetadata
  have hset : setItem (setDefaultDict fields "execution").2 "shadow_only" (.bool true) =
      .ok (.object (settings.set "shadow_only" (.bool true))) := by
    rw [setDefaultDict_snd]
    exact (setItem_eq_ok_iff "setdefault").mpr ⟨settings, hsettings, rfl⟩
  -- the block reads the source of the manifest whose execution is set
  rw [← getOr_withExecution (.object (settings.set "shadow_only" (.bool true))),
    ← setDefaultDict_snd] at hsource
  rw [← setDefaultDict_snd] at hmetadata
  unfold buildGeneratedManifest
  refine Except.exists_bind_eq_ok_iff.mpr ⟨_, item_eq_ok_iff.mpr h.manifest, ?_⟩
  refine Except.exists_bind_eq_ok_iff.mpr ⟨fields, rfl, ?_⟩
  refine Except.exists_bind_eq_ok_iff.mpr ⟨_, hset, ?_⟩
  refine Except.exists_bind_eq_ok_iff.mpr ⟨source, hsource, ?_⟩
  refine Except.exists_bind_eq_ok_iff.mpr ⟨metadata, hmetadata, ?_⟩
  rw [hcandidateId, hsurfaceClass, hautomationStatus, hbiasTemplate, hhorizon]
  exact ⟨_, rfl⟩

theorem exists_reportEntry_iff (deploymentId : String) :
    (∃ entry, reportEntry candidate deploymentId = .ok entry) ↔
      HasKeys candidate ["candidate_id", "bias_template", "horizon", "symbol", "direction"] := by
  have hpure (entry : GeneratedDeployment) :
      ∃ b, (pure entry : Except ImportError GeneratedDeployment) = .ok b := ⟨entry, rfl⟩
  unfold reportEntry
  simp only [Except.exists_bind_eq_ok_iff, hpure, HasKeys, List.forall_mem_cons, ← exists_item_iff,
    List.not_mem_nil, false_imp_iff, implies_true, and_true, exists_and_right]

end Manifest

section Board

variable {candidate : Payload} {value : Cell}

theorem getDict_eq_ok_iff {key : String} {field : Cell} :
    getDict value key = .ok field ↔
      ∃ fields, asDict value "get" = .ok fields ∧ getOr fields key (.object []) = field := by
  unfold getDict
  rw [Except.bind_eq_ok_iff]
  simp [pure, Except.pure]

theorem getDict_of_asDict {fields : Payload} (key : String) (h : asDict value "get" = .ok fields) :
    getDict value key = .ok (getOr fields key (.object [])) :=
  getDict_eq_ok_iff.mpr ⟨fields, h, rfl⟩

/-- Two gets one after the other, as the first two steps along a path. -/
theorem objectsAlong_of_gets {key next : String} {rest : List String} {field : Cell}
    {fields : Payload} (hget : getDict (getOr candidate key (.object [])) next = .ok field)
    (hfields : asDict field "get" = .ok fields) (hrest : ObjectsAlong fields rest) :
    ObjectsAlong candidate (key :: next :: rest) := by
  obtain ⟨outer, houter, rfl⟩ := getDict_eq_ok_iff.mp hget
  exact (objectsAlong_cons_iff "get").mpr
    ⟨outer, houter, (objectsAlong_cons_iff "get").mpr ⟨fields, hfields, hrest⟩⟩

theorem gets_of_objectsAlong {key next : String} {rest : List String}
    (h : ObjectsAlong candidate (key :: next :: rest)) :
    ∃ field fields, getDict (getOr candidate key (.object [])) next = .ok field ∧
      asDict field "get" = .ok fields ∧ ObjectsAlong fields rest ∧
      ∀ last, valueAt candidate (key :: next :: rest) last = valueAt fields rest last := by
  obtain ⟨outer, houter, hnext⟩ := (objectsAlong_cons_iff "get").mp h
  obtain ⟨fields, hfields, hrest⟩ := (objectsAlong_cons_iff "get").mp hnext
  refine ⟨_, fields, getDict_of_asDict next houter, hfields, hrest, fun last => ?_⟩
  rw [valueAt_cons houter, valueAt_cons hfields]

/-- The entry of a manual candidate is there when its objects are, and then it shows these capabilities. -/
theorem manualCandidateEntry_eq_ok_iff :
    manualCandidateEntry candidate = .ok value ↔
      ObjectsAlong candidate ["evidence", "holdout", "summary"] ∧
      ObjectsAlong candidate ["evidence", "monte_carlo"] ∧
      ObjectsAlong candidate ["manifest", "source", "metadata"] ∧
      ObjectsAlong candidate ["source"] ∧
      (valueAt candidate ["manifest", "source", "metadata"] "required_bhiksha_capabilities").getD
        (.list []) = value := by
  unfold manualCandidateEntry
  constructor
  · intro h
    obtain ⟨holdout, hholdout, h⟩ := Except.bind_eq_ok_iff.mp h
    obtain ⟨summaryValue, hsummaryValue, h⟩ := Except.bind_eq_ok_iff.mp h
    obtain ⟨monteCarloValue, hmonteCarloValue, h⟩ := Except.bind_eq_ok_iff.mp h
    obtain ⟨source, hsource, h⟩ := Except.bind_eq_ok_iff.mp h
    obtain ⟨metadataValue, hmetadataValue, h⟩ := Except.bind_eq_ok_iff.mp h
    obtain ⟨origin, horigin, h⟩ := Except.bind_eq_ok_iff.mp h
    obtain ⟨metadata, hmetadata, h⟩ := Except.bind_eq_ok_iff.mp h
    obtain ⟨monteCarlo, hmonteCarlo, h⟩ := Except.bind_eq_ok_iff.mp h
    obtain ⟨summary, hsummary, hshown⟩ := Except.bind_eq_ok_iff.mp h
    -- two gets in a row are the first two steps along a path
    obtain ⟨holdoutFields, hholdoutFields, rfl⟩ := getDict_eq_ok_iff.mp hsummaryValue
    obtain ⟨sourceFields, hsourceFields, rfl⟩ := getDict_eq_ok_iff.mp hmetadataValue
    have hmetadatas : ObjectsAlong candidate ["manifest", "source", "metadata"] :=
      objectsAlong_of_gets hsource hsourceFields
        ((objectsAlong_cons_iff "get").mpr ⟨metadata, hmetadata, trivial⟩)
    refine ⟨objectsAlong_of_gets hholdout hholdoutFields
      ((objectsAlong_cons_iff "get").mpr ⟨summary, hsummary, trivial⟩),
      objectsAlong_of_gets hmonteCarloValue hmonteCarlo trivial, hmetadatas,
      (objectsAlong_cons_iff "get").mpr ⟨origin, horigin, trivial⟩, ?_⟩
    obtain ⟨field, fields, hfield, hfields, -, hvalue⟩ := gets_of_objectsAlong hmetadatas
    obtain rfl := Except.ok.inj (hsource.symm.trans hfield)
    obtain rfl := Except.ok.inj (hsourceFields.symm.trans hfields)
    rw [hvalue, valueAt_cons hmetadata]
    exact Except.ok.inj hshown
  · rintro ⟨hsummaries, hmonteCarlos, hmetadatas, horigins, rfl⟩
    obtain ⟨holdoutValue, holdout, hholdoutValue, hholdout, hsummaries, -⟩ :=
      gets_of_objectsAlong hsummaries
    obtain ⟨summary, hsummary, -⟩ := (objectsAlong_cons_iff "get").mp hsummaries
    obtain ⟨monteCarloValue, monteCarlo, hmonteCarloValue, hmonteCarlo, -, -⟩ :=
      gets_of_objectsAlong hmonteCarlos
    obtain ⟨sourceValue, source, hsourceValue, hsource, hmetadatas, hvalue⟩ :=
      gets_of_objectsAlong hmetadatas
    obtain ⟨metadata, hmetadata, -⟩ := (objectsAlong_cons_iff "get").mp hmetadatas
    obtain ⟨origin, horigin, -⟩ := (objectsAlong_cons_iff "get").mp horigins
    -- the paths give the gets back, in the order of the block
    refine Except.bind_eq_ok_iff.mpr ⟨holdoutValue, hholdoutValue, ?_⟩
    refine Except.bind_eq_ok_iff.mpr ⟨_, getDict_of_asDict "summary" hholdout, ?_⟩
    refine Except.bind_eq_ok_iff.mpr ⟨monteCarloValue, hmonteCarloValue, ?_⟩
    refine Except.bind_eq_ok_iff.mpr ⟨sourceValue, hsourceValue, ?_⟩
    refine Except.bind_eq_ok_iff.mpr ⟨_, getDict_of_asDict "metadata" hsource, ?_⟩
    refine Except.bind_eq_ok_iff.mpr ⟨origin, horigin, ?_⟩
    refine Except.bind_eq_ok_iff.mpr ⟨metadata, hmetadata, ?_⟩
    refine Except.bind_eq_ok_iff.mpr ⟨monteCarlo, hmonteCarlo, ?_⟩
    refine Except.bind_eq_ok_iff.mpr ⟨summary, hsummary, ?_⟩
    rw [hvalue, valueAt_cons hmetadata]
    rfl

theorem joinable_eq_ok_iff : joinable value = .ok () ↔ Joinable value := by
  unfold joinable
  cases value with
  | list cells =>
    refine Except.forM_eq_ok_iff.trans (forall₂_congr fun cell hcell => ?_)
    cases cell with
    | text s => exact iff_of_true rfl ⟨s, rfl⟩
    | _ => simp
  | text s =>
    refine iff_of_true (Except.forM_eq_ok_iff.mpr fun cell hcell => ?_) trivial
    obtain ⟨c, -, rfl⟩ := List.mem_map.mp hcell
    rfl
  | object fields =>
    refine iff_of_true (Except.forM_eq_ok_iff.mpr fun cell hcell => ?_) trivial
    obtain ⟨field, -, rfl⟩ := List.mem_map.mp hcell
    rfl
  | _ => exact iff_of_false (fun h => by cases h) id

theorem reportLine_eq_ok_iff :
    reportLine candidate = .ok () ↔
      HasKeys candidate ["candidate_id", "symbol", "direction", "bias_template"] := by
  refine Except.forM_eq_ok_iff.trans (forall₂_congr fun key _ => ?_)
  rw [Except.bind_eq_ok_iff, ← exists_item_iff]
  exact exists_congr fun found => and_iff_left rfl

theorem listable_iff :
    Listable candidate ↔
      (∃ value, manualCandidateEntry candidate = .ok value ∧ joinable value = .ok ()) ∧
        reportLine candidate = .ok () := by
  rw [reportLine_eq_ok_iff]
  constructor
  · rintro ⟨hsummary, hmonteCarlo, hmetadata, hsource, hcapabilities, hkeys⟩
    refine ⟨⟨_, manualCandidateEntry_eq_ok_iff.mpr ⟨hsummary, hmonteCarlo, hmetadata, hsource, rfl⟩,
      joinable_eq_ok_iff.mpr ?_⟩, hkeys⟩
    cases hvalue : valueAt candidate ["manifest", "source", "metadata"]
        "required_bhiksha_capabilities" with
    | none => exact fun cell hcell => absurd hcell List.not_mem_nil
    | some value => exact hcapabilities value hvalue
  · rintro ⟨⟨value, hentry, hjoinable⟩, hkeys⟩
    obtain ⟨hsummary, hmonteCarlo, hmetadata, hsource, rfl⟩ := manualCandidateEntry_eq_ok_iff.mp hentry
    refine ⟨hsummary, hmonteCarlo, hmetadata, hsource, fun value hvalue => ?_, hkeys⟩
    rw [joinable_eq_ok_iff, hvalue] at hjoinable
    exact hjoinable

/-- The board and the report are written when each manual candidate has what they show of it. -/
theorem writeReport_eq_ok_iff {candidates : List Payload} :
    writeReport candidates = .ok () ↔ ∀ candidate ∈ candidates, Listable candidate := by
  have hboard : writeManualBoard candidates = .ok () ↔ ∀ candidate ∈ candidates,
      ∃ value, manualCandidateEntry candidate = .ok value ∧ joinable value = .ok () :=
    Except.mapM_forM_eq_ok_iff
  have hreport : candidates.forM reportLine = .ok () ↔
      ∀ candidate ∈ candidates, reportLine candidate = .ok () := Except.forM_eq_ok_iff
  calc writeReport candidates = .ok ()
      ↔ writeManualBoard candidates = .ok () ∧ candidates.forM reportLine = .ok () := by
        unfold writeReport
        rw [Except.bind_eq_ok_iff]
        exact ⟨fun ⟨_, hfirst, hsecond⟩ => ⟨hfirst, hsecond⟩, fun ⟨hfirst, hsecond⟩ => ⟨(), hfirst, hsecond⟩⟩
    _ ↔ ∀ candidate ∈ candidates, Listable candidate := by
        rw [hboard, hreport, ← forall₂_and]
        exact forall₂_congr fun candidate _ => listable_iff.symm

end Board

end Bhiksha.Loop
