import Bhiksha.ActivePlan.ExitOverrides
import Bhiksha.Library.AssocList

/-! Which value each dial of the ladder has after a row's overrides and a published profile have been
applied to an exit section, in the exit and in the document that is frozen with it. -/

namespace Bhiksha.ActivePlan

open Library

/-- What the overrides leave under a key. -/
theorem lookup_deepMerge {merged : Payload} {overrides : List (String × Cell)}
    (hkeys : (overrides.map Prod.fst).Nodup) (key : String) :
    (deepMerge merged overrides).lookup key =
      ((overrides.lookup key).map (mergeValue (merged.lookup key))).or (merged.lookup key) := by
  induction overrides generalizing merged with
  | nil => rw [deepMerge, List.lookup_nil, Option.map_none, Option.none_or]
  | cons field rest ih =>
    obtain ⟨name, value⟩ := field
    rw [List.map_cons, List.nodup_cons] at hkeys
    rw [deepMerge, ih hkeys.2, Payload.lookup_set, List.lookup_cons]
    by_cases hname : key = name
    · subst hname
      rw [lookup_eq_none_of_notMem hkeys.1, beq_self_eq_true]
      simp
    · have hbeq : (key == name) = false := by simpa using hname
      rw [if_neg hname, hbeq]

theorem mergeValue_object (old : Option Cell) (fields : List (String × Cell)) :
    ∃ merged, mergeValue old (.object fields) = .object merged := by
  unfold mergeValue
  split
  · exact ⟨_, rfl⟩
  · exact ⟨fields, rfl⟩

/-- An override that is no document of its own is taken as it is. -/
theorem mergeValue_of_scalar {old : Option Cell} {value : Cell}
    (h : ∀ fields, mergeValue old value ≠ .object fields) : mergeValue old value = value := by
  cases value with
  | object fields =>
    obtain ⟨merged, hmerged⟩ := mergeValue_object old fields
    exact absurd hmerged (h merged)
  | _ => simp only [mergeValue]

/-! ### What each dial should be -/

namespace ActivePlanSheetRow

variable (row : ActivePlanSheetRow)

/-- The value that the row itself sets for a field of the exit: its own column, else its override. -/
def explicitValue (key : String) : Option Cell :=
  (row.exitColumns.lookup key).or (row.exitOverrides.lookup key)

def hasExitProfile : Bool := !(row.exitProfileSpec.getD []).isEmpty

end ActivePlanSheetRow

/-- A value that is not null. -/
def nonNull : Cell → Option Cell
  | .none => none
  | value => some value

/-- The value that an accepted document publishes for a dial, after the giveback map of the older
schemas. -/
def publishedDial (repr : Cell → String) (source : Payload) (dial : String) : Cell :=
  if isCurrentSchema source then source.get dial
  else
    match legacyGivebackValues.lookup ((source.get "high_water_giveback_policy").str repr) with
    | some (some (arm, retrace)) =>
      if dial = "giveback_arm_r" then .float arm
      else if dial = "giveback_retrace_fraction" then .float retrace
      else source.get dial
    | _ => source.get dial

/-- The favorable floor that a document publishes, under its parameters or as a field. -/
def publishedFloor (source : Payload) : Cell :=
  (nonNull ((documentOf (source.get "parameters")).get favorableFloorKey)).getD
    (source.get favorableFloorKey)

section Expected

variable (repr : Cell → String) (section_ : Payload) (row : ActivePlanSheetRow) (source : Payload)

/-- The row's own value, else the published one, else the section's; the section's own stop is kept over
the published fallback. -/
def expectedDial (dial : String × String) : Option Cell :=
  match row.explicitValue dial.2 with
  | some value => some value
  | none =>
    if dial.2 = "stop_loss_pct" ∧ hasOwnStop section_ then section_.lookup dial.2
    else (nonNull (publishedDial repr source dial.1)).or (section_.lookup dial.2)

/-- The favorable floor that is in force where no value is written. -/
def defaultFloor : Cell := .float (1 / 4)

def expectedFloor : Option ℚ :=
  match row.explicitValue favorableFloorKey with
  | some value => value.float?
  | none => (((nonNull (publishedFloor source)).or (section_.lookup favorableFloorKey)).getD
      defaultFloor).float?

/-- The floor in force under the fields of an exit, or under the parameters of a document. -/
def floorOf (fields : Payload) : Option ℚ := ((fields.lookup favorableFloorKey).getD defaultFloor).float?

/-- Every dial has the value that it should, in the exit and in the document frozen with it. -/
structure Lossless (payload : Payload) : Prop where
  exit : ∀ dial ∈ ladderDials,
    payload.lookup dial.2 = expectedDial repr section_ row source dial
  snapshot : ∀ dial ∈ ladderDials, (documentOf (payload.get "exit_policy_snapshot")).get dial.1 =
    (expectedDial repr section_ row source dial).getD .none
  exitFloor : floorOf payload = expectedFloor section_ row source
  snapshotFloor : floorOf (documentOf ((documentOf (payload.get "exit_policy_snapshot")).get
    "parameters")) = expectedFloor section_ row source

/-- The row sets the floor, or none is published under the parameters, or the one that is published
there is in force anyway. -/
def FloorKept : Prop :=
  (row.explicitValue favorableFloorKey).isSome ∨
    (documentOf (source.get "parameters")).get favorableFloorKey = .none ∨
    ((documentOf (source.get "parameters")).get favorableFloorKey).float? =
      (((nonNull (source.get favorableFloorKey)).or (section_.lookup favorableFloorKey)).getD
        defaultFloor).float?

end Expected

/-! ### The overrides of a row -/

namespace ActivePlanSheetRow

variable {row : ActivePlanSheetRow} {key : String}

theorem exitColumns_nodup : (row.exitColumns.map Prod.fst).Nodup := by
  apply (keys_filterMap_sublist Prod.fst Prod.snd).nodup
  simp only [List.map_cons, List.map_nil]
  decide

theorem mem_explicitKeys_iff : key ∈ row.explicitKeys ↔ (row.explicitValue key).isSome := by
  unfold explicitKeys explicitValue
  rw [List.mem_append, ← isSome_lookup_iff_mem_keys, ← isSome_lookup_iff_mem_keys,
    Option.isSome_or, Bool.or_eq_true, or_comm]

variable (section_ : Payload)

/-- A section under the row's overrides and columns. -/
def overridden (row : ActivePlanSheetRow) (section_ : Payload) : Payload :=
  (deepMerge section_ row.exitOverrides).merge row.exitColumns

theorem lookup_overridden : (row.overridden section_).lookup key =
    (row.exitColumns.lookup key).or
      (((row.exitOverrides.lookup key).map (mergeValue (section_.lookup key))).or
        (section_.lookup key)) := by
  unfold overridden
  rw [Payload.lookup_merge exitColumns_nodup, lookup_deepMerge row.exitOverrides_nodup]

theorem lookup_overridden_of_unset (h : row.explicitValue key = none) :
    (row.overridden section_).lookup key = section_.lookup key := by
  obtain ⟨hcolumn, hoverride⟩ := Option.or_eq_none_iff.mp h
  rw [lookup_overridden, hcolumn, hoverride, Option.map_none, Option.none_or, Option.none_or]

/-- What the row sets stands under its key, unless it was merged into a document of the section. -/
theorem lookup_overridden_of_set {value : Cell} (h : row.explicitValue key = some value) :
    ∃ old, (row.overridden section_).lookup key = some old ∧
      ((∀ fields, old ≠ .object fields) → old = value) := by
  rw [lookup_overridden]
  unfold explicitValue at h
  cases hcolumn : row.exitColumns.lookup key with
  | some own =>
    rw [hcolumn, Option.some_or] at h
    exact ⟨own, by rw [Option.some_or], fun _ => Option.some.inj h⟩
  | none =>
    rw [hcolumn, Option.none_or] at h
    refine ⟨mergeValue (section_.lookup key) value, ?_, mergeValue_of_scalar⟩
    rw [Option.none_or, h, Option.map_some, Option.some_or]

end ActivePlanSheetRow

/-! ### The published document -/

variable {kernel : PolicyKernel} {repr : Cell → String}

/-- A document that carries the dials that another one publishes. -/
structure Publishes (kernel : PolicyKernel) (repr : Cell → String) (source spec : Payload) : Prop where
  fields : ∀ key, (spec.lookup key).isSome ↔ key ∈ kernel.fields
  dials : ∀ dial ∈ ladderDials, spec.get dial.1 = publishedDial repr source dial.1
  floor : spec.get favorableFloorKey = source.get favorableFloorKey
  parameters : spec.get "parameters" = source.get "parameters"

theorem publishes_of_current {payload source : Payload} (h : kernel.modelValidate payload = .ok source)
    (hcurrent : isCurrentSchema source = true) : Publishes kernel repr source source where
  fields := kernel.isSome_iff payload source h
  dials dial _ := by rw [publishedDial, if_pos hcurrent]
  floor := rfl
  parameters := rfl

/-- The document that stands in for one of an older schema has its fields but for the giveback. -/
theorem lookup_compatiblePayload {source compat : Payload} (h : compatiblePayload repr source = .ok compat)
    (hcurrent : isCurrentSchema source = false) {key : String} (hsome : (source.lookup key).isSome)
    (hversion : key ≠ "policy_schema_version") (hid : key ≠ "policy_id") :
    compat.lookup key = some (publishedDial repr source key) := by
  have hget : source.lookup key = some (source.get key) := by
    obtain ⟨value, hvalue⟩ := Option.isSome_iff_exists.mp hsome
    rw [Payload.get, hvalue, Option.getD_some]
  unfold compatiblePayload at h
  unfold publishedDial
  rw [if_neg (by simp [hcurrent])]
  cases hlegacy : legacyGivebackValues.lookup ((source.get "high_water_giveback_policy").str repr) with
  | none => rw [hlegacy] at h; cases h
  | some values =>
    rw [hlegacy] at h
    cases values with
    | none =>
      cases h
      rw [Payload.lookup_set, if_neg hid, Payload.lookup_set, if_neg hversion, hget]
    | some values =>
      obtain ⟨arm, retrace⟩ := values
      cases h
      dsimp only
      rw [Payload.lookup_set, Payload.lookup_set, Payload.lookup_set, Payload.lookup_set, if_neg hid,
        if_neg hversion, hget]
      by_cases hretrace : key = "giveback_retrace_fraction"
      · subst hretrace
        rfl
      · rw [if_neg hretrace, if_neg hretrace]
        by_cases harm : key = "giveback_arm_r"
        · rw [if_pos harm, if_pos harm]
        · rw [if_neg harm, if_neg harm]

theorem publishedDial_of_ne {source : Payload} {key : String} (harm : key ≠ "giveback_arm_r")
    (hretrace : key ≠ "giveback_retrace_fraction") : publishedDial repr source key = source.get key := by
  unfold publishedDial
  simp only [if_neg harm, if_neg hretrace]
  split
  · rfl
  · split <;> rfl

theorem publishes_of_compatible {payload source compat spec : Payload}
    (hsource : kernel.modelValidate payload = .ok source) (hcurrent : isCurrentSchema source = false)
    (hcompat : compatiblePayload repr source = .ok compat)
    (hspec : kernel.modelValidate compat = .ok spec) : Publishes kernel repr source spec := by
  -- what the kernel has a field for passes through both validations
  have hkept : ∀ key ∈ "parameters" :: favorableFloorKey :: ladderDials.map Prod.fst,
      key ∈ kernel.fields → spec.get key = publishedDial repr source key := by
    intro key hkey hfield
    have hnames : ∀ name ∈ "parameters" :: favorableFloorKey :: ladderDials.map Prod.fst,
        name ≠ "policy_schema_version" ∧ name ≠ "policy_id" := by decide
    have hlookup := lookup_compatiblePayload hcompat hcurrent
      ((kernel.isSome_iff payload source hsource key).mpr hfield) (hnames key hkey).1
      (hnames key hkey).2
    rw [Payload.get, kernel.keeps compat spec hspec key hkey hfield _ hlookup, Option.getD_some]
  refine ⟨kernel.isSome_iff compat spec hspec, ?_, ?_, ?_⟩
  · intro dial hdial
    have hname : dial.1 ∈ ladderDials.map Prod.fst := List.mem_map_of_mem hdial
    exact hkept dial.1 (List.mem_cons_of_mem _ (List.mem_cons_of_mem _ hname))
      (kernel.dials_mem dial hdial)
  · by_cases hfield : favorableFloorKey ∈ kernel.fields
    · rw [hkept favorableFloorKey (by simp) hfield, publishedDial_of_ne (by decide) (by decide)]
    · have hmissing {fields document : Payload} (h : kernel.modelValidate fields = .ok document) :
          document.lookup favorableFloorKey = none := by
        rw [← Option.not_isSome_iff_eq_none, kernel.isSome_iff fields document h]
        exact hfield
      rw [Payload.get, Payload.get, hmissing hspec, hmissing hsource]
  · rw [hkept "parameters" (by simp) kernel.parameters_mem,
      publishedDial_of_ne (by decide) (by decide)]

/-- The fields that say which policy the exit follows; no dial is among them. -/
def identityKeys : List String :=
  ["profile_exit_id", "exit_policy_schema_version", "exit_policy_id", "exit_policy_hash",
    "exit_policy_snapshot", "exit_policy_provenance"]

/-- What the fields of an accepted document are. -/
theorem exitSpecFields_eq_ok {payload source mapped : Payload}
    (hsource : kernel.modelValidate payload = .ok source)
    (h : exitSpecFieldsFromManagementPolicySpec kernel repr payload = .ok mapped) :
    ∃ spec identity, Publishes kernel repr source spec ∧ identity.map Prod.fst = identityKeys ∧
      identity.lookup "exit_policy_snapshot" = some (.object spec) ∧
      mapped = (mappedFields spec).merge identity := by
  unfold exitSpecFieldsFromManagementPolicySpec at h
  rw [hsource] at h
  obtain ⟨_, hok, h⟩ := Except.bind_eq_ok_iff.mp h
  cases hok
  by_cases hcurrent : isCurrentSchema source = true
  · simp only [if_pos hcurrent] at h
    cases h
    exact ⟨source, _, publishes_of_current hsource hcurrent, rfl, rfl, rfl⟩
  · simp only [if_neg hcurrent] at h
    obtain ⟨compat, hcompat, h⟩ := Except.bind_eq_ok_iff.mp h
    obtain ⟨spec, hspec, h⟩ := Except.bind_eq_ok_iff.mp h
    cases h
    exact ⟨spec, _, publishes_of_compatible hsource (by simpa using hcurrent) hcompat hspec, rfl, rfl,
      rfl⟩

theorem mappedFields_eq (spec : Payload) :
    mappedFields spec = exitProfileSpecFieldMap.filterMap fun field =>
      (nonNull (spec.get field.1)).map fun value => (field.2, value) := by
  unfold mappedFields
  apply List.filterMap_congr
  intro field _
  dsimp only
  cases spec.get field.1 <;> rfl

theorem exitFields_nodup : (exitProfileSpecFieldMap.map Prod.snd).Nodup := by decide

theorem specFields_nodup : (exitProfileSpecFieldMap.map Prod.fst).Nodup := by decide

section Mapped

variable {spec mapped : Payload} {identity : List (String × Cell)}

theorem mapped_nodup (hmapped : mapped = (mappedFields spec).merge identity) :
    (mapped.map Prod.fst).Nodup := by
  rw [hmapped, mappedFields_eq]
  exact Payload.keys_merge_nodup
    ((keys_filterMap_sublist Prod.snd fun field : String × String => nonNull (spec.get field.1)).nodup
      exitFields_nodup) identity

theorem lookup_mapped (hmapped : mapped = (mappedFields spec).merge identity)
    (hidentity : identity.map Prod.fst = identityKeys) {field : String × String}
    (hfield : field ∈ exitProfileSpecFieldMap) (hkey : field.2 ∉ identityKeys) :
    mapped.lookup field.2 = nonNull (spec.get field.1) := by
  rw [hmapped, Payload.lookup_merge_of_notMem (hidentity ▸ hkey), mappedFields_eq]
  exact lookup_filterMap_key Prod.snd (fun field : String × String => nonNull (spec.get field.1))
    exitFields_nodup hfield

end Mapped

/-! ### The resolved document -/

theorem lookup_writeBack_of_notMem (updated : Payload) {payload : Payload}
    {fields : List (String × String)} {key : String} (h : key ∉ fields.map Prod.fst) :
    (fields.foldl (writeBack updated) payload).lookup key = payload.lookup key := by
  induction fields generalizing payload with
  | nil => rfl
  | cons field rest ih =>
    rw [List.map_cons, List.mem_cons, not_or] at h
    rw [List.foldl_cons, ih h.2]
    unfold writeBack
    split
    · split
      · rw [Payload.lookup_set, if_neg h.1]
      · rfl
    · rfl

/-- A field of the document takes the value that the exit has. -/
theorem lookup_writeBack (updated : Payload) {payload : Payload} {fields : List (String × String)}
    (hnodup : (fields.map Prod.fst).Nodup) {field : String × String} (hfield : field ∈ fields)
    (hname : field.1 ≠ "policy_id") (hsome : (payload.lookup field.1).isSome) :
    (fields.foldl (writeBack updated) payload).lookup field.1 =
      (updated.lookup field.2).or (payload.lookup field.1) := by
  induction fields generalizing payload with
  | nil => cases hfield
  | cons first rest ih =>
    rw [List.map_cons, List.nodup_cons] at hnodup
    rw [List.foldl_cons]
    rcases List.mem_cons.mp hfield with rfl | hrest
    · rw [lookup_writeBack_of_notMem updated hnodup.1]
      unfold writeBack
      rw [if_pos ⟨hname, hsome⟩]
      cases updated.lookup field.2 with
      | none => rfl
      | some value => rw [Payload.lookup_set, if_pos rfl, Option.some_or]
    · have hother : (writeBack updated payload first).lookup field.1 = payload.lookup field.1 := by
        have hne : field.1 ∉ [first].map Prod.fst := by
          rw [List.map_cons, List.map_nil, List.mem_singleton]
          intro heq
          exact hnodup.1 (heq ▸ List.mem_map_of_mem hrest)
        exact lookup_writeBack_of_notMem updated hne
      rw [ih hnodup.2 hrest (by rwa [hother]), hother]

/-- The floor that the exit has is frozen among the parameters. -/
theorem floorOf_resolvedParameters {updated parameters : Payload} {bag : Cell}
    (h : resolvedParameters updated bag = .ok parameters) :
    ∃ floor, floorOf updated = some floor ∧
      parameters.lookup favorableFloorKey = some (.float floor) := by
  unfold resolvedParameters at h
  obtain ⟨floor, hfloor, h⟩ := Except.bind_eq_ok_iff.mp h
  cases h
  refine ⟨floor, ?_, ?_⟩
  · unfold Cell.toFloat at hfloor
    unfold floorOf defaultFloor
    revert hfloor
    cases ((updated.lookup favorableFloorKey).getD (.float (1 / 4))).float? with
    | none => exact fun hfloor => nomatch hfloor
    | some q =>
      intro hfloor
      cases hfloor
      rfl
  · have hnames : (frozenParameterKeys.map fun key => (key, updated.get key)).map Prod.fst =
        frozenParameterKeys := rfl
    have hkey : favorableFloorKey ∉
        (frozenParameterKeys.map fun key => (key, updated.get key)).map Prod.fst := by
      rw [hnames]
      decide
    rw [Payload.lookup_merge_of_notMem hkey, Payload.lookup_set, if_pos rfl]

/-! ### The exit under the published profile -/

section Profile

variable {section_ source spec mapped updated : Payload} {row : ActivePlanSheetRow}

/-- The published fields over the section that the row's overrides have been applied to. -/
def layered (section_ : Payload) (row : ActivePlanSheetRow) (mapped : Payload) : Payload :=
  (row.overridden section_).merge
    (mapped.filter fun field => field.1 ∉ protectedKeys (row.overridden section_) row)

theorem lookup_layered (hmapped : (mapped.map Prod.fst).Nodup) (key : String) :
    (layered section_ row mapped).lookup key =
      if key ∈ protectedKeys (row.overridden section_) row then (row.overridden section_).lookup key
      else (mapped.lookup key).or ((row.overridden section_).lookup key) := by
  have hnodup : ((mapped.filter fun field =>
      field.1 ∉ protectedKeys (row.overridden section_) row).map Prod.fst).Nodup :=
    (List.filter_sublist.map Prod.fst).nodup hmapped
  unfold layered
  rw [Payload.lookup_merge hnodup,
    lookup_filter_key fun key => key ∉ protectedKeys (row.overridden section_) row]
  by_cases hkey : key ∈ protectedKeys (row.overridden section_) row
  · rw [if_neg (by simpa using hkey), if_pos hkey, Option.none_or]
  · rw [if_pos (by simpa using hkey), if_neg hkey]

/-- Beside what the row sets, a stop of the section's own is what the published profile leaves. -/
theorem mem_protectedKeys_iff {key : String} (hunset : row.explicitValue key = none) :
    key ∈ protectedKeys (row.overridden section_) row ↔
      key = "stop_loss_pct" ∧ hasOwnStop section_ = true := by
  have hkey : key ∉ row.explicitKeys := by
    rw [ActivePlanSheetRow.mem_explicitKeys_iff, hunset]
    simp
  have hown (hstop : row.explicitValue "stop_loss_pct" = none) :
      hasOwnStop (row.overridden section_) = hasOwnStop section_ := by
    unfold hasOwnStop Payload.get
    rw [ActivePlanSheetRow.lookup_overridden_of_unset section_ hstop]
  unfold protectedKeys
  by_cases hstop : row.explicitValue "stop_loss_pct" = none
  · have hmissing : "stop_loss_pct" ∉ row.explicitKeys := by
      rw [ActivePlanSheetRow.mem_explicitKeys_iff, hstop]
      simp
    rw [hown hstop]
    by_cases hkept : hasOwnStop section_ = true
    · rw [if_pos ⟨hmissing, hkept⟩, List.mem_append, List.mem_singleton]
      simp [hkey, hkept]
    · rw [if_neg fun h => hkept h.2]
      simp [hkey, hkept]
  · have hset : "stop_loss_pct" ∈ row.explicitKeys :=
      ActivePlanSheetRow.mem_explicitKeys_iff.mpr (Option.isSome_iff_ne_none.mpr hstop)
    have hne : key ≠ "stop_loss_pct" := by
      rintro rfl
      exact hstop hunset
    rw [if_neg fun h => h.1 hset]
    simp [hkey, hne]

theorem mem_protectedKeys_of_set {key : String} (h : (row.explicitValue key).isSome) :
    key ∈ protectedKeys (row.overridden section_) row := by
  have hkey : key ∈ row.explicitKeys := ActivePlanSheetRow.mem_explicitKeys_iff.mpr h
  unfold protectedKeys
  split
  · exact List.mem_append_left _ hkey
  · exact hkey

theorem ladderDials_in_fieldMap : ∀ dial ∈ ladderDials, dial ∈ exitProfileSpecFieldMap := by decide

theorem ladderDials_not_identity : ∀ dial ∈ ladderDials, dial.2 ∉ identityKeys := by decide

/-- A published document under the row: its fields, and what the exit has of them. -/
structure Layers (kernel : PolicyKernel) (repr : Cell → String) (section_ : Payload)
    (row : ActivePlanSheetRow) (source spec updated : Payload) : Prop where
  published : Publishes kernel repr source spec
  set_ : ∀ key, (row.explicitValue key).isSome →
    updated.lookup key = (row.overridden section_).lookup key
  unset : ∀ field ∈ exitProfileSpecFieldMap, field.2 ∉ identityKeys →
    row.explicitValue field.2 = none →
    updated.lookup field.2 =
      if field.2 = "stop_loss_pct" ∧ hasOwnStop section_ then section_.lookup field.2
      else (nonNull (spec.get field.1)).or (section_.lookup field.2)

theorem layers_of_layered {identity : List (String × Cell)}
    (hpublished : Publishes kernel repr source spec)
    (hidentity : identity.map Prod.fst = identityKeys)
    (hmapped : mapped = (mappedFields spec).merge identity) :
    Layers kernel repr section_ row source spec (layered section_ row mapped) where
  published := hpublished
  set_ key h := by
    rw [lookup_layered (mapped_nodup hmapped), if_pos (mem_protectedKeys_of_set h)]
  unset field hfield hkey hunset := by
    rw [lookup_layered (mapped_nodup hmapped), lookup_mapped hmapped hidentity hfield hkey,
      ActivePlanSheetRow.lookup_overridden_of_unset section_ hunset]
    exact if_congr (mem_protectedKeys_iff hunset) rfl rfl

namespace Layers

/-- The exit has the value that a dial should have, unless it is a document of its own. -/
theorem lookup_dial (layers : Layers kernel repr section_ row source spec updated)
    {dial : String × String} (hdial : dial ∈ ladderDials)
    (hscalar : ∀ fields, updated.lookup dial.2 ≠ some (.object fields)) :
    updated.lookup dial.2 = expectedDial repr section_ row source dial := by
  unfold expectedDial
  cases hset : row.explicitValue dial.2 with
  | some value =>
    obtain ⟨old, hold, hvalue⟩ := ActivePlanSheetRow.lookup_overridden_of_set section_ hset
    have hlookup : updated.lookup dial.2 = some old :=
      (layers.set_ dial.2 (by rw [hset, Option.isSome_some])).trans hold
    rw [hlookup, hvalue fun fields hfields => hscalar fields (hfields ▸ hlookup)]
  | none =>
    rw [layers.unset dial (ladderDials_in_fieldMap dial hdial) (ladderDials_not_identity dial hdial)
      hset, layers.published.dials dial hdial]

/-- A dial that the exit has no value for is published as null. -/
theorem published_of_missing (layers : Layers kernel repr section_ row source spec updated)
    {dial : String × String} (hdial : dial ∈ ladderDials) (hmissing : updated.lookup dial.2 = none) :
    spec.get dial.1 = .none := by
  cases hset : row.explicitValue dial.2 with
  | some value =>
    obtain ⟨old, hold, -⟩ := ActivePlanSheetRow.lookup_overridden_of_set section_ hset
    have hlookup := layers.set_ dial.2 (by rw [hset, Option.isSome_some])
    rw [hmissing, hold] at hlookup
    cases hlookup
  | none =>
    have hlookup := layers.unset dial (ladderDials_in_fieldMap dial hdial)
      (ladderDials_not_identity dial hdial) hset
    rw [hmissing] at hlookup
    by_cases hstop : dial.2 = "stop_loss_pct" ∧ hasOwnStop section_ = true
    · -- a section has its own stop only where it has one
      rw [if_pos hstop, hstop.1] at hlookup
      have hown := hstop.2
      unfold hasOwnStop Payload.get at hown
      rw [← hlookup] at hown
      cases hown
    · rw [if_neg hstop] at hlookup
      have hnull := (Option.or_eq_none_iff.mp hlookup.symm).1
      revert hnull
      cases spec.get dial.1 <;> simp [nonNull]

theorem floorOf_eq (layers : Layers kernel repr section_ row source spec updated) {floor : ℚ}
    (hfloor : floorOf updated = some floor) :
    floorOf updated =
      match row.explicitValue favorableFloorKey with
      | some value => value.float?
      | none => (((nonNull (source.get favorableFloorKey)).or
          (section_.lookup favorableFloorKey)).getD defaultFloor).float? := by
  cases hset : row.explicitValue favorableFloorKey with
  | some value =>
    obtain ⟨old, hold, hvalue⟩ := ActivePlanSheetRow.lookup_overridden_of_set section_ hset
    have hlookup : updated.lookup favorableFloorKey = some old :=
      (layers.set_ _ (by rw [hset, Option.isSome_some])).trans hold
    unfold floorOf at hfloor ⊢
    rw [hlookup, Option.getD_some] at hfloor ⊢
    have hscalar : ∀ fields, old ≠ .object fields := by
      rintro fields rfl
      cases hfloor
    rw [hvalue hscalar]
  | none =>
    have hlookup := layers.unset (favorableFloorKey, favorableFloorKey) (by decide) (by decide) hset
    unfold floorOf
    rw [hlookup, if_neg fun h => absurd h.1 (by decide), layers.published.floor]

end Layers

end Profile

section Applied

variable {section_ specPayload source payload : Payload} {row : ActivePlanSheetRow}
variable {exitCatalog : List (String × Payload)}

/-- What an exit with a published profile is made of. -/
structure Applied (kernel : PolicyKernel) (repr : Cell → String) (section_ : Payload)
    (row : ActivePlanSheetRow) (source payload : Payload) : Prop where
  resolved : ∃ spec updated parameters final, Layers kernel repr section_ row source spec updated ∧
    resolvedParameters updated ((exitProfileSpecFieldMap.foldl (writeBack updated) spec).get
      "parameters") = .ok parameters ∧
    kernel.modelValidate ((exitProfileSpecFieldMap.foldl (writeBack updated) spec).set "parameters"
      (.object parameters)) = .ok final ∧
    payload.lookup "exit_policy_snapshot" = some (.object final) ∧
    ∀ key ∉ identityKeys, payload.lookup key = updated.lookup key

theorem applied_of_eq_ok (hmanagement : row.hasManagementExit = false)
    (hprofile : row.hasExitProfile = true)
    (hsource : kernel.modelValidate (row.exitProfileSpec.getD []) = .ok source)
    (h : applyExitOverrides kernel repr exitCatalog section_ row = .ok payload) :
    Applied kernel repr section_ row source payload := by
  have hneg : ¬ row.hasManagementExit = true := by simp [hmanagement]
  unfold applyExitOverrides at h
  by_cases hcompare : !row.compareExits.isEmpty ∧ !row.hasManagementExit
  · rw [if_pos hcompare] at h
    cases h
  · rw [if_neg hcompare, if_neg hneg] at h
    have hempty : ¬ (row.exitProfileSpec.getD []).isEmpty = true := by
      intro hempty
      rw [ActivePlanSheetRow.hasExitProfile, hempty] at hprofile
      cases hprofile
    unfold applyExitProfileSpec at h
    rw [if_neg hempty] at h
    obtain ⟨mapped, hmapped, h⟩ := Except.bind_eq_ok_iff.mp h
    obtain ⟨parameters, hparameters, h⟩ := Except.bind_eq_ok_iff.mp h
    obtain ⟨final, hfinal, h⟩ := Except.bind_eq_ok_iff.mp h
    cases h
    obtain ⟨spec, identity, hpublished, hidentity, hsnapshot, hmerged⟩ :=
      exitSpecFields_eq_ok hsource hmapped
    have hdocument : documentOf (mapped.get "exit_policy_snapshot") = spec := by
      have hnodup : (identity.map Prod.fst).Nodup := by
        rw [hidentity]
        decide
      rw [hmerged, Payload.get, Payload.lookup_merge hnodup, hsnapshot, Option.some_or,
        Option.getD_some, documentOf]
    rw [hdocument] at hparameters hfinal
    refine ⟨spec, layered section_ row mapped, parameters, final,
      layers_of_layered hpublished hidentity hmerged, hparameters, hfinal, ?_, ?_⟩
    · rw [Payload.lookup_merge]
      · rfl
      · simp only [List.map_cons, List.map_nil]
        decide
    · intro key hkey
      rw [Payload.lookup_merge_of_notMem]
      · rfl
      · exact fun hmem => hkey (List.mem_cons_of_mem _ hmem)

namespace Applied

/-- The dials lose nothing, whatever becomes of the favorable floor. -/
theorem lossless_iff (applied : Applied kernel repr section_ row source payload) :
    Lossless repr section_ row source payload ↔ FloorKept section_ row source := by
  obtain ⟨spec, updated, parameters, final, hlayers, hparameters, hfinal, hsnapshot, hlookup⟩ :=
    applied.resolved
  obtain ⟨floor, hfloor, hfrozen⟩ := floorOf_resolvedParameters hparameters
  have hdocument : documentOf (payload.get "exit_policy_snapshot") = final := by
    rw [Payload.get, hsnapshot, Option.getD_some, documentOf]
  -- a dial of the document that is validated is the one that the kernel's document has
  have hkept (dial : String × String) (hdial : dial ∈ ladderDials) :
      final.lookup dial.1 = some ((updated.lookup dial.2).getD .none) := by
    have hname : dial.1 ≠ "policy_id" ∧ dial.1 ≠ "parameters" := by
      revert dial
      decide
    have hfield := kernel.dials_mem dial hdial
    obtain ⟨value, hvalue⟩ := Option.isSome_iff_exists.mp ((hlayers.published.fields dial.1).mpr hfield)
    have hresolved := lookup_writeBack updated specFields_nodup (ladderDials_in_fieldMap dial hdial)
      hname.1 ((hlayers.published.fields dial.1).mpr hfield)
    apply kernel.keeps _ final hfinal dial.1 (List.mem_cons_of_mem _ (List.mem_cons_of_mem _
      (List.mem_map_of_mem hdial))) hfield
    rw [Payload.lookup_set, if_neg hname.2, hresolved]
    cases hmissing : updated.lookup dial.2 with
    | some value => rw [Option.some_or, Option.getD_some]
    | none =>
      have hnull := hlayers.published_of_missing hdial hmissing
      rw [Payload.get, hvalue, Option.getD_some] at hnull
      rw [hvalue, hnull, Option.none_or, Option.getD_none]
  have hdials (dial : String × String) (hdial : dial ∈ ladderDials) :
      updated.lookup dial.2 = expectedDial repr section_ row source dial := by
    apply hlayers.lookup_dial hdial
    intro fields hfields
    apply kernel.scalar _ final hfinal dial hdial fields
    rw [hkept dial hdial, hfields, Option.getD_some]
  have hparametersKept : documentOf (final.get "parameters") = parameters := by
    have hfield := kernel.keeps _ final hfinal "parameters" List.mem_cons_self kernel.parameters_mem
      (.object parameters) (by rw [Payload.lookup_set, if_pos rfl])
    rw [Payload.get, hfield, Option.getD_some, documentOf]
  have hexitFloor : floorOf payload = some floor := by
    rw [← hfloor, floorOf, floorOf, hlookup favorableFloorKey (by decide)]
  have hsnapshotFloor : floorOf parameters = some floor := by
    rw [floorOf, hfrozen]
    rfl
  have hinForce : some floor =
      match row.explicitValue favorableFloorKey with
      | some value => value.float?
      | none => (((nonNull (source.get favorableFloorKey)).or
          (section_.lookup favorableFloorKey)).getD defaultFloor).float? :=
    hfloor ▸ hlayers.floorOf_eq hfloor
  have hfloors : some floor = expectedFloor section_ row source ↔ FloorKept section_ row source := by
    unfold expectedFloor FloorKept publishedFloor
    rw [hinForce]
    cases hset : row.explicitValue favorableFloorKey with
    | some value => simp
    | none =>
      cases hparameter : (documentOf (source.get "parameters")).get favorableFloorKey with
      | none => simp [nonNull]
      | _ => simp [nonNull, eq_comm]
  constructor
  · intro hlossless
    exact hfloors.mp (hexitFloor.symm.trans hlossless.exitFloor)
  · intro hkeptFloor
    have hexpected := hfloors.mpr hkeptFloor
    refine ⟨?_, ?_, hexitFloor.trans hexpected, ?_⟩
    · intro dial hdial
      rw [hlookup dial.2 (ladderDials_not_identity dial hdial), hdials dial hdial]
    · intro dial hdial
      rw [hdocument, Payload.get, hkept dial hdial, hdials dial hdial, Option.getD_some]
    · rw [hdocument, hparametersKept, hsnapshotFloor, hexpected]

end Applied

/-- Under a published profile no dial is lost exactly when the favorable floor of its parameters is not:
the row sets the floor, or the parameters have none, or theirs is in force anyway. -/
theorem profile_precedence_lossless_iff (kernel : PolicyKernel) (repr : Cell → String)
    (exitCatalog : List (String × Payload)) (section_ source payload : Payload)
    (row : ActivePlanSheetRow) (hmanagement : row.hasManagementExit = false)
    (hprofile : row.hasExitProfile = true)
    (hsource : kernel.modelValidate (row.exitProfileSpec.getD []) = .ok source)
    (h : applyExitOverrides kernel repr exitCatalog section_ row = .ok payload) :
    Lossless repr section_ row source payload ↔ FloorKept section_ row source :=
  (applied_of_eq_ok hmanagement hprofile hsource h).lossless_iff

end Applied

section Examples

/-- The fields of a policy, and the values that one has where a document leaves them out. -/
def declaredFields : List (String × Cell) :=
  [("policy_schema_version", .text "management-policy.v2"), ("policy_id", .none),
    ("high_water_giveback_policy", .text "MODERATE"), ("target_1_r", .none), ("target_2_r", .none),
    ("target_1_quantity", .none), ("initial_stop_pct", .none), ("premium_disaster_stop_pct", .none),
    ("no_progress_seconds", .none), ("max_hold_seconds", .none), ("giveback_arm_r", .none),
    ("giveback_retrace_fraction", .none), ("breakeven_after_t1", .bool true),
    ("eod_flat", .bool true), ("option_stop_fallback_pct", .float (45 / 100)),
    ("hard_flat_time_et", .text "15:55"), ("parameters", .object [])]

def isDocument : Option Cell → Bool
  | some (.object _) => true
  | _ => false

def declaredDocument (payload : Payload) : Payload :=
  (declaredFields.map Prod.fst).map fun key =>
    (key, (payload.lookup key).getD ((declaredFields.lookup key).getD .none))

/-- A kernel that fills in the defaults of its fields and refuses a document for a dial. -/
def declaredKernel : PolicyKernel where
  fields := declaredFields.map Prod.fst
  modelValidate payload :=
    if ladderDials.any fun dial => isDocument ((declaredDocument payload).lookup dial.1) then
      .error (.invalid "Input should be a valid number")
    else .ok (declaredDocument payload)
  policyHash spec := .list (spec.map Prod.snd)
  dials_mem := by decide
  parameters_mem := by decide
  isSome_iff payload spec h key := by
    by_cases hany : ladderDials.any fun dial => isDocument ((declaredDocument payload).lookup dial.1)
    · rw [if_pos hany] at h
      cases h
    · rw [if_neg hany] at h
      cases h
      rw [isSome_lookup_iff_mem_keys]
      exact Iff.rfl
  keeps payload spec h key _ hfield value hvalue := by
    by_cases hany : ladderDials.any fun dial => isDocument ((declaredDocument payload).lookup dial.1)
    · rw [if_pos hany] at h
      cases h
    · rw [if_neg hany] at h
      cases h
      rw [declaredDocument, lookup_map_key, if_pos hfield, hvalue, Option.getD_some]
  scalar payload spec h dial hdial fields hfields := by
    by_cases hany : ladderDials.any fun dial => isDocument ((declaredDocument payload).lookup dial.1)
    · rw [if_pos hany] at h
      cases h
    · rw [if_neg hany] at h
      cases h
      apply hany
      rw [List.any_eq_true]
      exact ⟨dial, hdial, by rw [hfields, isDocument]⟩

/-- A row with a profile as the operator's sheet publishes one, and its favorable floor. -/
def profiledRow (floor : ℚ) : ActivePlanSheetRow where
  rowId := "row-1"
  stopLossPct := some (35 / 100)
  exitProfileSpec := some
    [("policy_id", .text "profile__trend_continuation"), ("target_1_r", .float 1),
      ("target_2_r", .float 2), ("high_water_giveback_policy", .text "MODERATE"),
      ("parameters", .object [("profile_owner", .text "market_cartographer"),
        (favorableFloorKey, .float floor)])]

def profiledExit (floor : ℚ) : Payload :=
  (applyExitOverrides declaredKernel (fun _ => "") [] [("eod_flat", .bool true)]
    (profiledRow floor)).toOption.getD []

def profiledSource (floor : ℚ) : Payload :=
  declaredDocument ((profiledRow floor).exitProfileSpec.getD [])

theorem profile_precedence_lossless_default :
    Lossless (fun _ => "") [("eod_flat", .bool true)] (profiledRow (1 / 4)) (profiledSource (1 / 4))
        (profiledExit (1 / 4)) ↔
      FloorKept [("eod_flat", .bool true)] (profiledRow (1 / 4)) (profiledSource (1 / 4)) :=
  profile_precedence_lossless_iff declaredKernel (fun _ => "") [] [("eod_flat", .bool true)] _ _
    (profiledRow (1 / 4)) rfl rfl rfl rfl

/-- The favorable floor that the sheet publishes is reset to the default one. -/
theorem published_floor_is_reset :
    declaredKernel.modelValidate ((profiledRow (2 / 5)).exitProfileSpec.getD []) =
        .ok (profiledSource (2 / 5)) ∧
      applyExitOverrides declaredKernel (fun _ => "") [] [("eod_flat", .bool true)]
        (profiledRow (2 / 5)) = .ok (profiledExit (2 / 5)) ∧
      ¬ Lossless (fun _ => "") [("eod_flat", .bool true)] (profiledRow (2 / 5))
        (profiledSource (2 / 5)) (profiledExit (2 / 5)) := by
  refine ⟨rfl, rfl, fun hlossless => ?_⟩
  have hfloor := hlossless.exitFloor
  have hreset : floorOf (profiledExit (2 / 5)) = some (1 / 4) := rfl
  have hpublished : expectedFloor [("eod_flat", .bool true)] (profiledRow (2 / 5))
      (profiledSource (2 / 5)) = some (2 / 5) := rfl
  rw [hreset, hpublished] at hfloor
  norm_num at hfloor

end Examples

end Bhiksha.ActivePlan
