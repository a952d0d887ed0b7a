import Bhiksha.Loop.CandidateShape

/-! When a refresh leaves the generated directory either as it was or as the report says. -/

namespace Bhiksha.Loop

open ActivePlan (Cell Payload)
open Library

variable (platform : ImportPlatform)

/-! ### What a refresh should leave -/

/-- The deployment is that of a file which does not lie in the generated directory. -/
def IsHumanManaged (inputs : RefreshInputs) (deploymentId : String) : Prop :=
  ∃ file ∈ inputs.deploymentFiles, file.1.head? ≠ some "generated" ∧
    ∃ (fields : Payload) (id : Cell), file.2 = .ok (.object fields) ∧
      fields.lookup "deployment_id" = some id ∧ id.str platform.repr = deploymentId

def ShadowOnly (manifest : Payload) : Prop :=
  ∃ execution : Payload, manifest.lookup "execution" = some (.object execution) ∧
    execution.lookup "shadow_only" = some (.bool true)

/-- The file of a deployment holds a valid manifest of it that trades in shadow only. -/
def HoldsManifest (dir : GeneratedDir) (deploymentId : String) : Prop :=
  ∃ manifest : Payload, dir (fileName deploymentId) = some (platform.safeDump (.object manifest)) ∧
    deploymentIdOf platform manifest = .ok deploymentId ∧
    platform.modelValidate (.object manifest) = .ok () ∧ ShadowOnly manifest

/-- The YAML files of the directory are those of the reported deployments, one for each. -/
structure HoldsReported (inputs : RefreshInputs) (generated : List GeneratedDeployment)
    (dir : GeneratedDir) : Prop where
  distinct : (generated.map GeneratedDeployment.deploymentId).Nodup
  files : ∀ path, isYamlFile path = true →
    ((dir path).isSome ↔ ∃ entry ∈ generated, path = fileName entry.deploymentId)
  inDirectory : ∀ entry ∈ generated, isYamlFile (fileName entry.deploymentId) = true
  manifests : ∀ entry ∈ generated, HoldsManifest platform dir entry.deploymentId
  notHuman : ∀ entry ∈ generated, ¬ IsHumanManaged platform inputs entry.deploymentId

/-- Generation is blocked by an issue. -/
def Blocked (inputs : RefreshInputs) : Prop :=
  ∃ prepared, prepare platform inputs = .ok prepared ∧ blockedGeneration prepared.issues = true

/-- A refresh that raises or is blocked leaves the directory as it was; any other leaves what it
reports. -/
def AllOrNothing (inputs : RefreshInputs) (dir : GeneratedDir) : Prop :=
  match refreshGeneratedDeployments platform inputs dir with
  | (.error _, dir') => dir' = dir
  | (.ok report, dir') => (Blocked platform inputs → dir' = dir) ∧
      (¬ Blocked platform inputs → HoldsReported platform inputs report.generatedDeployments dir')

/-! ### When it does -/

/-- The id under which a candidate is written, unless it is that of a known deployment. -/
def publishedId (humanIds : List String) (candidate : Payload) : Option String :=
  ((valueAt candidate ["manifest"] "deployment_id").map (Cell.str platform.repr)).filter (· ∉ humanIds)

/-- The candidate has a manifest with an id, and where the id is not that of a known deployment, the
manifest is valid, the candidate has a symbol and a direction to be reported with, and the id is neither a
path nor that of a human-managed deployment. -/
def Publishable (inputs : RefreshInputs) (humanIds : List String) (candidate : Payload) : Prop :=
  ∃ (fields : Payload) (id : Cell), Buildable candidate fields ∧
    fields.lookup "deployment_id" = some id ∧
    (id.str platform.repr ∈ humanIds ∨
      (∀ manifest, buildGeneratedManifest candidate = .ok manifest →
        platform.modelValidate (.object manifest) = .ok ()) ∧
      HasKeys candidate ["symbol", "direction"] ∧
      '/' ∉ (id.str platform.repr).toList ∧
      ¬ IsHumanManaged platform inputs (id.str platform.repr))

/-- Unless the refresh raises before or is blocked: each selected candidate can be written, no two under
one id, and each manual one can be shown. -/
def Refreshable (inputs : RefreshInputs) : Prop :=
  ∀ prepared, prepare platform inputs = .ok prepared → blockedGeneration prepared.issues = false →
    (∀ candidate ∈ prepared.selectedCandidates,
      Publishable platform inputs prepared.humanIds candidate) ∧
    (prepared.selectedCandidates.filterMap (publishedId platform prepared.humanIds)).Nodup ∧
    ∀ candidate ∈ prepared.manualCandidates, Listable candidate

/-! ### The manifest -/

section Named

variable {platform} {humanIds : List String} {candidate manifest fields : Payload} {deploymentId : String}

theorem deploymentIdOf_eq_ok_iff :
    deploymentIdOf platform manifest = .ok deploymentId ↔
      ∃ id, manifest.lookup "deployment_id" = some id ∧ id.str platform.repr = deploymentId := by
  unfold deploymentIdOf
  rw [Except.bind_eq_ok_iff]
  simp only [item_eq_ok_iff, pure, Except.pure, Except.ok.injEq]

/-- The id that the manifest of a candidate names is the one in the candidate. -/
theorem named_of_built (hbuild : buildGeneratedManifest candidate = .ok manifest)
    (hid : deploymentIdOf platform manifest = .ok deploymentId) :
    ∃ fields id, Buildable candidate fields ∧ fields.lookup "deployment_id" = some id ∧
      id.str platform.repr = deploymentId := by
  obtain ⟨fields, hfields, hsame, -⟩ := buildable_of_built hbuild
  obtain ⟨id, hlookup, hstr⟩ := deploymentIdOf_eq_ok_iff.mp hid
  exact ⟨fields, id, hfields, hsame ▸ hlookup, hstr⟩

theorem publishedId_of_named {id : Cell} (hbuildable : Buildable candidate fields)
    (hlookup : fields.lookup "deployment_id" = some id) :
    publishedId platform humanIds candidate =
      if id.str platform.repr ∈ humanIds then none else some (id.str platform.repr) := by
  have hvalue : valueAt candidate ["manifest"] "deployment_id" = some id := by
    rw [valueAt, hbuildable.manifest]
    exact hlookup
  unfold publishedId
  rw [hvalue, Option.map_some, Option.filter_some]
  by_cases hknown : id.str platform.repr ∈ humanIds
  · rw [if_pos hknown, if_neg (by simpa using hknown)]
  · rw [if_neg hknown, if_pos (by simpa using hknown)]

theorem publishedId_of_built (hbuild : buildGeneratedManifest candidate = .ok manifest)
    (hid : deploymentIdOf platform manifest = .ok deploymentId) :
    publishedId platform humanIds candidate =
      if deploymentId ∈ humanIds then none else some deploymentId := by
  obtain ⟨fields, id, hbuildable, hlookup, rfl⟩ := named_of_built hbuild hid
  exact publishedId_of_named hbuildable hlookup

/-- What reporting needs beyond what the manifest does. -/
theorem exists_reportEntry_of_buildable (hbuildable : Buildable candidate fields) :
    (∃ entry, reportEntry candidate deploymentId = .ok entry) ↔
      HasKeys candidate ["symbol", "direction"] := by
  rw [exists_reportEntry_iff]
  constructor
  · intro h
    exact h.mono (by decide)
  · intro h
    exact (hbuildable.keys.append h).mono (by decide)

/-- In terms of the manifest and the entry that the loop builds. -/
theorem publishable_iff {inputs : RefreshInputs} :
    Publishable platform inputs humanIds candidate ↔
      ∃ (manifest : Payload) (deploymentId : String), buildGeneratedManifest candidate = .ok manifest ∧
        deploymentIdOf platform manifest = .ok deploymentId ∧
        (deploymentId ∈ humanIds ∨
          platform.modelValidate (.object manifest) = .ok () ∧
          (∃ entry, reportEntry candidate deploymentId = .ok entry) ∧
          '/' ∉ deploymentId.toList ∧ ¬ IsHumanManaged platform inputs deploymentId) := by
  constructor
  · rintro ⟨fields, id, hbuildable, hlookup, hcase⟩
    -- the manifest keeps the id of the fields, so both sides speak of one id
    obtain ⟨manifest, hbuild⟩ := built_of_buildable hbuildable
    obtain ⟨fields', hbuildable', hsame, -⟩ := buildable_of_built hbuild
    obtain rfl : fields = fields' :=
      Cell.object.inj (Option.some.inj (hbuildable.manifest.symm.trans hbuildable'.manifest))
    refine ⟨manifest, id.str platform.repr, hbuild,
      deploymentIdOf_eq_ok_iff.mpr ⟨id, hsame.trans hlookup, rfl⟩, ?_⟩
    refine hcase.imp_right fun ⟨hvalid, hkeys, hrest⟩ => ⟨hvalid manifest hbuild, ?_, hrest⟩
    exact (exists_reportEntry_of_buildable hbuildable).mpr hkeys
  · rintro ⟨manifest, deploymentId, hbuild, hid, hcase⟩
    obtain ⟨fields, id, hbuildable, hlookup, rfl⟩ := named_of_built hbuild hid
    refine ⟨fields, id, hbuildable, hlookup, ?_⟩
    refine hcase.imp_right fun ⟨hvalid, hentry, hrest⟩ => ⟨fun other hother => ?_, ?_, hrest⟩
    · obtain rfl := Except.ok.inj (hbuild.symm.trans hother)
      exact hvalid
    · exact (exists_reportEntry_of_buildable hbuildable).mp hentry

end Named

theorem shadowOnly_of_buildGeneratedManifest {candidate manifest : Payload}
    (h : buildGeneratedManifest candidate = .ok manifest) : ShadowOnly manifest := by
  obtain ⟨fields, -, -, settings, hexecution⟩ := buildable_of_built h
  refine ⟨settings.set "shadow_only" (.bool true), hexecution, ?_⟩
  rw [Payload.lookup_set, if_pos rfl]

/-! ### A pass of the loop -/

section Pass

variable {platform} {humanIds : List String} {candidate : Payload} {state state' : Generation}

/-- What a pass that does not raise has done: the id was known, or its manifest has been written. -/
theorem generateOne_ok (h : generateOne platform humanIds candidate state = (.ok (), state')) :
    ∃ manifest deploymentId, buildGeneratedManifest candidate = .ok manifest ∧
      deploymentIdOf platform manifest = .ok deploymentId ∧
      (deploymentId ∈ humanIds ∧ state'.dir = state.dir ∧ state'.generated = state.generated ∨
        deploymentId ∉ humanIds ∧ platform.modelValidate (.object manifest) = .ok () ∧
        state'.dir = Function.update state.dir (fileName deploymentId)
          (some (platform.safeDump (.object manifest))) ∧
        ∃ entry, reportEntry candidate deploymentId = .ok entry ∧
          state'.generated = state.generated ++ [entry]) := by
  unfold generateOne at h
  cases hbuild : buildGeneratedManifest candidate with
  | error e =>
    rw [hbuild] at h
    cases h
  | ok manifest =>
    rw [hbuild] at h
    dsimp only at h
    cases hid : deploymentIdOf platform manifest with
    | error e =>
      rw [hid] at h
      cases h
    | ok deploymentId =>
      rw [hid] at h
      dsimp only at h
      refine ⟨manifest, deploymentId, rfl, hid, ?_⟩
      split_ifs at h with hknown
      · cases h
        exact Or.inl ⟨hknown, rfl, rfl⟩
      · cases hvalid : platform.modelValidate (.object manifest) with
        | error e =>
          rw [hvalid] at h
          cases h
        | ok =>
          rw [hvalid] at h
          dsimp only at h
          cases hentry : reportEntry candidate deploymentId with
          | error e =>
            rw [hentry] at h
            cases h
          | ok entry =>
            rw [hentry] at h
            cases h
            exact Or.inr ⟨hknown, rfl, rfl, entry, rfl, rfl⟩

/-- A publishable candidate is passed. -/
theorem generateOne_of_publishable {inputs : RefreshInputs}
    (h : Publishable platform inputs humanIds candidate) (state : Generation) :
    ∃ state', generateOne platform humanIds candidate state = (.ok (), state') := by
  obtain ⟨manifest, deploymentId, hbuild, hid, hcase⟩ := publishable_iff.mp h
  unfold generateOne
  rw [hbuild]
  dsimp only
  rw [hid]
  dsimp only
  by_cases hknown : deploymentId ∈ humanIds
  · rw [if_pos hknown]
    exact ⟨_, rfl⟩
  · obtain ⟨hvalid, ⟨entry, hentry⟩, -⟩ := hcase.resolve_left hknown
    rw [if_neg hknown, hvalid]
    dsimp only
    rw [hentry]
    exact ⟨_, rfl⟩

theorem deploymentId_of_reportEntry {deploymentId : String} {entry : GeneratedDeployment}
    (h : reportEntry candidate deploymentId = .ok entry) : entry.deploymentId = deploymentId := by
  unfold reportEntry at h
  obtain ⟨candidateId, -, h⟩ := Except.bind_eq_ok_iff.mp h
  obtain ⟨biasTemplate, -, h⟩ := Except.bind_eq_ok_iff.mp h
  obtain ⟨horizon, -, h⟩ := Except.bind_eq_ok_iff.mp h
  obtain ⟨symbol, -, h⟩ := Except.bind_eq_ok_iff.mp h
  obtain ⟨direction, -, h⟩ := Except.bind_eq_ok_iff.mp h
  obtain rfl := Except.ok.inj h
  rfl

/-- The report grows by the id under which the candidate is written. -/
theorem generated_of_generateOne (h : generateOne platform humanIds candidate state = (.ok (), state')) :
    state'.generated.map GeneratedDeployment.deploymentId =
      state.generated.map GeneratedDeployment.deploymentId ++
        (publishedId platform humanIds candidate).toList := by
  obtain ⟨manifest, deploymentId, hbuild, hid, hcase⟩ := generateOne_ok h
  rw [publishedId_of_built hbuild hid]
  rcases hcase with ⟨hknown, -, hsame⟩ | ⟨hknown, -, -, entry, hentry, hgrown⟩
  · rw [if_pos hknown, hsame, Option.toList_none, List.append_nil]
  · rw [if_neg hknown, hgrown, List.map_append, List.map_singleton, deploymentId_of_reportEntry hentry,
      Option.toList_some]

/-- What holds of the directory while the loop runs. -/
structure Written (platform : ImportPlatform) (humanIds : List String) (state : Generation) : Prop where
  files : ∀ path, isYamlFile path = true →
    ((state.dir path).isSome ↔ ∃ entry ∈ state.generated, path = fileName entry.deploymentId)
  manifests : ∀ entry ∈ state.generated, HoldsManifest platform state.dir entry.deploymentId
  fresh : ∀ entry ∈ state.generated, entry.deploymentId ∉ humanIds

theorem written_unlinkYaml (dir : GeneratedDir) (issues : List String) :
    Written platform humanIds { dir := unlinkYaml dir, issues := issues } := by
  refine ⟨fun path hpath => ?_, fun entry hentry => ?_, fun entry hentry => ?_⟩
  · have hnone : unlinkYaml dir path = none := if_pos hpath
    dsimp only
    rw [hnone]
    simp
  · cases hentry
  · cases hentry

/-- A pass keeps what has been written before it. -/
theorem written_generateOne (hwritten : Written platform humanIds state)
    (h : generateOne platform humanIds candidate state = (.ok (), state')) :
    Written platform humanIds state' := by
  obtain ⟨manifest, deploymentId, hbuild, hid, hcase⟩ := generateOne_ok h
  rcases hcase with ⟨-, hdir, hgenerated⟩ | ⟨hknown, hvalid, hdir, entry, hentry, hgenerated⟩
  · refine ⟨?_, ?_, ?_⟩
    · rw [hdir, hgenerated]
      exact hwritten.files
    · rw [hdir, hgenerated]
      exact hwritten.manifests
    · rw [hgenerated]
      exact hwritten.fresh
  · have hentry_id : entry.deploymentId = deploymentId := deploymentId_of_reportEntry hentry
    have hshadow := shadowOnly_of_buildGeneratedManifest hbuild
    refine ⟨fun path hpath => ?_, fun other hother => ?_, fun other hother => ?_⟩
    · rw [hdir, hgenerated]
      by_cases hsame : path = fileName deploymentId
      · subst hsame
        rw [Function.update_self]
        exact iff_of_true rfl ⟨entry, List.mem_append_right _ List.mem_cons_self, by rw [hentry_id]⟩
      · rw [Function.update_of_ne hsame, hwritten.files path hpath]
        constructor
        · rintro ⟨other, hother, hname⟩
          exact ⟨other, List.mem_append_left _ hother, hname⟩
        · rintro ⟨other, hother, hname⟩
          rcases List.mem_append.mp hother with hold | hnew
          · exact ⟨other, hold, hname⟩
          · obtain rfl := List.mem_singleton.mp hnew
            exact absurd (hentry_id ▸ hname) hsame
    · rw [hgenerated] at hother
      rw [hdir]
      by_cases hsame : other.deploymentId = deploymentId
      · -- the last manifest under an id is the one that is there
        rw [hsame]
        exact ⟨manifest, Function.update_self .., hid, hvalid, hshadow⟩
      · rcases List.mem_append.mp hother with hold | hnew
        · obtain ⟨older, hfile, hrest⟩ := hwritten.manifests other hold
          have hne : fileName other.deploymentId ≠ fileName deploymentId := by
            intro heq
            exact hsame (String.append_left_inj _ |>.mp heq)
          exact ⟨older, by rw [Function.update_of_ne hne, hfile], hrest⟩
        · obtain rfl := List.mem_singleton.mp hnew
          exact absurd hentry_id hsame
    · rw [hgenerated] at hother
      rcases List.mem_append.mp hother with hold | hnew
      · exact hwritten.fresh other hold
      · obtain rfl := List.mem_singleton.mp hnew
        rwa [hentry_id]

end Pass

/-! ### The loop -/

section Loop

variable {platform} {humanIds : List String} {candidates : List Payload} {state state' : Generation}

theorem generateAll_cons_ok {candidate : Payload}
    (h : generateAll platform humanIds (candidate :: candidates) state = (.ok (), state')) :
    ∃ middle, generateOne platform humanIds candidate state = (.ok (), middle) ∧
      generateAll platform humanIds candidates middle = (.ok (), state') := by
  unfold generateAll at h
  cases hone : generateOne platform humanIds candidate state with
  | mk result middle =>
    cases result with
    | error e =>
      rw [hone] at h
      cases h
    | ok =>
      rw [hone] at h
      exact ⟨middle, rfl, h⟩

theorem generateAll_of_publishable {inputs : RefreshInputs}
    (h : ∀ candidate ∈ candidates, Publishable platform inputs humanIds candidate)
    (state : Generation) :
    ∃ state', generateAll platform humanIds candidates state = (.ok (), state') := by
  induction candidates generalizing state with
  | nil => exact ⟨state, rfl⟩
  | cons candidate rest ih =>
    obtain ⟨middle, hone⟩ := generateOne_of_publishable (h candidate List.mem_cons_self) state
    unfold generateAll
    rw [hone]
    exact ih (fun candidate hmem => h candidate (List.mem_cons_of_mem _ hmem)) middle

theorem written_generateAll (hwritten : Written platform humanIds state)
    (h : generateAll platform humanIds candidates state = (.ok (), state')) :
    Written platform humanIds state' := by
  induction candidates generalizing state with
  | nil =>
    cases h
    exact hwritten
  | cons candidate rest ih =>
    obtain ⟨middle, hone, hrest⟩ := generateAll_cons_ok h
    exact ih (written_generateOne hwritten hone) hrest

theorem generated_generateAll (h : generateAll platform humanIds candidates state = (.ok (), state')) :
    state'.generated.map GeneratedDeployment.deploymentId =
      state.generated.map GeneratedDeployment.deploymentId ++
        candidates.filterMap (publishedId platform humanIds) := by
  induction candidates generalizing state with
  | nil =>
    cases h
    rw [List.filterMap_nil, List.append_nil]
  | cons candidate rest ih =>
    obtain ⟨middle, hone, hrest⟩ := generateAll_cons_ok h
    rw [ih hrest, generated_of_generateOne hone, List.append_assoc]
    cases hid : publishedId platform humanIds candidate with
    | none => simp [hid]
    | some deploymentId => simp [hid]

theorem forall_of_generateAll (h : generateAll platform humanIds candidates state = (.ok (), state')) :
    ∀ candidate ∈ candidates, ∃ before after,
      generateOne platform humanIds candidate before = (.ok (), after) := by
  induction candidates generalizing state with
  | nil =>
    intro candidate hmem
    cases hmem
  | cons first rest ih =>
    obtain ⟨middle, hone, hrest⟩ := generateAll_cons_ok h
    intro candidate hmem
    rcases List.mem_cons.mp hmem with rfl | hmem
    · exact ⟨state, middle, hone⟩
    · exact ih hrest candidate hmem

end Loop

/-! ### The refresh -/

section Refresh

variable {platform} {inputs : RefreshInputs} {prepared : Prepared}

theorem finish_ok {issues : List String} {generated : List GeneratedDeployment} {report : ImportReport}
    (h : finish prepared issues generated = .ok report) :
    writeReport prepared.manualCandidates = .ok () ∧ report.generatedDeployments = generated := by
  unfold finish at h
  obtain ⟨⟨⟩, hwrite, h⟩ := Except.bind_eq_ok_iff.mp h
  obtain rfl := Except.ok.inj h
  exact ⟨hwrite, rfl⟩

theorem finish_of_writeReport (h : writeReport prepared.manualCandidates = .ok ()) (issues : List String)
    (generated : List GeneratedDeployment) :
    ∃ report, finish prepared issues generated = .ok report ∧ report.generatedDeployments = generated := by
  unfold finish
  rw [h]
  exact ⟨_, rfl, rfl⟩

theorem isYamlFile_fileName_iff {deploymentId : String} :
    isYamlFile (fileName deploymentId) = true ↔ '/' ∉ deploymentId.toList := by
  have hsuffix : ".yaml".toList.isSuffixOf (deploymentId ++ ".yaml").toList = true := by
    rw [List.isSuffixOf_iff_suffix, String.toList_append]
    exact List.suffix_append _ _
  have hslash : '/' ∉ ".yaml".toList := by decide
  unfold isYamlFile fileName
  rw [decide_eq_true_iff, and_iff_left hsuffix, String.toList_append, List.mem_append]
  constructor
  · intro h hmem
    exact h (Or.inl hmem)
  · intro h hmem
    exact hmem.elim h hslash

/-- A run over publishable candidates leaves what it reports. -/
theorem holdsReported_of_generateAll {dir : GeneratedDir} {state : Generation}
    (hpublishable : ∀ candidate ∈ prepared.selectedCandidates,
      Publishable platform inputs prepared.humanIds candidate)
    (hdistinct : (prepared.selectedCandidates.filterMap
      (publishedId platform prepared.humanIds)).Nodup)
    (h : generateAll platform prepared.humanIds prepared.selectedCandidates
      { dir := unlinkYaml dir, issues := prepared.issues } = (.ok (), state)) :
    HoldsReported platform inputs state.generated state.dir := by
  have hwritten := written_generateAll (written_unlinkYaml dir prepared.issues) h
  have hids := generated_generateAll h
  rw [List.map_nil, List.nil_append] at hids
  have hgood : ∀ entry ∈ state.generated, '/' ∉ entry.deploymentId.toList ∧
      ¬ IsHumanManaged platform inputs entry.deploymentId := by
    intro entry hentry
    have hmem : entry.deploymentId ∈
        prepared.selectedCandidates.filterMap (publishedId platform prepared.humanIds) := by
      rw [← hids]
      exact List.mem_map_of_mem hentry
    obtain ⟨candidate, hcandidate, hid⟩ := List.mem_filterMap.mp hmem
    obtain ⟨fields, id, hbuildable, hlookup, hcase⟩ := hpublishable candidate hcandidate
    rw [publishedId_of_named hbuildable hlookup] at hid
    split_ifs at hid with hknown
    obtain hsame := Option.some.inj hid
    obtain ⟨-, -, hslash, hhuman⟩ := hcase.resolve_left hknown
    rw [← hsame]
    exact ⟨hslash, hhuman⟩
  refine ⟨hids ▸ hdistinct, hwritten.files, fun entry hentry => ?_, hwritten.manifests,
    fun entry hentry => (hgood entry hentry).2⟩
  exact isYamlFile_fileName_iff.mpr (hgood entry hentry).1

theorem allOrNothing_of_refreshable (h : Refreshable platform inputs) (dir : GeneratedDir) :
    AllOrNothing platform inputs dir := by
  unfold AllOrNothing refreshGeneratedDeployments
  cases hprepare : prepare platform inputs with
  | error e => rfl
  | ok prepared =>
    dsimp only
    cases hblocked : blockedGeneration prepared.issues with
    | true =>
      have hblock : Blocked platform inputs := ⟨prepared, hprepare, hblocked⟩
      rw [if_pos rfl]
      cases finish prepared (prepared.issues ++ ["generated_deployments_skipped"]) [] with
      | error e => rfl
      | ok report => exact ⟨fun _ => rfl, fun hfree => absurd hblock hfree⟩
    | false =>
      obtain ⟨hpublishable, hdistinct, hwrite⟩ := h prepared hprepare hblocked
      obtain ⟨state, hall⟩ := generateAll_of_publishable hpublishable
        { dir := unlinkYaml dir, issues := prepared.issues }
      obtain ⟨report, hreport, hgenerated⟩ :=
        finish_of_writeReport (writeReport_eq_ok_iff.mpr hwrite) state.issues state.generated
      rw [if_neg Bool.false_ne_true, hall]
      dsimp only
      rw [hreport]
      refine ⟨fun hblock => ?_, fun _ => ?_⟩
      · obtain ⟨other, hother, htrue⟩ := hblock
        obtain rfl := Except.ok.inj (hprepare.symm.trans hother)
        rw [hblocked] at htrue
        cases htrue
      · rw [hgenerated]
        exact holdsReported_of_generateAll hpublishable hdistinct hall

/-- A directory with one YAML file. -/
def oneFile (text : String) : GeneratedDir := fun path =>
  if path = "a.yaml" then some text else none

theorem unlinkYaml_oneFile (text : String) : unlinkYaml (oneFile text) = fun _ => none := by
  funext path
  unfold unlinkYaml oneFile
  split_ifs with hyaml hpath
  · rfl
  · exact absurd (hpath ▸ by decide) hyaml
  · rfl

theorem refreshable_of_allOrNothing (h : ∀ dir, AllOrNothing platform inputs dir) :
    Refreshable platform inputs := by
  intro prepared hprepare hblocked
  have hfree : ¬ Blocked platform inputs := by
    rintro ⟨other, hother, htrue⟩
    obtain rfl := Except.ok.inj (hprepare.symm.trans hother)
    rw [hblocked] at htrue
    cases htrue
  have hempty : unlinkYaml (fun _ => none) = fun _ => none := by
    funext path
    unfold unlinkYaml
    exact ite_self _
  -- what a run leaves does not depend on the file that was there
  have hrun (text : String) : refreshGeneratedDeployments platform inputs (oneFile text) =
      refreshGeneratedDeployments platform inputs fun _ => none := by
    unfold refreshGeneratedDeployments
    rw [hprepare]
    dsimp only
    rw [hblocked, if_neg Bool.false_ne_true, if_neg Bool.false_ne_true, unlinkYaml_oneFile, hempty]
  have hdiffer : oneFile "x" ≠ oneFile "y" := by
    intro heq
    have hat := congrFun heq "a.yaml"
    exact absurd hat (by decide)
  have hx := h (oneFile "x")
  have hy := h (oneFile "y")
  unfold AllOrNothing at hx hy
  rw [hrun] at hx hy
  unfold refreshGeneratedDeployments at hx hy
  rw [hprepare] at hx hy
  dsimp only at hx hy
  rw [hblocked, if_neg Bool.false_ne_true, hempty] at hx hy
  cases hall : generateAll platform prepared.humanIds prepared.selectedCandidates
      { dir := fun _ => none, issues := prepared.issues } with
  | mk result state =>
    cases result with
    | error e =>
      rw [hall] at hx hy
      exact absurd (hx.symm.trans hy) hdiffer
    | ok =>
      rw [hall] at hx hy
      dsimp only at hx hy
      cases hfinish : finish prepared state.issues state.generated with
      | error e =>
        rw [hfinish] at hx hy
        exact absurd (hx.symm.trans hy) hdiffer
      | ok report =>
        rw [hfinish] at hx
        obtain ⟨hwrite, hgenerated⟩ := finish_ok hfinish
        have hholds := hx.2 hfree
        rw [hgenerated] at hholds
        have hids := generated_generateAll hall
        rw [List.map_nil, List.nil_append] at hids
        refine ⟨fun candidate hcandidate => publishable_iff.mpr ?_, hids ▸ hholds.distinct,
          writeReport_eq_ok_iff.mp hwrite⟩
        obtain ⟨before, after, hone⟩ := forall_of_generateAll hall candidate hcandidate
        obtain ⟨manifest, deploymentId, hbuild, hnamed, hcase⟩ := generateOne_ok hone
        refine ⟨manifest, deploymentId, hbuild, hnamed, ?_⟩
        rcases hcase with ⟨hknown, -⟩ | ⟨hknown, hvalid, -, entry, hentry, -⟩
        · exact Or.inl hknown
        · have hpublished : publishedId platform prepared.humanIds candidate = some deploymentId :=
            (publishedId_of_built hbuild hnamed).trans (if_neg hknown)
          have hmem : deploymentId ∈ state.generated.map GeneratedDeployment.deploymentId := by
            rw [hids]
            exact List.mem_filterMap.mpr ⟨candidate, hcandidate, hpublished⟩
          obtain ⟨written, hwritten, rfl⟩ := List.mem_map.mp hmem
          exact Or.inr ⟨hvalid, ⟨entry, hentry⟩,
            isYamlFile_fileName_iff.mp (hholds.inDirectory written hwritten),
            hholds.notHuman written hwritten⟩

end Refresh

/-- Whatever the generated directory held before, a refresh leaves all or nothing exactly when its
candidates can all be written. -/
theorem refresh_all_or_nothing_iff (platform : ImportPlatform) (inputs : RefreshInputs) :
    (∀ dir, AllOrNothing platform inputs dir) ↔ Refreshable platform inputs :=
  ⟨refreshable_of_allOrNothing, allOrNothing_of_refreshable⟩

/-- A platform on which a manifest needs a symbol, and an export with one candidate whose manifest has
none. -/
def symbolPlatform : ImportPlatform where
  repr _ := ""
  instant _ := some 0
  now _ := 60
  hoursText _ := ""
  modelValidate
    | .object fields => if (fields.lookup "symbol").isSome then .ok () else
        .error (.valueError "symbol: Field required")
    | _ => .error (.valueError "Input should be a valid dictionary")
  safeDump _ := ""

def symbollessCandidate : Payload :=
  [("candidate_id", .text "c1"), ("surface_class", .text "supported"),
    ("automation_status", .text "shadow_ready"), ("bias_template", .text "bullish_trend_intraday"),
    ("horizon", .text "intraday"), ("symbol", .text "QQQ"), ("direction", .text "long"),
    ("manifest", .object [("deployment_id", .text "d1")])]

def symbollessInputs : RefreshInputs where
  deploymentCandidates := .ok (.object
    [("contract_name", .text "deployment_candidates"), ("schema_version", .int 2),
      ("generated_at", .text "now"), ("candidates", .list [.object symbollessCandidate])])
  playbookCatalog := .ok (.object
    [("contract_name", .text "playbook_catalog"), ("schema_version", .int 2),
      ("generated_at", .text "now"),
      ("contexts", .object [("QQQ|bullish_trend_intraday|intraday", .object
        [("coverage_status", .text "researched_with_survivors"),
          ("covered_by_strategy_families", .list []),
          ("supported_candidates", .list [.object [("candidate_id", .text "c1")]])])])])
  biasInputs := .ok [{ symbol := "QQQ", biasTemplate := "bullish_trend_intraday" }]
  deploymentFiles := []

/-- The directory is emptied before the manifest is found invalid. -/
theorem refresh_empties_the_directory :
    ¬ ∀ (platform : ImportPlatform) (inputs : RefreshInputs) (dir : GeneratedDir),
      AllOrNothing platform inputs dir := by
  intro h
  have hrun : ((refreshGeneratedDeployments symbolPlatform symbollessInputs (oneFile "x")).1.isOk,
      (refreshGeneratedDeployments symbolPlatform symbollessInputs (oneFile "x")).2 "a.yaml") =
        (false, none) := by
    decide +kernel
  have hall := h symbolPlatform symbollessInputs (oneFile "x")
  unfold AllOrNothing at hall
  cases hrefresh : refreshGeneratedDeployments symbolPlatform symbollessInputs (oneFile "x") with
  | mk result dir =>
    rw [hrefresh] at hall hrun
    cases result with
    | error e =>
      have hfile : dir "a.yaml" = none := (Prod.mk.inj hrun).2
      rw [hall] at hfile
      cases hfile
    | ok report => cases (Prod.mk.inj hrun).1

end Bhiksha.Loop
