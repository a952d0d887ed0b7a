import Bhiksha.Library.Transaction
import Bhiksha.Strategy.WeeklyAdmission

/-! Admission is append-only: what is admitted stays as it was, over every run of imports. -/

namespace Bhiksha.Weekly

open Library

/-- The plan is still there: at most its early admission was set, and a block. -/
structure Plan.Frozen (plan plan' : Plan) : Prop where
  same : plan' = { plan with
    admissionBlock := plan'.admissionBlock
    earlyAdmittedAt := plan'.earlyAdmittedAt }
  early : ∀ admittedAt, plan.earlyAdmittedAt = some admittedAt →
    plan'.earlyAdmittedAt = some admittedAt
  block : plan.blocked = true → plan'.blocked = true

/-- Every plan of one table is still in the other. -/
def Retains (plans plans' : Table Plan.deploymentId) : Prop :=
  ∀ deploymentId plan, plans.get? deploymentId = some plan →
    ∃ plan', plans'.get? deploymentId = some plan' ∧ plan.Frozen plan'

section Retention

variable {plan plan' plan'' : Plan} {plans plans' plans'' : Table Plan.deploymentId}

theorem Plan.Frozen.refl (plan : Plan) : plan.Frozen plan := ⟨rfl, fun _ h => h, id⟩

theorem Plan.Frozen.trans (h : plan.Frozen plan') (h' : plan'.Frozen plan'') : plan.Frozen plan'' where
  same := by
    rw [h'.same, h.same]
  early := fun admittedAt he => h'.early admittedAt (h.early admittedAt he)
  block := h'.block ∘ h.block

theorem Plan.blocked_block (plan : Plan) : plan.block.blocked = true := by
  show (some revisionBlock).any (· ≠ "") = true
  decide

theorem Plan.frozen_block (plan : Plan) : plan.Frozen plan.block where
  same := rfl
  early := fun _ h => h
  block := fun _ => plan.blocked_block

theorem Plan.frozen_keep (plan previous : Plan) : previous.Frozen (plan.keep previous) := by
  unfold Plan.keep
  split
  · exact Plan.Frozen.refl previous
  · exact previous.frozen_block

theorem Plan.frozen_admitEarly (now : ℚ) (plan : Plan) : plan.Frozen (plan.admitEarly now) where
  same := rfl
  early := by
    intro admittedAt h
    simp only [Plan.admitEarly, h, Option.some_or]
  block := id

theorem Retains.refl (plans : Table Plan.deploymentId) : Retains plans plans :=
  fun _ plan h => ⟨plan, h, Plan.Frozen.refl plan⟩

theorem Retains.trans (h : Retains plans plans') (h' : Retains plans' plans'') :
    Retains plans plans'' := by
  intro deploymentId plan hplan
  obtain ⟨plan', hplan', hfrozen⟩ := h deploymentId plan hplan
  obtain ⟨plan'', hplan'', hfrozen'⟩ := h' deploymentId plan' hplan'
  exact ⟨plan'', hplan'', hfrozen.trans hfrozen'⟩

theorem retains_update (plans : Table Plan.deploymentId) {p : Plan → Bool} {f : Plan → Plan}
    {hkey : ∀ plan : Plan, (f plan).deploymentId = plan.deploymentId}
    (hf : ∀ plan : Plan, plan.Frozen (f plan)) : Retains plans (plans.update p f hkey) := by
  intro deploymentId plan hplan
  refine ⟨if p plan then f plan else plan, ?_, ?_⟩
  · rw [Table.get?_update, hplan]
    rfl
  · split
    · exact hf plan
    · exact Plan.Frozen.refl plan

theorem retains_admitPlan (old : Table Plan.deploymentId × List Unsupported) (plan : Plan) :
    Retains old.1 (admitPlan old plan).1 := by
  intro deploymentId previous hprevious
  have hlookup := old.1.get?_upsert plan plan.keep plan.keep_deploymentId deploymentId
  by_cases hid : plan.deploymentId = deploymentId
  · rw [if_pos hid, hprevious] at hlookup
    exact ⟨plan.keep previous, hlookup, plan.frozen_keep previous⟩
  · rw [if_neg hid, hprevious] at hlookup
    exact ⟨previous, hlookup, Plan.Frozen.refl previous⟩

theorem retains_admitPlans (resolved : List Plan) (old : Table Plan.deploymentId × List Unsupported) :
    Retains old.1 (resolved.foldl admitPlan old).1 := by
  induction resolved generalizing old with
  | nil => exact Retains.refl old.1
  | cons plan resolved ih => exact (retains_admitPlan old plan).trans (ih (admitPlan old plan))

theorem retains_sweeps (call : ImportCall) (plans : Table Plan.deploymentId) :
    Retains plans (admitEarlyArms call (blockSuperseded call.publication plans)) := by
  have hsweep : Retains plans (blockSuperseded call.publication plans) :=
    retains_update plans Plan.frozen_block
  have hearly : Retains (blockSuperseded call.publication plans)
      (admitEarlyArms call (blockSuperseded call.publication plans)) :=
    retains_update _ (Plan.frozen_admitEarly call.now)
  exact hsweep.trans hearly

variable (stamp : String → Except PyException ℚ) (digest : Digested → HexDigest)

/-- An import keeps every plan. -/
theorem retains_importPublication (call : ImportCall) (prior : Admissions) :
    Retains prior.plans (importPublication stamp digest call prior).2.plans := by
  let resolved := resolvePlans stamp digest call.publication call.now
  have hadmitted := retains_admitPlans resolved.1 (prior.plans, resolved.2)
  exact hadmitted.trans (retains_sweeps call _)

/-- So does every run of imports. -/
theorem retains_finish (prior : Admissions) (calls : List ImportCall) :
    Retains prior.plans (finish (importPublication stamp digest) prior calls).plans :=
  related_finish (R := fun (a b : Admissions) => Retains a.plans b.plans)
    (fun a => Retains.refl a.plans) (fun h h' => Retains.trans h h')
    (retains_importPublication stamp digest) prior calls

/-- An import blocks what it supersedes. -/
theorem blocked_of_superseded {call : ImportCall} {prior : Admissions} {plan : Plan}
    (hplan : plan ∈ (importPublication stamp digest call prior).2.plans.rows)
    (hsuperseded : plan.superseded call.publication = true) : plan.blocked = true := by
  let resolved := resolvePlans stamp digest call.publication call.now
  let old := (resolved.1.foldl admitPlan (prior.plans, resolved.2)).1
  have hplan : plan ∈ (admitEarlyArms call (blockSuperseded call.publication old)).rows := hplan
  obtain ⟨swept, hswept, rfl⟩ := (Table.mem_update_iff _ _ _ _ _).mp hplan
  -- an early admission does not touch what is looked at
  have hsame : swept.superseded call.publication = true → swept.blocked = true := by
    intro hsuperseded
    obtain ⟨previous, -, rfl⟩ := (Table.mem_update_iff _ _ _ _ _).mp hswept
    split
    · exact previous.blocked_block
    · rename_i hcurrent
      rw [if_neg hcurrent] at hsuperseded
      exact absurd hsuperseded hcurrent
  split at hsuperseded
  · rename_i hearly
    rw [if_pos hearly]
    exact hsame hsuperseded
  · rename_i hearly
    rw [if_neg hearly]
    exact hsame hsuperseded

/-- Every resolved plan is admitted: under the id of a plan from before, or as it was resolved. -/
theorem admitted_of_mem (resolved : List Plan) (old : Table Plan.deploymentId × List Unsupported)
    (hmem : plan ∈ resolved) :
    ∃ admitted, (resolved.foldl admitPlan old).1.get? plan.deploymentId = some admitted ∧
      (old.1.get? plan.deploymentId = none → ∃ first ∈ resolved, first.Frozen admitted) := by
  induction resolved generalizing old with
  | nil => cases hmem
  | cons head resolved ih =>
    have hlookup := old.1.get?_upsert head head.keep head.keep_deploymentId plan.deploymentId
    -- the first plan of the id decides: the later ones keep what it admitted
    by_cases hid : head.deploymentId = plan.deploymentId
    · rw [if_pos hid] at hlookup
      obtain ⟨admitted, hadmitted, hfrozen⟩ :=
        retains_admitPlans resolved (admitPlan old head) plan.deploymentId _ hlookup
      refine ⟨admitted, hadmitted, fun hnew => ⟨head, List.mem_cons_self, ?_⟩⟩
      rw [hnew] at hfrozen
      exact hfrozen
    · rw [if_neg hid] at hlookup
      have hrest : plan ∈ resolved := by
        rcases List.mem_cons.mp hmem with rfl | hrest
        · exact absurd rfl hid
        · exact hrest
      obtain ⟨admitted, hadmitted, hfirst⟩ := ih (admitPlan old head) hrest
      refine ⟨admitted, hadmitted, fun hnew => ?_⟩
      obtain ⟨first, hmem', hfrozen⟩ := hfirst (hlookup.trans hnew)
      exact ⟨first, List.mem_cons_of_mem head hmem', hfrozen⟩

/-- An import admits every plan that its publication resolves to. -/
theorem admitted_importPublication (call : ImportCall) (prior : Admissions)
    (hmem : plan ∈ (resolvePlans stamp digest call.publication call.now).1) :
    ∃ admitted, (importPublication stamp digest call prior).2.plans.get? plan.deploymentId =
        some admitted ∧
      (prior.plans.get? plan.deploymentId = none →
        ∃ first ∈ (resolvePlans stamp digest call.publication call.now).1, first.Frozen admitted) := by
  let resolved := resolvePlans stamp digest call.publication call.now
  obtain ⟨previous, hprevious, hfirst⟩ :=
    admitted_of_mem resolved.1 (prior.plans, resolved.2) hmem
  -- the two sweeps after the loop keep what it admitted
  obtain ⟨admitted, hadmitted, hfrozen⟩ :=
    retains_sweeps call (resolved.1.foldl admitPlan (prior.plans, resolved.2)).1 _ _ hprevious
  refine ⟨admitted, hadmitted, fun hnew => ?_⟩
  obtain ⟨first, hmem', hfrozen'⟩ := hfirst hnew
  exact ⟨first, hmem', hfrozen'.trans hfrozen⟩

end Retention

section Identities

variable (stamp : String → Except PyException ℚ) (digest : Digested → HexDigest)

theorem endsWith_iff {text suffix : String} :
    text.endsWith suffix = true ↔ suffix.toList <:+ text.toList := by
  rw [String.endsWith_eq_endsWith_toSlice, String.Slice.endsWith_string_iff, String.copy_toSlice]

theorem armForId_early (deploymentId : String) :
    armForId (deploymentId ++ earlySuffix) = "early_1m" := by
  unfold armForId
  rw [if_pos]
  rw [endsWith_iff, String.toList_append]
  exact List.suffix_append _ _

theorem HexDigest.toList_take (hash : HexDigest) (n : ℕ) :
    (hash.take n).toList = hash.chars.take n := String.toList_ofList

/-- No hexadecimal digit ends the suffix of the early arm. -/
theorem armForId_hex (head : String) (hash : HexDigest) {n : ℕ} (hn : 0 < n) :
    armForId (head ++ hash.take n) = "baseline" := by
  unfold armForId
  rw [if_neg]
  intro hends
  obtain ⟨front, hfront⟩ := endsWith_iff.mp hends
  have hlength : 0 < (hash.take n).toList.length := by
    rw [hash.toList_take, List.length_take, hash.length_eq]
    omega
  have hne : (hash.take n).toList ≠ [] := List.ne_nil_of_length_pos hlength
  have hlast := congrArg List.getLast? hfront
  rw [String.toList_append, List.getLast?_append_of_ne_nil _ hne,
    List.getLast?_append_of_ne_nil _ (by decide), List.getLast?_eq_some_getLast hne] at hlast
  have hdigits : ∀ c ∈ (hash.take n).toList, c ∈ "0123456789abcdef".toList := by
    rw [hash.toList_take]
    exact fun c hc => hash.hex c (List.mem_of_mem_take hc)
  have hdigit := hdigits _ (List.getLast_mem hne)
  have hm : (hash.take n).toList.getLast hne = 'm' :=
    (Option.some.inj (hlast.symm.trans (show earlySuffix.toList.getLast? = some 'm' by decide)))
  rw [hm] at hdigit
  exact absurd hdigit (by decide)

theorem armForId_branchDeploymentId (packId : String) (scenario : Scenario) (branch : Branch) :
    armForId (branchDeploymentId digest packId scenario branch) = "baseline" :=
  armForId_hex _ _ (by decide)

theorem resolveBranch_deploymentId {candidates : List Candidate} {scenario : Scenario}
    {branch : Branch} {source : PlanSource} {deploymentId : String} {plan : Plan}
    (h : resolveBranch stamp candidates scenario branch source deploymentId = .ok plan) :
    plan.deploymentId = deploymentId := by
  unfold resolveBranch at h
  repeat obtain ⟨_, -, h⟩ := Except.bind_eq_ok_iff.mp h
  cases h
  rfl

/-- A resolved plan is a baseline. -/
theorem armForId_resolved {publication : Publication} {admittedAt : ℚ} {plan : Plan}
    (h : plan ∈ (resolvePlans stamp digest publication admittedAt).1) :
    armForId plan.deploymentId = "baseline" := by
  obtain ⟨row, hrow, hplan⟩ := List.mem_filterMap.mp h
  obtain ⟨scenario, -, hrow⟩ := List.mem_flatMap.mp hrow
  unfold resolveScenario at hrow
  simp only at hrow
  split at hrow
  · obtain rfl := List.mem_singleton.mp hrow
    cases hplan
  · obtain ⟨branch, -, rfl⟩ := List.mem_map.mp hrow
    split at hplan
    · rename_i resolved hresolved
      obtain rfl := Option.some.inj hplan
      rw [resolveBranch_deploymentId stamp hresolved]
      exact armForId_branchDeploymentId digest _ scenario branch
    · cases hplan

/-- No admitted plan carries the suffix of the early arm. -/
def AllBaseline (plans : Table Plan.deploymentId) : Prop :=
  ∀ plan ∈ plans.rows, armForId plan.deploymentId = "baseline"

theorem AllBaseline.update {plans : Table Plan.deploymentId} (h : AllBaseline plans)
    {p : Plan → Bool} {f : Plan → Plan}
    (hkey : ∀ plan : Plan, (f plan).deploymentId = plan.deploymentId) :
    AllBaseline (plans.update p f hkey) := by
  intro plan hplan
  obtain ⟨previous, hprevious, rfl⟩ := (Table.mem_update_iff _ _ _ _ _).mp hplan
  split
  · rw [hkey]
    exact h previous hprevious
  · exact h previous hprevious

theorem AllBaseline.admitPlans (resolved : List Plan) (old : Table Plan.deploymentId × List Unsupported)
    (h : AllBaseline old.1) (hresolved : ∀ plan ∈ resolved, armForId plan.deploymentId = "baseline") :
    AllBaseline (resolved.foldl admitPlan old).1 := by
  induction resolved generalizing old with
  | nil => exact h
  | cons plan resolved ih =>
    have hplan := hresolved plan List.mem_cons_self
    apply ih (admitPlan old plan)
    · show AllBaseline (old.1.upsert plan plan.keep plan.keep_deploymentId)
      unfold Table.upsert
      split
      · intro other hother
        rcases (Table.mem_insert_iff _ _ _ _).mp hother with hold | rfl
        · exact h other hold
        · exact hplan
      · exact h.update plan.keep_deploymentId
    · exact fun other hother => hresolved other (List.mem_cons_of_mem plan hother)

theorem AllBaseline.importPublication (call : ImportCall) (prior : Admissions)
    (h : AllBaseline prior.plans) :
    AllBaseline (importPublication stamp digest call prior).2.plans := by
  let resolved := resolvePlans stamp digest call.publication call.now
  let old := (resolved.1.foldl admitPlan (prior.plans, resolved.2)).1
  have hadmitted : AllBaseline old :=
    AllBaseline.admitPlans resolved.1 (prior.plans, resolved.2) h fun _ => armForId_resolved stamp digest
  have hsweep : AllBaseline (blockSuperseded call.publication old) := by
    unfold blockSuperseded
    exact hadmitted.update _
  show AllBaseline (admitEarlyArms call (blockSuperseded call.publication old))
  unfold admitEarlyArms
  exact hsweep.update _

theorem allBaseline_admissionsAfter (calls : List ImportCall) :
    AllBaseline (admissionsAfter stamp digest calls).plans :=
  invariant_finish (I := fun (admissions : Admissions) => AllBaseline admissions.plans)
    (AllBaseline.importPublication stamp digest) (fun _ h => absurd h List.not_mem_nil) calls

end Identities

section Arms

variable {plan : Plan} {execution : ExecutionPlan}

theorem mem_arms_iff :
    execution ∈ plan.arms ↔ execution = plan.baseline ∨
      ∃ admittedAt, plan.earlyAdmittedAt = some admittedAt ∧ execution = plan.early admittedAt := by
  unfold Plan.arms
  cases plan.earlyAdmittedAt with
  | none => simp
  | some admittedAt => simp

theorem deploymentId_of_mem_arms (h : execution ∈ plan.arms) :
    execution.deploymentId = plan.deploymentId ∨
      execution.deploymentId = plan.deploymentId ++ earlySuffix := by
  rcases mem_arms_iff.mp h with rfl | ⟨admittedAt, -, rfl⟩
  · exact Or.inl rfl
  · exact Or.inr rfl

theorem armForId_of_mem_arms (hplan : armForId plan.deploymentId = "baseline")
    (h : execution ∈ plan.arms) : armForId execution.deploymentId = execution.entryArm := by
  rcases mem_arms_iff.mp h with rfl | ⟨admittedAt, -, rfl⟩
  · exact hplan
  · exact armForId_early plan.deploymentId

theorem append_early_inj {a b : String} (h : a ++ earlySuffix = b ++ earlySuffix) : a = b := by
  have hlists := congrArg String.toList h
  rw [String.toList_append, String.toList_append] at hlists
  exact String.toList_inj.mp (List.append_cancel_right hlists)

theorem ne_append_early {a b : String} (ha : armForId a = "baseline") : a ≠ b ++ earlySuffix := by
  rintro rfl
  rw [armForId_early] at ha
  exact absurd ha (by decide)

/-- The arms of baselines under distinct identities have distinct identities. -/
theorem nodup_arms {plans : List Plan} (hnodup : (plans.map Plan.deploymentId).Nodup)
    (hbaseline : ∀ plan ∈ plans, armForId plan.deploymentId = "baseline") :
    ((plans.flatMap Plan.arms).map fun e => e.deploymentId).Nodup := by
  induction plans with
  | nil => exact List.nodup_nil
  | cons plan plans ih =>
    obtain ⟨hfresh, hrest⟩ := List.nodup_cons.mp hnodup
    have hplan := hbaseline plan List.mem_cons_self
    have hothers := fun other h => hbaseline other (List.mem_cons_of_mem plan h)
    rw [List.flatMap_cons, List.map_append]
    refine List.Nodup.append ?_ (ih hrest hothers) ?_
    · unfold Plan.arms
      cases plan.earlyAdmittedAt with
      | none => exact List.nodup_singleton _
      | some admittedAt =>
        show [plan.deploymentId, plan.deploymentId ++ earlySuffix].Nodup
        exact List.nodup_cons.mpr
          ⟨fun h => ne_append_early hplan (List.mem_singleton.mp h), List.nodup_singleton _⟩
    · intro id hid hid'
      obtain ⟨arm, harm, rfl⟩ := List.mem_map.mp hid
      obtain ⟨arm', harm', heq⟩ := List.mem_map.mp hid'
      obtain ⟨other, hother, harm'⟩ := List.mem_flatMap.mp harm'
      have hne : plan.deploymentId ≠ other.deploymentId := by
        intro hsame
        exact hfresh (List.mem_map.mpr ⟨other, hother, hsame.symm⟩)
      rcases deploymentId_of_mem_arms harm with hbase | hearly
      · rcases deploymentId_of_mem_arms harm' with hbase' | hearly'
        · exact hne (hbase.symm.trans (heq.symm.trans hbase'))
        · exact ne_append_early hplan (hbase.symm.trans (heq.symm.trans hearly'))
      · rcases deploymentId_of_mem_arms harm' with hbase' | hearly'
        · exact ne_append_early (hothers other hother) (hbase'.symm.trans (heq.trans hearly))
        · exact hne (append_early_inj (hearly.symm.trans (heq.symm.trans hearly')))

end Arms

section Gate

/-- A block stops both arms of its plan at the source gate. -/
theorem sourceBlock_of_blocked {plan : Plan} {execution : ExecutionPlan} (h : execution ∈ plan.arms)
    (hblocked : plan.blocked = true) (controls : WeeklyControls) (health : Option SourceHealth)
    (now : ℚ) : sourceBlock (execution.params controls) health now ≠ none := by
  have hblock : (execution.params controls).admissionBlock.any (· ≠ "") = true := by
    rcases mem_arms_iff.mp h with rfl | ⟨admittedAt, -, rfl⟩
    · exact hblocked
    · exact hblocked
  unfold sourceBlock
  split
  · exact Option.some_ne_none _
  split
  · exact Option.some_ne_none _
  intro hnone
  rw [hnone] at hblock
  cases hblock

end Gate

/-- What the arms of some admissions are like. -/
structure ArmsApart (executions : List ExecutionPlan) : Prop where
  distinct : (executions.map fun e => e.deploymentId).Nodup
  arm : ∀ e ∈ executions, armForId e.deploymentId = e.entryArm
  early : ∀ e ∈ executions, e.entryArm = "early_1m" →
    ∃ base ∈ executions, base.entryArm = "baseline" ∧
      e = { base with
        deploymentId := e.deploymentId
        entryArm := e.entryArm
        admittedAt := e.admittedAt
        trigger := { base.trigger with timeframe := e.trigger.timeframe, count := e.trigger.count } }

theorem armsApart_executionPlans {admissions : Admissions} (h : AllBaseline admissions.plans) :
    ArmsApart (executionPlans admissions) where
  distinct := nodup_arms admissions.plans.nodup h
  arm := by
    intro e he
    obtain ⟨plan, hplan, he⟩ := List.mem_flatMap.mp he
    exact armForId_of_mem_arms (h plan hplan) he
  early := by
    intro e he hearly
    obtain ⟨plan, hplan, he⟩ := List.mem_flatMap.mp he
    have hbase : plan.baseline ∈ plan.arms := List.mem_cons_self
    refine ⟨plan.baseline, List.mem_flatMap.mpr ⟨plan, hplan, hbase⟩, rfl, ?_⟩
    rcases mem_arms_iff.mp he with rfl | ⟨admittedAt, -, rfl⟩
    · exact absurd hearly (show "baseline" ≠ "early_1m" by decide)
    · rfl

/-- Over every run of imports an admitted plan stays as it was, but for a first early admission and for
a block; each import admits every plan of its publication and blocks those that it supersedes; and the
executed arms are told apart by their identities. -/
theorem weekly_admission_is_append_only (stamp : String → Except PyException ℚ)
    (digest : Digested → HexDigest) (calls later : List ImportCall) :
    Retains (admissionsAfter stamp digest calls).plans
        (admissionsAfter stamp digest (calls ++ later)).plans ∧
      (∀ earlier call, calls = earlier ++ [call] →
        (∀ plan ∈ (resolvePlans stamp digest call.publication call.now).1,
          ∃ admitted, (admissionsAfter stamp digest calls).plans.get? plan.deploymentId =
              some admitted ∧
            ((admissionsAfter stamp digest earlier).plans.get? plan.deploymentId = none →
              ∃ first ∈ (resolvePlans stamp digest call.publication call.now).1,
                first.Frozen admitted)) ∧
        ∀ plan ∈ (admissionsAfter stamp digest calls).plans.rows,
          plan.packId = call.publication.book.packId →
          plan.publicationHash ≠ call.publication.provenance.publicationHash →
            plan.blocked = true) ∧
      ArmsApart (executionPlans (admissionsAfter stamp digest calls)) := by
  refine ⟨?_, ?_, armsApart_executionPlans (allBaseline_admissionsAfter stamp digest calls)⟩
  · unfold admissionsAfter
    rw [finish_append]
    exact retains_finish stamp digest _ later
  · rintro earlier call rfl
    have hlast : admissionsAfter stamp digest (earlier ++ [call]) =
        (importPublication stamp digest call (admissionsAfter stamp digest earlier)).2 := by
      unfold admissionsAfter
      rw [finish_append]
      rfl
    rw [hlast]
    constructor
    · intro plan hplan
      exact admitted_importPublication stamp digest call _ hplan
    · intro plan hplan hpack hhash
      apply blocked_of_superseded stamp digest hplan
      unfold Plan.superseded
      rw [hpack]
      simp [hhash]

namespace RevisedWeek

/-- One bullish branch, published on Monday and again, revised, on Tuesday. -/
def publication (publicationHash : String) (price : ℚ) : Publication where
  book :=
    { packId := "week"
      scenarios := [
        { scenarioId := "s"
          symbol := "SPY"
          disposition := some "scenario"
          managementProfile := some "RANGE_EXPANSION"
          setupType := none
          branches := [
            { id := "b"
              bias := some "bull"
              trigger := some ⟨some "close_above", some "5m", some "high", some 1⟩
              tacticalInvalidation := some ⟨some "close_below", some "5m", some "low", some 1⟩
              structuralInvalidation := some ⟨some "close_below", some "weekly", some "low", some 1⟩
              expiresAt := some "friday" }] }] }
  candidates :=
    [⟨"SPY", some [⟨some "high", some (.number price)⟩, ⟨some "low", some (.number 500)⟩]⟩]
  provenance := ⟨publicationHash, 0, "run", "book.json"⟩

def monday : ImportCall := ⟨publication "h1" 600, 100, some ⟨"SHADOW", "PAIRED"⟩⟩

def tuesday : ImportCall := ⟨publication "h2" 610, 200, some ⟨"SHADOW", "PAIRED"⟩⟩

def friday (_ : String) : Except PyException ℚ := .ok 500

def digest (_ : Digested) : HexDigest where
  chars := List.replicate 64 'a'
  length_eq := List.length_replicate
  hex c hc := by
    rw [List.eq_of_mem_replicate hc]
    decide

/-- The trigger price, the early admission and the block of each plan. -/
def levels (admissions : Admissions) : List (ℚ × Option ℚ × Bool) :=
  admissions.plans.rows.map fun plan => (plan.trigger.price, plan.earlyAdmittedAt, plan.blocked)

end RevisedWeek

open RevisedWeek in
/-- The plan of Monday keeps its trigger and is blocked by the revision. -/
theorem weekly_admission_is_append_only_revised :
    levels (admissionsAfter friday digest [monday]) = [(600, some 100, false)] ∧
      levels (admissionsAfter friday digest [monday, tuesday]) = [(600, some 100, true)] ∧
      Retains (admissionsAfter friday digest [monday]).plans
        (admissionsAfter friday digest [monday, tuesday]).plans := by
  refine ⟨by decide +kernel, by decide +kernel, ?_⟩
  exact (weekly_admission_is_append_only friday digest [monday] [tuesday]).1

end Bhiksha.Weekly
