import Bhiksha.Strategy.ScenarioRun

/-! A weekly scenario is owned by at most one deployment, as long as observation rewrites no row that
holds its slot. -/

namespace Bhiksha.Weekly

open Library

variable {calendar : ExchangeCalendar} {paramsOf : String → WeeklyParams}

/-- The scenario and arm of a deployment. -/
def slot (paramsOf : String → WeeklyParams) (deploymentId : String) : String × String :=
  ((paramsOf deploymentId).scenarioKey, (paramsOf deploymentId).entryArm)

/-- No two claims are on one scenario and arm. -/
def OneOwner (paramsOf : String → WeeklyParams) (world : WeeklyWorld) : Prop :=
  world.claims.Pairwise fun d d' => slot paramsOf d ≠ slot paramsOf d'

/-- An observation of a claimed deployment that has a bar to read does not expire its pending row, and
confirms no invalidation of a row of uncertain outcome. -/
def keepsSlot (calendar : ExchangeCalendar) (paramsOf : String → WeeklyParams) (e : WeeklyEvent) :
    Bool :=
  match e.call with
  | .observe deploymentId frame now _ fill =>
    frame.isEmpty || deploymentId ∉ e.before.claims ||
      ((e.before.open paramsOf deploymentId fill).rows.get? deploymentId).all fun row =>
        let params := namedParams paramsOf deploymentId
        let invalid := (newInvalidations calendar params frame now row.payload).confirmed
        match row.status with
        | .pending =>
          now < params.validThrough || row.payload.invalidatedAt.isSome || !invalid.isEmpty
        | .uncertain => invalid.isEmpty
        | _ => true
  | _ => true

/-- Every row has the scenario and arm of its deployment, and every claim is on a row that occupies
its slot. -/
structure Occupied (paramsOf : String → WeeklyParams) (world : WeeklyWorld) : Prop where
  keyed : ∀ d row, world.rows.get? d = some row → (row.scenarioKey, row.entryArm) = slot paramsOf d
  held : ∀ d ∈ world.claims, ∃ row, world.rows.get? d = some row ∧ row.status.occupies
  exclusive : OneOwner paramsOf world

theorem WeeklyWorld.new_occupied : Occupied paramsOf WeeklyWorld.new where
  keyed := fun _ _ h => by cases h
  held := fun _ h => by cases h
  exclusive := List.Pairwise.nil

section Rows

theorem get?_setRow (deploymentId : String) (f : ScenarioRow → ScenarioRow)
    (hf : ∀ row, (f row).deploymentId = row.deploymentId) (db : ScenarioDb) (d : String) :
    (setRow deploymentId f hf db).get? d =
      if d = deploymentId then (db.get? d).map f else db.get? d := by
  refine (Table.get?_update db _ f hf d).trans ?_
  cases hrow : db.get? d with
  | none => exact (ite_self none).symm
  | some row =>
    have hid : row.deploymentId = d := Table.key_of_get? hrow
    by_cases hsame : d = deploymentId
    · simp [hid, hsame]
    · simp [hid, hsame]

theorem get?_insertRow (params : WeeklyParams) (db : ScenarioDb) (d : String) :
    (insertRow params db).get? d =
      if params.deploymentId = d then some ((db.get? d).getD params.newRow) else db.get? d := by
  refine (Table.get?_upsert db params.newRow id (fun _ => rfl) d).trans ?_
  rw [Option.map_id_fun]
  rfl

/-- The row of the deployment once its transaction is open. -/
def openedRow (paramsOf : String → WeeklyParams) (deploymentId : String) (fill : Option String)
    (world : WeeklyWorld) : ScenarioRow :=
  let row := (world.rows.get? deploymentId).getD (namedParams paramsOf deploymentId).newRow
  if deploymentId ∈ world.recovered then row else row.recover fill

theorem get?_open (deploymentId : String) (fill : Option String) (world : WeeklyWorld)
    (d : String) :
    (world.open paramsOf deploymentId fill).rows.get? d =
      if d = deploymentId then some (openedRow paramsOf deploymentId fill world)
      else world.rows.get? d := by
  have hrows : (world.open paramsOf deploymentId fill).rows =
      openState (namedParams paramsOf deploymentId) (deploymentId ∈ world.recovered) fill
        world.rows := by
    unfold WeeklyWorld.open
    dsimp only
    split <;> rfl
  have hinsert := get?_insertRow (namedParams paramsOf deploymentId) world.rows d
  rw [hrows]
  unfold openState openedRow
  by_cases hrecovered : deploymentId ∈ world.recovered
  · simp only [hrecovered, decide_true, if_true]
    rw [hinsert]
    by_cases hsame : d = deploymentId
    · subst hsame
      rfl
    · rw [if_neg hsame, if_neg fun h => hsame h.symm]
  · simp only [hrecovered, decide_false]
    refine (get?_setRow deploymentId (ScenarioRow.recover fill)
      (ScenarioRow.recover_deploymentId fill) _ d).trans ?_
    rw [hinsert]
    by_cases hsame : d = deploymentId
    · subst hsame
      have hname : (namedParams paramsOf d).deploymentId = d := rfl
      simp only [hname, if_true, if_false, Option.map_some]
    · rw [if_neg hsame, if_neg hsame, if_neg fun h => hsame h.symm]

theorem claims_open_subset (deploymentId : String) (fill : Option String) (world : WeeklyWorld) :
    (world.open paramsOf deploymentId fill).claims.Sublist world.claims := by
  unfold WeeklyWorld.open
  dsimp only
  split
  · exact List.filter_sublist
  · exact List.Sublist.refl _

theorem recover_slot (fill : Option String) (row : ScenarioRow) :
    ((row.recover fill).scenarioKey, (row.recover fill).entryArm) =
      (row.scenarioKey, row.entryArm) := by
  unfold ScenarioRow.recover
  split <;> rfl

variable {world : WeeklyWorld} {deploymentId : String} {fill : Option String}

theorem openedRow_slot (h : Occupied paramsOf world) :
    ((openedRow paramsOf deploymentId fill world).scenarioKey,
      (openedRow paramsOf deploymentId fill world).entryArm) = slot paramsOf deploymentId := by
  have hrow : ∀ row, row = (world.rows.get? deploymentId).getD
      (namedParams paramsOf deploymentId).newRow →
        (row.scenarioKey, row.entryArm) = slot paramsOf deploymentId := by
    intro row hdef
    cases hget : world.rows.get? deploymentId with
    | none =>
      rw [hdef, hget]
      rfl
    | some stored =>
      rw [hdef, hget]
      exact h.keyed deploymentId stored hget
  unfold openedRow
  dsimp only
  split
  · exact hrow _ rfl
  · rw [recover_slot]
    exact hrow _ rfl

/-- A claim that survives the opening is on a row that still occupies its slot. -/
theorem occupies_openedRow (h : Occupied paramsOf world)
    (hclaim : deploymentId ∈ (world.open paramsOf deploymentId fill).claims) :
    (openedRow paramsOf deploymentId fill world).status.occupies := by
  obtain ⟨row, hrow, hoccupies⟩ :=
    h.held deploymentId ((claims_open_subset _ _ _).subset hclaim)
  unfold openedRow
  rw [hrow, Option.getD_some]
  dsimp only
  split
  · exact hoccupies
  · rename_i hrecovered
    unfold ScenarioRow.recover
    split
    · rename_i hpending
      have hfill : fill.isSome := by
        by_contra hnone
        have hempty : fill = none := by simpa using hnone
        unfold WeeklyWorld.open at hclaim
        simp [hrecovered, hrow, hpending, hempty, WeeklyWorld.endClaim] at hclaim
      rw [if_pos hfill]
      rfl
    · exact hoccupies

theorem Occupied.open (h : Occupied paramsOf world) (deploymentId : String)
    (fill : Option String) : Occupied paramsOf (world.open paramsOf deploymentId fill) where
  keyed := by
    intro d row hrow
    rw [get?_open] at hrow
    split at hrow
    · rename_i hsame
      rw [← Option.some.inj hrow, hsame]
      exact openedRow_slot h
    · exact h.keyed d row hrow
  held := by
    intro d hclaim
    rw [get?_open]
    split
    · rename_i hsame
      subst hsame
      exact ⟨_, rfl, occupies_openedRow h hclaim⟩
    · exact h.held d ((claims_open_subset _ _ _).subset hclaim)
  exclusive := h.exclusive.sublist (claims_open_subset deploymentId fill world)

/-- A write to one row keeps the slots, if it leaves the row of a claim occupying. -/
theorem Occupied.write (h : Occupied paramsOf world) {f : ScenarioRow → ScenarioRow}
    (hf : ∀ row, (f row).deploymentId = row.deploymentId)
    (hslot : ∀ row, ((f row).scenarioKey, (f row).entryArm) = (row.scenarioKey, row.entryArm))
    (hheld : deploymentId ∈ world.claims → ∀ row, world.rows.get? deploymentId = some row →
      (f row).status.occupies) :
    Occupied paramsOf { world with rows := setRow deploymentId f hf world.rows } where
  keyed := by
    intro d row hrow
    have hget : (setRow deploymentId f hf world.rows).get? d = some row := hrow
    rw [get?_setRow] at hget
    split at hget
    · obtain ⟨stored, hstored, hwritten⟩ := Option.map_eq_some_iff.mp hget
      rw [← hwritten, hslot]
      exact h.keyed d stored hstored
    · exact h.keyed d row hget
  held := by
    intro d hclaim
    obtain ⟨row, hrow, hoccupies⟩ := h.held d hclaim
    have hget := get?_setRow deploymentId f hf world.rows d
    by_cases hsame : d = deploymentId
    · rw [if_pos hsame, hrow] at hget
      subst hsame
      exact ⟨f row, hget, hheld hclaim row hrow⟩
    · rw [if_neg hsame, hrow] at hget
      exact ⟨row, hget, hoccupies⟩
  exclusive := h.exclusive

theorem Occupied.endClaim (h : Occupied paramsOf world) (deploymentId : String) :
    Occupied paramsOf (world.endClaim deploymentId) where
  keyed := h.keyed
  held := fun d hd => h.held d (List.mem_of_mem_filter hd)
  exclusive := h.exclusive.sublist List.filter_sublist

end Rows

section Steps

variable {world : WeeklyWorld} {deploymentId : String}

theorem Occupied.rollBack (h : Occupied paramsOf world) (deploymentId : String) :
    Occupied paramsOf (world.rollBack deploymentId) := ⟨h.keyed, h.held, h.exclusive⟩

/-- The status that covering the bars leaves, for a row that occupies its slot. -/
theorem coveredPayload_status {params : WeeklyParams} {frame : List MinuteBar} {now : ℚ}
    {status : ScenarioStatus} {data : ScenarioData} :
    (coveredPayload calendar params frame now status data).1 =
      if (newInvalidations calendar params frame now data).confirmed ≠ [] ∧ status ≠ .filled ∧
        status ≠ .pending then .invalidated else status := by
  unfold coveredPayload
  dsimp only
  congr 1
  simp only [decide_eq_true_eq, and_assoc]

/-- An observation leaves the status that covering the bars gave, unless the row expires. -/
theorem observeRow_status {params : WeeklyParams} {frame : List MinuteBar} {now : ℚ}
    {health : Option SourceHealth} {row observed : ScenarioRow}
    (h : observeRow calendar params frame now health row = .ok observed) :
    let covered := coveredPayload calendar params frame now row.status row.payload
    observed.status = covered.1 ∨
      covered.1 ≠ .filled ∧ covered.1 ≠ .uncertain ∧ covered.2.invalidatedAt = none ∧
        params.validThrough ≤ now := by
  intro covered
  unfold observeRow at h
  cases hlast : latestRow frame with
  | none =>
    rw [hlast] at h
    cases h
  | some bar =>
    rw [hlast] at h
    dsimp only at h
    split at h
    · exact Or.inl (congrArg ScenarioRow.status (Except.ok.inj h)).symm
    rename_i hvalid
    split at h
    · exact Or.inl (congrArg ScenarioRow.status (Except.ok.inj h)).symm
    rename_i hopen
    have hfilled : covered.1 ≠ .filled := fun hs => hopen (Or.inl hs)
    have huncertain : covered.1 ≠ .uncertain := fun hs => hopen (Or.inr (Or.inr hs))
    have hnone : covered.2.invalidatedAt = none := by
      by_contra hsome
      exact hvalid ⟨Option.isSome_iff_ne_none.mpr hsome, hfilled⟩
    split at h
    · rename_i hexpired
      exact Or.inr ⟨hfilled, huncertain, hnone, hexpired⟩
    -- Every branch that is left writes the status as it is.
    left
    split at h
    · exact (congrArg ScenarioRow.status (Except.ok.inj h)).symm
    split at h
    · exact (congrArg ScenarioRow.status (Except.ok.inj h)).symm
    split at h
    · exact (congrArg ScenarioRow.status (Except.ok.inj h)).symm
    · rename_i confirmed _
      cases hreason : confirmedReason calendar params row.frozenDeployment now bar.close confirmed
          (sourceBlock params health now) with
      | error e =>
        rw [hreason] at h
        cases h
      | ok found =>
        rw [hreason] at h
        exact (congrArg ScenarioRow.status (Except.ok.inj h)).symm

/-- An observation that keeps the slot leaves an occupying status occupying. -/
theorem occupies_observeRow {params : WeeklyParams} {frame : List MinuteBar} {now : ℚ}
    {health : Option SourceHealth} {row observed : ScenarioRow}
    (h : observeRow calendar params frame now health row = .ok observed)
    (hrow : row.status.occupies)
    (hpending : row.status = .pending → now < params.validThrough ∨
      row.payload.invalidatedAt.isSome ∨
        (newInvalidations calendar params frame now row.payload).confirmed ≠ [])
    (huncertain : row.status = .uncertain →
      (newInvalidations calendar params frame now row.payload).confirmed = []) :
    observed.status.occupies := by
  have hcovered :
      (coveredPayload calendar params frame now row.status row.payload).1 = row.status := by
    rw [coveredPayload_status]
    apply if_neg
    intro ⟨hinvalid, hfilled, hnot⟩
    cases hstatus : row.status with
    | pending => exact hnot hstatus
    | filled => exact hfilled hstatus
    | uncertain => exact hinvalid (huncertain hstatus)
    | waiting | invalidated | expired =>
      rw [hstatus] at hrow
      cases hrow
  rcases observeRow_status h with hsame | ⟨hfilled, hopen, hnone, hexpired⟩
  · rw [hsame, hcovered]
    exact hrow
  · rw [hcovered] at hfilled hopen
    have hstatus : row.status = .pending := by
      cases hstatus : row.status with
      | pending => rfl
      | filled => exact absurd hstatus hfilled
      | uncertain => exact absurd hstatus hopen
      | waiting | invalidated | expired =>
        rw [hstatus] at hrow
        cases hrow
    rcases hpending hstatus with hearly | hrest
    · exact absurd hearly (not_lt.mpr hexpired)
    · -- A stored or a new invalidation would have kept the row from expiring.
      exfalso
      simp only [coveredPayload, hstatus] at hnone
      rcases hrest with hstored | hnew
      · split at hnone
        · rw [Option.or_eq_none_iff] at hnone
          rw [hnone.1] at hstored
          cases hstored
        · rw [hnone] at hstored
          cases hstored
      · rw [if_pos (by simp [hnew])] at hnone
        obtain ⟨_, hearliest⟩ := Option.or_eq_none_iff.mp hnone
        cases hconfirmed : (newInvalidations calendar params frame now row.payload).confirmed with
        | nil => exact hnew hconfirmed
        | cons t ts =>
          rw [hconfirmed] at hearliest
          cases hearliest

/-- A reservation that succeeds finds no row in its slot, and marks its own row pending. -/
theorem reserveBody_success {params : WeeklyParams} {now : ℚ} {openCount : ℤ}
    {db rows : ScenarioDb}
    (h : reserveBody calendar params now openCount db = .ok (none, rows)) :
    occupiedCount params db = 0 ∧ ∃ f hf, rows = setRow params.deploymentId f hf db ∧
      ∀ row, (f row).status = .pending ∧
        ((f row).scenarioKey, (f row).entryArm) = (row.scenarioKey, row.entryArm) := by
  unfold reserveBody at h
  split at h
  · cases h
  split at h
  · cases h
  rename_i row _ _
  cases hblock : retryTimeBlock calendar params row.payload now row.frozenDeployment with
  | error e =>
    rw [hblock] at h
    cases h
  | ok block =>
    rw [hblock] at h
    cases block with
    | some reason => cases h
    | none =>
      simp only [bind, Except.bind, pure, Except.pure] at h
      split at h
      · cases h
      split at h
      · cases h
      split at h
      · cases h
      rename_i hfree
      split at h
      · cases h
      obtain ⟨_, hrows⟩ := Prod.mk.inj (Except.ok.inj h)
      refine ⟨by omega, _, _, hrows.symm, fun row => ⟨rfl, rfl⟩⟩

/-- A reservation that is refused writes nothing. -/
theorem reserveBody_refused {params : WeeklyParams} {now : ℚ} {openCount : ℤ}
    {db rows : ScenarioDb} {reason : String}
    (h : reserveBody calendar params now openCount db = .ok (some reason, rows)) : rows = db := by
  unfold reserveBody at h
  split at h
  · cases h
  split at h
  · exact (Prod.mk.inj (Except.ok.inj h)).2.symm
  rename_i row _ _
  cases hblock : retryTimeBlock calendar params row.payload now row.frozenDeployment with
  | error e =>
    rw [hblock] at h
    cases h
  | ok block =>
    rw [hblock] at h
    cases block with
    | some other => exact (Prod.mk.inj (Except.ok.inj h)).2.symm
    | none =>
      simp only [bind, Except.bind, pure, Except.pure] at h
      split at h
      · cases h
      split at h
      · exact (Prod.mk.inj (Except.ok.inj h)).2.symm
      split at h
      · exact (Prod.mk.inj (Except.ok.inj h)).2.symm
      split at h
      · exact (Prod.mk.inj (Except.ok.inj h)).2.symm
      · cases (Prod.mk.inj (Except.ok.inj h)).1

/-- A deployment whose slot no row occupies may take a claim. -/
theorem Occupied.claim (h : Occupied paramsOf world) {f : ScenarioRow → ScenarioRow}
    (hf : ∀ row, (f row).deploymentId = row.deploymentId)
    (hfree : occupiedCount (namedParams paramsOf deploymentId) world.rows = 0)
    (hwritten : ∀ row, (f row).status = .pending ∧
      ((f row).scenarioKey, (f row).entryArm) = (row.scenarioKey, row.entryArm))
    (hrow : ∃ row, world.rows.get? deploymentId = some row) :
    Occupied paramsOf
      { world with
        rows := setRow deploymentId f hf world.rows
        claims := deploymentId :: world.claims } := by
  have hother : ∀ d ∈ world.claims, slot paramsOf deploymentId ≠ slot paramsOf d := by
    intro d hclaim hsame
    obtain ⟨row, hget, hoccupies⟩ := h.held d hclaim
    have hkey := h.keyed d row hget
    rw [← hsame] at hkey
    obtain ⟨hscenario, harm⟩ := Prod.mk.inj hkey
    have hmatches : row.scenarioKey = (namedParams paramsOf deploymentId).scenarioKey ∧
        row.entryArm = (namedParams paramsOf deploymentId).entryArm ∧ row.status.occupies :=
      ⟨hscenario, harm, hoccupies⟩
    have hpos : 0 < occupiedCount (namedParams paramsOf deploymentId) world.rows :=
      Table.count_pos_of_get? hget (decide_eq_true hmatches)
    omega
  have hkept : Occupied paramsOf { world with rows := setRow deploymentId f hf world.rows } := by
    apply h.write hf fun row => (hwritten row).2
    intro _ row _
    rw [(hwritten row).1]
    rfl
  refine ⟨hkept.keyed, ?_, List.Pairwise.cons hother h.exclusive⟩
  intro d hclaim
  rcases List.mem_cons.mp hclaim with rfl | hclaim
  · obtain ⟨row, hget⟩ := hrow
    refine ⟨f row, ?_, by rw [(hwritten row).1]; rfl⟩
    refine (get?_setRow d f hf world.rows d).trans ?_
    rw [if_pos rfl, hget]
    rfl
  · exact hkept.held d hclaim

theorem settle_slot (settlement : Settlement) (tradeId : Option String) (row : ScenarioRow) :
    ((row.settle settlement tradeId).scenarioKey, (row.settle settlement tradeId).entryArm) =
      (row.scenarioKey, row.entryArm) := by
  cases settlement with
  | waiting =>
    simp only [ScenarioRow.settle]
    split <;> rfl
  | filled => rfl
  | uncertain => rfl

/-- What a settlement writes, with the claim ended when it proves that nothing filled. -/
theorem Occupied.settle (h : Occupied paramsOf world) (settlement : Settlement)
    (tradeId : Option String) :
    let settled : WeeklyWorld :=
      { world with
        rows := setRow deploymentId (ScenarioRow.settle settlement tradeId)
          (ScenarioRow.settle_deploymentId settlement tradeId) world.rows }
    Occupied paramsOf (if settlement = .waiting then settled.endClaim deploymentId else settled) := by
  intro settled
  cases settlement with
  | waiting =>
    -- The claim ends first, so the row may take any status.
    have hended := h.endClaim deploymentId
    apply hended.write (ScenarioRow.settle_deploymentId .waiting tradeId)
      (settle_slot .waiting tradeId)
    intro hclaim
    simp [WeeklyWorld.endClaim] at hclaim
  | filled =>
    exact h.write (ScenarioRow.settle_deploymentId .filled tradeId) (settle_slot .filled tradeId)
      fun _ _ _ => rfl
  | uncertain =>
    exact h.write (ScenarioRow.settle_deploymentId .uncertain tradeId)
      (settle_slot .uncertain tradeId) fun _ _ _ => rfl

end Steps

/-- One step, if it is no observation that gives up the slot of a claim. -/
theorem weeklyStep_occupied (call : WeeklyCall) (world : WeeklyWorld)
    (hkeeps : keepsSlot calendar paramsOf (event (weeklyStep calendar paramsOf) call world))
    (h : Occupied paramsOf world) :
    Occupied paramsOf (weeklyStep calendar paramsOf call world).2 := by
  cases call with
  | observe deploymentId frame now health fill =>
    have hopened := h.open deploymentId fill
    unfold weeklyStep
    dsimp only
    split
    · exact h
    rename_i hframe
    split
    · exact h.rollBack deploymentId
    rename_i row hrow
    split
    · exact h.rollBack deploymentId
    rename_i observed hobserved
    apply hopened.write (f := ScenarioRow.update observed) (fun _ => rfl) fun _ => rfl
    intro hclaim row' hrow'
    have hsame : row' = row := Option.some.inj (hrow'.symm.trans hrow)
    obtain ⟨held, hheld, hoccupies⟩ := hopened.held deploymentId hclaim
    have hrowHeld : held = row := Option.some.inj (hheld.symm.trans hrow)
    rw [hrowHeld] at hoccupies
    have hclaimed : deploymentId ∈ world.claims := (claims_open_subset _ _ _).subset hclaim
    unfold keepsSlot event at hkeeps
    simp only [hframe, hclaimed, hrow, Option.all_some, not_true_eq_false, decide_false,
      Bool.false_or] at hkeeps
    apply occupies_observeRow hobserved hoccupies
    · intro hpending
      rw [hpending] at hkeeps
      simpa [or_assoc] using hkeeps
    · intro huncertain
      rw [huncertain] at hkeeps
      simpa using hkeeps
  | reserve deploymentId now health openCount fill =>
    have hopened := h.open deploymentId fill
    unfold weeklyStep
    dsimp only
    split
    · exact h
    split
    · exact h.rollBack deploymentId
    · rename_i reason rows hrefused
      rw [reserveBody_refused hrefused]
      exact hopened
    · rename_i rows hsuccess
      obtain ⟨hfree, f, hf, hrows, hwritten⟩ := reserveBody_success hsuccess
      rw [hrows]
      apply hopened.claim hf hfree hwritten
      exact ⟨_, (get?_open deploymentId fill world deploymentId).trans (if_pos rfl)⟩
  | transition deploymentId settlement tradeId fill =>
    unfold weeklyStep
    dsimp only
    split
    · exact (h.open deploymentId fill).settle settlement tradeId
    · exact h
  | read deploymentId fill => exact h.open deploymentId fill
  | restart => exact ⟨h.keyed, h.held, h.exclusive⟩

namespace TwoDeployments

/-- Every day has a session from 09:30 to 16:00. -/
def daySessions : ExchangeCalendar where
  newYorkDate t := ⌊t / 86400⌋
  session day := some (day * 86400 + 34200, day * 86400 + 57600)
  nextSession day := day + 1
  newYorkTime day hour minute := day * 86400 + hour * 3600 + minute * 60

def condition (rule : CloseRule) (price : ℚ) : Condition := ⟨.minutes 5, rule, price, 1⟩

/-- Two deployments of one scenario; the first is valid for a time only. -/
def validUntil (validThrough : ℚ) (deploymentId : String) : WeeklyParams where
  deploymentId := deploymentId
  scenarioKey := "S"
  controls :=
    { mode := "SHADOW", retrySeconds := 600, maxEntryDistancePct := 1 / 20, maxOpenPositions := 5 }
  validThrough := if deploymentId = "A" then validThrough else 86400
  publishedAt := 34200
  admittedAt := 34200
  trigger := condition .closeAbove 100
  tacticalInvalidation := condition .closeBelow 90

def health : Option SourceHealth := some ⟨34000, true, []⟩

def early : List MinuteBar := [⟨34440, 101⟩]

def late : List MinuteBar := [⟨34440, 101⟩, ⟨34500, 101⟩]

/-- The first deployment reserves at 09:35; a minute later both are observed, and the second reserves. -/
def calls : List WeeklyCall :=
  [.observe "A" early 34500 health none, .reserve "A" 34500 health 0 none,
    .observe "A" late 34560 health none, .observe "B" late 34560 health none]

def second : WeeklyCall := .reserve "B" 34560 health 0 none

/-- The second reservation, after the other calls. -/
def secondReserve (validThrough : ℚ) : WeeklyEvent :=
  event (weeklyStep daySessions (validUntil validThrough)) second
    (finish (weeklyStep daySessions (validUntil validThrough)) WeeklyWorld.new calls)

theorem secondReserve_mem (validThrough : ℚ) :
    secondReserve validThrough ∈
      weeklyTrace daySessions (validUntil validThrough) (calls ++ [second]) := by
  rw [weeklyTrace, trace_append]
  exact List.mem_append_right _ List.mem_cons_self

end TwoDeployments

/-- In a run of which no observation gives up the slot of a claim, no scenario and arm has two
owners. -/
theorem weekly_scenario_has_one_owner (calendar : ExchangeCalendar)
    (paramsOf : String → WeeklyParams) (calls : List WeeklyCall)
    (hkeeps : ∀ e ∈ weeklyTrace calendar paramsOf calls, keepsSlot calendar paramsOf e) :
    ∀ e ∈ weeklyTrace calendar paramsOf calls, OneOwner paramsOf e.after := by
  intro e he
  have hrun := invariant_of_events weeklyStep_occupied WeeklyWorld.new_occupied hkeeps he
  have hkeepsEvent := hkeeps e he
  rw [hrun.2] at hkeepsEvent ⊢
  exact (weeklyStep_occupied e.call e.before hkeepsEvent hrun.1).exclusive

open TwoDeployments in
/-- The first deployment is valid all day. -/
theorem weekly_scenario_has_one_owner_all_day :
    OneOwner (validUntil 86400) (secondReserve 86400).after := by
  apply weekly_scenario_has_one_owner daySessions (validUntil 86400) (calls ++ [second])
  · apply List.all_eq_true.mp
    decide +kernel
  · exact secondReserve_mem 86400

open TwoDeployments in
/-- The first deployment expires while its entry is pending, and the second reserves the scenario. -/
theorem expired_pending_frees_scenario :
    ¬∀ (calendar : ExchangeCalendar) (paramsOf : String → WeeklyParams) (calls : List WeeklyCall),
      ∀ e ∈ weeklyTrace calendar paramsOf calls, OneOwner paramsOf e.after := by
  intro h
  have howner := h daySessions (validUntil 34530) (calls ++ [second]) _ (secondReserve_mem 34530)
  have hclaims : (secondReserve 34530).after.claims = ["B", "A"] := by decide +kernel
  rw [OneOwner, hclaims] at howner
  have hdistinct := List.rel_of_pairwise_cons howner (List.mem_singleton_self "A")
  exact hdistinct rfl

end Bhiksha.Weekly
