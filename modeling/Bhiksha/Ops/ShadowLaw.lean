import Bhiksha.Library.Fold
import Bhiksha.Library.Trace
import Bhiksha.Ops.ReplayLaw
import Bhiksha.Ops.ShadowStore

/-! A candidate replayed over a growing tape only ever advances, and the store of its states accepts
every such replay. -/

namespace Bhiksha.Lab

open Library

section Candidate

variable {lab : LabPlatform} {kernel : FloorKernel} {latencyMs maxFreshnessMs : ℚ}
  {case : ExitEdgeCase} {arm : EnvelopeArm} {experimentId : String} {control control' : ControlRows}
  {fields : ProfileExitFields} {quote : QuoteTapeMark} {state after : CandidateState}

/-- The loop's variables without the rows it has recorded, which no decision reads. -/
def CandidateState.core (state : CandidateState) : CandidateState := { state with observations := [] }

/-- What the kernel promises of its locked floor. -/
def FloorKernel.NeverLowers (kernel : FloorKernel) : Prop :=
  ∀ previous candidate step advanced,
    kernel.advanceLockedFloor previous candidate step = .ok advanced →
      previous ≤ advanced.lockedFloorR

/-- What is persisted of a candidate moves on with a new revision, or does not move at all. -/
structure Moves (before after : CandidateState) : Prop where
  floor : before.lockedFloorR ≤ after.lockedFloorR
  revision : before.revision ≤ after.revision
  same : before.revision = after.revision → before.lockedFloorR = after.lockedFloorR ∧
    before.lastEvaluatedAt = after.lastEvaluatedAt ∧
    before.lastObservationId = after.lastObservationId

theorem Moves.refl (state : CandidateState) : Moves state state :=
  ⟨le_rfl, le_rfl, fun _ => ⟨rfl, rfl, rfl⟩⟩

theorem Moves.trans {first second third : CandidateState} (h : Moves first second)
    (h' : Moves second third) : Moves first third := by
  refine ⟨h.floor.trans h'.floor, h.revision.trans h'.revision, fun heq => ?_⟩
  have hle := h.revision
  have hle' := h'.revision
  obtain ⟨hfloor, hat, hid⟩ := h.same (by omega)
  obtain ⟨hfloor', hat', hid'⟩ := h'.same (by omega)
  exact ⟨hfloor.trans hfloor', hat.trans hat', hid.trans hid'⟩

/-- The floor that the kernel composes from the arm's two floors at a peak. -/
def composedFloorR (lab : LabPlatform) (kernel : FloorKernel) (arm : EnvelopeArm)
    (lockedFloorR peakR : ℚ) : Except PyException ℚ := do
  let envelopeFloor ← envelopeFloorR lab arm peakR
  let givebackFloor ← givebackFloorR kernel arm peakR
  kernel.composeProtectiveFloor (-1) lockedFloorR envelopeFloor givebackFloor

/-- All that a turn of the decision branch computes. -/
theorem candidateDecideTurn_eq_ok {bid currentR : ℚ}
    (h : candidateDecideTurn lab kernel case arm experimentId control fields state quote bid currentR =
      .ok after) :
    ∃ candidateFloorR step advanced target1R decision ladder,
      composedFloorR lab kernel arm state.lockedFloorR
        (max state.confirmedPeakR (max state.rawPeakR currentR)) = .ok candidateFloorR ∧
      ratchetStepR arm = .ok step ∧
      kernel.advanceLockedFloor state.lockedFloorR candidateFloorR step = .ok advanced ∧
      ((arm.canonicalPolicy.target1R.map PolicyValue.number).getD .null).float = .ok target1R ∧
      evaluateQuote lab case fields quote bid state.ladder = .ok (decision, ladder) ∧
      after.core =
        { state.core with
          ladder
          pending :=
            if max state.confirmedPeakR (max state.rawPeakR currentR) < target1R ∧
                currentR ≤ advanced.lockedFloorR then
              some
                { trigger := quote
                  rule :=
                    if arm.canonicalPolicy.riskEnvelopeEnabled.truthy then
                      s!"risk_envelope_{arm.candidateId}"
                    else s!"shadow_floor_{arm.candidateId}"
                  quantity := state.book.remaining
                  scales := false }
            else pendingOf quote decision state.book.remaining
          rawPeakR := max state.rawPeakR currentR
          confirmedPeakR := max state.confirmedPeakR (max state.rawPeakR currentR)
          lockedFloorR := advanced.lockedFloorR
          revision := state.revision + 1
          lastEvaluatedAt := some (lab.isoformat quote.receivedAt)
          lastObservationId := some (observationId case quote arm) } := by
  unfold candidateDecideTurn at h
  obtain ⟨envelopeFloor, henvelope, h⟩ := Except.bind_eq_ok_iff.mp h
  obtain ⟨givebackFloor, hgiveback, h⟩ := Except.bind_eq_ok_iff.mp h
  obtain ⟨candidateFloorR, hcompose, h⟩ := Except.bind_eq_ok_iff.mp h
  obtain ⟨step, hstep, h⟩ := Except.bind_eq_ok_iff.mp h
  obtain ⟨advanced, hadvanced, h⟩ := Except.bind_eq_ok_iff.mp h
  obtain ⟨target1R, htarget, h⟩ := Except.bind_eq_ok_iff.mp h
  obtain ⟨decided, -, h⟩ := Except.bind_eq_ok_iff.mp h
  obtain ⟨⟨decision, ladder⟩, hdecision, h⟩ := Except.bind_eq_ok_iff.mp h
  cases h
  refine ⟨candidateFloorR, step, advanced, target1R, decision, ladder, ?_, hstep, hadvanced, htarget,
    hdecision, ?_⟩
  · exact Except.bind_eq_ok_iff.mpr ⟨envelopeFloor, henvelope,
      Except.bind_eq_ok_iff.mpr ⟨givebackFloor, hgiveback, hcompose⟩⟩
  · simp only [CandidateState.core, record, decide_eq_true_eq]

theorem closedTurn_core {currentR : ℚ}
    (h : closedTurn lab case arm experimentId control state quote currentR = .ok after) :
    after.core = state.core := by
  obtain ⟨decided, -, h⟩ := Except.bind_eq_ok_iff.mp h
  cases h
  rfl

/-- The state after a quote on which an exit was pending. -/
def filledState (lab : LabPlatform) (case : ExitEdgeCase) (arm : EnvelopeArm)
    (latencyMs maxFreshnessMs : ℚ) (state : CandidateState) (pending : PendingExit)
    (quote : QuoteTapeMark) (bid : ℚ) : CandidateState :=
  if fills latencyMs maxFreshnessMs pending quote then
    let book := fillAt lab case pending quote bid state.book
    { state with
      book
      pending := none
      outcome :=
        if book.remaining ≤ 0 ∨ ¬ pending.scales then
          some (outcomeOf lab case arm.candidateId pending.rule quote book)
        else none }
  else state

theorem candidateFillTurn_core {pending : PendingExit} {bid currentR : ℚ}
    (h : candidateFillTurn lab case arm experimentId control latencyMs maxFreshnessMs state pending
      quote bid currentR = .ok after) :
    after.core =
      (filledState lab case arm latencyMs maxFreshnessMs state.core pending quote bid).core := by
  obtain ⟨decided, -, h⟩ := Except.bind_eq_ok_iff.mp h
  cases h
  unfold filledState
  by_cases hfills : fills latencyMs maxFreshnessMs pending quote = true
  · simp only [if_pos hfills]
    rfl
  · simp only [if_neg hfills]
    rfl

/-- A fill leaves what is persisted alone. -/
theorem moves_filledState (pending : PendingExit) (bid : ℚ) :
    Moves state (filledState lab case arm latencyMs maxFreshnessMs state.core pending quote bid) := by
  unfold filledState
  split
  · exact ⟨le_rfl, le_rfl, fun _ => ⟨rfl, rfl, rfl⟩⟩
  · exact ⟨le_rfl, le_rfl, fun _ => ⟨rfl, rfl, rfl⟩⟩

theorem candidateTurn_cases
    (h : candidateTurn lab kernel case arm experimentId control latencyMs maxFreshnessMs fields state
      quote = .ok after) :
    ∃ bid currentR, floatBid quote = .ok bid ∧ currentROf case bid = .ok currentR ∧
      ((∃ outcome, state.outcome = some outcome ∧
          closedTurn lab case arm experimentId control state quote currentR = .ok after) ∨
        (∃ pending, state.outcome = none ∧ state.pending = some pending ∧
          candidateFillTurn lab case arm experimentId control latencyMs maxFreshnessMs state pending
            quote bid currentR = .ok after) ∨
        (state.outcome = none ∧ state.pending = none ∧
          candidateDecideTurn lab kernel case arm experimentId control fields state quote bid
            currentR = .ok after)) := by
  obtain ⟨bid, hbid, h⟩ := Except.bind_eq_ok_iff.mp h
  obtain ⟨currentR, hcurrent, h⟩ := Except.bind_eq_ok_iff.mp h
  refine ⟨bid, currentR, hbid, hcurrent, ?_⟩
  cases houtcome : state.outcome with
  | some outcome =>
    simp only [houtcome, Option.isSome_some, if_true] at h
    exact Or.inl ⟨outcome, rfl, h⟩
  | none =>
    simp only [houtcome, Option.isSome_none, Bool.false_eq_true, if_false] at h
    cases hpending : state.pending with
    | some pending =>
      rw [hpending] at h
      exact Or.inr (Or.inl ⟨pending, rfl, rfl, h⟩)
    | none =>
      rw [hpending] at h
      exact Or.inr (Or.inr ⟨rfl, rfl, h⟩)

/-- What is persisted never goes back over a turn. -/
theorem moves_of_candidateTurn (hkernel : kernel.NeverLowers)
    (h : candidateTurn lab kernel case arm experimentId control latencyMs maxFreshnessMs fields state
      quote = .ok after) : Moves state after := by
  have hcore : ∀ {next : CandidateState}, after.core = next.core → Moves state next →
      Moves state after := by
    intro next heq hmoves
    have hfloor : after.lockedFloorR = next.lockedFloorR := congrArg (·.lockedFloorR) heq
    have hrevision : after.revision = next.revision := congrArg (·.revision) heq
    have hat : after.lastEvaluatedAt = next.lastEvaluatedAt := congrArg (·.lastEvaluatedAt) heq
    have hid : after.lastObservationId = next.lastObservationId :=
      congrArg (·.lastObservationId) heq
    refine ⟨?_, ?_, ?_⟩
    · rw [hfloor]
      exact hmoves.floor
    · rw [hrevision]
      exact hmoves.revision
    · rw [hrevision, hfloor, hat, hid]
      exact hmoves.same
  obtain ⟨bid, currentR, -, -, hclosed | hfill | hdecide⟩ := candidateTurn_cases h
  · obtain ⟨outcome, -, hturn⟩ := hclosed
    exact hcore (closedTurn_core hturn) (Moves.refl state)
  · obtain ⟨pending, -, -, hturn⟩ := hfill
    exact hcore (candidateFillTurn_core hturn) (moves_filledState pending bid)
  · obtain ⟨candidateFloorR, step, advanced, target1R, decision, ladder, -, -, hadvanced, -, -, heq⟩ :=
      candidateDecideTurn_eq_ok hdecide.2.2
    have hfloor := hkernel _ _ _ _ hadvanced
    refine ⟨?_, ?_, ?_⟩
    · have hlocked : after.lockedFloorR = advanced.lockedFloorR := congrArg (·.lockedFloorR) heq
      rw [hlocked]
      exact hfloor
    · have hrevision : after.revision = state.revision + 1 := congrArg (·.revision) heq
      rw [hrevision]
      omega
    · have hrevision : after.revision = state.revision + 1 := congrArg (·.revision) heq
      intro hsame
      omega

/-- Two turns on one quote from the same variables end in the same, whatever the control rows are. -/
theorem candidateTurn_agree {other after' : CandidateState} (hcore : state.core = other.core)
    (h : candidateTurn lab kernel case arm experimentId control latencyMs maxFreshnessMs fields state
      quote = .ok after)
    (h' : candidateTurn lab kernel case arm experimentId control' latencyMs maxFreshnessMs fields other
      quote = .ok after') : after.core = after'.core := by
  have houtcome : state.outcome = other.outcome := congrArg (·.outcome) hcore
  have hpending : state.pending = other.pending := congrArg (·.pending) hcore
  obtain ⟨bid, currentR, hbid, hcurrent, hcases⟩ := candidateTurn_cases h
  obtain ⟨bid', currentR', hbid', hcurrent', hcases'⟩ := candidateTurn_cases h'
  obtain rfl := Except.ok.inj (hbid.symm.trans hbid')
  obtain rfl := Except.ok.inj (hcurrent.symm.trans hcurrent')
  rw [← houtcome, ← hpending] at hcases'
  -- both runs are in the same phase
  rcases hcases with ⟨outcome, hout, hturn⟩ | ⟨pending, hout, hpend, hturn⟩ | ⟨hout, hpend, hturn⟩
  · rw [hout] at hcases'
    obtain ⟨-, -, hturn'⟩ | ⟨-, hnone, -⟩ | ⟨hnone, -⟩ := hcases'
    · rw [closedTurn_core hturn, closedTurn_core hturn', hcore]
    · cases hnone
    · cases hnone
  · rw [hout, hpend] at hcases'
    obtain ⟨_, hsome, -⟩ | ⟨pending', -, hpend', hturn'⟩ | ⟨-, hnone, -⟩ := hcases'
    · cases hsome
    · obtain rfl := Option.some.inj hpend'
      rw [candidateFillTurn_core hturn, candidateFillTurn_core hturn', hcore]
    · cases hnone
  · rw [hout, hpend] at hcases'
    obtain ⟨_, hsome, -⟩ | ⟨_, -, hsome, -⟩ | ⟨-, -, hturn'⟩ := hcases'
    · cases hsome
    · cases hsome
    · obtain ⟨floor, step, advanced, target, decision, ladder, hfloor, hstep, hadvanced, htarget,
        hdecision, hafter⟩ := candidateDecideTurn_eq_ok hturn
      obtain ⟨floor', step', advanced', target', decision', ladder', hfloor', hstep', hadvanced',
        htarget', hdecision', hafter'⟩ := candidateDecideTurn_eq_ok hturn'
      have hraw : state.rawPeakR = other.rawPeakR := congrArg (·.rawPeakR) hcore
      have hconfirmed : state.confirmedPeakR = other.confirmedPeakR :=
        congrArg (·.confirmedPeakR) hcore
      have hlocked : state.lockedFloorR = other.lockedFloorR := congrArg (·.lockedFloorR) hcore
      have hladder : state.ladder = other.ladder := congrArg (·.ladder) hcore
      have hbook : state.book = other.book := congrArg (·.book) hcore
      have hrevision : state.revision = other.revision := congrArg (·.revision) hcore
      rw [← hraw, ← hconfirmed, ← hlocked] at hfloor'
      obtain rfl := Except.ok.inj (hfloor.symm.trans hfloor')
      obtain rfl := Except.ok.inj (hstep.symm.trans hstep')
      rw [← hlocked] at hadvanced'
      obtain rfl := Except.ok.inj (hadvanced.symm.trans hadvanced')
      obtain rfl := Except.ok.inj (htarget.symm.trans htarget')
      rw [← hladder] at hdecision'
      obtain ⟨rfl, rfl⟩ := Prod.mk.inj (Except.ok.inj (hdecision.symm.trans hdecision'))
      rw [hafter, hafter', hcore, hraw, hconfirmed, hbook, hrevision]

end Candidate

/-! ### States over a growing tape -/

section Growing

variable {lab : LabPlatform} {kernel : FloorKernel} {latencyMs maxFreshnessMs : ℚ}
  {case : ExitEdgeCase}

/-- A state can follow another in the store. -/
structure Advances (old new : ShadowEnvelopeState) : Prop where
  policy : (old.candidatePolicyId, old.candidatePolicyHash) =
    (new.candidatePolicyId, new.candidatePolicyHash)
  floor : ∀ prior ∈ old.lockedFloorR, ∃ floor ∈ new.lockedFloorR, prior ≤ floor
  revision : old.stateRevision ≤ new.stateRevision
  same : old.stateRevision = new.stateRevision →
    (new.lockedFloorR, new.lastEvaluatedAt, new.lastObservationId) =
      (old.lockedFloorR, old.lastEvaluatedAt, old.lastObservationId)

/-- States of one key that can follow each other are one state. -/
theorem eq_of_advances {old new : ShadowEnvelopeState} (hkey : old.key = new.key)
    (h : Advances old new) (hback : Advances new old) : old = new := by
  have hle := h.revision
  have hge := hback.revision
  have hsame := h.same (by omega)
  have hpolicy := h.policy
  cases old
  cases new
  simp_all [ShadowEnvelopeState.key]
  omega

def ExitEdgeCase.withTape (case : ExitEdgeCase) (quotes : List QuoteTapeMark) : ExitEdgeCase :=
  { case with quotes }

/-- `arms[candidate_id]`, in the dictionary that is built from the experiment's list. -/
def registeredArm (case : ExitEdgeCase) (candidateId : String) : Option EnvelopeArm :=
  case.experiment.riskEnvelope.bind fun experiment =>
    experiment.arms.reverse.find? fun arm => arm.candidateId = candidateId

/-- The state that a replay of an arm over a tape of this case produces. -/
def Produces (lab : LabPlatform) (kernel : FloorKernel) (latencyMs maxFreshnessMs : ℚ)
    (case : ExitEdgeCase) (quotes : List QuoteTapeMark) (arm : EnvelopeArm)
    (state : ShadowEnvelopeState) : Prop :=
  ∃ control outcome rows, replayEnvelopeCandidate lab kernel latencyMs maxFreshnessMs
    (case.withTape quotes) arm control = .ok (outcome, rows, state)

theorem Produces.run {quotes : List QuoteTapeMark} {arm : EnvelopeArm} {state : ShadowEnvelopeState}
    (h : Produces lab kernel latencyMs maxFreshnessMs case quotes arm state) :
    ∃ control experiment fields start last, riskEnvelope case = .ok experiment ∧
      ProfileExitFields.fromManagementSpec lab.floatText arm.canonicalPolicy = .ok fields ∧
      CandidateState.new case arm = .ok start ∧
      quotes.foldlM (candidateTurn lab kernel case arm experiment.experimentId control latencyMs
        maxFreshnessMs fields) start = .ok last ∧
      state = shadowStateOf case arm experiment.experimentId last := by
  obtain ⟨control, outcome, rows, hreplay⟩ := h
  obtain ⟨experiment, hexperiment, hreplay⟩ := Except.bind_eq_ok_iff.mp hreplay
  obtain ⟨fields, hfields, hreplay⟩ := Except.bind_eq_ok_iff.mp hreplay
  obtain ⟨start, hstart, hreplay⟩ := Except.bind_eq_ok_iff.mp hreplay
  obtain ⟨last, hlast, hreplay⟩ := Except.bind_eq_ok_iff.mp hreplay
  cases hreplay
  exact ⟨control, experiment, fields, start, last, hexperiment, hfields, hstart, hlast, rfl⟩

/-- A replay of the same arm over a longer tape can follow the one over the shorter. -/
theorem advances_of_isPrefix (hkernel : kernel.NeverLowers) {quotes longer : List QuoteTapeMark}
    {arm : EnvelopeArm} {old new : ShadowEnvelopeState} (hgrown : quotes <+: longer)
    (hold : Produces lab kernel latencyMs maxFreshnessMs case quotes arm old)
    (hnew : Produces lab kernel latencyMs maxFreshnessMs case longer arm new) :
    Advances old new := by
  obtain ⟨later, rfl⟩ := hgrown
  obtain ⟨control, experiment, fields, start, last, hexperiment, hfields, hstart, hlast, rfl⟩ :=
    hold.run
  obtain ⟨control', experiment', fields', start', last', hexperiment', hfields', hstart', hlast', rfl⟩ :=
    hnew.run
  obtain rfl := Except.ok.inj (hexperiment.symm.trans hexperiment')
  obtain rfl := Except.ok.inj (hfields.symm.trans hfields')
  obtain rfl := Except.ok.inj (hstart.symm.trans hstart')
  obtain ⟨mid, hmid, hrest⟩ := foldlM_append_eq_ok_iff.mp hlast'
  -- the longer replay passes through the variables in which the shorter one ended
  have hagree : ∀ (s u : CandidateState) (quote : QuoteTapeMark) (t v : CandidateState),
      s.core = u.core →
      candidateTurn lab kernel case arm experiment.experimentId control latencyMs maxFreshnessMs
        fields s quote = .ok t →
      candidateTurn lab kernel case arm experiment.experimentId control' latencyMs maxFreshnessMs
        fields u quote = .ok v → t.core = v.core :=
    fun _ _ _ _ _ hcore hturn hturn' => candidateTurn_agree hcore hturn hturn'
  have hcore : last.core = mid.core :=
    agree_of_foldlM (R := fun s u : CandidateState => s.core = u.core) hagree rfl hlast hmid
  have hmoves : Moves mid last' :=
    related_of_foldlM Moves.refl Moves.trans (fun _ _ _ hturn => moves_of_candidateTurn hkernel hturn)
      hrest
  have hfloor : last.lockedFloorR = mid.lockedFloorR := congrArg (·.lockedFloorR) hcore
  have hrevision : last.revision = mid.revision := congrArg (·.revision) hcore
  have hat : last.lastEvaluatedAt = mid.lastEvaluatedAt := congrArg (·.lastEvaluatedAt) hcore
  have hid : last.lastObservationId = mid.lastObservationId := congrArg (·.lastObservationId) hcore
  refine ⟨rfl, ?_, ?_, ?_⟩
  · intro prior hprior
    obtain rfl := Option.some.inj hprior
    refine ⟨last'.lockedFloorR, rfl, ?_⟩
    rw [hfloor]
    exact hmoves.floor
  · change last.revision ≤ last'.revision
    rw [hrevision]
    exact hmoves.revision
  · intro hsame
    have hsame' : mid.revision = last'.revision := hrevision.symm.trans hsame
    obtain ⟨hfloor', hat', hid'⟩ := hmoves.same hsame'
    simp only [shadowStateOf, hfloor, hat, hid, hfloor', hat', hid']

end Growing

/-! ### The store -/

section Store

variable {table : ShadowTable} {batch rest : ShadowBatch}

/-- The row that a statement of a batch writes. -/
def rowOf (entry : ShadowEnvelopeState × String) : ShadowRow :=
  { toShadowEnvelopeState := entry.1, updatedAt := entry.2 }

/-- Every stored row can be followed by every entry of its key that is still to come. -/
def Ready (table : ShadowTable) (entries : ShadowBatch) : Prop :=
  ∀ entry ∈ entries, ∀ row, table.get? entry.1.key = some row →
    Advances row.toShadowEnvelopeState entry.1

/-- Each entry can be followed by every later one of its key. -/
def InOrder (entries : ShadowBatch) : Prop :=
  entries.Pairwise fun earlier later => earlier.1.key = later.1.key → Advances earlier.1 later.1

theorem checkState_of_advances {state : ShadowEnvelopeState} {row : ShadowRow}
    (h : Advances row.toShadowEnvelopeState state) : checkState state row = .ok () := by
  have hcleared : ¬(row.lockedFloorR.isSome = true ∧ state.lockedFloorR.isNone = true) := by
    rintro ⟨hsome, hnone⟩
    obtain ⟨prior, hprior⟩ := Option.isSome_iff_exists.mp hsome
    obtain ⟨floor, hfloor, -⟩ := h.floor prior hprior
    rw [Option.isNone_iff_eq_none.mp hnone] at hfloor
    cases hfloor
  have hregressed : ¬∃ prior ∈ row.lockedFloorR, ∃ floor ∈ state.lockedFloorR, floor < prior := by
    rintro ⟨prior, hprior, floor, hfloor, hlt⟩
    obtain ⟨floor', hfloor', hle⟩ := h.floor prior hprior
    obtain rfl := Option.some.inj (hfloor.symm.trans hfloor')
    exact absurd hlt hle.not_gt
  have hrevision : ¬ state.stateRevision < row.stateRevision := not_lt.mpr h.revision
  have hsame : ¬(state.stateRevision = row.stateRevision ∧
      (state.lockedFloorR, state.lastEvaluatedAt, state.lastObservationId) ≠
        (row.lockedFloorR, row.lastEvaluatedAt, row.lastObservationId)) :=
    fun hchanged => hchanged.2 (h.same hchanged.1.symm)
  unfold checkState
  refine Except.bind_eq_ok_iff.mpr ⟨(), raiseIf_eq_ok_iff.mpr (not_not.mpr h.policy), ?_⟩
  refine Except.bind_eq_ok_iff.mpr ⟨(), raiseIf_eq_ok_iff.mpr hcleared, ?_⟩
  refine Except.bind_eq_ok_iff.mpr ⟨(), raiseIf_eq_ok_iff.mpr hregressed, ?_⟩
  refine Except.bind_eq_ok_iff.mpr ⟨(), raiseIf_eq_ok_iff.mpr hrevision, ?_⟩
  exact raiseIf_eq_ok_iff.mpr hsame

/-- What a statement leaves under each key. -/
theorem get?_upsertState {entry : ShadowEnvelopeState × String}
    (h : ∀ row, table.get? entry.1.key = some row → Advances row.toShadowEnvelopeState entry.1)
    (key : ShadowKey) :
    (upsertState entry.1 entry.2 table).get? key =
      if entry.1.key = key then some (rowOf entry) else table.get? key := by
  have hupsert := Table.get?_upsert table (rowOf entry) (assignState entry.1 entry.2)
    (key_assignState entry.1 entry.2) key
  have hkey : ShadowRow.key (rowOf entry) = entry.1.key := rfl
  rw [hkey] at hupsert
  refine hupsert.trans ?_
  by_cases hk : entry.1.key = key
  · rw [if_pos hk, if_pos hk]
    cases hrow : table.get? key with
    | none => rfl
    | some row =>
      -- the columns that the update leaves alone are the same in the new state
      have hrowkey : row.toShadowEnvelopeState.key = entry.1.key :=
        (Table.key_of_get? hrow).trans hk.symm
      have hpolicy := (h row (hk ▸ hrow)).policy
      simp only [ShadowEnvelopeState.key, ShadowKey.mk.injEq] at hrowkey
      simp only [Prod.mk.injEq] at hpolicy
      simp only [Option.map_some, Option.getD_some, assignState, rowOf, hrowkey, hpolicy]
  · rw [if_neg hk, if_neg hk]

theorem persistState_of_advances {entry : ShadowEnvelopeState × String} {conn : Conn ShadowTable}
    (h : ∀ row, conn.pending.get? entry.1.key = some row →
      Advances row.toShadowEnvelopeState entry.1) :
    persistState entry conn =
      (.ok (), { conn with pending := upsertState entry.1 entry.2 conn.pending }) := by
  have hquery : (Tx.query fun table : ShadowTable => table.get? entry.1.key :
      Tx PyException ShadowTable _) conn = (.ok (conn.pending.get? entry.1.key), conn) := rfl
  unfold persistState
  rw [Tx.bind_of_ok _ hquery]
  cases hrow : conn.pending.get? entry.1.key with
  | none => rfl
  | some row =>
    have hcheck : (liftM (checkState entry.1 row) : Tx PyException ShadowTable Unit) conn =
        (.ok (), conn) := Tx.lift_eq_ok_iff.mpr ⟨checkState_of_advances (h row hrow), rfl⟩
    simp only
    rw [Tx.bind_of_ok _ hcheck]
    rfl

/-- The last entry that a batch has for a key. -/
def lastEntry (batch : ShadowBatch) (key : ShadowKey) : Option (ShadowEnvelopeState × String) :=
  batch.reverse.find? fun entry => entry.1.key = key

theorem mem_of_lastEntry {entry : ShadowEnvelopeState × String} {key : ShadowKey}
    (h : lastEntry batch key = some entry) : entry ∈ batch ∧ entry.1.key = key := by
  have hkey := List.find?_some h
  exact ⟨List.mem_reverse.mp (List.mem_of_find?_eq_some h), of_decide_eq_true hkey⟩

/-- What a batch leaves in the table that it found: its last entry for a key, and else the old row. -/
def Persisted (batch : ShadowBatch) (before after : ShadowTable) : Prop :=
  ∀ key, after.get? key = ((lastEntry batch key).map rowOf).or (before.get? key)

/-- A batch in order is accepted, and the table is ready for what comes after it. -/
theorem persistStates_of_ready {conn : Conn ShadowTable} (hready : Ready conn.pending (batch ++ rest))
    (horder : InOrder (batch ++ rest)) :
    ∃ after, persistStates batch conn = (.ok (), { conn with pending := after }) ∧
      Ready after rest ∧ Persisted batch conn.pending after := by
  induction batch generalizing conn with
  | nil => exact ⟨conn.pending, rfl, hready, fun _ => rfl⟩
  | cons entry batch ih =>
    have hfirst := hready entry List.mem_cons_self
    obtain ⟨hfollows, horder⟩ := List.pairwise_cons.mp horder
    set next := upsertState entry.1 entry.2 conn.pending with hnext
    have hget := get?_upsertState hfirst
    have hready' : Ready next (batch ++ rest) := by
      intro later hlater row hrow
      rw [hnext, hget] at hrow
      split at hrow
      next hkey =>
        obtain rfl := Option.some.inj hrow
        exact hfollows later hlater hkey
      next => exact hready later (List.mem_cons_of_mem entry hlater) row hrow
    obtain ⟨after, hrest, hreadyAfter, hpersisted⟩ :=
      @ih { conn with pending := next } hready' horder
    refine ⟨after, ?_, hreadyAfter, fun key => ?_⟩
    · rw [persistStates, Tx.bind_of_ok _ (persistState_of_advances hfirst)]
      exact hrest
    · -- an entry that comes later in the batch goes before this one
      have hlast : lastEntry (entry :: batch) key =
          (lastEntry batch key).or (if entry.1.key = key then some entry else none) := by
        unfold lastEntry
        rw [List.reverse_cons, List.find?_append, List.find?_singleton]
        simp only [decide_eq_true_eq]
      have hrow : next.get? key = if entry.1.key = key then some (rowOf entry) else
          conn.pending.get? key := by
        rw [hnext]
        exact hget key
      rw [hpersisted key, hlast, hrow]
      by_cases hkey : entry.1.key = key
      · simp [hkey]
      · simp [hkey]

/-- One call of the store, as a step of a run of calls. -/
def storeStep (batch : ShadowBatch) (table : ShadowTable) : Except PyException Unit × ShadowTable :=
  persistShadowEnvelopeStates false batch table

theorem storeStep_of_ready (hready : Ready table (batch ++ rest)) (horder : InOrder (batch ++ rest)) :
    (storeStep batch table).1 = .ok () ∧ Ready (storeStep batch table).2 rest ∧
      Persisted batch table (storeStep batch table).2 := by
  obtain ⟨after, hbody, hreadyAfter, hpersisted⟩ :=
    @persistStates_of_ready batch rest ⟨table, table⟩ hready horder
  have hrun : storeStep batch table = (.ok (), after) :=
    Tx.run_eq_ok_iff.mpr ⟨{ disk := table, pending := after }, hbody, rfl⟩
  rw [hrun]
  exact ⟨rfl, hreadyAfter, hpersisted⟩

end Store

/-- The stored floors and revisions are no lower after than before. -/
def NeverDecreases (before after : ShadowTable) : Prop :=
  ∀ key row, before.get? key = some row → ∃ row', after.get? key = some row' ∧
    (∀ prior ∈ row.lockedFloorR, ∃ floor ∈ row'.lockedFloorR, prior ≤ floor) ∧
    row.stateRevision ≤ row'.stateRevision

/-- What is stored under a key, the instant of its last update left out. -/
def stored (table : ShadowTable) (key : ShadowKey) : Option ShadowEnvelopeState :=
  (table.get? key).map (·.toShadowEnvelopeState)

section Runs

variable {table : ShadowTable} {batches : List ShadowBatch}

theorem neverDecreases_of_persisted {before after : ShadowTable} {batch : ShadowBatch}
    (hready : Ready before batch) (h : Persisted batch before after) : NeverDecreases before after := by
  intro key row hrow
  have hafter := h key
  cases hlast : lastEntry batch key with
  | none =>
    rw [hlast, hrow] at hafter
    exact ⟨row, hafter, fun prior hprior => ⟨prior, hprior, le_rfl⟩, le_rfl⟩
  | some entry =>
    rw [hlast] at hafter
    obtain ⟨hmem, hkey⟩ := mem_of_lastEntry hlast
    have hadvances := hready entry hmem row (hkey.symm ▸ hrow)
    exact ⟨rowOf entry, hafter, hadvances.floor, hadvances.revision⟩

/-- A batch leaves the last state that it has for a key. -/
theorem stored_of_persisted {before after : ShadowTable} {batch : ShadowBatch}
    (h : Persisted batch before after) (key : ShadowKey) :
    stored after key = ((lastEntry batch key).map Prod.fst).or (stored before key) := by
  unfold stored
  rw [h key]
  cases lastEntry batch key with
  | none => rfl
  | some entry => rfl

/-- It does not matter when the states of a batch are stored. -/
theorem lastEntry_fst {batch again : ShadowBatch} (h : again.map Prod.fst = batch.map Prod.fst)
    (key : ShadowKey) :
    (lastEntry again key).map Prod.fst = (lastEntry batch key).map Prod.fst := by
  have hstates (entries : ShadowBatch) : (lastEntry entries key).map Prod.fst =
      (entries.map Prod.fst).reverse.find? fun state => state.key = key := by
    unfold lastEntry
    rw [← List.map_reverse, List.find?_map]
    rfl
  rw [hstates, hstates, h]

theorem Ready.left {entries more : ShadowBatch} (h : Ready table (entries ++ more)) :
    Ready table entries := fun entry hmem => h entry (List.mem_append_left more hmem)

/-- Every call of a run in order is accepted, stores its states and takes nothing back. -/
theorem run_accepted (hready : Ready table batches.flatten) (horder : InOrder batches.flatten) :
    ∀ e ∈ trace storeStep table batches,
      e.result = .ok () ∧ Persisted e.call e.before e.after ∧ NeverDecreases e.before e.after := by
  induction batches generalizing table with
  | nil => simp [trace]
  | cons batch batches ih =>
    rw [List.flatten_cons] at hready horder
    obtain ⟨hok, hnext, hpersisted⟩ := storeStep_of_ready hready horder
    intro e he
    rcases List.mem_cons.mp he with rfl | hlater
    · exact ⟨hok, hpersisted, neverDecreases_of_persisted hready.left hpersisted⟩
    · exact ih hnext (List.pairwise_append.mp horder).2.1 e hlater

theorem ready_finish {rest : ShadowBatch} (hready : Ready table (batches.flatten ++ rest))
    (horder : InOrder (batches.flatten ++ rest)) :
    Ready (finish storeStep table batches) rest := by
  induction batches generalizing table with
  | nil => exact hready
  | cons batch batches ih =>
    rw [List.flatten_cons, List.append_assoc] at hready horder
    obtain ⟨-, hnext, -⟩ := storeStep_of_ready hready horder
    exact ih hnext (List.pairwise_append.mp horder).2.1

/-- A stored state stays through calls that have no other state for its key. -/
theorem stored_finish {key : ShadowKey} {state : ShadowEnvelopeState} {rest : ShadowBatch}
    (hready : Ready table (batches.flatten ++ rest)) (horder : InOrder (batches.flatten ++ rest))
    (hstored : stored table key = some state)
    (hsame : ∀ entry ∈ batches.flatten, entry.1.key = key → entry.1 = state) :
    stored (finish storeStep table batches) key = some state := by
  induction batches generalizing table with
  | nil => exact hstored
  | cons batch batches ih =>
    rw [List.flatten_cons, List.append_assoc] at hready horder
    rw [List.flatten_cons] at hsame
    obtain ⟨-, hnext, hpersisted⟩ := storeStep_of_ready hready horder
    have hstep : stored (storeStep batch table).2 key = some state := by
      rw [stored_of_persisted hpersisted, hstored]
      cases hlast : lastEntry batch key with
      | none => rfl
      | some entry =>
        obtain ⟨hmem, hkey⟩ := mem_of_lastEntry hlast
        exact congrArg some (hsame entry (List.mem_append_left _ hmem) hkey)
    apply ih hnext (List.pairwise_append.mp horder).2.1 hstep
    exact fun entry hmem => hsame entry (List.mem_append_right _ hmem)

/-- The states of a call again, however many calls later, change nothing but the instant of the
update. -/
theorem stored_repeated {call again rest : ShadowBatch}
    (hready : Ready table (call ++ (batches.flatten ++ (again ++ rest))))
    (horder : InOrder (call ++ (batches.flatten ++ (again ++ rest))))
    (hsame : again.map Prod.fst = call.map Prod.fst) (key : ShadowKey) :
    let reached := finish storeStep (storeStep call table).2 batches
    stored (storeStep again reached).2 key = stored reached key := by
  intro reached
  obtain ⟨-, hnext, hcall⟩ := storeStep_of_ready hready horder
  obtain ⟨-, hmiddle, hcross⟩ := List.pairwise_append.mp horder
  obtain ⟨-, hrest, hcross'⟩ := List.pairwise_append.mp hmiddle
  obtain ⟨-, -, hagain⟩ := storeStep_of_ready (ready_finish hnext hmiddle) hrest
  rw [stored_of_persisted hagain, lastEntry_fst hsame]
  cases hlast : lastEntry call key with
  | none => rfl
  | some first =>
    obtain ⟨hmem, hkey⟩ := mem_of_lastEntry hlast
    have hmem' : first.1 ∈ again.map Prod.fst := hsame ▸ List.mem_map_of_mem hmem
    obtain ⟨second, hsecond, hstate⟩ := List.mem_map.mp hmem'
    have hstored : stored (storeStep call table).2 key = some first.1 := by
      rw [stored_of_persisted hcall, hlast]
      rfl
    -- a state in between comes after the one and before the other, so it is the same
    have hbetween : stored reached key = some first.1 := by
      refine stored_finish hnext hmiddle hstored fun entry hentry hentrykey => ?_
      have hkeys : first.1.key = entry.1.key := hkey.trans hentrykey.symm
      have hafter := hcross first hmem entry (List.mem_append_left _ hentry) hkeys
      have hbefore := hcross' entry hentry second (List.mem_append_left _ hsecond)
        (hkeys.symm.trans (congrArg ShadowEnvelopeState.key hstate.symm))
      rw [hstate] at hbefore
      exact (eq_of_advances hkeys hafter hbefore).symm
    exact hbetween.symm

end Runs

theorem keepsDisk_persistStates (batch : ShadowBatch) : Tx.KeepsDisk (persistStates batch) := by
  induction batch with
  | nil => exact Tx.keepsDisk_pure ()
  | cons entry batch ih =>
    refine Tx.keepsDisk_bind ?_ fun _ => ih
    refine Tx.keepsDisk_bind (Tx.keepsDisk_query _) fun existing => ?_
    cases existing with
    | none => exact Tx.keepsDisk_execute _
    | some row => exact Tx.keepsDisk_bind (Tx.keepsDisk_lift _) fun _ => Tx.keepsDisk_execute _

/-- A call that raises leaves the whole table as it was. -/
theorem persist_unchanged_of_error (readOnly : Bool) (batch : ShadowBatch) (table : ShadowTable)
    (e : PyException) (h : (persistShadowEnvelopeStates readOnly batch table).1 = .error e) :
    (persistShadowEnvelopeStates readOnly batch table).2 = table := by
  cases readOnly with
  | true => rfl
  | false => exact Tx.run_unchanged_of_error (keepsDisk_persistStates batch) h

/-! ### Runs over growing tapes -/

/-- A state that a replay produced from a tape, and the instant at which it is stored. -/
structure Submission where
  quotes : List QuoteTapeMark
  arm : EnvelopeArm
  state : ShadowEnvelopeState
  updatedAt : String

def batchOf (call : List Submission) : ShadowBatch := call.map fun s => (s.state, s.updatedAt)

/-- Calls with the states of the arms of one case, over tapes of which each extends the earlier ones. -/
structure GrowingTapes (lab : LabPlatform) (kernel : FloorKernel) (latencyMs maxFreshnessMs : ℚ)
    (case : ExitEdgeCase) (calls : List (List Submission)) : Prop where
  produced : ∀ s ∈ calls.flatten, Produces lab kernel latencyMs maxFreshnessMs case s.quotes s.arm s.state
  registered : ∀ s ∈ calls.flatten, registeredArm case s.arm.candidateId = some s.arm
  growing : calls.flatten.Pairwise fun earlier later => earlier.quotes <+: later.quotes

theorem flatten_batchOf (calls : List (List Submission)) :
    (calls.map batchOf).flatten = calls.flatten.map fun s => (s.state, s.updatedAt) := by
  unfold batchOf
  exact List.map_flatten.symm

theorem GrowingTapes.inOrder {lab : LabPlatform} {kernel : FloorKernel} {latencyMs maxFreshnessMs : ℚ}
    {case : ExitEdgeCase} {calls : List (List Submission)} (hkernel : kernel.NeverLowers)
    (h : GrowingTapes lab kernel latencyMs maxFreshnessMs case calls) :
    InOrder (calls.map batchOf).flatten := by
  rw [flatten_batchOf, InOrder, List.pairwise_map]
  refine h.growing.imp_of_mem fun {earlier later} hearlier hlater hgrown hkey => ?_
  have hcandidate : ∀ s ∈ calls.flatten, s.state.candidateId = s.arm.candidateId := by
    intro s hs
    obtain ⟨_, _, _, _, _, -, -, -, -, heq⟩ := (h.produced s hs).run
    rw [heq]
    rfl
  have hid : earlier.arm.candidateId = later.arm.candidateId := by
    rw [← hcandidate earlier hearlier, ← hcandidate later hlater]
    exact congrArg ShadowKey.candidateId hkey
  have harm : earlier.arm = later.arm := by
    have hfound := h.registered earlier hearlier
    rw [hid, h.registered later hlater] at hfound
    exact (Option.some.inj hfound).symm
  refine advances_of_isPrefix hkernel hgrown (h.produced earlier hearlier) ?_
  rw [harm]
  exact h.produced later hlater

/-- Replaying a growing tape is always accepted by the store of shadow states. Whatever calls submit the
states of a case's arms over longer and longer tapes, and however often, to a table that holds at most
what replays of earlier tapes left there: none raises, each stores its states, no stored floor or
revision ever decreases, and a call that is repeated, at once or later, changes nothing but the instant
of the update. Any call at all that raises leaves the table as it was. -/
theorem shadow_store_accepts_growing_tapes (lab : LabPlatform) (kernel : FloorKernel)
    (latencyMs maxFreshnessMs : ℚ) (case : ExitEdgeCase) (hkernel : kernel.NeverLowers)
    (calls : List (List Submission))
    (hcalls : GrowingTapes lab kernel latencyMs maxFreshnessMs case calls) (table : ShadowTable)
    (htable : ∀ s ∈ calls.flatten, ∀ row, table.get? s.state.key = some row →
      ∃ quotes, quotes <+: s.quotes ∧ Produces lab kernel latencyMs maxFreshnessMs case quotes s.arm
        row.toShadowEnvelopeState) :
    (∀ e ∈ trace storeStep table (calls.map batchOf),
      e.result = .ok () ∧ Persisted e.call e.before e.after ∧ NeverDecreases e.before e.after) ∧
    (∀ earlier call between again later, calls = earlier ++ call :: (between ++ again :: later) →
      again.map (·.state) = call.map (·.state) →
      let reached := finish storeStep table ((earlier ++ call :: between).map batchOf)
      ∀ key, stored (storeStep (batchOf again) reached).2 key = stored reached key) ∧
    ∀ readOnly batch table e, (persistShadowEnvelopeStates readOnly batch table).1 = .error e →
      (persistShadowEnvelopeStates readOnly batch table).2 = table := by
  have horder := hcalls.inOrder hkernel
  have hready : Ready table (calls.map batchOf).flatten := by
    rw [flatten_batchOf]
    intro entry hentry row hrow
    obtain ⟨s, hs, rfl⟩ := List.mem_map.mp hentry
    obtain ⟨quotes, hgrown, hproduced⟩ := htable s hs row hrow
    exact advances_of_isPrefix hkernel hgrown hproduced (hcalls.produced s hs)
  refine ⟨run_accepted hready horder, ?_, persist_unchanged_of_error⟩
  rintro earlier call between again later rfl hrepeated
  simp only [List.map_append, List.map_cons, List.flatten_append, List.flatten_cons] at hready horder
  have hnext := ready_finish hready horder
  have hsame : (batchOf again).map Prod.fst = (batchOf call).map Prod.fst := by
    unfold batchOf
    rw [List.map_map, List.map_map]
    exact hrepeated
  simp only [List.map_append, List.map_cons, finish_append]
  exact stored_repeated hnext (List.pairwise_append.mp horder).2.1 hsame

namespace ThirdsTape

/-- The floors of the kernel as plain maxima. -/
def kernel : FloorKernel where
  evaluateGivebackFloor := fun peakR armR retraceFraction =>
    .ok (if armR ≤ peakR then some (peakR * (1 - retraceFraction)) else none)
  composeProtectiveFloor := fun initial previous envelope giveback =>
    .ok (max (max initial previous) (max (envelope.getD initial) (giveback.getD initial)))
  advanceLockedFloor := fun previous candidate _ =>
    .ok ⟨previous < candidate, max previous candidate⟩

def arm : EnvelopeArm where
  candidateId := "common_giveback"
  candidatePolicyId := "p"
  candidatePolicyHash := "h"
  canonicalPolicy :=
    { policyId := some "p"
      target1R := some 1
      target2R := some 4
      target1Quantity := some (3 / 10)
      initialStopPct := some (1 / 2)
      eodFlat := false }
  candidateOverlay :=
    [("giveback_mode", .text "override"), ("giveback_arm_r", .number (3 / 4)),
      ("giveback_retrace_fraction", .number (3 / 5))]

/-- The other arm: an envelope from a full loss up to the entry price. -/
def envelopeArm : EnvelopeArm where
  candidateId := "variant_a"
  candidatePolicyId := "q"
  candidatePolicyHash := "g"
  canonicalPolicy :=
    { arm.canonicalPolicy with
      policyId := some "q"
      riskEnvelopeEnabled := .bool true
      riskEnvelopeActivationR := .number (1 / 4)
      riskEnvelopeInitialFloorR := .number (-1)
      riskEnvelopeFloorAtT1R := .number 0
      riskEnvelopeCurvature := .number 1 }

def shadowEntry (bids : List ℚ) : ExitEdgeCase :=
  { entry bids with
    experiment :=
      { (entry bids).experiment with
        riskEnvelope := some { experimentId := "e", arms := [arm, envelopeArm] } } }

def controlRows (bids : List ℚ) : ControlRows := fun sequence =>
  ((controlObservations lab (shadowEntry bids) arm).toOption.getD []).find?
    fun row => row.sequence = sequence

def replayed (arm : EnvelopeArm) (bids : List ℚ) :
    Except PyException (Option PolicyOutcome × List EnvelopeObservation × ShadowEnvelopeState) :=
  replayEnvelopeCandidate lab kernel 0 0 (shadowEntry bids) arm (controlRows bids)

/-- The giveback locks 0.4 of the peak at 2R; the envelope is at its floor, the entry price. -/
def stateOf (arm : EnvelopeArm) (lockedFloorR : ℚ) (revision : ℤ) (lastObservationId : String) :
    ShadowEnvelopeState where
  tradeId := "t"
  experimentId := "e"
  candidateId := arm.candidateId
  candidatePolicyId := arm.candidatePolicyId
  candidatePolicyHash := arm.candidatePolicyHash
  lockedFloorR := some lockedFloorR
  lastEvaluatedAt := some "now"
  lastObservationId := some lastObservationId
  stateRevision := revision

theorem produces (arm : EnvelopeArm) (bids : List ℚ) (state : ShadowEnvelopeState)
    (h : (replayed arm bids).toOption.map (·.2.2) = some state) :
    Produces lab kernel 0 0 (shadowEntry []) (bids.mapIdx quote) arm state := by
  obtain ⟨⟨outcome, rows, last⟩, hreplayed, hlast⟩ := Option.map_eq_some_iff.mp h
  obtain rfl : last = state := hlast
  refine ⟨controlRows bids, outcome, rows, ?_⟩
  cases hok : replayed arm bids with
  | error e =>
    rw [hok] at hreplayed
    cases hreplayed
  | ok result =>
    rw [hok] at hreplayed
    obtain rfl : result = _ := Option.some.inj hreplayed
    exact hok

/-- The giveback after two quotes. -/
def givebackOfTwo (updatedAt : String) : List Submission :=
  [⟨[2, 2].mapIdx quote, arm, stateOf arm (4 / 5) 2 "t:0:common_giveback", updatedAt⟩]

def envelopeOfTwo (updatedAt : String) : List Submission :=
  [⟨[2, 2].mapIdx quote, envelopeArm, stateOf envelopeArm 0 2 "t:0:variant_a", updatedAt⟩]

def bothOfThree (updatedAt : String) : List Submission :=
  [⟨[2, 2, 1].mapIdx quote, arm, stateOf arm (4 / 5) 3 "t:2:common_giveback", updatedAt⟩,
    ⟨[2, 2, 1].mapIdx quote, envelopeArm, stateOf envelopeArm 0 3 "t:2:variant_a", updatedAt⟩]

/-- The giveback is submitted a second time after the other arm. -/
def calls : List (List Submission) :=
  [givebackOfTwo "noon", envelopeOfTwo "noon", givebackOfTwo "one", bothOfThree "two"]

theorem growingTapes : GrowingTapes lab kernel 0 0 (shadowEntry []) calls where
  produced := by
    have hgiveback := produces arm [2, 2] (stateOf arm (4 / 5) 2 "t:0:common_giveback")
      (by decide +kernel)
    have henvelope := produces envelopeArm [2, 2] (stateOf envelopeArm 0 2 "t:0:variant_a")
      (by decide +kernel)
    have hgiveback' := produces arm [2, 2, 1] (stateOf arm (4 / 5) 3 "t:2:common_giveback")
      (by decide +kernel)
    have henvelope' := produces envelopeArm [2, 2, 1] (stateOf envelopeArm 0 3 "t:2:variant_a")
      (by decide +kernel)
    simp only [calls, givebackOfTwo, envelopeOfTwo, bothOfThree, List.flatten_cons, List.flatten_nil,
      List.append_nil, List.singleton_append, List.forall_mem_cons, List.not_mem_nil, false_imp_iff,
      implies_true, and_true]
    exact ⟨hgiveback, henvelope, hgiveback, hgiveback', henvelope'⟩
  registered := by decide +kernel
  growing := by decide +kernel

end ThirdsTape

open ThirdsTape in
theorem shadow_store_accepts_growing_tapes_thirds :
    let reached := finish storeStep Table.empty ([givebackOfTwo "noon", envelopeOfTwo "noon"].map batchOf)
    (∀ e ∈ trace storeStep Table.empty (calls.map batchOf),
      e.result = .ok () ∧ Persisted e.call e.before e.after ∧ NeverDecreases e.before e.after) ∧
    ∀ key, stored (storeStep (batchOf (givebackOfTwo "one")) reached).2 key = stored reached key := by
  intro reached
  have hkernel : kernel.NeverLowers := by
    intro previous candidate step advanced h
    cases h
    exact le_max_left previous candidate
  have haccepted := shadow_store_accepts_growing_tapes lab kernel 0 0 (shadowEntry []) hkernel calls
    growingTapes Table.empty (by simp)
  refine ⟨haccepted.1, ?_⟩
  exact haccepted.2.1 [] (givebackOfTwo "noon") [envelopeOfTwo "noon"] (givebackOfTwo "one")
    [bothOfThree "two"] rfl rfl

end Bhiksha.Lab
