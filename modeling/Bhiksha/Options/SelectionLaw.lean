import Bhiksha.Options.ChainSnapshot

/-! The selector and the chain snapshot judge every contract alike. -/

namespace Bhiksha.Options

open Python Library

variable {request : OptionSelectionRequest} {params : ExecutionParams}
  {contract : OptionContractSnapshot} {contracts permuted : List OptionContractSnapshot}

/-! ### The cascade -/

def Desired (request : OptionSelectionRequest) (contract : OptionContractSnapshot) : Prop :=
  contract.underlyingSymbol = request.symbol ∧
    contract.contractType.toUpper = requiredContractType request

instance (request : OptionSelectionRequest) (contract : OptionContractSnapshot) :
    Decidable (Desired request contract) := inferInstanceAs (Decidable (_ ∧ _))

@[simp] theorem mem_desiredContracts :
    contract ∈ desiredContracts request contracts ↔ contract ∈ contracts ∧ Desired request contract := by
  simp [desiredContracts, Desired]

/-- What one turn of the selector's loop decides about a contract. -/
def fate (request : OptionSelectionRequest) (contract : OptionContractSnapshot) : Verdict :=
  if contract.underlyingSymbol ≠ request.symbol then .rejected .wrongUnderlying
  else if contract.contractType.toUpper ≠ requiredContractType request then
    .rejected .wrongContractType
  else if ¬ request.executionParams.InWindow contract.dte then .rejected .dteOutOfRange
  else nonDteVerdict request.executionParams contract

theorem fate_of_desired (hdesired : Desired request contract) :
    fate request contract =
      if request.executionParams.InWindow contract.dte then
        nonDteVerdict request.executionParams contract
      else .rejected .dteOutOfRange := by
  unfold fate
  rw [if_neg (not_not.mpr hdesired.1), if_neg (not_not.mpr hdesired.2), ite_not]

theorem fate_of_undesired (hdesired : ¬ Desired request contract) :
    fate request contract = .rejected .wrongUnderlying ∨
      fate request contract = .rejected .wrongContractType := by
  unfold fate
  by_cases hunderlying : contract.underlyingSymbol = request.symbol
  · have htype : contract.contractType.toUpper ≠ requiredContractType request :=
      fun h => hdesired ⟨hunderlying, h⟩
    exact Or.inr (by rw [if_neg (not_not.mpr hunderlying), if_pos htype])
  · exact Or.inl (if_pos hunderlying)

/-- The reasons that the cascade itself gives, after the DTE check. -/
def Reason.IsNonDte : Reason → Prop
  | wrongUnderlying | wrongContractType | dteOutOfRange => False
  | _ => True

theorem isNonDte_of_nonDteVerdict {reason : Reason}
    (h : nonDteVerdict params contract = .rejected reason) : reason.IsNonDte := by
  have hhard : ∀ hard, hardQuoteReason contract = some hard → hard = .openInterestUnavailable := by
    intro hard hsome
    unfold hardQuoteReason at hsome
    split at hsome
    · exact (Option.some.inj hsome).symm
    · split at hsome
      · exact (Option.some.inj hsome).symm
      · cases hsome
  unfold nonDteVerdict at h
  split at h
  next hard hsome =>
    cases h
    rw [hhard _ hsome]
    trivial
  next =>
    split at h
    · cases h
      trivial
    · split at h
      · cases h
        trivial
      · cases h

theorem passesNonDteFilters_iff :
    passesNonDteFilters params contract = true ↔ nonDteVerdict params contract = .accepted := by
  unfold passesNonDteFilters nonDteVerdict
  cases hardQuoteReason contract with
  | some hard => simp
  | none =>
    cases params.deltaBelowMin contract with
    | true => simp
    | false => cases params.deltaAboveMax contract <;> simp

/-- A verdict of the cascade is given to the contracts of the window, and only to those. -/
theorem fate_eq_iff {verdict : Verdict} (h : ∀ reason, verdict = .rejected reason → reason.IsNonDte) :
    fate request contract = verdict ↔
      Desired request contract ∧ request.executionParams.InWindow contract.dte ∧
        nonDteVerdict request.executionParams contract = verdict := by
  by_cases hdesired : Desired request contract
  · have houtside : Verdict.rejected .dteOutOfRange ≠ verdict := fun heq => h _ heq.symm
    rw [fate_of_desired hdesired]
    by_cases hwindow : request.executionParams.InWindow contract.dte
    · simp [hdesired, hwindow]
    · simp [hwindow, houtside]
  · have hfate : fate request contract ≠ verdict := by
      intro heq
      rcases fate_of_undesired hdesired with hwrong | hwrong
      · exact h _ (heq.symm.trans hwrong)
      · exact h _ (heq.symm.trans hwrong)
    simp [hfate, hdesired]

theorem fate_eq_accepted_iff : fate request contract = .accepted ↔
    Desired request contract ∧ request.executionParams.InWindow contract.dte ∧
      nonDteVerdict request.executionParams contract = .accepted :=
  fate_eq_iff (fun _ h => nomatch h)

theorem fate_eq_dteOutOfRange_iff : fate request contract = .rejected .dteOutOfRange ↔
    Desired request contract ∧ ¬ request.executionParams.InWindow contract.dte := by
  by_cases hdesired : Desired request contract
  · have hne : nonDteVerdict request.executionParams contract ≠ .rejected .dteOutOfRange :=
      fun h => isNonDte_of_nonDteVerdict h
    rw [fate_of_desired hdesired]
    by_cases hwindow : request.executionParams.InWindow contract.dte
    · simp [hwindow, hne]
    · simp [hdesired, hwindow]
  · rcases fate_of_undesired hdesired with hwrong | hwrong <;> simp [hwrong, hdesired]

/-! ### The loop -/

def Eliminated.record (eliminated : Eliminated) : Verdict → Eliminated
  | .accepted => eliminated
  | .rejected reason => eliminated.bump reason

/-- One turn of the loop, from what it decides about the contract. -/
theorem scanContract_eq (scan : Scan) : scanContract request scan contract =
    { eliminated := scan.eliminated.record (fate request contract)
      filtered := scan.filtered ++ if fate request contract = .accepted then [contract] else []
      desiredContracts := scan.desiredContracts ++ if Desired request contract then [contract] else []
      dteWindowCandidates := scan.dteWindowCandidates +
        if Desired request contract ∧ request.executionParams.InWindow contract.dte
          then 1 else 0 } := by
  by_cases hunderlying : contract.underlyingSymbol = request.symbol
  swap
  · simp [scanContract, fate, Desired, hunderlying, Scan.eliminate, Eliminated.record]
  by_cases htype : contract.contractType.toUpper = requiredContractType request
  swap
  · simp [scanContract, fate, Desired, hunderlying, htype, Scan.eliminate, Eliminated.record]
  have hdesired : Desired request contract := ⟨hunderlying, htype⟩
  by_cases hwindow : request.executionParams.InWindow contract.dte
  swap
  · simp [scanContract, fate_of_desired hdesired, hdesired, hunderlying, htype, hwindow,
      Scan.eliminate, Eliminated.record]
  -- inside the window the cascade of the snapshot names the branch that is taken
  simp only [scanContract, fate_of_desired hdesired, hdesired, hunderlying, htype, hwindow,
    nonDteVerdict, ne_eq, not_true_eq_false, if_false, if_true, and_self]
  cases hardQuoteReason contract with
  | some hard => simp [Scan.eliminate, Eliminated.record]
  | none =>
    cases request.executionParams.deltaBelowMin contract with
    | true => simp [Scan.eliminate, Eliminated.record]
    | false =>
      cases request.executionParams.deltaAboveMax contract <;>
        simp [Scan.eliminate, Eliminated.record]

theorem count_record (eliminated : Eliminated) (verdict : Verdict) (reason : Reason) :
    (eliminated.record verdict).count reason =
      eliminated.count reason + if verdict = .rejected reason then 1 else 0 := by
  cases verdict with
  | accepted => simp [Eliminated.record]
  | rejected given =>
    by_cases h : reason = given
    · simp [Eliminated.record, Eliminated.bump, h]
    · simp [Eliminated.record, Eliminated.bump, h, Ne.symm h]

theorem totalCandidates_record (eliminated : Eliminated) (verdict : Verdict) :
    (eliminated.record verdict).totalCandidates = eliminated.totalCandidates := by
  cases verdict <;> rfl

/-- What the loop has gathered from the contracts it has read. -/
structure Scanned (request : OptionSelectionRequest) (contracts : List OptionContractSnapshot)
    (total : ℕ) (scan : Scan) : Prop where
  total : scan.eliminated.totalCandidates = total
  count : ∀ reason, scan.eliminated.count reason =
    contracts.countP fun contract => fate request contract = .rejected reason
  filtered : scan.filtered = contracts.filter fun contract => fate request contract = .accepted
  desired : scan.desiredContracts = desiredContracts request contracts
  window : scan.dteWindowCandidates = contracts.countP fun contract =>
    Desired request contract ∧ request.executionParams.InWindow contract.dte

theorem Scanned.step {total : ℕ} {scan : Scan} (h : Scanned request contracts total scan) :
    Scanned request (contracts ++ [contract]) total (scanContract request scan contract) := by
  rw [scanContract_eq]
  constructor
  · rw [totalCandidates_record, h.total]
  · intro reason
    rw [count_record, h.count, List.countP_append, List.countP_singleton]
    simp only [decide_eq_true_eq]
  · rw [h.filtered, List.filter_append, List.filter_singleton, Bool.cond_decide]
  · rw [h.desired, desiredContracts, desiredContracts, List.filter_append, List.filter_singleton,
      Bool.cond_decide]
    rfl
  · rw [h.window, List.countP_append, List.countP_singleton]
    simp only [decide_eq_true_eq]

theorem scanContracts_scanned :
    Scanned request contracts contracts.length (scanContracts request contracts) := by
  have hfold : ∀ total, Scanned request contracts total
      (contracts.foldl (scanContract request) { eliminated := .start total }) := by
    intro total
    -- on the contracts read so far
    induction contracts using List.reverseRecOn with
    | nil => exact ⟨rfl, fun _ => rfl, rfl, rfl, rfl⟩
    | append_singleton contracts contract ih =>
      rw [List.foldl_append, List.foldl_cons, List.foldl_nil]
      exact ih.step
  exact hfold contracts.length

/-! ### The fallback -/

theorem mem_sortedDtes {keep : ℤ → Bool} {dte : ℤ} :
    dte ∈ sortedDtes keep contracts ↔ keep dte = true ∧ ∃ contract ∈ contracts, contract.dte = dte := by
  rw [sortedDtes, mem_sortedBy, List.mem_dedup, List.mem_filter, List.mem_map]
  exact and_comm

theorem sortedDtes_perm {keep : ℤ → Bool} (h : contracts.Perm permuted) :
    sortedDtes keep contracts = sortedDtes keep permuted :=
  sortedBy_eq_of_perm ((h.map (·.dte)).filter keep).dedup fun _ _ _ _ => id

theorem lt_of_mem_attemptedDtes {dte : ℤ} (h : dte ∈ attemptedDtes params contracts) :
    params.dteMax < dte := by
  have hlater : dte ∈ sortedDtes (fun dte => params.dteMax < dte ∧
      ∀ bound ∈ params.dteFallbackMax, dte ≤ bound) contracts := by
    unfold attemptedDtes at h
    simp only at h
    split at h
    · exact h
    · exact List.mem_of_mem_take h
  have hkeep := (mem_sortedDtes.mp hlater).1
  simp only [Bool.decide_and, Bool.and_eq_true, decide_eq_true_eq] at hkeep
  exact hkeep.1

theorem attemptedDtes_perm (h : contracts.Perm permuted) :
    attemptedDtes params contracts = attemptedDtes params permuted := by
  unfold attemptedDtes
  rw [sortedDtes_perm h]

/-- The candidates of one expiry. -/
def expiryCandidates (params : ExecutionParams) (contracts : List OptionContractSnapshot)
    (dte : ℤ) : List OptionContractSnapshot :=
  contracts.filter fun contract => contract.dte = dte ∧ passesNonDteFilters params contract

theorem mem_expiryCandidates {dte : ℤ} : contract ∈ expiryCandidates params contracts dte ↔
    contract ∈ contracts ∧ contract.dte = dte ∧ nonDteVerdict params contract = .accepted := by
  simp [expiryCandidates, passesNonDteFilters_iff]

theorem nearestAfterWalk_cons (count : ℕ) (dte : ℤ) (rest : List ℤ) :
    nearestAfterWalk params contracts count (dte :: rest) =
      if expiryCandidates params contracts dte = [] then
        nearestAfterWalk params contracts (count + 1) rest
      else (expiryCandidates params contracts dte, count + 1) := rfl

/-- The walk comes back with the candidates of one of its expiries, or with none at all. -/
theorem nearestAfterWalk_cases (params : ExecutionParams)
    (contracts : List OptionContractSnapshot) (count : ℕ) (dtes : List ℤ) :
    (nearestAfterWalk params contracts count dtes).1 = [] ∧
        (∀ dte ∈ dtes, expiryCandidates params contracts dte = []) ∨
      ∃ dte ∈ dtes, (nearestAfterWalk params contracts count dtes).1 =
        expiryCandidates params contracts dte ∧ expiryCandidates params contracts dte ≠ [] := by
  induction dtes generalizing count with
  | nil => exact Or.inl ⟨rfl, by simp⟩
  | cons dte rest ih =>
    rw [nearestAfterWalk_cons]
    by_cases hempty : expiryCandidates params contracts dte = []
    · rw [if_pos hempty]
      rcases ih (count + 1) with ⟨hnone, hrest⟩ | ⟨later, hlater, heq, hne⟩
      · exact Or.inl ⟨hnone, List.forall_mem_cons.mpr ⟨hempty, hrest⟩⟩
      · exact Or.inr ⟨later, List.mem_cons_of_mem dte hlater, heq, hne⟩
    · rw [if_neg hempty]
      exact Or.inr ⟨dte, List.mem_cons_self, rfl, hempty⟩

theorem nearestAfterWalk_perm (params : ExecutionParams) (h : contracts.Perm permuted) (count : ℕ)
    (dtes : List ℤ) :
    (nearestAfterWalk params contracts count dtes).1.Perm
        (nearestAfterWalk params permuted count dtes).1 ∧
      (nearestAfterWalk params contracts count dtes).2 =
        (nearestAfterWalk params permuted count dtes).2 := by
  induction dtes generalizing count with
  | nil => exact ⟨List.Perm.refl _, rfl⟩
  | cons dte rest ih =>
    have hexpiry : (expiryCandidates params contracts dte).Perm
        (expiryCandidates params permuted dte) := h.filter _
    rw [nearestAfterWalk_cons, nearestAfterWalk_cons]
    by_cases hempty : expiryCandidates params contracts dte = []
    · rw [if_pos hempty, if_pos (List.Perm.nil_eq (hempty ▸ hexpiry)).symm]
      exact ih (count + 1)
    · have hother : expiryCandidates params permuted dte ≠ [] :=
        fun hnil => hempty (List.Perm.eq_nil (hnil ▸ hexpiry))
      rw [if_neg hempty, if_neg hother]
      exact ⟨hexpiry, rfl⟩

/-! ### What the ranking starts from -/

/-- The candidates of a whole chain. -/
def chainCandidates (request : OptionSelectionRequest)
    (contracts : List OptionContractSnapshot) : Candidates :=
  candidatesOf request.executionParams (scanContracts request contracts)

def FallsBack (request : OptionSelectionRequest) (contracts : List OptionContractSnapshot) : Prop :=
  (scanContracts request contracts).filtered = [] ∧
    request.executionParams.fallbackPolicy = "allow_nearest_after"

theorem filtered_of_fallsBack (h : FallsBack request contracts) :
    (chainCandidates request contracts).filtered =
      (nearestAfterWalk request.executionParams (desiredContracts request contracts) 0
        (attemptedDtes request.executionParams (desiredContracts request contracts))).1 := by
  have hfilter : chainCandidates request contracts = _ := if_pos h
  rw [hfilter, ← scanContracts_scanned.desired]

theorem filtered_of_window (h : ¬ FallsBack request contracts) :
    (chainCandidates request contracts).filtered = (scanContracts request contracts).filtered := by
  have hfilter : chainCandidates request contracts = _ := if_neg h
  rw [hfilter]

theorem mem_scan_filtered : contract ∈ (scanContracts request contracts).filtered ↔
    contract ∈ desiredContracts request contracts ∧
      request.executionParams.InWindow contract.dte ∧
      nonDteVerdict request.executionParams contract = .accepted := by
  rw [scanContracts_scanned.filtered, List.mem_filter, decide_eq_true_eq, fate_eq_accepted_iff,
    mem_desiredContracts, and_assoc]

theorem scan_filtered_empty_iff : (scanContracts request contracts).filtered = [] ↔
    ∀ contract ∈ desiredContracts request contracts,
      request.executionParams.InWindow contract.dte →
      nonDteVerdict request.executionParams contract ≠ .accepted := by
  rw [List.eq_nil_iff_forall_not_mem]
  simp only [mem_scan_filtered, not_and, ne_eq]

theorem walk_empty_iff : (nearestAfterWalk params contracts 0 (attemptedDtes params contracts)).1 = [] ↔
    ∀ contract ∈ contracts, contract.dte ∈ attemptedDtes params contracts →
      nonDteVerdict params contract ≠ .accepted := by
  have hnone : ∀ dte, expiryCandidates params contracts dte = [] ↔
      ∀ contract ∈ contracts, contract.dte = dte → nonDteVerdict params contract ≠ .accepted := by
    intro dte
    rw [List.eq_nil_iff_forall_not_mem]
    simp only [mem_expiryCandidates, not_and, ne_eq]
  constructor
  · intro hempty contract hmem hdte
    rcases nearestAfterWalk_cases params contracts 0 (attemptedDtes params contracts) with
      ⟨-, hall⟩ | ⟨dte, -, heq, hne⟩
    · exact (hnone _).mp (hall _ hdte) contract hmem rfl
    · exact absurd (heq.symm.trans hempty) hne
  · intro hall
    rcases nearestAfterWalk_cases params contracts 0 (attemptedDtes params contracts) with
      ⟨hempty, -⟩ | ⟨dte, hdte, -, hne⟩
    · exact hempty
    · refine absurd ((hnone dte).mpr fun contract hmem heq => ?_) hne
      exact hall contract hmem (heq.symm ▸ hdte)

/-- The ranking has nothing to start from exactly when nothing in the window is accepted and, under
the fallback, nothing at the expiries it tries. -/
theorem candidates_empty_iff : (chainCandidates request contracts).filtered = [] ↔
    (∀ contract ∈ desiredContracts request contracts,
      request.executionParams.InWindow contract.dte →
      nonDteVerdict request.executionParams contract ≠ .accepted) ∧
    (request.executionParams.fallbackPolicy = "allow_nearest_after" →
      ∀ contract ∈ desiredContracts request contracts,
        contract.dte ∈ attemptedDtes request.executionParams (desiredContracts request contracts) →
        nonDteVerdict request.executionParams contract ≠ .accepted) := by
  by_cases hfallback : FallsBack request contracts
  · have hwindow := scan_filtered_empty_iff.mp hfallback.1
    rw [filtered_of_fallsBack hfallback, walk_empty_iff]
    exact ⟨fun h => ⟨hwindow, fun _ => h⟩, fun h => h.2 hfallback.2⟩
  · rw [filtered_of_window hfallback, scan_filtered_empty_iff]
    refine ⟨fun h => ⟨h, fun hpolicy => ?_⟩, fun h => h.1⟩
    exact absurd ⟨scan_filtered_empty_iff.mpr h, hpolicy⟩ hfallback

/-- A candidate is a desired contract that the cascade accepts. -/
theorem accepted_of_candidate (h : contract ∈ (chainCandidates request contracts).filtered) :
    contract ∈ desiredContracts request contracts ∧
      nonDteVerdict request.executionParams contract = .accepted := by
  by_cases hfallback : FallsBack request contracts
  · rw [filtered_of_fallsBack hfallback] at h
    rcases nearestAfterWalk_cases request.executionParams
      (desiredContracts request contracts) 0
      (attemptedDtes request.executionParams (desiredContracts request contracts)) with
      ⟨hempty, -⟩ | ⟨dte, -, heq, -⟩
    · rw [hempty] at h
      exact absurd h List.not_mem_nil
    · rw [heq] at h
      obtain ⟨hmem, -, haccepted⟩ := mem_expiryCandidates.mp h
      exact ⟨hmem, haccepted⟩
  · rw [filtered_of_window hfallback] at h
    obtain ⟨hmem, -, haccepted⟩ := mem_scan_filtered.mp h
    exact ⟨hmem, haccepted⟩

theorem candidates_sublist : (chainCandidates request contracts).filtered.Sublist contracts := by
  have hdesired : (desiredContracts request contracts).Sublist contracts := List.filter_sublist
  by_cases hfallback : FallsBack request contracts
  · rw [filtered_of_fallsBack hfallback]
    rcases nearestAfterWalk_cases request.executionParams
      (desiredContracts request contracts) 0
      (attemptedDtes request.executionParams (desiredContracts request contracts)) with
      ⟨hempty, -⟩ | ⟨dte, -, heq, -⟩
    · rw [hempty]
      exact List.nil_sublist contracts
    · rw [heq]
      exact List.filter_sublist.trans hdesired
  · rw [filtered_of_window hfallback, scanContracts_scanned.filtered]
    exact List.filter_sublist

/-! ### What the selector returns -/

theorem ranked_length (filtered : List OptionContractSnapshot) :
    (ranked params filtered).length = filtered.length := length_sortedBy

theorem mem_ranked {filtered : List OptionContractSnapshot} :
    contract ∈ ranked params filtered ↔ contract ∈ filtered := mem_sortedBy

theorem mem_of_pythonGet? {rank : ℤ} (h : pythonGet? contracts rank = some contract) :
    contract ∈ contracts := by
  unfold pythonGet? at h
  simp only at h
  generalize (if rank < 0 then rank + contracts.length else rank) = index at h
  split at h
  · cases h
  · exact List.mem_of_getElem? h

theorem select_eq : select request contracts =
    if (chainCandidates request contracts).filtered = [] then
      .error (.selectorEmpty (noCandidateError request (scanContracts request contracts)))
    else
      let ranked := ranked request.executionParams (chainCandidates request contracts).filtered
      if (ranked.length : ℤ) ≤ request.executionParams.entryCandidateRank then
        .error (.selectorEmpty
          { deploymentId := request.deploymentId
            breakdown := (scanContracts request contracts).eliminated
            diagnostics := .rankedCandidatesExhausted ranked.length })
      else
        match pythonGet? ranked request.executionParams.entryCandidateRank with
        | none => .error .indexError
        | some chosen => .ok (selectionOf request.executionParams (desiredContracts request contracts)
            (chainCandidates request contracts) chosen) := by
  rw [← scanContracts_scanned.desired]
  rfl

/-- What is selected is one of the candidates, with the attributes that it has. -/
theorem select_eq_ok {selection : OptionSelection} (h : select request contracts = .ok selection) :
    ∃ chosen ∈ (chainCandidates request contracts).filtered,
      selection = selectionOf request.executionParams (desiredContracts request contracts)
        (chainCandidates request contracts) chosen := by
  rw [select_eq] at h
  simp only at h
  split at h
  · cases h
  split at h
  · cases h
  split at h
  · cases h
  next chosen hchosen =>
    cases h
    exact ⟨chosen, mem_ranked.mp (mem_of_pythonGet? hchosen), rfl⟩

/-- Every error of the selector carries the breakdown of its own loop. -/
theorem breakdown_of_select {error : SelectorEmptyError}
    (h : select request contracts = .error (.selectorEmpty error)) :
    error.breakdown = (scanContracts request contracts).eliminated := by
  rw [select_eq] at h
  simp only at h
  split at h
  · cases h
    rfl
  split at h
  · cases h
    rfl
  split at h
  · cases h
  · cases h

/-- The first candidate is always there; only an empty ranking refuses it. -/
theorem select_empty_iff (hrank : request.executionParams.entryCandidateRank = 0) :
    (∃ error, select request contracts = .error (.selectorEmpty error)) ↔
      (chainCandidates request contracts).filtered = [] := by
  constructor
  · rintro ⟨error, h⟩
    by_contra hsome
    have hlength : 0 < (ranked request.executionParams
        (chainCandidates request contracts).filtered).length := by
      rw [ranked_length]
      exact List.length_pos_of_ne_nil hsome
    rw [select_eq] at h
    simp only at h
    rw [if_neg hsome, hrank, if_neg (by exact_mod_cast hlength.not_ge)] at h
    split at h
    · cases h
    · cases h
  · intro hempty
    rw [select_eq, if_pos hempty]
    exact ⟨_, rfl⟩

/-! ### The order of the chain -/

theorem scan_perm (request : OptionSelectionRequest) (h : contracts.Perm permuted) :
    (scanContracts request contracts).eliminated = (scanContracts request permuted).eliminated ∧
      (scanContracts request contracts).dteWindowCandidates =
        (scanContracts request permuted).dteWindowCandidates := by
  have hcount : (scanContracts request contracts).eliminated.count =
      (scanContracts request permuted).eliminated.count := by
    funext reason
    rw [scanContracts_scanned.count, scanContracts_scanned.count]
    exact h.countP_eq _
  have htotal : (scanContracts request contracts).eliminated.totalCandidates =
      (scanContracts request permuted).eliminated.totalCandidates := by
    rw [scanContracts_scanned.total, scanContracts_scanned.total, h.length_eq]
  constructor
  · cases hfirst : (scanContracts request contracts).eliminated
    cases hsecond : (scanContracts request permuted).eliminated
    simp_all
  · rw [scanContracts_scanned.window, scanContracts_scanned.window]
    exact h.countP_eq _

theorem desiredContracts_perm (request : OptionSelectionRequest) (h : contracts.Perm permuted) :
    (desiredContracts request contracts).Perm (desiredContracts request permuted) := h.filter _

theorem scan_filtered_perm (request : OptionSelectionRequest) (h : contracts.Perm permuted) :
    (scanContracts request contracts).filtered.Perm (scanContracts request permuted).filtered := by
  rw [scanContracts_scanned.filtered, scanContracts_scanned.filtered]
  exact h.filter _

theorem eq_nil_iff_of_perm {α : Type} {xs ys : List α} (h : xs.Perm ys) : xs = [] ↔ ys = [] :=
  ⟨fun hnil => List.Perm.nil_eq (hnil ▸ h) |>.symm, fun hnil => List.Perm.eq_nil (hnil ▸ h)⟩

/-- The same contracts are candidates in every order of the chain. -/
theorem chainCandidates_perm (request : OptionSelectionRequest) (h : contracts.Perm permuted) :
    (chainCandidates request contracts).filtered.Perm (chainCandidates request permuted).filtered ∧
      (chainCandidates request contracts).fallbackPolicyApplied =
        (chainCandidates request permuted).fallbackPolicyApplied ∧
      (chainCandidates request contracts).attemptedFallbackDtesCount =
        (chainCandidates request permuted).attemptedFallbackDtesCount := by
  have hfiltered := scan_filtered_perm request h
  have hdesired := desiredContracts_perm request h
  unfold chainCandidates candidatesOf nearestAfterCandidates
  rw [scanContracts_scanned.desired, scanContracts_scanned.desired, attemptedDtes_perm hdesired]
  have hwalk := nearestAfterWalk_perm request.executionParams hdesired 0
    (attemptedDtes request.executionParams (desiredContracts request permuted))
  by_cases hfallback : (scanContracts request contracts).filtered = [] ∧
      request.executionParams.fallbackPolicy = "allow_nearest_after"
  · have hother : (scanContracts request permuted).filtered = [] ∧
        request.executionParams.fallbackPolicy = "allow_nearest_after" :=
      ⟨(eq_nil_iff_of_perm hfiltered).mp hfallback.1, hfallback.2⟩
    rw [if_pos hfallback, if_pos hother]
    refine ⟨hwalk.1, ?_, hwalk.2⟩
    simp only [eq_nil_iff_of_perm hwalk.1]
  · have hother : ¬ ((scanContracts request permuted).filtered = [] ∧
        request.executionParams.fallbackPolicy = "allow_nearest_after") :=
      fun h => hfallback ⟨(eq_nil_iff_of_perm hfiltered).mpr h.1, h.2⟩
    rw [if_neg hfallback, if_neg hother]
    exact ⟨hfiltered, rfl, rfl⟩

theorem ranked_perm (params : ExecutionParams) {filtered other : List OptionContractSnapshot}
    (h : filtered.Perm other)
    (hsymbols : (filtered.map normalizedSymbol).Nodup) : ranked params filtered = ranked params other := by
  refine sortedBy_eq_of_perm h fun a ha b hb hkey => ?_
  -- the last part of the key tells two candidates apart
  have hsymbol : normalizedSymbol a = normalizedSymbol b :=
    congrArg (fun key => (ofLex (ofLex (ofLex key).2).2).2) hkey
  exact List.inj_on_of_nodup_map hsymbols ha hb hsymbol

theorem selectionOf_perm {desired other : List OptionContractSnapshot} (h : desired.Perm other)
    {candidates others : Candidates}
    (hpolicy : candidates.fallbackPolicyApplied = others.fallbackPolicyApplied)
    (hattempts : candidates.attemptedFallbackDtesCount = others.attemptedFallbackDtesCount)
    (chosen : OptionContractSnapshot) :
    selectionOf params desired candidates chosen = selectionOf params other others chosen := by
  have hpercentile : ∀ cohort cohort' : List OptionContractSnapshot, cohort.Perm cohort' →
      openInterestPercentile chosen cohort = openInterestPercentile chosen cohort' := by
    intro cohort cohort' hcohort
    unfold openInterestPercentile
    cases chosen.openInterest with
    | none => rfl
    | some interest =>
      simp only [eq_nil_iff_of_perm hcohort, hcohort.countP_eq, hcohort.length_eq]
  unfold selectionOf
  simp only [hpolicy, hattempts]
  rw [hpercentile _ _ (h.filter _)]

/-- The whole answer of the selector, its errors included, is one for all orders of a chain whose
symbols stay apart when they are normalized. -/
theorem select_perm (h : contracts.Perm permuted)
    (hsymbols : (contracts.map normalizedSymbol).Nodup) :
    select request permuted = select request contracts := by
  obtain ⟨hfiltered, hpolicy, hattempts⟩ := chainCandidates_perm request h
  obtain ⟨heliminated, hwindow⟩ := scan_perm request h
  have hdesired := desiredContracts_perm request h
  have hcandidates : ((chainCandidates request contracts).filtered.map normalizedSymbol).Nodup :=
    hsymbols.sublist (candidates_sublist.map normalizedSymbol)
  have hranked := ranked_perm request.executionParams hfiltered hcandidates
  have herror : noCandidateError request (scanContracts request contracts) =
      noCandidateError request (scanContracts request permuted) := by
    unfold noCandidateError nearestAfterDte
    simp only [scanContracts_scanned.desired, heliminated, hwindow, sortedDtes_perm hdesired]
  rw [select_eq, select_eq, hranked, herror, heliminated]
  simp only [eq_nil_iff_of_perm hfiltered, selectionOf_perm hdesired hpolicy hattempts]

/-! ### The snapshot -/

variable {sha256 : CanonicalSha256} {lane snapshotId : String}

theorem filter_key_eq_singleton {α κ : Type} [DecidableEq κ] {key : α → κ} {xs : List α} {a : α}
    (hkeys : (xs.map key).Nodup) (ha : a ∈ xs) : (xs.filter fun x => key a = key x) = [a] := by
  induction xs with
  | nil => cases ha
  | cons x xs ih =>
    rw [List.map_cons, List.nodup_cons] at hkeys
    rcases List.mem_cons.mp ha with rfl | htail
    · have hnone : (xs.filter fun x => key a = key x) = [] := by
        rw [List.filter_eq_nil_iff]
        intro y hy hkey
        exact hkeys.1 (List.mem_map.mpr ⟨y, hy, (of_decide_eq_true hkey).symm⟩)
      rw [List.filter_cons_of_pos (by simp), hnone]
    · have hne : key a ≠ key x := by
        intro hkey
        exact hkeys.1 (List.mem_map.mpr ⟨a, htail, hkey⟩)
      rw [List.filter_cons_of_neg (by simpa using hne), ih hkeys.2 htail]

/-- The row of an accepted contract says so, in the window or out of it. -/
def ContractSnapshotRow.SaysAccepted (row : ContractSnapshotRow) : Prop :=
  row.dteInWindow = true ∧ row.verdict = .accepted ∨
    row.dteInWindow = false ∧ row.fallbackVerdict = some .accepted

theorem saysAccepted_of_verdict {selected : Option String}
    (h : nonDteVerdict params contract = .accepted) :
    (rowForContract params selected contract).SaysAccepted := by
  by_cases hwindow : params.InWindow contract.dte
  · exact Or.inl (by simp [rowForContract, hwindow, h])
  · exact Or.inr (by simp [rowForContract, hwindow, h])

/-- The rows of a snapshot, from the contracts it captures. -/
theorem rows_eq (selection : Option OptionSelection) (selectorError : Option SelectorEmptyError) :
    (buildChainSnapshot sha256 lane snapshotId request contracts selection selectorError).rows =
      (captureCandidates request.executionParams
        (nearestAfterDte request.executionParams.dteMax none (desiredContracts request contracts))
        (selection.map (·.dte)) (desiredContracts request contracts)).map
      (rowForContract request.executionParams (selection.map (·.optionSymbol))) := rfl

/-- A snapshot captures the contract that was selected and marks no other. -/
theorem selected_rows {selection : OptionSelection} {chosen : OptionContractSnapshot}
    (hsymbols : (contracts.map (·.optionSymbol)).Nodup)
    (hchosen : chosen ∈ desiredContracts request contracts)
    (hsymbol : selection.optionSymbol = chosen.optionSymbol) (hdte : selection.dte = chosen.dte) :
    (buildChainSnapshot sha256 lane snapshotId request contracts (some selection) none).rows.filter
        (·.isSelected) =
      [rowForContract request.executionParams (some selection.optionSymbol) chosen] := by
  have hcaptured : chosen ∈ captureCandidates request.executionParams
      (nearestAfterDte request.executionParams.dteMax none (desiredContracts request contracts))
      (some selection.dte) (desiredContracts request contracts) :=
    List.mem_filter.mpr ⟨hchosen, by simp [hdte]⟩
  have hsub : (captureCandidates request.executionParams
      (nearestAfterDte request.executionParams.dteMax none (desiredContracts request contracts))
      (some selection.dte) (desiredContracts request contracts)).Sublist contracts :=
    List.filter_sublist.trans List.filter_sublist
  rw [rows_eq, List.filter_map, Option.map_some, Option.map_some]
  have hone := filter_key_eq_singleton (hsymbols.sublist (hsub.map (·.optionSymbol))) hcaptured
  have hmark : (fun row : ContractSnapshotRow => row.isSelected) ∘
      rowForContract request.executionParams (some selection.optionSymbol) =
      fun contract => decide (chosen.optionSymbol = contract.optionSymbol) := by
    funext contract
    simp [rowForContract, hsymbol]
  rw [hmark, hone, List.map_singleton]

/-- The rows of the window hold every desired contract of the window. -/
theorem countP_window_rows (selection : Option OptionSelection)
    (selectorError : Option SelectorEmptyError) {reason : Reason} (hreason : reason.IsNonDte) :
    ((buildChainSnapshot sha256 lane snapshotId request contracts selection
        selectorError).rows.filter (·.dteInWindow)).countP
        (fun row => row.verdict = .rejected reason) =
      contracts.countP fun contract => fate request contract = .rejected reason := by
  rw [rows_eq, List.countP_filter, List.countP_map, captureCandidates, List.countP_filter,
    desiredContracts, List.countP_filter]
  refine List.countP_congr fun contract _ => ?_
  have hfate : fate request contract = .rejected reason ↔
      Desired request contract ∧ request.executionParams.InWindow contract.dte ∧
        nonDteVerdict request.executionParams contract = .rejected reason := by
    apply fate_eq_iff
    rintro _ ⟨⟩
    exact hreason
  by_cases hwindow : request.executionParams.InWindow contract.dte
  · simp [hfate, rowForContract, hwindow, Desired]
    exact and_comm
  · simp [hfate, hwindow, rowForContract]

theorem countP_outside_rows (selected : Option String) :
    (candidateRows request contracts selected).countP
        (fun row => row.verdict = .rejected .dteOutOfRange) =
      contracts.countP fun contract => fate request contract = .rejected .dteOutOfRange := by
  rw [candidateRows, List.countP_map, desiredContracts, List.countP_filter]
  refine List.countP_congr fun contract _ => ?_
  have hverdict : nonDteVerdict request.executionParams contract ≠ .rejected .dteOutOfRange :=
    fun h => isNonDte_of_nonDteVerdict h
  by_cases hwindow : request.executionParams.InWindow contract.dte
  · simp [fate_eq_dteOutOfRange_iff, rowForContract, hwindow, hverdict]
  · simp [fate_eq_dteOutOfRange_iff, rowForContract, hwindow, Desired]

/-- What the rows of a candidate set say of its desired contracts. -/
theorem forall_candidateRows_iff {selected : Option String} {P : ContractSnapshotRow → Prop} :
    (∀ row ∈ candidateRows request contracts selected, P row) ↔
      ∀ contract ∈ desiredContracts request contracts,
        P (rowForContract request.executionParams selected contract) :=
  List.forall_mem_map

/-- At the first rank the selector finds nothing exactly when no row is accepted where it looks. -/
theorem select_empty_iff_rows (hrank : request.executionParams.entryCandidateRank = 0) :
    (∃ error, select request contracts = .error (.selectorEmpty error)) ↔
      (∀ row ∈ candidateRows request contracts none,
        row.dteInWindow = true → row.verdict ≠ .accepted) ∧
      (request.executionParams.fallbackPolicy = "allow_nearest_after" →
        ∀ row ∈ candidateRows request contracts none,
          row.dte ∈ attemptedDtes request.executionParams (desiredContracts request contracts) →
          row.fallbackVerdict ≠ some .accepted) := by
  rw [select_empty_iff hrank, candidates_empty_iff]
  refine and_congr ?_ (imp_congr_right fun _ => ?_)
  · rw [forall_candidateRows_iff]
    refine forall₂_congr fun contract _ => ?_
    by_cases hwindow : request.executionParams.InWindow contract.dte
    · simp [rowForContract, hwindow]
    · simp [rowForContract, hwindow]
  · rw [forall_candidateRows_iff]
    refine forall₂_congr fun contract _ => imp_congr_right fun hdte => ?_
    -- an expiry that the walk tries lies after the window
    have houtside : ¬ request.executionParams.InWindow contract.dte := by
      intro hinside
      exact absurd hinside.2 (not_le.mpr (lt_of_mem_attemptedDtes hdte))
    simp [rowForContract, houtside]

theorem candidateSetPayload_perm (h : contracts.Perm permuted)
    (hsymbols : (contracts.map (·.optionSymbol)).Nodup) (selected : Option String) :
    candidateSetPayload (candidateRows request contracts selected) =
      candidateSetPayload (candidateRows request permuted selected) := by
  have hrows : (candidateRows request contracts selected).Perm
      (candidateRows request permuted selected) := (desiredContracts_perm request h).map _
  have hnodup : ((candidateRows request contracts selected).map (·.optionSymbol)).Nodup := by
    have hsame : (candidateRows request contracts selected).map (·.optionSymbol) =
        (desiredContracts request contracts).map (·.optionSymbol) := by
      rw [candidateRows, List.map_map]
      rfl
    rw [hsame]
    exact hsymbols.sublist (List.filter_sublist.map _)
  unfold candidateSetPayload
  congr 1
  refine sortedBy_eq_of_perm hrows fun a ha b hb hkey => ?_
  have hsymbol : a.optionSymbol = b.optionSymbol := congrArg (fun key => (ofLex key).1) hkey
  exact List.inj_on_of_nodup_map hnodup ha hb hsymbol

/-- Both digests of a snapshot are one for all orders of a chain whose symbols are distinct. -/
theorem digests_perm (h : contracts.Perm permuted)
    (hsymbols : (contracts.map (·.optionSymbol)).Nodup) (selection : Option OptionSelection)
    (selectorError : Option SelectorEmptyError) :
    let snapshot := buildChainSnapshot sha256 lane snapshotId request contracts selection selectorError
    let other := buildChainSnapshot sha256 lane snapshotId request permuted selection selectorError
    other.optionCandidateSetSha256 = snapshot.optionCandidateSetSha256 ∧
      other.actualOptionSelectionSha256 = snapshot.actualOptionSelectionSha256 := by
  unfold buildChainSnapshot
  simp only [candidateSetPayload_perm h hsymbols, and_self]

/-- On every chain of distinct option symbols the snapshot tells what the selector did. The contract
that was selected is captured, is the only one marked and has an accepted row. The first rank is
refused exactly when no row is accepted where the selector looks. An error counts what the rows
show. For one and the same selection neither digest depends on the order of the chain; nor does the
selection itself, so long as the symbols stay apart without their spaces and in one case. -/
theorem selector_and_snapshot_agree (sha256 : CanonicalSha256) (lane snapshotId : String)
    (request : OptionSelectionRequest) (contracts : List OptionContractSnapshot)
    (hsymbols : (contracts.map (·.optionSymbol)).Nodup) :
    (∀ selection, select request contracts = .ok selection →
      ∃ chosen ∈ contracts, chosen.optionSymbol = selection.optionSymbol ∧
        let row := rowForContract request.executionParams (some selection.optionSymbol) chosen
        (buildChainSnapshot sha256 lane snapshotId request contracts (some selection)
          none).rows.filter (·.isSelected) = [row] ∧ row.SaysAccepted) ∧
    (request.executionParams.entryCandidateRank = 0 →
      ((∃ error, select request contracts = .error (.selectorEmpty error)) ↔
        (∀ row ∈ candidateRows request contracts none,
          row.dteInWindow = true → row.verdict ≠ .accepted) ∧
        (request.executionParams.fallbackPolicy = "allow_nearest_after" →
          ∀ row ∈ candidateRows request contracts none,
            row.dte ∈ attemptedDtes request.executionParams (desiredContracts request contracts) →
            row.fallbackVerdict ≠ some .accepted))) ∧
    (∀ error, select request contracts = .error (.selectorEmpty error) →
      (∀ reason : Reason, reason.IsNonDte → error.breakdown.count reason =
        ((buildChainSnapshot sha256 lane snapshotId request contracts none
          (some error)).rows.filter (·.dteInWindow)).countP
          fun row => row.verdict = .rejected reason) ∧
      error.breakdown.count .dteOutOfRange = (candidateRows request contracts none).countP
        fun row => row.verdict = .rejected .dteOutOfRange) ∧
    ∀ permuted, contracts.Perm permuted →
      (∀ selection selectorError,
        let snapshot := buildChainSnapshot sha256 lane snapshotId request contracts selection
          selectorError
        let other := buildChainSnapshot sha256 lane snapshotId request permuted selection
          selectorError
        other.optionCandidateSetSha256 = snapshot.optionCandidateSetSha256 ∧
          other.actualOptionSelectionSha256 = snapshot.actualOptionSelectionSha256) ∧
      ((contracts.map normalizedSymbol).Nodup →
        select request permuted = select request contracts) := by
  refine ⟨fun selection hok => ?_, select_empty_iff_rows, fun error herror => ?_,
    fun permuted hperm => ?_⟩
  · obtain ⟨chosen, hcandidate, rfl⟩ := select_eq_ok hok
    obtain ⟨hdesired, haccepted⟩ := accepted_of_candidate hcandidate
    have hmem : chosen ∈ contracts := (mem_desiredContracts.mp hdesired).1
    exact ⟨chosen, hmem, rfl, selected_rows hsymbols hdesired rfl rfl,
      saysAccepted_of_verdict haccepted⟩
  · rw [breakdown_of_select herror]
    refine ⟨fun reason hreason => ?_, ?_⟩
    · rw [scanContracts_scanned.count, countP_window_rows none (some error) hreason]
    · rw [scanContracts_scanned.count, countP_outside_rows]
  · exact ⟨digests_perm hperm hsymbols, select_perm hperm⟩

def callRequest : OptionSelectionRequest where
  deploymentId := "spy-probe"
  symbol := "SPY"
  direction := .long
  executionParams := {}

def paddedCall : OptionContractSnapshot where
  optionSymbol := "SPY   260821C00600000"
  underlyingSymbol := "SPY"
  contractType := "CALL"
  expirationDate := "2026-08-21"
  dte := 3
  strike := 600
  delta := some (3 / 10)
  bid := some 1
  ask := some (21 / 20)
  openInterest := some 100

def compactCall : OptionContractSnapshot :=
  { paddedCall with optionSymbol := "SPY260821C00600000" }

def fartherCall : OptionContractSnapshot :=
  { paddedCall with optionSymbol := "SPY260824C00600000", expirationDate := "2026-08-24", dte := 6 }

theorem selector_and_snapshot_agree_two_calls :
    [paddedCall, fartherCall].Perm [fartherCall, paddedCall] ∧
      select callRequest [fartherCall, paddedCall] = select callRequest [paddedCall, fartherCall] :=
  ⟨List.Perm.swap _ _ _,
    ((selector_and_snapshot_agree ⟨fun _ => "", fun _ => ""⟩ "live" "snapshot" callRequest
      [paddedCall, fartherCall] (by decide +kernel)).2.2.2 _ (List.Perm.swap _ _ _)).2
      (by decide +kernel)⟩

/-- Two symbols that differ by spaces only tie in the ranking, and the chain's order decides. -/
theorem selection_follows_chain_order :
    ([paddedCall, compactCall].map (·.optionSymbol)).Nodup ∧
      [paddedCall, compactCall].Perm [compactCall, paddedCall] ∧
      (select callRequest [paddedCall, compactCall]).toOption.map (·.optionSymbol) =
        some "SPY   260821C00600000" ∧
      (select callRequest [compactCall, paddedCall]).toOption.map (·.optionSymbol) =
        some "SPY260821C00600000" := by
  refine ⟨by decide +kernel, List.Perm.swap _ _ _, by decide +kernel, by decide +kernel⟩

end Bhiksha.Options
