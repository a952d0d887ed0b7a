import Bhiksha.Execution.ContractLaw
import Bhiksha.Library.Transaction
import Bhiksha.Ops.PairedReplay

/-! A paired replay looks at no later quote than its last fill, and its legs account for every contract
of the entry. -/

namespace Bhiksha.Lab

open Library

section Replays

variable {lab : LabPlatform} {policy : ReplayPolicy} {latencyMs maxFreshnessMs : ℚ}
  {case : ExitEdgeCase} {stopPct : ℚ}

/-- A leg that a quote of the tape triggered and a later one filled, at its executable bid. -/
def FilledFrom (lab : LabPlatform) (latencyMs maxFreshnessMs : ℚ) (quotes : List QuoteTapeMark)
    (leg : Leg) : Prop :=
  ∃ trigger ∈ quotes, ∃ fill ∈ quotes, leg.triggerSequence = trigger.sequence ∧
    leg.fillSequence = fill.sequence ∧ trigger.sequence < fill.sequence ∧
    latencyMs ≤ (fill.receivedAt - trigger.receivedAt) * 1000 ∧
    executable fill fill.ageMs maxFreshnessMs = true ∧ fill.bid = some leg.fillBid ∧
    leg.fillAt = lab.isoformat fill.receivedAt

theorem FilledFrom.append {quotes : List QuoteTapeMark} {leg : Leg}
    (h : FilledFrom lab latencyMs maxFreshnessMs quotes leg) (later : List QuoteTapeMark) :
    FilledFrom lab latencyMs maxFreshnessMs (quotes ++ later) leg := by
  obtain ⟨trigger, htrigger, fill, hfill, hrest⟩ := h
  exact ⟨trigger, List.mem_append_left later htrigger, fill, List.mem_append_left later hfill, hrest⟩

/-- What the legs have realized, before any rounding. -/
def realized (entryPremium : ℚ) (legs : List Leg) : ℚ :=
  (legs.map fun leg => (leg.fillBid - entryPremium) * leg.quantity * 100).sum

/-- The outcome of a replay accounts for the whole entry. -/
structure AccountsForEntry (lab : LabPlatform) (case : ExitEdgeCase) (latencyMs maxFreshnessMs : ℚ)
    (outcome : PolicyOutcome) : Prop where
  positive : ∀ leg ∈ outcome.legs, 0 < leg.quantity
  total : (outcome.legs.map (·.quantity)).sum = case.quantity
  increasing : outcome.legs.Pairwise fun earlier later => earlier.fillSequence < later.triggerSequence
  filled : ∀ leg ∈ outcome.legs, FilledFrom lab latencyMs maxFreshnessMs case.quotes leg
  pnl : outcome.realizedPnlUsd = Python.roundTo 2 (realized case.entryPremium outcome.legs)

/-! ### The invariant of the loop -/

/-- The legs of a book against the quotes read so far. -/
structure BookSound (lab : LabPlatform) (case : ExitEdgeCase) (latencyMs maxFreshnessMs : ℚ)
    (read : List QuoteTapeMark) (book : Book) : Prop where
  positive : ∀ leg ∈ book.legs, 0 < leg.quantity
  total : book.remaining + (book.legs.map (·.quantity)).sum = case.quantity
  increasing : book.legs.Pairwise fun earlier later => earlier.fillSequence < later.triggerSequence
  filled : ∀ leg ∈ book.legs, FilledFrom lab latencyMs maxFreshnessMs read leg
  pnl : book.pnl = realized case.entryPremium book.legs

/-- A pending exit takes either a part that leaves a runner, or all that remains. -/
structure PendingSound (read : List QuoteTapeMark) (book : Book) (pending : PendingExit) : Prop where
  trigger : pending.trigger ∈ read
  after : ∀ leg ∈ book.legs, leg.fillSequence < pending.trigger.sequence
  positive : 0 < pending.quantity
  part : pending.scales = true → pending.quantity ≤ book.remaining - 1
  whole : pending.scales = false → pending.quantity = book.remaining

/-- The contracts that a pending part will take out. -/
def scaledOut : Option PendingExit → ℤ
  | some pending => if pending.scales then pending.quantity else 0
  | none => 0

/-- What the ladder has banked is what has left the book, or is about to. -/
structure LadderSound (case : ExitEdgeCase) (state : ReplayState) : Prop where
  unbanked : state.ladder.target1Banked = false → state.ladder.bankedQuantity = 0
  banked : (∀ pending ∈ state.pending, pending.scales = true) →
    state.book.remaining - scaledOut state.pending = case.quantity - state.ladder.bankedQuantity

structure ReplaySound (lab : LabPlatform) (case : ExitEdgeCase) (latencyMs maxFreshnessMs : ℚ)
    (read : List QuoteTapeMark) (state : ReplayState) : Prop where
  remaining : 0 < state.book.remaining
  book : BookSound lab case latencyMs maxFreshnessMs read state.book
  pending : ∀ pending ∈ state.pending, PendingSound read state.book pending
  ladder : LadderSound case state

theorem BookSound.append {read : List QuoteTapeMark} {book : Book}
    (h : BookSound lab case latencyMs maxFreshnessMs read book) (quote : QuoteTapeMark) :
    BookSound lab case latencyMs maxFreshnessMs (read ++ [quote]) book :=
  { h with filled := fun leg hleg => (h.filled leg hleg).append [quote] }

theorem PendingSound.append {read : List QuoteTapeMark} {book : Book} {pending : PendingExit}
    (h : PendingSound read book pending) (quote : QuoteTapeMark) :
    PendingSound (read ++ [quote]) book pending :=
  { h with trigger := List.mem_append_left [quote] h.trigger }

theorem ReplaySound.append {read : List QuoteTapeMark} {state : ReplayState}
    (h : ReplaySound lab case latencyMs maxFreshnessMs read state) (quote : QuoteTapeMark) :
    ReplaySound lab case latencyMs maxFreshnessMs (read ++ [quote]) state :=
  { h with
    book := h.book.append quote
    pending := fun pending hmem => (h.pending pending hmem).append quote }

theorem ReplaySound.new (hquantity : 0 < case.quantity) :
    ReplaySound lab case latencyMs maxFreshnessMs [] (.new case) where
  remaining := hquantity
  book :=
    { positive := by simp [ReplayState.new]
      total := by simp [ReplayState.new]
      increasing := by simp [ReplayState.new]
      filled := by simp [ReplayState.new]
      pnl := by simp [ReplayState.new, realized] }
  pending := by simp [ReplayState.new]
  ladder :=
    { unbanked := fun _ => rfl
      banked := fun _ => by simp [ReplayState.new, scaledOut, ProfileExitState.new] }

/-- A fill moves its contracts from the book to a new leg. -/
theorem BookSound.fillAt {read : List QuoteTapeMark} {book : Book} {pending : PendingExit}
    {quote : QuoteTapeMark} {fill : ℚ} (h : BookSound lab case latencyMs maxFreshnessMs read book)
    (hpending : PendingSound read book pending) (hremaining : 0 < book.remaining)
    (hfills : fills latencyMs maxFreshnessMs pending quote = true) (hbid : quote.bid = some fill) :
    BookSound lab case latencyMs maxFreshnessMs (read ++ [quote])
      (fillAt lab case pending quote fill book) := by
  have hkept := h.append quote
  have hqty : 0 < min pending.quantity book.remaining := lt_min hpending.positive hremaining
  obtain ⟨hlater, helapsed, hexecutable⟩ : pending.trigger.sequence < quote.sequence ∧
      latencyMs ≤ (quote.receivedAt - pending.trigger.receivedAt) * 1000 ∧
      executable quote quote.ageMs maxFreshnessMs = true := by
    simpa [fills] using hfills
  have htrigger : pending.trigger ∈ read ++ [quote] := List.mem_append_left _ hpending.trigger
  have hquote : quote ∈ read ++ [quote] := List.mem_append_right _ (List.mem_singleton_self quote)
  constructor
  · intro leg hleg
    rcases List.mem_append.mp hleg with hold | hnew
    · exact hkept.positive leg hold
    · rw [List.mem_singleton.mp hnew]
      exact hqty
  · have htotal := h.total
    simp only [Lab.fillAt, List.map_append, List.sum_append, List.map_singleton, List.sum_singleton]
    omega
  · refine List.pairwise_append.mpr ⟨h.increasing, List.pairwise_singleton _ _, ?_⟩
    intro earlier hearlier later hlater'
    rw [List.mem_singleton.mp hlater']
    exact hpending.after earlier hearlier
  · intro leg hleg
    rcases List.mem_append.mp hleg with hold | hnew
    · exact hkept.filled leg hold
    · rw [List.mem_singleton.mp hnew]
      exact ⟨pending.trigger, htrigger, quote, hquote, rfl, rfl, hlater, helapsed, hexecutable, hbid,
        rfl⟩
  · have hpnl := h.pnl
    simp only [Lab.fillAt, realized, List.map_append, List.sum_append, List.map_singleton,
      List.sum_singleton] at hpnl ⊢
    rw [hpnl]

/-! ### One turn -/

theorem evaluateQuote_effect {quote : QuoteTapeMark} {bid : ℚ} {state after : ProfileExitState}
    {decision : ProfileExitDecision}
    (h : evaluateQuote lab case case.profile quote bid state = .ok (decision, after)) :
    TickEffect case.quantity state (.ok decision) after := by
  have heffect := ladderTick_effect lab.toPlatform case.profile case.entryPremium
    { market :=
        { currentPremium := some bid
          barTimeEt := some (lab.newYorkClock (decisionAt case quote)) }
      entryTime := some case.entryTimestamp
      now := decisionAt case quote
      quantity := case.quantity
      requireBarTimeForEod := true } state
  unfold evaluateQuote at h
  unfold ladderTick at heffect
  rw [h] at heffect
  exact heffect

theorem remainingQuantity_of_sound {state : ReplayState} (hladder : LadderSound case state)
    (hnone : state.pending = none) (hremaining : 0 < state.book.remaining) :
    remainingQuantity case.quantity state.ladder = state.book.remaining ∧
      state.book.remaining = case.quantity - state.ladder.bankedQuantity := by
  have hheld := hladder.banked (by simp [hnone])
  rw [hnone] at hheld
  have hbook : state.book.remaining = case.quantity - state.ladder.bankedQuantity := by
    simpa [scaledOut] using hheld
  refine ⟨?_, hbook⟩
  unfold remainingQuantity
  rw [if_pos (by omega), hbook]

theorem fillSequence_lt {read : List QuoteTapeMark} {book : Book} {quote : QuoteTapeMark}
    (h : BookSound lab case latencyMs maxFreshnessMs read book)
    (hlater : ∀ earlier ∈ read, earlier.sequence < quote.sequence) :
    ∀ leg ∈ book.legs, leg.fillSequence < quote.sequence := by
  intro leg hleg
  obtain ⟨-, -, fill, hfill, -, hsequence, -⟩ := h.filled leg hleg
  rw [hsequence]
  exact hlater fill hfill

/-- What a decision leaves pending, by what the ladder did. -/
theorem ReplaySound.of_effect {read : List QuoteTapeMark} {state : ReplayState} {quote : QuoteTapeMark}
    {decision : ProfileExitDecision} {after : ProfileExitState}
    (h : ReplaySound lab case latencyMs maxFreshnessMs read state) (hnone : state.pending = none)
    (hlater : ∀ earlier ∈ read, earlier.sequence < quote.sequence)
    (heffect : TickEffect case.quantity state.ladder (.ok decision) after) :
    ReplaySound lab case latencyMs maxFreshnessMs (read ++ [quote])
      { state with ladder := after, pending := pendingOf quote decision state.book.remaining } := by
  obtain ⟨hcloses, hheld⟩ := remainingQuantity_of_sound h.ladder hnone h.remaining
  have hlegs := fillSequence_lt h.book hlater
  have hremaining := h.remaining
  have hquote : quote ∈ read ++ [quote] := List.mem_append_right _ (List.mem_singleton_self quote)
  refine ⟨hremaining, h.book.append quote, ?_, ?_⟩
  · intro pending hpending
    unfold pendingOf at hpending
    by_cases hexit : decision.exit = true
    · rw [if_pos hexit] at hpending
      obtain rfl := Option.some.inj hpending
      cases heffect with
      | holds _ _ held => exact nomatch held.symm.trans hexit
      | moves _ _ held => exact nomatch held.symm.trans hexit
      | closes _ full action sold =>
        have hwhole := TickEffect.not_isPartial_of_isFull full
        have hqty : decision.exitQuantity = state.book.remaining := sold.trans hcloses
        refine ⟨hquote, hlegs, ?_, ?_, ?_⟩
        · simpa only [hqty, ite_self] using hremaining
        · intro hscales
          exact nomatch hwhole.symm.trans hscales
        · intro _
          simp only [hqty, ite_self]
      | banksAll _ _ full action sold unbanked =>
        have hwhole := TickEffect.not_isPartial_of_isFull full
        have hqty : decision.exitQuantity = state.book.remaining := by
          rw [sold, hheld, h.ladder.unbanked unbanked, sub_zero]
        refine ⟨hquote, hlegs, ?_, ?_, ?_⟩
        · simpa only [hqty, ite_self] using hremaining
        · intro hscales
          exact nomatch hwhole.symm.trans hscales
        · intro _
          simp only [hqty, ite_self]
      | banksPart _ _ exits action sells leaves unbanked =>
        have hqty : decision.exitQuantity ≠ 0 := by omega
        have hbank := h.ladder.unbanked unbanked
        have hscale : decide (decision.fsmAction = .partialScale) = true := decide_eq_true action
        refine ⟨hquote, hlegs, ?_, ?_, ?_⟩
        · simp only [if_neg hqty]
          omega
        · intro _
          simp only [if_neg hqty]
          omega
        · intro hwhole
          exact nomatch hscale.symm.trans hwhole
    · rw [if_neg hexit] at hpending
      cases hpending
  · cases heffect with
    | holds _ _ held action target1 banked =>
      refine ⟨fun hunbanked => ?_, fun _ => ?_⟩
      · exact banked.trans (h.ladder.unbanked (target1.symm.trans hunbanked))
      · simp [pendingOf, held, scaledOut, banked, hheld]
    | moves _ _ held action unemitted emittedNow target1 banked =>
      refine ⟨fun hunbanked => ?_, fun _ => ?_⟩
      · exact banked.trans (h.ladder.unbanked (target1.symm.trans hunbanked))
      · simp [pendingOf, held, scaledOut, banked, hheld]
    | closes _ full =>
      have hwhole := TickEffect.not_isPartial_of_isFull full
      have hexit := (Bool.and_eq_true_iff.mp full).1
      refine ⟨h.ladder.unbanked, fun hscales => ?_⟩
      have hscale := hscales _ (by rw [pendingOf, if_pos hexit]; rfl)
      exact nomatch hwhole.symm.trans hscale
    | banksAll _ _ full action sold unbanked target1 =>
      have hwhole := TickEffect.not_isPartial_of_isFull full
      have hexit := (Bool.and_eq_true_iff.mp full).1
      refine ⟨(fun hunbanked => nomatch target1.symm.trans hunbanked), fun hscales => ?_⟩
      have hscale := hscales _ (by rw [pendingOf, if_pos hexit]; rfl)
      exact nomatch hwhole.symm.trans hscale
    | banksPart _ _ exits action sells leaves unbanked target1 banked =>
      have hqty : decision.exitQuantity ≠ 0 := by omega
      have hbank := h.ladder.unbanked unbanked
      refine ⟨(fun hunbanked => nomatch target1.symm.trans hunbanked), fun _ => ?_⟩
      simp only [pendingOf, if_pos exits, scaledOut, action, decide_true, if_true, if_neg hqty]
      omega

/-- The contracts of a sound pending exit are all there to be filled. -/
theorem PendingSound.quantity_le {read : List QuoteTapeMark} {book : Book} {pending : PendingExit}
    (h : PendingSound read book pending) : min pending.quantity book.remaining = pending.quantity := by
  refine min_eq_left ?_
  cases hscales : pending.scales with
  | true =>
    have hpart := h.part hscales
    omega
  | false => exact (h.whole hscales).le

theorem fillTurn_cases {state : ReplayState} {pending : PendingExit} {quote : QuoteTapeMark}
    {next : Turn ReplayState PolicyOutcome}
    (h : fillTurn lab policy latencyMs maxFreshnessMs case state pending quote = .ok next) :
    next = .goesOn state ∨
      fills latencyMs maxFreshnessMs pending quote = true ∧ ∃ fill, quote.bid = some fill ∧
        next =
          if (fillAt lab case pending quote fill state.book).remaining ≤ 0 ∨ ¬ pending.scales then
            .returns (outcomeOf lab case policy.text pending.rule quote
              (fillAt lab case pending quote fill state.book))
          else
            .goesOn
              { state with book := fillAt lab case pending quote fill state.book, pending := none } := by
  unfold fillTurn at h
  by_cases hfills : fills latencyMs maxFreshnessMs pending quote = true
  · rw [if_pos hfills] at h
    obtain ⟨fill, hbid, hrest⟩ := Except.bind_eq_ok_iff.mp h
    have hquote : quote.bid = some fill := by
      unfold floatBid at hbid
      split at hbid
      next bid heq =>
        cases hbid
        exact heq
      next => cases hbid
    refine Or.inr ⟨hfills, fill, hquote, ?_⟩
    dsimp only at hrest
    split_ifs at hrest ⊢ <;> cases hrest <;> rfl
  · rw [if_neg hfills] at h
    cases h
    exact Or.inl rfl

/-- The legacy mechanics leave all that remains pending, and the ladder alone. -/
theorem ReplaySound.of_legacyRule {read : List QuoteTapeMark} {state : ReplayState}
    {quote : QuoteTapeMark} (h : ReplaySound lab case latencyMs maxFreshnessMs read state)
    (hnone : state.pending = none) (hlater : ∀ earlier ∈ read, earlier.sequence < quote.sequence)
    (fired : Option String) :
    ReplaySound lab case latencyMs maxFreshnessMs (read ++ [quote])
      { state with
        pending := fired.map fun rule =>
          { trigger := quote, rule, quantity := state.book.remaining, scales := false } } := by
  have hquote : quote ∈ read ++ [quote] := List.mem_append_right _ (List.mem_singleton_self quote)
  refine ⟨h.remaining, h.book.append quote, ?_, h.ladder.unbanked, ?_⟩
  · intro pending hpending
    obtain ⟨rule, -, rfl⟩ := Option.map_eq_some_iff.mp hpending
    exact ⟨hquote, fillSequence_lt h.book hlater, h.remaining, nofun, fun _ => rfl⟩
  · intro hscales
    cases fired with
    | none => simpa [hnone] using h.ladder.banked (by simp [hnone])
    | some rule => exact nomatch hscales _ rfl

/-- Every turn keeps the invariant, whatever the tape brings next. -/
theorem ReplaySound.turn {read : List QuoteTapeMark} {state after : ReplayState}
    {quote : QuoteTapeMark} (h : ReplaySound lab case latencyMs maxFreshnessMs read state)
    (hlater : ∀ earlier ∈ read, earlier.sequence < quote.sequence)
    (hturn : replayTurn lab policy latencyMs maxFreshnessMs case stopPct state quote =
      .ok (.goesOn after)) :
    ReplaySound lab case latencyMs maxFreshnessMs (read ++ [quote]) after := by
  unfold replayTurn at hturn
  split at hturn
  next pending hpending =>
    have hsound := h.pending pending hpending
    rcases fillTurn_cases hturn with hsame | ⟨hfills, fill, hbid, hnext⟩
    · cases hsame
      exact h.append quote
    · split at hnext
      · cases hnext
      next hopen =>
      obtain ⟨hleft, hscales⟩ := not_or.mp hopen
      rw [not_not] at hscales
      cases hnext
      refine ⟨not_le.mp hleft, h.book.fillAt hsound h.remaining hfills hbid, by simp,
        h.ladder.unbanked, fun _ => ?_⟩
      -- the part that was pending is what the ladder has banked
      have hbanked := h.ladder.banked fun other hother => by
        rw [hpending] at hother
        obtain rfl := Option.some.inj hother
        exact hscales
      simp only [hpending, scaledOut, hscales, if_true] at hbanked
      simp only [fillAt, hsound.quantity_le, scaledOut, sub_zero]
      exact hbanked
  next hnone =>
    unfold decideTurn at hturn
    split at hturn
    · obtain ⟨bid, -, hrest⟩ := Except.bind_eq_ok_iff.mp hturn
      cases policy with
      | profile =>
        obtain ⟨⟨decision, ladder⟩, hdecision, hgoes⟩ := Except.bind_eq_ok_iff.mp hrest
        cases hgoes
        exact h.of_effect hnone hlater (evaluateQuote_effect hdecision)
      | legacy =>
        cases hrest
        exact h.of_legacyRule hnone hlater _
    · cases hturn
      exact h.append quote

/-- A replay returns from the fill that takes the last contracts. -/
theorem ReplaySound.accounts {read : List QuoteTapeMark} {state : ReplayState}
    {quote : QuoteTapeMark} {outcome : PolicyOutcome}
    (h : ReplaySound lab case latencyMs maxFreshnessMs read state)
    (hturn : replayTurn lab policy latencyMs maxFreshnessMs case stopPct state quote =
      .ok (.returns outcome)) :
    ∃ book, BookSound lab case latencyMs maxFreshnessMs (read ++ [quote]) book ∧
      book.remaining = 0 ∧ ∃ rule, outcome = outcomeOf lab case policy.text rule quote book := by
  unfold replayTurn at hturn
  split at hturn
  next pending hpending =>
    have hsound := h.pending pending hpending
    rcases fillTurn_cases hturn with hsame | ⟨hfills, fill, hbid, hnext⟩
    · cases hsame
    split at hnext
    next hlast =>
      cases hnext
      refine ⟨_, h.book.fillAt hsound h.remaining hfills hbid, ?_, pending.rule, rfl⟩
      simp only [fillAt, hsound.quantity_le] at hlast ⊢
      cases hscales : pending.scales with
      | true =>
        have hpart := hsound.part hscales
        simp only [hscales, not_true_eq_false, or_false] at hlast
        omega
      | false =>
        have hwhole := hsound.whole hscales
        omega
    next => cases hnext
  next hnone =>
    unfold decideTurn at hturn
    split at hturn
    · obtain ⟨bid, -, hrest⟩ := Except.bind_eq_ok_iff.mp hturn
      cases policy with
      | profile =>
        obtain ⟨⟨decision, ladder⟩, -, hgoes⟩ := Except.bind_eq_ok_iff.mp hrest
        cases hgoes
      | legacy => cases hrest
    · cases hturn

/-! ### The run -/

/-- The loop's invariant after the quotes that it has read. -/
theorem replaySound_of_reads (haccepted : case.Accepted maxFreshnessMs) {limit : ℚ}
    {read : List QuoteTapeMark} {state : ReplayState} {later : List QuoteTapeMark}
    (htape : case.quotes = read ++ later)
    (h : Reads (replayTurn lab policy latencyMs limit case stopPct) (.new case) read state) :
    ReplaySound lab case latencyMs limit read state := by
  have hsound : ∀ later, case.quotes = read ++ later →
      ReplaySound lab case latencyMs limit read state := by
    refine h.invariant (I := fun read state => ∀ later, case.quotes = read ++ later →
      ReplaySound lab case latencyMs limit read state) ?_ fun _ _ => .new haccepted.quantity
    intro read before quote after hbefore hturn later htape
    rw [List.append_assoc, List.singleton_append] at htape
    have hincreasing := haccepted.increasing
    rw [htape] at hincreasing
    have hearlier : ∀ earlier ∈ read, earlier.sequence < quote.sequence := fun earlier hmem =>
      (List.pairwise_append.mp hincreasing).2.2 earlier hmem quote List.mem_cons_self
    exact (hbefore _ htape).turn hearlier hturn
  exact hsound later htape

/-- The tape extended by later quotes. -/
def ExitEdgeCase.extend (case : ExitEdgeCase) (later : List QuoteTapeMark) : ExitEdgeCase :=
  { case with quotes := case.quotes ++ later }

/-- On every accepted tape a replay of either policy is causal and accounts for every contract: its
outcome stays the same whatever quotes come later, and its legs are positive, add up to the entry, come
one after the other, were each filled by a later executable quote at that quote's bid, and realize the
reported P&L up to its final rounding. -/
theorem replay_causal_and_complete (lab : LabPlatform) (case : ExitEdgeCase) (policy : ReplayPolicy)
    (latencyMs maxFreshnessMs acceptedFreshnessMs : ℚ) (maxSequenceGap : ℤ)
    (haccepted : tapeProblem lab case acceptedFreshnessMs maxSequenceGap = none)
    (outcome : PolicyOutcome)
    (hreplay : replay lab policy latencyMs maxFreshnessMs case = .ok (some outcome)) :
    (∀ later, replay lab policy latencyMs maxFreshnessMs (case.extend later) = .ok (some outcome)) ∧
      AccountsForEntry lab case latencyMs maxFreshnessMs outcome := by
  have hcase := accepted_of_tapeProblem haccepted
  unfold replay at hreplay
  cases hstop : case.legacyConfig.stopLossPct with
  | none =>
    rw [hstop] at hreplay
    cases hreplay
  | some stopPct =>
    rw [hstop] at hreplay
    dsimp only at hreplay
    constructor
    · intro later
      have hextended : (case.extend later).legacyConfig.stopLossPct = some stopPct := hstop
      rw [replay, hextended]
      exact loop_append hreplay later
    · obtain ⟨read, quote, later, state, htape, hreads, hreturns⟩ := loop_eq_some_iff.mp hreplay
      have hsound := replaySound_of_reads hcase htape hreads
      obtain ⟨book, hbook, hempty, rule, rfl⟩ := hsound.accounts hreturns
      have htotal := hbook.total
      refine ⟨hbook.positive, ?_, hbook.increasing, fun leg hleg => ?_, ?_⟩
      · rw [hempty, zero_add] at htotal
        exact htotal
      · rw [htape, List.append_cons]
        exact (hbook.filled leg hleg).append later
      · exact congrArg (Python.roundTo 2) hbook.pnl

end Replays

namespace ThirdsTape

/-- A platform on which it is always ten in the morning. -/
def lab : LabPlatform where
  toPlatform := TwoTargets.platform
  newYorkClock := fun _ => clockTime 10 0
  isoformat := fun _ => "now"
  floatText := fun _ => "float"
  specHash := fun _ _ _ => "frozen"

/-- The nth quote, one second after the one before it. -/
def quote (n : ℕ) (bid : ℚ) : QuoteTapeMark where
  sequence := n
  source := "public_api"
  feed := "observer"
  quoteAt := n
  receivedAt := n
  bid := some bid
  ask := some (bid + 1 / 10)

/-- Ten contracts bought at 1.00, of which three are banked at 1R. -/
def entry (bids : List ℚ) : ExitEdgeCase where
  tradeId := "t"
  deploymentId := "d"
  entryTimestamp := 0
  entryPremium := 1
  quantity := 10
  profile := { TwoTargets.thirds with eodFlat := false }
  profileConfig := []
  legacyConfig := { stopLossPct := some (1 / 2) }
  experiment :=
    { riskEnvelope := some { experimentId := "e", arms := [] }
      evaluatorVersion := "profile-evaluator-v1"
      fillModelVersion := "next-fresh-natural-bid-v2"
      quoteSource := "public_api"
      quoteFeed := "observer" }
  experimentSpecHash := "frozen"
  quotes := bids.mapIdx quote

/-- The partial fills at 2.00 and the runner, stopped at breakeven, at 0.90. -/
def outcome : PolicyOutcome where
  policy := "profile"
  exitTimestamp := "now"
  exitRule := "initial_stop"
  realizedPnlUsd := 230
  timeInTradeSeconds := 3
  legs := [
    { triggerSequence := 0, fillSequence := 1, fillAt := "now", rule := "target_1_partial"
      quantity := 3, fillBid := 2 },
    { triggerSequence := 2, fillSequence := 3, fillAt := "now", rule := "initial_stop"
      quantity := 7, fillBid := 9 / 10 }]

end ThirdsTape

open ThirdsTape in
theorem replay_causal_and_complete_thirds :
    (∀ later, replay lab .profile 0 0 ((entry [2, 2, 1, 9 / 10]).extend later) =
        .ok (some outcome)) ∧
      AccountsForEntry lab (entry [2, 2, 1, 9 / 10]) 0 0 outcome :=
  replay_causal_and_complete lab (entry [2, 2, 1, 9 / 10]) .profile 0 0 0 1 (by decide +kernel)
    outcome (by decide +kernel)

end Bhiksha.Lab
