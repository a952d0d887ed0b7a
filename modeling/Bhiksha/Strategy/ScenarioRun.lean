import Bhiksha.Library.Trace
import Bhiksha.Strategy.WeeklyChart

/-! Runs of observations, reservations, settlements and restarts over one state database, with the
claims that deployments hold. -/

namespace Bhiksha.Weekly

open Library

/-- One transaction on the state database, or the start of a new process. `fill` is what the trade
ledger answers when the transaction opens. -/
inductive WeeklyCall where
  | observe (deploymentId : String) (frame : List MinuteBar) (now : ℚ)
      (health : Option SourceHealth) (fill : Option String)
  | reserve (deploymentId : String) (now : ℚ) (health : Option SourceHealth) (openCount : ℤ)
      (fill : Option String)
  | transition (deploymentId : String) (settlement : Settlement) (tradeId fill : Option String)
  | read (deploymentId : String) (fill : Option String)
  | restart

/-- The rows, the deployments that this process has recovered, and the claims. -/
structure WeeklyWorld where
  rows : ScenarioDb
  recovered : List String
  claims : List String

def WeeklyWorld.new : WeeklyWorld := ⟨Table.empty, [], []⟩

def WeeklyWorld.endClaim (world : WeeklyWorld) (deploymentId : String) : WeeklyWorld :=
  { world with claims := world.claims.filter (· ≠ deploymentId) }

/-- `UPDATE SET status, payload`. -/
def ScenarioRow.update (observed row : ScenarioRow) : ScenarioRow :=
  { row with status := observed.status, payload := observed.payload }

section Step

variable (calendar : ExchangeCalendar) (paramsOf : String → WeeklyParams)

/-- The parameters of a deployment, under its own id. -/
def namedParams (deploymentId : String) : WeeklyParams :=
  { paramsOf deploymentId with deploymentId := deploymentId }

/-- The world as a transaction of the deployment finds it. The first one of a process recovers the
row, and a recovery without a recorded fill ends the claim. -/
def WeeklyWorld.open (deploymentId : String) (fill : Option String) (world : WeeklyWorld) :
    WeeklyWorld :=
  let recovered : Bool := deploymentId ∈ world.recovered
  let unfilled : Bool :=
    (world.rows.get? deploymentId).any (fun row => row.status = .pending) ∧ fill = none
  let opened : WeeklyWorld :=
    { world with
      rows := openState (namedParams paramsOf deploymentId) recovered fill world.rows
      recovered := if recovered then world.recovered else deploymentId :: world.recovered }
  if !recovered && unfilled then opened.endClaim deploymentId else opened

/-- A transaction that raised: nothing is committed, but the process counts the row as recovered. -/
def WeeklyWorld.rollBack (deploymentId : String) (world : WeeklyWorld) : WeeklyWorld :=
  { world with
    recovered := if deploymentId ∈ world.recovered then world.recovered
      else deploymentId :: world.recovered }

def weeklyStep : WeeklyCall → WeeklyWorld → Option Bool × WeeklyWorld
  | .observe deploymentId frame now health fill, world =>
    let params := namedParams paramsOf deploymentId
    let opened := world.open paramsOf deploymentId fill
    -- The latest row is taken before the transaction opens.
    if frame.isEmpty then (none, world)
    else
      match opened.rows.get? deploymentId with
      | none => (none, world.rollBack deploymentId)
      | some row =>
        match observeRow calendar params frame now health row with
        | .error _ => (none, world.rollBack deploymentId)
        | .ok observed =>
          (none,
            { opened with
              rows := setRow deploymentId (ScenarioRow.update observed) (fun _ => rfl) opened.rows })
  | .reserve deploymentId now health openCount fill, world =>
    let params := namedParams paramsOf deploymentId
    if (sourceBlock params health now).isSome ∨ params.shadowOnly = false then (some false, world)
    else
      let opened := world.open paramsOf deploymentId fill
      match reserveBody calendar params now openCount opened.rows with
      | .error _ => (none, world.rollBack deploymentId)
      | .ok (some _, rows) => (some false, { opened with rows := rows })
      | .ok (none, rows) =>
        (some true, { opened with rows := rows, claims := deploymentId :: opened.claims })
  | .transition deploymentId settlement tradeId fill, world =>
    -- Only the entry whose reservation it settles calls it.
    if deploymentId ∈ world.claims then
      let opened := world.open paramsOf deploymentId fill
      let settled : WeeklyWorld :=
        { opened with
          rows := setRow deploymentId (ScenarioRow.settle settlement tradeId)
            (ScenarioRow.settle_deploymentId settlement tradeId) opened.rows }
      (none, if settlement = .waiting then settled.endClaim deploymentId else settled)
    else (none, world)
  | .read deploymentId fill, world => (none, world.open paramsOf deploymentId fill)
  | .restart, world => (none, { world with recovered := [] })

abbrev WeeklyEvent := Event WeeklyWorld WeeklyCall (Option Bool)

def weeklyTrace (calls : List WeeklyCall) : List WeeklyEvent :=
  trace (weeklyStep calendar paramsOf) WeeklyWorld.new calls

end Step

end Bhiksha.Weekly
