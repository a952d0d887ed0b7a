import Bhiksha.Library.Table
import Bhiksha.Library.Transaction
import Bhiksha.Library.Trace
import Bhiksha.Persistence.ExitRepository
import Bhiksha.Persistence.IntentLaw
import Bhiksha.Execution.PeakLaw
import Bhiksha.Execution.ContractLaw
import Bhiksha.Risk.RailALoss
import Bhiksha.Risk.SessionHalt
import Bhiksha.Library.Coalesce
import Bhiksha.Library.Program
import Bhiksha.Library.Concurrent
import Bhiksha.Risk.SizedEntryBook
import Bhiksha.Risk.CashBudget
import Bhiksha.Library.Lockstep
import Bhiksha.Execution.RestartLaw
import Bhiksha.Persistence.TradeLaw
import Bhiksha.Library.Outcome
import Bhiksha.Risk.OneProbe
import Bhiksha.Strategy.ScenarioLaw
import Bhiksha.App.HaltLaw
import Bhiksha.Library.Mailbox
import Bhiksha.App.SymbolDispatch
import Bhiksha.App.DispatchLaw
import Bhiksha.App.Replay
import Bhiksha.Execution.EntryLaw
import Bhiksha.Execution.LiveSizing
import Bhiksha.Library.OrderBook
import Bhiksha.State.PositionTracker
import Bhiksha.Execution.Broker
import Bhiksha.Library.History
import Bhiksha.Execution.StopRatchet
import Bhiksha.Execution.RatchetLaw
import Bhiksha.Execution.ProtectiveExit
import Bhiksha.Execution.ExitPolicy
import Bhiksha.Execution.ThesisExit
import Bhiksha.Risk.PartialLegs
import Bhiksha.State.Reconciliation
import Bhiksha.State.ReconciliationLaw
import Bhiksha.Execution.EntrySubmission
import Bhiksha.Strategy.WeeklyAdmission
import Bhiksha.Strategy.AdmissionLaw
import Bhiksha.Library.Slot
import Bhiksha.Strategy.ContinuationLaw
import Bhiksha.Library.Streak
import Bhiksha.Library.Timeline
import Bhiksha.Strategy.CoverageRun
import Bhiksha.Library.Accounting
import Bhiksha.ActivePlan.CoverageLaw
import Bhiksha.Library.SortedBy
import Bhiksha.Options.Selector
import Bhiksha.Options.ChainSnapshot
import Bhiksha.Options.SelectionLaw
import Bhiksha.Library.EarlyReturn
import Bhiksha.Execution.ManagementPolicy
import Bhiksha.Ops.QuoteTape
import Bhiksha.Ops.PairedReplay
import Bhiksha.Ops.ReplayLaw
import Bhiksha.Ops.ControlObservations
import Bhiksha.Ops.ShadowEnvelope
import Bhiksha.Ops.ShadowStore
import Bhiksha.Library.Fold
import Bhiksha.Library.FirstFiring
import Bhiksha.Ops.ShadowLaw
import Bhiksha.Ops.ControlLaw
import Bhiksha.Library.OpenTime
import Bhiksha.Ops.SessionClock
import Bhiksha.Library.Columns
import Bhiksha.MarketData.RthTransforms
import Bhiksha.Strategy.IntradayMeanReversion
import Bhiksha.Strategy.RthCausality
import Bhiksha.Library.BijectiveNumeral
import Bhiksha.Integrations.GoogleSheets
import Bhiksha.Integrations.SheetLayout
import Bhiksha.Integrations.SheetReading
import Bhiksha.Integrations.SheetLaw
import Bhiksha.Loop.CandidateShape
import Bhiksha.Loop.Importer
import Bhiksha.Loop.RefreshLaw
import Bhiksha.Library.AssocList
import Bhiksha.ActivePlan.ExitOverrides
import Bhiksha.ActivePlan.ExitPrecedence
import Bhiksha.Library.Journal
import Bhiksha.Experiments.CartographerAttempts
import Bhiksha.Experiments.AttemptIndex
import Bhiksha.Experiments.AttemptLaw
import Bhiksha.Experiments.TriggerLaw
import Bhiksha.Packets.PlaybookLiveManagement
import Bhiksha.Packets.PlaybookManagementLaw
import Bhiksha.Library.ChangeLog
import Bhiksha.State.Lifecycle
import Bhiksha.State.LifecycleLaw
import Bhiksha.Library.Rising
import Bhiksha.MarketData.IngestionDaemon
import Bhiksha.App.BarPipeline
import Bhiksha.App.BarPipelineLaw
