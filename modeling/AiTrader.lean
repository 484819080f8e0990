import AiTrader.Entry.StaleAdmission
import AiTrader.Arming.Disarm
import AiTrader.Usage.RollingWindows
import AiTrader.Market.Publication
import AiTrader.Market.BreadthReplay
import AiTrader.Risk.OrderRisk
import AiTrader.Policy.DispatchAuthority
import AiTrader.Market.StressRuns
import AiTrader.Market.Recovery
import AiTrader.Market.ParticipationWindow
import AiTrader.Risk.ConfigurationRuns
import AiTrader.Approval.Revocation
import AiTrader.Market.DailyBarRuns
import AiTrader.Attention.AttentionRuns
import AiTrader.MarketPolicy.AuthorizationRuns
import AiTrader.Alpaca.Request
import AiTrader.Lifecycle.AuthorityRuns
import AiTrader.Momentum.HandoffRuns
import AiTrader.Exit.NoOversell
import AiTrader.Exit.ExitRuns
import AiTrader.Exclusivity.StatusTable
import AiTrader.Entry.EvidenceSummary
import AiTrader.Entry.SweepFairness
import AiTrader.Entry.AttemptResults
import AiTrader.Entry.TerminalRelease
import AiTrader.Alpaca.ActivityRuns
import AiTrader.Market.CompositionSelection
import AiTrader.Policy.Eligibility
import AiTrader.Cycles.CloseResult
import AiTrader.Polling.ForcedSync
import AiTrader.Market.SplitHorizon
import AiTrader.Market.SplitCoverage
import AiTrader.Market.MinuteAggregation
import AiTrader.Repair.LifecycleApply
import AiTrader.Market.SegmentPartition
import AiTrader.Lineage.Order
import AiTrader.Universe.Csv
import AiTrader.Signals.Canonical
