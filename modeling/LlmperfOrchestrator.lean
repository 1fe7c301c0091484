import LlmperfOrchestrator.Storage.KeyRotation
import LlmperfOrchestrator.Storage.LeaseFencing
import LlmperfOrchestrator.Storage.OccurrenceAccounting
import LlmperfOrchestrator.Storage.RowLocks
import LlmperfOrchestrator.Storage.WorkerContract
import LlmperfOrchestrator.Compiler.CampaignRounds
import LlmperfOrchestrator.Compiler.DocumentExpansion
import LlmperfOrchestrator.Compiler.FrontierUniqueness
import LlmperfOrchestrator.Compiler.WorkloadBound
import LlmperfOrchestrator.Runtime.Accounting
import LlmperfOrchestrator.Runtime.CalendarFires
import LlmperfOrchestrator.Runtime.ExecutionLog
import LlmperfOrchestrator.Runtime.FrontierQuery
import LlmperfOrchestrator.Runtime.GateRefinement
import LlmperfOrchestrator.Runtime.HistoryPaths
import LlmperfOrchestrator.Runtime.MailboxProgress
import LlmperfOrchestrator.Runtime.ReadyQueueRuns
import LlmperfOrchestrator.Runtime.Redaction
import LlmperfOrchestrator.Runtime.RoundBarrier
import LlmperfOrchestrator.Runtime.RouterFairness
import LlmperfOrchestrator.Runtime.RunnerRuns
import LlmperfOrchestrator.Runtime.SupervisedRuns
import LlmperfOrchestrator.Client.StreamErrors
import LlmperfOrchestrator.Campaign.PlannedOverlaps
import LlmperfOrchestrator.Campaign.ProgressAgreement
import LlmperfOrchestrator.Campaign.Truthfulness
import LlmperfOrchestrator.Preparation.BudgetAgreement
import LlmperfOrchestrator.Preparation.DatasetAssembly
import LlmperfOrchestrator.Preparation.ProbeCompletion
import LlmperfOrchestrator.Preparation.ProbeWorkers
import LlmperfOrchestrator.Preparation.PromptBudgets
import LlmperfOrchestrator.Preparation.TimeOverflow
import LlmperfOrchestrator.Api.KeyReloads
import LlmperfOrchestrator.Metrics.CacheEvidence
import LlmperfOrchestrator.CacheTools.SizingAgreement
