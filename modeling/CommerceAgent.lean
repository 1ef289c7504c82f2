import CommerceAgent.Programs
import CommerceAgent.Interleaving
import CommerceAgent.Sessions
import CommerceAgent.Histories
import CommerceAgent.Tables
import CommerceAgent.Json
import CommerceAgent.JsonText
import CommerceAgent.Texts
import CommerceAgent.Patterns
import CommerceAgent.Mutations
import CommerceAgent.Redaction
import CommerceAgent.Protocols
import CommerceAgent.StateMachine
import CommerceAgent.MutationSafety
import CommerceAgent.Schema
import CommerceAgent.Router
import CommerceAgent.RunRepository
import CommerceAgent.ConfirmationRepository
import CommerceAgent.MutationRepository
import CommerceAgent.HandoffRepository
import CommerceAgent.MessageRepository
import CommerceAgent.Runtime
import CommerceAgent.EventLog
import CommerceAgent.EventDecoding
import CommerceAgent.EventReplay
import CommerceAgent.Repositories
import CommerceAgent.MutationExecution
import CommerceAgent.Persistence
import CommerceAgent.MutationWorkflow
import CommerceAgent.TerminalResponse
import CommerceAgent.OneResponse
import CommerceAgent.ExecuteOnce
import CommerceAgent.TokenRaces
import CommerceAgent.Reservations
import CommerceAgent.ConfirmAtomicity
import CommerceAgent.ConfirmOutcome
import CommerceAgent.EndedRuns
import CommerceAgent.Confirmations
import CommerceAgent.LowRisk
import CommerceAgent.Lifecycle
import CommerceAgent.OrderOwnership
import CommerceAgent.Admission
import CommerceAgent.AdmittedOnce
import CommerceAgent.Safety
import CommerceAgent.Routes
import CommerceAgent.ReadonlyLoop
import CommerceAgent.Executor
import CommerceAgent.Standing
import CommerceAgent.SafetyBlock
import CommerceAgent.ControlPlane
import CommerceAgent.ActorIsolation
import CommerceAgent.AgentStep
import CommerceAgent.AgentLoop
import CommerceAgent.ToolRecords
import CommerceAgent.TokenBudget
import CommerceAgent.RefusedWrites
import CommerceAgent.SlotAccumulation
import CommerceAgent.EventStream
import CommerceAgent.ReturnedContexts
import CommerceAgent.RunMoves
import CommerceAgent.RunConstraints
import CommerceAgent.Continuation
import CommerceAgent.RunKnowledge
import CommerceAgent.SchemaAgreement
import CommerceAgent.Releases
import CommerceAgent.ReleaseLifecycle
import CommerceAgent.ProgressiveDelivery
import CommerceAgent.ReleaseAssignments
import CommerceAgent.WritePinning
import CommerceAgent.Outbox
import CommerceAgent.OutboxLeases
import CommerceAgent.OutboxFencing
import CommerceAgent.TrustedEvidence
import CommerceAgent.MemoryFacts
import CommerceAgent.HarnessSchema
import CommerceAgent.SyntheticSplits
import CommerceAgent.MultiTurn
import CommerceAgent.EvaluationReport
import CommerceAgent.PairedEvaluation
import CommerceAgent.SkillActions
import CommerceAgent.SkillRepository
import CommerceAgent.SkillMatching
import CommerceAgent.HumanGate
import CommerceAgent.SkillLifecycle
import CommerceAgent.TerminalRepair
import CommerceAgent.RepairPasses
import CommerceAgent.HandoffTickets
import CommerceAgent.RedactionBoundaries
import CommerceAgent.RunCosts
import CommerceAgent.SkillInfluence
import CommerceAgent.Operators
import CommerceAgent.Policies
import CommerceAgent.PolicyDecisions
import CommerceAgent.ToolExecutor
import CommerceAgent.ToolDiscipline
import CommerceAgent.FailClosed
import CommerceAgent.Previews
import CommerceAgent.PipelineJournal
import CommerceAgent.PatternPlaces
import CommerceAgent.SlotSpans
import CommerceAgent.SlotAgreement
import CommerceAgent.JsonSizes
import CommerceAgent.PromptBuilding
import CommerceAgent.PromptGrowth
import CommerceAgent.HardGates
import CommerceAgent.CaseRuns
import CommerceAgent.HardPass
import CommerceAgent.Rounding
import CommerceAgent.RouterMonotone
import CommerceAgent.CachedTokens
import CommerceAgent.CanaryMeasures
import CommerceAgent.ReviewRounding
import CommerceAgent.Rearrangements
import CommerceAgent.ReportAggregates
import CommerceAgent.ReportConservation
import CommerceAgent.GatewayContainment
import CommerceAgent.JudgeContainment
import CommerceAgent.RequestHistories
import CommerceAgent.CatalogSplits
import CommerceAgent.RoundRobin
import CommerceAgent.SyntheticPrompts
import CommerceAgent.SkillDefinitions
import CommerceAgent.FailureSkills
import CommerceAgent.SortedPrefixes
import CommerceAgent.Retrieval
import CommerceAgent.SkillSelection
import CommerceAgent.BaselineEvidence
import CommerceAgent.JsonLines
import CommerceAgent.ReviewSampling
import CommerceAgent.LoaderContainment
import CommerceAgent.CriticalSections
import CommerceAgent.ShutdownGate
import CommerceAgent.Quantiles
import CommerceAgent.ReleaseScheduler
import CommerceAgent.Measurements
import CommerceAgent.KnowledgeIngestion
import CommerceAgent.FailureLearning
import CommerceAgent.FeedbackRetention
import CommerceAgent.CheckpointMigrations
