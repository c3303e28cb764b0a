import ReliabilityLab.Machine
import ReliabilityLab.KeyedMachines
import ReliabilityLab.Redelivery
import ReliabilityLab.Table
import ReliabilityLab.Transaction
import ReliabilityLab.Fold
import ReliabilityLab.Occurrences
import ReliabilityLab.Encodings
import ReliabilityLab.Segments
import ReliabilityLab.Interleavings
import ReliabilityLab.NestedValues
import ReliabilityLab.Python
import ReliabilityLab.Numerals
import ReliabilityLab.HexNumerals
import ReliabilityLab.Json
import ReliabilityLab.PythonText
import ReliabilityLab.Floats
import ReliabilityLab.Documents
import ReliabilityLab.Reconciliation
import ReliabilityLab.ProviderStore
import ReliabilityLab.EvidenceStore
import ReliabilityLab.EvidenceLineage
import ReliabilityLab.Reconciler
import ReliabilityLab.ReconcilerTexts
import ReliabilityLab.GenuineReadbacks
import ReliabilityLab.ReconcileLoop
import ReliabilityLab.Approvals
import ReliabilityLab.ApprovalLanguage
import ReliabilityLab.Durable
import ReliabilityLab.DurableEffects
import ReliabilityLab.DurableRefinement
import ReliabilityLab.DurableTexts
import ReliabilityLab.Recovery
import ReliabilityLab.RecoveryLineage
import ReliabilityLab.AdvanceReplay
import ReliabilityLab.RedeliveredCalls
import ReliabilityLab.ProviderLogs
import ReliabilityLab.OperationProgress
import ReliabilityLab.Fencing
import ReliabilityLab.FencingSafety
import ReliabilityLab.FencedModel
import ReliabilityLab.FencedTexts
import ReliabilityLab.FencingGenerations
import ReliabilityLab.TraceIntegrity
import ReliabilityLab.CleanRecords
import ReliabilityLab.AcceptedTraces
import ReliabilityLab.MalformedTraces
import ReliabilityLab.TraceGuarantees
import ReliabilityLab.TraceLineage
import ReliabilityLab.TraceMutations
import ReliabilityLab.ReplacedRecords
import ReliabilityLab.RequiredFields
import ReliabilityLab.EvaluationMetrics
import ReliabilityLab.Publications
import ReliabilityLab.PublishedPass
import ReliabilityLab.ReliabilityGates
import ReliabilityLab.ReleaseGate
import ReliabilityLab.SourceEvaluation
import ReliabilityLab.MissingIdentities
import ReliabilityLab.SourceIdentities
import ReliabilityLab.ReleaseVerifier
import ReliabilityLab.Simulator
import ReliabilityLab.ScopedReplay
import ReliabilityLab.Effects
import ReliabilityLab.CanonicalText
import ReliabilityLab.ResumedPlans
import ReliabilityLab.CleanLineages
import ReliabilityLab.DigestFields
import ReliabilityLab.RetryAuthority
import ReliabilityLab.ReturnedStates
import ReliabilityLab.ApprovalHistories
import ReliabilityLab.ReplayedTraces
import ReliabilityLab.GrowingTraces
import ReliabilityLab.CanonicalEffects
import ReliabilityLab.JsonPointers
import ReliabilityLab.MutatedLocations
import ReliabilityLab.TraceCorpus
import ReliabilityLab.ScenarioRunners
import ReliabilityLab.EvaluationRuns
import ReliabilityLab.FrozenProtocols
import ReliabilityLab.FrozenPrograms
import ReliabilityLab.FrozenFiles
import ReliabilityLab.PublishedRuns
import ReliabilityLab.PublishedTraces
import ReliabilityLab.ReleaseReadiness
