import UrbanFlow.Adaptive.Wraps
import UrbanFlow.Discovery.Hypervolume
import UrbanFlow.Discovery.SearchRuns
import UrbanFlow.Discovery.TuningReturns
import UrbanFlow.Experiments.LifecycleRuns
import UrbanFlow.Experiments.StepQuota
import UrbanFlow.Experiments.UsageRuns
import UrbanFlow.Incidents.ReroutingRuns
import UrbanFlow.Incidents.SegmentRuns
import UrbanFlow.Ingest.Deliveries
import UrbanFlow.Intersection.ConflictRuns
import UrbanFlow.Jobs.Submissions
import UrbanFlow.Live.SessionRuns
import UrbanFlow.Metering.Agreement
import UrbanFlow.Metering.CursorRuns
import UrbanFlow.Metering.Latches
import UrbanFlow.Metering.RedInterval
import UrbanFlow.Networks.Handover
import UrbanFlow.Networks.OsmDrivability
import UrbanFlow.Networks.SumoRoundTrip
import UrbanFlow.Observability.Histograms
import UrbanFlow.Planning.Comparison
import UrbanFlow.Planning.ServiceRuns
import UrbanFlow.Priority.Restoration
import UrbanFlow.Priority.TransitBudgets
import UrbanFlow.Priority.Yielding
import UrbanFlow.Rl.ModelRegistryRuns
import UrbanFlow.Rl.NetworkEnv
import UrbanFlow.Scenario.LocalAgreement
import UrbanFlow.Scenario.SlotAssignment
import UrbanFlow.Scenario.StopLines
import UrbanFlow.Signals.OffsetRuns
import UrbanFlow.Simulations.BuiltEngine
import UrbanFlow.Simulations.EngineThreadRuns
import UrbanFlow.Simulations.RegistryRuns
import UrbanFlow.Snapshot.LiveAgreement
import UrbanFlow.Snapshot.LockstepReturns
import UrbanFlow.Spawning.Accounting
import UrbanFlow.Tenancy.JwksCache
import UrbanFlow.Tenancy.QuotaRuns
import UrbanFlow.Tenancy.RateLimitRuns
import UrbanFlow.Tenancy.TenantIsolation
import UrbanFlow.Tokens.TokenRuns
import UrbanFlow.Twin.Runner
import UrbanFlow.Uncertainty.Analysis
import UrbanFlow.Uncertainty.Sampler
import UrbanFlow.V2x.Coupling
import UrbanFlow.V2x.SignalAdvice
import UrbanFlow.Vehicles.Proximity
import UrbanFlow.Vehicles.Registration
import UrbanFlow.Vehicles.SpeedProfile
