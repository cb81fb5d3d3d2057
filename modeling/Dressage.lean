import Dressage.Proxy.TrajectoryIndexes
import Dressage.Proxy.GenerationLeaks
import Dressage.Proxy.PauseBarrier
import Dressage.Proxy.PreemptionTransparency
import Dressage.Proxy.MergedTokens
import Dressage.Proxy.HookGate
import Dressage.Proxy.AnchorSegment
import Dressage.Proxy.VersionAttribution
import Dressage.Proxy.EpochRejections
import Dressage.Sandbox.SlotResets
import Dressage.Proxy.ExactlyOnce
import Dressage.Blackbox.BackendCalls
import Dressage.Blackbox.TurnReplay
import Dressage.Blackbox.AbortFinal
import Dressage.Blackbox.PauseClock
import Dressage.Blackbox.ShutdownFinal
import Dressage.Proxy.FinalizedBatch
import Dressage.Rollout.VersionWindow
import Dressage.Blackbox.TurnAccounting
import Dressage.Rollout.PrewarmHandover
import Dressage.Training.PromptEqual
import Dressage.Training.OffloadedShards
import Dressage.Sandbox.E2BOwnership
import Dressage.Paddock.LeaseOwnership
import Dressage.Sandbox.OrderlyStarts
import Dressage.Sandbox.StaleHandles
import Dressage.Harbor.GatewayLeases
import Dressage.Harbor.TurnIsolation
import Dressage.Blackbox.AnswerUsage
import Dressage.Blackbox.AnswerAgreement
import Dressage.Rebalancing.Settlement
import Dressage.Harbor.BundleTraces
import Dressage.Harbor.SourceResume
import Dressage.Harbor.TokenReuse
import Dressage.Proxy.RouteRuns
import Dressage.Proxy.ShutdownRelease
import Dressage.Sandbox.CapacityPlan
import Dressage.Rebalancing.PlacementOrder
import Dressage.Rollout.MixtureRuns
import Dressage.Proxy.SGLangResponse
import Dressage.Training.RoutedTeachers
import Dressage.Proxy.OutputBudget
import Dressage.Rebalancing.ScheduleRollback
import Dressage.Rebalancing.TransferCalibration
