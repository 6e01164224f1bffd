import Nav3D.BehaviorTree.ActionNodeSettled
import Nav3D.BehaviorTree.Conditions
import Nav3D.BehaviorTree.DistanceTraveled
import Nav3D.BehaviorTree.LoadTree
import Nav3D.BehaviorTree.PathThinning
import Nav3D.BehaviorTree.PipelineStages
import Nav3D.BehaviorTree.RateControllerRuns
import Nav3D.BehaviorTree.RecoveryNode
import Nav3D.BehaviorTree.RoundRobin
import Nav3D.BehaviorTree.SingleTrigger
import Nav3D.BehaviorTree.SpeedController
import Nav3D.BehaviorTree.TruncateProgress
import Nav3D.BtNavigator.CallbackCleanup
import Nav3D.BtNavigator.ErrorCodes
import Nav3D.BtNavigator.FreshPlans
import Nav3D.BtNavigator.GoalUpdates
import Nav3D.BtNavigator.NavigatorLifecycle
import Nav3D.BtNavigator.PreemptedTree
import Nav3D.BtNavigator.WaypointReports
import Nav3D.Common.SubstituteLeaves
import Nav3D.Controller.CanceledGoals
import Nav3D.Controller.FollowPathSuccess
import Nav3D.Controller.GoalCheckers
import Nav3D.Controller.PublishedCommands
import Nav3D.Controller.SpeedLimits
import Nav3D.Lifecycle.ManagerBonds
import Nav3D.Lifecycle.ManagerClients
import Nav3D.Lifecycle.ManagerOrder
import Nav3D.Lifecycle.ManagerReset
import Nav3D.Planner.PathCoverage
import Nav3D.Planner.PlannerActivation
import Nav3D.Planner.PlannerLifecycle
import Nav3D.Px4.OffsetTracking
import Nav3D.Util.ArrayParser
import Nav3D.Util.LifecycleUtils
import Nav3D.Util.LineIterator
import Nav3D.Util.NodeUtils
import Nav3D.Util.OdomSmoother
