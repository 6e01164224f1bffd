/-
Nav3D.Ros.Action — the part of the ROS 2 action protocol that both the
action servers and the action clients of the repository rely on: goal
identifiers, goal states (`action_msgs/GoalStatus`) and result codes
(`rclcpp_action::ResultCode`).
-/
import Mathlib.Tactic.Common

namespace Nav3D.Ros

/-- A goal's UUID. Only equality of goal ids is used anywhere. -/
abbrev GoalId := Nat

/-- The constants of `action_msgs/msg/GoalStatus`. -/
inductive GoalStatus where
  | unknown
  | accepted
  | executing
  | canceling
  | succeeded
  | canceled
  | aborted
  deriving DecidableEq, Repr

/-- `rcl_action_goal_handle_is_active`: neither terminal nor unknown. -/
def GoalStatus.isActive : GoalStatus → Bool
  | .accepted | .executing | .canceling => true
  | _ => false

/-- The three states a goal never leaves. -/
def GoalStatus.isTerminal : GoalStatus → Bool
  | .succeeded | .canceled | .aborted => true
  | _ => false

@[simp] theorem GoalStatus.isActive_executing : GoalStatus.executing.isActive = true := rfl
@[simp] theorem GoalStatus.isActive_canceling : GoalStatus.canceling.isActive = true := rfl

/-- A terminal goal is not active. -/
theorem GoalStatus.isActive_of_isTerminal {st : GoalStatus} (h : st.isTerminal = true) :
    st.isActive = false := by
  cases st <;> first | rfl | cases h

/-- `rclcpp_action::ResultCode`. -/
inductive ResultCode where
  | unknown
  | succeeded
  | canceled
  | aborted
  deriving DecidableEq, Repr

end Nav3D.Ros
