/-
Nav3D.Ros.Messages — the messages with a header (`std_msgs`,
`geometry_msgs`, `nav_msgs`).

A stamp is of the type that a node computes its times in, and a pose of the
type that it computes its poses in.
-/
namespace Nav3D.Msg

/-- `std_msgs/Header`. -/
structure Header (T : Type) where
  stamp : T
  frameId : String
  deriving DecidableEq

/-- `geometry_msgs/PoseStamped`. -/
structure PoseStamped (T P : Type) where
  header : Header T
  pose : P
  deriving DecidableEq

/-- `nav_msgs/Path`. -/
structure Path (T P : Type) where
  header : Header T
  poses : List (PoseStamped T P)
  deriving DecidableEq

variable {T P : Type}

/-- The pose at another time. -/
def PoseStamped.stampedAt (p : PoseStamped T P) (t : T) : PoseStamped T P :=
  { p with header := { p.header with stamp := t } }

/-- What of a pose is not its time. -/
def PoseStamped.untimed (p : PoseStamped T P) : String × P := (p.header.frameId, p.pose)

@[simp] theorem PoseStamped.untimed_stampedAt (p : PoseStamped T P) (t : T) :
    (p.stampedAt t).untimed = p.untimed := rfl

@[simp] theorem PoseStamped.pose_stampedAt (p : PoseStamped T P) (t : T) :
    (p.stampedAt t).pose = p.pose := rfl

end Nav3D.Msg
