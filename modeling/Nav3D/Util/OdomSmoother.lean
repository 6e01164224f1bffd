/-
Nav3D.Util.OdomSmoother — the mean of the recent odometry
(`odometry_utils.cpp`).

`odomCallback()` keeps the messages that are not older than a duration, and
keeps the sum of their twists up to date by one subtraction for each message
that it drops and one addition for the new one, in six components. The sum
never drifts (`sliding_window_mean`).

Times and durations are in nanoseconds. Of an odometry message the header
and the twist are used.
-/
import Nav3D.Lib.SlidingWindow
import Nav3D.Lib.StateInvariant
import Nav3D.Lib.Transition
import Nav3D.Px4.OffboardControl
import Nav3D.Ros.Messages
import Mathlib.Tactic.Ring

namespace Nav3D.Util.OdomSmoother

open SlidingWindow StateInvariant Transition
open Nav3D.Px4 (Vec3 Twist)

/-! ## Messages -/

/-- `builtin_interfaces/Time`. -/
structure Time where
  sec : Int
  nanosec : Nat
  deriving DecidableEq

def Time.nanoseconds (t : Time) : Int := t.sec * 1000000000 + t.nanosec

/-- `std_msgs/Header`. -/
abbrev Header : Type := Msg.Header Time

/-- `nav_msgs/Odometry`, also for `geometry_msgs/TwistStamped`. -/
structure Odometry (K : Type) where
  header : Header
  twist : Twist K
  deriving DecidableEq

/-- When a message has been stamped. -/
def Odometry.time {K : Type} (msg : Odometry K) : Int := msg.header.stamp.nanoseconds

/-- The members of `OdomSmoother`. -/
structure Smoother (K : Type) where
  receivedOdom : Bool
  odomCumulate : Twist K
  velSmooth : Odometry K
  odomHistoryDuration : Int
  odomHistory : List (Odometry K)
  deriving DecidableEq

section Smoother

variable {K : Type} [Field K]

/-- A twist as it is made. -/
def emptyTwist : Twist K := ⟨⟨0, 0, 0⟩, ⟨0, 0, 0⟩⟩

/-- `OdomSmoother(parent, filter_duration, odom_topic)`. -/
def Smoother.created (odomHistoryDuration : Int) : Smoother K where
  receivedOdom := false
  odomCumulate := emptyTwist
  velSmooth := ⟨⟨⟨0, 0⟩, ""⟩, emptyTwist⟩
  odomHistoryDuration := odomHistoryDuration
  odomHistory := []

/-! ## The callback -/

/-- The subtractions from `odom_cumulate_`. -/
def subtractTwist (sum twist : Twist K) : Twist K where
  linear := ⟨sum.linear.x - twist.linear.x, sum.linear.y - twist.linear.y,
    sum.linear.z - twist.linear.z⟩
  angular := ⟨sum.angular.x - twist.angular.x, sum.angular.y - twist.angular.y,
    sum.angular.z - twist.angular.z⟩

/-- The additions to it. -/
def addTwist (sum twist : Twist K) : Twist K where
  linear := ⟨sum.linear.x + twist.linear.x, sum.linear.y + twist.linear.y,
    sum.linear.z + twist.linear.z⟩
  angular := ⟨sum.angular.x + twist.angular.x, sum.angular.y + twist.angular.y,
    sum.angular.z + twist.angular.z⟩

/-- The divisions of `vel_smooth_`. -/
def divideTwist (sum : Twist K) (n : K) : Twist K where
  linear := ⟨sum.linear.x / n, sum.linear.y / n, sum.linear.z / n⟩
  angular := ⟨sum.angular.x / n, sum.angular.y / n, sum.angular.z / n⟩

/-- `rclcpp::Time(stamp)`. -/
def rclcppTime (stamp : Time) : EStateM String (Smoother K) Int :=
  if stamp.sec < 0 then throw "cannot store a negative time point in rclcpp::Time"
  else return stamp.nanoseconds

/-- The `while` loop, with the messages of `odom_history_`. -/
def trimLoop (odomHistoryDuration currentTime : Int) :
    List (Odometry K) → EStateM String (Smoother K) PUnit
  | [] => return ⟨⟩
  | odom :: rest => do
    let frontTime ← rclcppTime odom.header.stamp
    if odomHistoryDuration < currentTime - frontTime then do
      modify fun s => { s with
        odomCumulate := subtractTwist s.odomCumulate odom.twist
        odomHistory := rest }
      trimLoop odomHistoryDuration currentTime rest
    else return ⟨⟩

/-- The part of `odomCallback` before the message is stored. -/
def trim (msg : Odometry K) : EStateM String (Smoother K) PUnit := do
  let s ← get
  match s.odomHistory with
  | [] => return ⟨⟩
  | odom :: rest => do
    let currentTime ← rclcppTime msg.header.stamp
    trimLoop s.odomHistoryDuration currentTime (odom :: rest)

/-- `updateState()`, with the last message of the history. -/
def Smoother.updateState (odom : Odometry K) (s : Smoother K) : Smoother K :=
  let odomCumulate := addTwist s.odomCumulate odom.twist
  { s with
    odomCumulate := odomCumulate
    velSmooth := ⟨odom.header, divideTwist odomCumulate (s.odomHistory.length : K)⟩ }

/-- `odomCallback(msg)`. -/
def odomCallback (msg : Odometry K) : EStateM String (Smoother K) PUnit := do
  modify fun s => { s with receivedOdom := true }
  trim msg
  modify fun s => { s with odomHistory := s.odomHistory ++ [msg] }
  modify (Smoother.updateState msg)

/-- `getTwistStamped()`. -/
def getTwistStamped (s : Smoother K) : Odometry K :=
  if s.receivedOdom then s.velSmooth else ⟨⟨⟨0, 0⟩, ""⟩, emptyTwist⟩

/-! ## Sums -/

/-- The sum of the twists of some messages, in each component. -/
def twistSum (msgs : List (Odometry K)) : Twist K where
  linear := ⟨(msgs.map fun m => m.twist.linear.x).sum, (msgs.map fun m => m.twist.linear.y).sum,
    (msgs.map fun m => m.twist.linear.z).sum⟩
  angular := ⟨(msgs.map fun m => m.twist.angular.x).sum, (msgs.map fun m => m.twist.angular.y).sum,
    (msgs.map fun m => m.twist.angular.z).sum⟩

/-- To drop the first message subtracts its twist. -/
theorem subtractTwist_twistSum (msg : Odometry K) (rest : List (Odometry K)) :
    subtractTwist (twistSum (msg :: rest)) msg.twist = twistSum rest := by
  simp [subtractTwist, twistSum]

/-- To append a message adds it. -/
theorem addTwist_twistSum (msgs : List (Odometry K)) (msg : Odometry K) :
    addTwist (twistSum msgs) msg.twist = twistSum (msgs ++ [msg]) := by
  simp [addTwist, twistSum]

/-! ## One message -/

/-- A stamp that `rclcpp::Time` refuses. -/
def Refused (msg : Odometry K) : Prop := msg.header.stamp.sec < 0

omit [Field K] in
/-- A stamp that is not refused is read. -/
theorem triple_rclcppTime_bind {β : Type} {P : Smoother K → Prop} {Q : β → Smoother K → Prop}
    {E : String → Smoother K → Prop} {msg : Odometry K}
    {f : Int → EStateM String (Smoother K) β} (hrefused : Refused msg → ∀ e s, E e s)
    (hread : Triple P (f msg.time) Q E) : Triple P (rclcppTime msg.header.stamp >>= f) Q E := by
  by_cases hneg : msg.header.stamp.sec < 0
  · have hthrows : rclcppTime (K := K) msg.header.stamp =
        throw "cannot store a negative time point in rclcpp::Time" := if_pos hneg
    rw [hthrows]
    exact triple_bind (triple_throw (Q := fun _ _ => False) fun s _ => hrefused hneg _ s)
      fun _ _ hfalse => hfalse.elim
  · have hreturns : rclcppTime (K := K) msg.header.stamp = return msg.time := if_neg hneg
    rw [hreturns]
    exact triple_bind (triple_pure (Q := fun t s => t = msg.time ∧ P s) fun s hs => ⟨rfl, hs⟩)
      fun t => fun s ⟨ht, hs⟩ => ht ▸ hread s hs

/-- The node with `msgs` as its history and their sum. -/
def Smoother.keep (msgs : List (Odometry K)) (s : Smoother K) : Smoother K :=
  { s with odomHistory := msgs, odomCumulate := twistSum msgs }

/-- The loop drops the old messages. By induction on the history. -/
theorem triple_trimLoop (duration currentTime : Int) (s : Smoother K) (msgs : List (Odometry K))
    (h : Ordered Odometry.time msgs) :
    Triple (· = s.keep msgs) (trimLoop duration currentTime msgs)
      (fun _ s' => s' = s.keep (window Odometry.time duration currentTime msgs))
      (fun _ _ => ∃ msg ∈ msgs, Refused msg) := by
  induction msgs with
  | nil => exact triple_pure fun _ hs => hs
  | cons odom rest ih =>
    refine triple_rclcppTime_bind (fun hrefused _ _ => ⟨odom, List.mem_cons_self, hrefused⟩)
      (triple_ite (fun hold => ?_) (fun hrecent => triple_pure ?_))
    · have hrest := ih (List.pairwise_cons.mp h).2
      refine triple_bind (Q := fun _ s' => s' = s.keep rest) (triple_modify ?_) fun _ =>
        triple_conseq hrest (fun _ hs => hs) (fun _ s' hs' => ?_) ?_
      · rintro _ rfl
        simp only [Smoother.keep, subtractTwist_twistSum]
      · rw [hs', window_cons_of_old hold]
      · rintro _ _ ⟨msg, hmem, hrefused⟩
        exact ⟨msg, List.mem_cons_of_mem _ hmem, hrefused⟩
    · rintro _ rfl
      rw [window_cons_of_recent h (not_lt.mp hrecent)]

/-- So does the part of the callback before the message is stored. -/
theorem triple_trim (msg : Odometry K) (s : Smoother K) (msgs : List (Odometry K))
    (h : Ordered Odometry.time msgs) :
    Triple (· = s.keep msgs) (trim msg)
      (fun _ s' => s' = s.keep (window Odometry.time s.odomHistoryDuration msg.time msgs))
      (fun _ _ => ∃ m ∈ msg :: msgs, Refused m) := by
  refine triple_get_bind fun s' hs' => ?_
  obtain rfl := hs'
  cases msgs with
  | nil => exact triple_pure fun _ hs => hs
  | cons odom rest =>
    refine triple_rclcppTime_bind (fun hrefused _ _ => ⟨msg, List.mem_cons_self, hrefused⟩)
      (triple_conseq (triple_trimLoop s.odomHistoryDuration msg.time s (odom :: rest) h)
        (fun _ hs => hs) (fun _ _ hq => hq) ?_)
    rintro _ _ ⟨m, hmem, hrefused⟩
    exact ⟨m, List.mem_cons_of_mem _ hmem, hrefused⟩

/-- The node after a message, with the history `msgs` that the message is
part of. -/
def Smoother.smoothed (msg : Odometry K) (msgs : List (Odometry K)) (s : Smoother K) :
    Smoother K :=
  { s.keep msgs with
    receivedOdom := true
    velSmooth := ⟨msg.header, divideTwist (twistSum msgs) (msgs.length : K)⟩ }

/-- One message. -/
theorem triple_odomCallback (msg : Odometry K) (s : Smoother K) (msgs : List (Odometry K))
    (h : Ordered Odometry.time msgs) :
    Triple (· = s.keep msgs) (odomCallback msg)
      (fun _ s' => s' =
        s.smoothed msg (window Odometry.time s.odomHistoryDuration msg.time msgs ++ [msg]))
      (fun _ _ => ∃ m ∈ msg :: msgs, Refused m) := by
  let received : Smoother K := { s with receivedOdom := true }
  let kept := window Odometry.time s.odomHistoryDuration msg.time msgs
  refine triple_bind (Q := fun _ s' => s' = received.keep msgs) (triple_modify ?_) fun _ =>
    triple_bind (triple_trim msg received msgs h) fun _ =>
      triple_bind (Q := fun _ s' => s' = { received.keep kept with odomHistory := kept ++ [msg] })
        (triple_modify ?_) fun _ => triple_modify ?_
  · rintro _ rfl
    rfl
  · rintro _ rfl
    rfl
  · rintro _ rfl
    simp only [Smoother.updateState, Smoother.keep, Smoother.smoothed, addTwist_twistSum, received,
      kept]

/-! ## Runs -/

/-- The node, and the messages that it has received. -/
structure Receiving (K : Type) where
  smoother : Smoother K
  received : List (Odometry K)

def receive (r : Receiving K) (msg : Odometry K) : Option (Receiving K) :=
  match (odomCallback msg).run r.smoother with
  | .ok _ s => some ⟨s, r.received ++ [msg]⟩
  | .error _ _ => none

/-- Any sequence of messages; an exception leaves the node. -/
def odomSystem (odomHistoryDuration : Int) : System (Receiving K) (Odometry K) where
  init := fun r => r = ⟨.created odomHistoryDuration, []⟩
  step := receive

/-- The stamps do not decrease. -/
def NonDecreasing (r : Receiving K) (msg : Odometry K) : Prop :=
  ∀ last ∈ r.received.getLast?, last.time ≤ msg.time

instance (r : Receiving K) (msg : Odometry K) : Decidable (NonDecreasing r msg) :=
  inferInstanceAs (Decidable (∀ last ∈ r.received.getLast?, last.time ≤ msg.time))

/-- The node holds the recent messages, their sum and its mean. -/
structure Tracks (duration : Int) (r : Receiving K) : Prop where
  ordered : Ordered Odometry.time r.received
  keeps : ∃ s : Smoother K, s.odomHistoryDuration = duration ∧
    r.smoother = s.keep (recent Odometry.time duration r.received)
  smoothed : ∀ newest ∈ r.received.getLast?, ∃ s : Smoother K, r.smoother =
    s.smoothed newest (recent Odometry.time duration r.received)

variable {duration : Int} {r r' : Receiving K} {msg : Odometry K}

theorem Tracks.receive (hduration : 0 ≤ duration) (h : Tracks duration r)
    (hlast : NonDecreasing r msg) (hstep : receive r msg = some r') : Tracks duration r' := by
  obtain ⟨s, hs, hkeeps⟩ := h.keeps
  have hrun := triple_odomCallback msg s _ h.ordered.recent r.smoother hkeeps
  simp only [OdomSmoother.receive] at hstep
  split at hstep
  · next s' hok =>
    rw [hok] at hrun
    cases hstep
    rw [hs, ← recent_concat hduration hlast] at hrun
    refine ⟨h.ordered.concat hlast, ⟨{ s with receivedOdom := true, velSmooth := s'.velSmooth },
      hs, ?_⟩, fun newest hnewest => ⟨s, ?_⟩⟩
    · rw [hrun]
      rfl
    · rw [List.getLast?_concat] at hnewest
      cases hnewest
      exact hrun
  · cases hstep

theorem tracks_of_reach (hduration : 0 ≤ duration)
    (h : (odomSystem duration).Reach NonDecreasing r) : Tracks duration r := by
  refine h.invariant (Tracks duration) (fun r hinit => ?_) fun r msg r' hr hlast hstep =>
    hr.receive hduration hlast hstep
  obtain rfl := hinit
  exact ⟨ordered_nil, ⟨.created duration, rfl, rfl⟩, fun newest hnewest => nomatch hnewest⟩

/-- After a message `getTwistStamped()` returns the mean. -/
theorem getTwistStamped_eq (h : Tracks duration r) (hne : r.received ≠ []) :
    getTwistStamped r.smoother = r.smoother.velSmooth := by
  obtain ⟨newest, hnewest⟩ : ∃ newest, r.received.getLast? = some newest :=
    ⟨_, List.getLast?_eq_some_getLast hne⟩
  obtain ⟨s, hs⟩ := h.smoothed newest hnewest
  rw [hs]
  rfl

/-- The history is what has been received within the duration before the
newest message, `odom_cumulate_` is its sum, and `vel_smooth_` the mean. -/
structure WindowMean (duration : Int) (received : List (Odometry K)) (newest : Odometry K)
    (s : Smoother K) : Prop where
  history : s.odomHistory = received.filter fun m => newest.time - m.time ≤ duration
  cumulate : s.odomCumulate = twistSum s.odomHistory
  nonempty : 0 < s.odomHistory.length
  mean : s.velSmooth.twist = divideTwist (twistSum s.odomHistory) (s.odomHistory.length : K)
  header : s.velSmooth.header = newest.header

/-- **The mean.** While the stamps do not decrease, after each message the
node holds the messages of the duration before it, their sum and their mean,
and a message is only refused for a stamp before the epoch. -/
theorem sliding_window_mean (hduration : 0 ≤ duration)
    (h : (odomSystem duration).Reach NonDecreasing r) :
    (∀ newest ∈ r.received.getLast?, WindowMean duration r.received newest r.smoother) ∧
      ∀ msg, (∀ m ∈ msg :: r.received, ¬ Refused m) →
        ∃ r', (odomSystem duration).step r msg = some r' ∧ r'.received = r.received ++ [msg] := by
  have htracks := tracks_of_reach hduration h
  refine ⟨fun newest hnewest => ?_, fun msg hstamps => ?_⟩
  · obtain ⟨s, hs⟩ := htracks.smoothed newest hnewest
    have hrecent : recent Odometry.time duration r.received =
        r.received.filter fun m => newest.time - m.time ≤ duration := by
      rw [recent, Option.mem_def.mp hnewest]
      rfl
    have hmem : newest ∈ recent Odometry.time duration r.received := by
      rw [hrecent]
      refine List.mem_filter.mpr ⟨List.mem_of_getLast? hnewest, ?_⟩
      simpa using hduration
    rw [hs]
    exact ⟨hrecent, rfl, List.length_pos_of_mem hmem, rfl, rfl⟩
  · obtain ⟨s, -, hkeeps⟩ := htracks.keeps
    have hrun := triple_odomCallback msg s _ htracks.ordered.recent r.smoother hkeeps
    simp only [odomSystem, receive]
    cases hcall : (odomCallback msg).run r.smoother with
    | ok _ s' => exact ⟨_, rfl, rfl⟩
    | error e s' =>
      rw [hcall] at hrun
      obtain ⟨m, hm, hrefused⟩ := hrun
      refine absurd hrefused (hstamps m ?_)
      rcases List.mem_cons.mp hm with rfl | hrecent
      · exact List.mem_cons_self
      · exact List.mem_cons_of_mem _ (mem_of_mem_recent hrecent)

end Smoother

/-! ### Three messages -/

/-- A message in the first second, with a speed ahead. -/
def odometryAt (ms : Nat) (speed : ℚ) : Odometry ℚ :=
  ⟨⟨⟨0, ms * 1000000⟩, "odom"⟩, ⟨⟨speed, 0, 0⟩, ⟨0, 0, 0⟩⟩⟩

/-- With a duration of 0.3 s the third message drops the first one. -/
theorem sliding_window_mean_third : ∃ r : Receiving ℚ,
    r.smoother.odomHistory = [odometryAt 200 3, odometryAt 400 5] ∧
      r.smoother.velSmooth.twist.linear.x = 4 ∧
      WindowMean 300000000 r.received (odometryAt 400 5) r.smoother := by
  obtain ⟨r, hr, hend⟩ := System.exists_reach_of_runWhile (S := odomSystem 300000000)
    NonDecreasing [odometryAt 0 1, odometryAt 200 3, odometryAt 400 5]
    (fun r => r.smoother.odomHistory = [odometryAt 200 3, odometryAt 400 5] ∧
      r.smoother.velSmooth.twist.linear.x = 4 ∧ r.received.getLast? = some (odometryAt 400 5))
    (s := ⟨.created 300000000, []⟩) rfl (by decide +kernel)
  obtain ⟨hhistory, hspeed, hlast⟩ := of_decide_eq_true hend
  exact ⟨r, hhistory, hspeed, (sliding_window_mean (by decide) hr).1 _ hlast⟩

end Nav3D.Util.OdomSmoother
