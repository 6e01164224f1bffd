/-
Nav3D.BehaviorTree.ConvertFromString — the decoders of blackboard strings
(`bt_utils.hpp`).

A string is split at every `;`, the number of the parts is checked, and the
records are read with one part for each field. `parts.size() - 2` wraps
around; the remainders of 2⁶⁴ - 2 and 2⁶⁴ - 1 by nine are not zero, so a
header is not read from fewer than two parts. Reads of parts are checked
here, and `decoders_lossless` says that none of them is out of range, when
the check passes, and that what has been rendered is decoded.

`splitString`, the conversions of the fields and the decoding of JSON are
parameters. A stamp is a number of nanoseconds, as `rclcpp::Time` takes it.
-/
import Nav3D.Lib.Decimal
import Nav3D.Lib.FixedWidth
import Nav3D.Px4.OffboardControl
import Nav3D.Ros.Messages
import Mathlib.Algebra.Group.Nat.Defs
import Mathlib.Data.List.TakeDrop

namespace Nav3D.BehaviorTree.ConvertFromString

open Decimal FixedWidth
open Nav3D.Px4 (Pose)

/-! ## The messages -/

/-- `std_msgs/Header`. -/
abbrev Header : Type := Msg.Header Int64

/-- `geometry_msgs/PoseStamped`. -/
abbrev PoseStamped (D : Type) : Type := Msg.PoseStamped Int64 (Pose D)

/-- `nav_msgs/Goals`. -/
structure Goals (D : Type) where
  header : Header
  goals : List (PoseStamped D)
  deriving DecidableEq

/-- `nav_msgs/Path`. -/
abbrev Path (D : Type) : Type := Msg.Path Int64 (Pose D)

/-- `nav3d_msgs/WaypointStatus`. -/
structure WaypointStatus (D : Type) where
  waypointStatus : UInt8
  waypointIndex : UInt32
  waypointPose : PoseStamped D
  errorCode : UInt16
  errorMsg : String
  deriving DecidableEq

/-! ## Other libraries -/

/-- A vector of parts, whose size is a `size_t`. -/
structure Parts where
  toList : List String
  length_lt : toList.length < 2 ^ 64

/-- Why a decoder does not return. -/
inductive ConvertError where
  /-- A part outside the vector is read. -/
  | outOfRange
  /-- A conversion throws. -/
  | conversion
  | runtimeError (what : String)
  deriving DecidableEq

/-- What is called of other libraries: none is a conversion that throws. -/
structure Conversions (D : Type) where
  /-- `BT::splitString(key, ';')`. -/
  splitString : String → Parts
  int64 : String → Option Int64
  string : String → Option String
  double : String → Option D
  uint8 : String → Option UInt8
  uint16 : String → Option UInt16
  uint32 : String → Option UInt32
  posesFromJson : String → Except ConvertError (List (PoseStamped D))
  goalsFromJson : String → Except ConvertError (Goals D)
  pathFromJson : String → Except ConvertError (Path D)
  waypointStatusesFromJson : String → Except ConvertError (List (WaypointStatus D))

/-! ## The decoders -/

section Decoders

variable {D : Type} (c : Conversions D)

/-- `StartWith`. -/
def startWith (key start : String) : Bool := start.toList.isPrefixOf key.toList

/-- `parts[i]`, converted. -/
def field {α : Type} (convert : String → Option α) (parts : Parts) (i : Nat) :
    Except ConvertError α :=
  match parts.toList[i]? with
  | none => .error .outOfRange
  | some part =>
    match convert part with
    | none => .error .conversion
    | some value => .ok value

/-- The body of the loop over poses. -/
def readPoseStamped (parts : Parts) (i : Nat) : Except ConvertError (PoseStamped D) := do
  let stamp ← field c.int64 parts i
  let frameId ← field c.string parts (i + 1)
  let positionX ← field c.double parts (i + 2)
  let positionY ← field c.double parts (i + 3)
  let positionZ ← field c.double parts (i + 4)
  let orientationX ← field c.double parts (i + 5)
  let orientationY ← field c.double parts (i + 6)
  let orientationZ ← field c.double parts (i + 7)
  let orientationW ← field c.double parts (i + 8)
  return ⟨⟨stamp, frameId⟩, ⟨⟨positionX, positionY, positionZ⟩,
    ⟨orientationX, orientationY, orientationZ, orientationW⟩⟩⟩

/-- The body of the loop over waypoint statuses. -/
def readWaypointStatus (parts : Parts) (i : Nat) : Except ConvertError (WaypointStatus D) := do
  let waypointStatus ← field c.uint8 parts i
  let waypointIndex ← field c.uint32 parts (i + 1)
  let stamp ← field c.int64 parts (i + 2)
  let frameId ← field c.string parts (i + 3)
  let positionX ← field c.double parts (i + 4)
  let positionY ← field c.double parts (i + 5)
  let positionZ ← field c.double parts (i + 6)
  let orientationX ← field c.double parts (i + 7)
  let orientationY ← field c.double parts (i + 8)
  let orientationZ ← field c.double parts (i + 9)
  let orientationW ← field c.double parts (i + 10)
  let errorCode ← field c.uint16 parts (i + 11)
  let errorMsg ← field c.string parts (i + 12)
  return ⟨waypointStatus, waypointIndex, ⟨⟨stamp, frameId⟩, ⟨⟨positionX, positionY, positionZ⟩,
    ⟨orientationX, orientationY, orientationZ, orientationW⟩⟩⟩, errorCode, errorMsg⟩

/-- `parts[0]` and `parts[1]`. -/
def readHeader (parts : Parts) : Except ConvertError Header := do
  let stamp ← field c.int64 parts 0
  let frameId ← field c.string parts 1
  return ⟨stamp, frameId⟩

/-- A difference of two `size_t`. -/
def subSizeT (a b : Nat) : Nat := (a + 2 ^ 64 - b) % 2 ^ 64

/-- A decoder of records: how many parts come before them, how these are
read, and what is returned. -/
def decodeRecords {H R M : Type} (fromJson : String → Except ConvertError M) (before width : Nat)
    (hwidth : 0 < width) (message : String) (readBefore : Parts → Except ConvertError H)
    (readRecord : Parts → Nat → Except ConvertError R) (make : H → List R → M) (key : String) :
    Except ConvertError M :=
  if startWith key "json:" then fromJson (String.ofList (key.toList.drop 5))
  else
    let parts := c.splitString key
    if subSizeT parts.toList.length before % width ≠ 0 then .error (.runtimeError message)
    else do
      let header ← readBefore parts
      let records ← readRecords (readRecord parts) width hwidth parts.toList.length before
      return make header records

/-- `convertFromString<std::vector<PoseStamped>>`, which has no header. -/
def convertFromStringPoses : String → Except ConvertError (List (PoseStamped D)) :=
  decodeRecords c c.posesFromJson 0 9 (by decide)
    "invalid number of fields for std::vector<PoseStamped> attribute)" (fun _ => .ok ⟨⟩)
    (readPoseStamped c) fun (_ : PUnit) poses => poses

/-- `convertFromString<Goals>`. -/
def convertFromStringGoals : String → Except ConvertError (Goals D) :=
  decodeRecords c c.goalsFromJson 2 9 (by decide) "invalid number of fields for Goals attribute)"
    (readHeader c) (readPoseStamped c) Goals.mk

/-- `convertFromString<Path>`. -/
def convertFromStringPath : String → Except ConvertError (Path D) :=
  decodeRecords c c.pathFromJson 2 9 (by decide) "invalid number of fields for Path attribute)"
    (readHeader c) (readPoseStamped c) Msg.Path.mk

/-- `convertFromString<std::vector<WaypointStatus>>`. -/
def convertFromStringWaypointStatuses : String → Except ConvertError (List (WaypointStatus D)) :=
  decodeRecords c c.waypointStatusesFromJson 0 13 (by decide)
    "invalid number of fields for std::vector<WaypointStatus> attribute)" (fun _ => .ok ⟨⟩)
    (readWaypointStatus c) fun (_ : PUnit) statuses => statuses

end Decoders

/-! ## What is wanted -/

/-- How numbers are rendered. -/
structure Renderings (D : Type) where
  int64 : Int64 → String
  double : D → String
  uint8 : UInt8 → String
  uint16 : UInt16 → String
  uint32 : UInt32 → String

/-- There is no `;` in the text. -/
def Unseparated (text : String) : Prop := ';' ∉ text.toList

/-- The fields with a `;` between them. -/
def joined (fields : List String) : String := ";".intercalate fields

/-- A conversion inverts a rendering without `;`. -/
structure Inverts {α : Type} (convert : String → Option α) (render : α → String) : Prop where
  inverse : ∀ value, convert (render value) = some value
  unseparated : ∀ value, Unseparated (render value)

section Wanted

variable {D : Type} (c : Conversions D) (r : Renderings D)

/-- What the decoders rely on: the split undoes the joining of any fields
without `;`, but not of a single empty field, which is rendered like no
fields. -/
structure Lawful : Prop where
  splitString : ∀ parts : Parts, (∀ part ∈ parts.toList, Unseparated part) →
    parts.toList ≠ [""] → c.splitString (joined parts.toList) = parts
  string : ∀ value, c.string value = some value
  int64 : Inverts c.int64 r.int64
  double : Inverts c.double r.double
  uint8 : Inverts c.uint8 r.uint8
  uint16 : Inverts c.uint16 r.uint16
  uint32 : Inverts c.uint32 r.uint32

def headerFields (header : Header) : List String := [r.int64 header.stamp, header.frameId]

def poseFields (p : PoseStamped D) : List String :=
  [r.int64 p.header.stamp, p.header.frameId, r.double p.pose.position.x,
    r.double p.pose.position.y, r.double p.pose.position.z, r.double p.pose.orientation.x,
    r.double p.pose.orientation.y, r.double p.pose.orientation.z, r.double p.pose.orientation.w]

def waypointFields (w : WaypointStatus D) : List String :=
  [r.uint8 w.waypointStatus, r.uint32 w.waypointIndex] ++ poseFields r w.waypointPose ++
    [r.uint16 w.errorCode, w.errorMsg]

/-- The string fields of a pose. -/
def PoseUnseparated (p : PoseStamped D) : Prop := Unseparated p.header.frameId

/-- The string fields of a waypoint status. -/
def WaypointUnseparated (w : WaypointStatus D) : Prop :=
  PoseUnseparated w.waypointPose ∧ Unseparated w.errorMsg

/-- A decoder is safe and lossless: no part out of range is read, the check
passes exactly for `before` parts and a whole number of records, and what
has been joined is decoded. -/
structure Decodes {M : Type} (decode : String → Except ConvertError M) (message : String)
    (before width : Nat) (fields : M → List String) (Free : M → Prop) : Prop where
  in_range : ∀ key, startWith key "json:" = false → decode key ≠ .error .outOfRange
  check : ∀ key, startWith key "json:" = false →
    (decode key ≠ .error (.runtimeError message) ↔
      ∃ k, (c.splitString key).toList.length = before + width * k)
  lossless : ∀ m, Free m → (fields m).length < 2 ^ 64 →
    startWith (joined (fields m)) "json:" = false → decode (joined (fields m)) = .ok m

end Wanted

/-! ## Reading fields -/

section Fields

variable {α β : Type} {convert : String → Option α} {parts : Parts} {i : Nat}

/-- The only error is a conversion that throws. -/
def OnlyThrows (result : Except ConvertError α) : Prop :=
  ∀ e, result = .error e → e = .conversion

theorem onlyThrows_ok (value : α) : OnlyThrows (.ok value) := by
  intro e h
  cases h

theorem OnlyThrows.bind {result : Except ConvertError α} {f : α → Except ConvertError β}
    (h : OnlyThrows result) (hf : ∀ value, OnlyThrows (f value)) : OnlyThrows (result >>= f) := by
  cases result with
  | error e =>
    intro e' he'
    cases he'
    exact h e rfl
  | ok value => exact hf value

theorem onlyThrows_field (h : i < parts.toList.length) : OnlyThrows (field convert parts i) := by
  unfold field
  rw [List.getElem?_eq_getElem h]
  simp only
  split
  · intro e he
    cases he
    rfl
  · exact onlyThrows_ok _

/-- A field behind the parts `before`. -/
theorem field_at {before fields after : List String}
    (h : parts.toList = before ++ (fields ++ after)) (j : Nat) {part : String} {value : α}
    (hj : fields[j]? = some part) (hconvert : convert part = some value) :
    field convert parts (before.length + j) = .ok value := by
  have hlt : j < fields.length := (List.getElem?_eq_some_iff.mp hj).1
  have hpart : parts.toList[before.length + j]? = some part := by
    rw [h, List.getElem?_append_right (by omega), Nat.add_sub_cancel_left,
      List.getElem?_append_left hlt, hj]
  simp only [field, hpart, hconvert]

end Fields

/-! ## Reading records -/

section Records

variable {D : Type} {c : Conversions D} {r : Renderings D}

/-- A record and its fields. -/
structure Codec {R : Type} (read : Parts → Nat → Except ConvertError R) (width : Nat)
    (fields : R → List String) (Free : R → Prop) : Prop where
  length_eq : ∀ record, (fields record).length = width
  throws : ∀ parts i, i + width ≤ parts.toList.length → OnlyThrows (read parts i)
  unseparated : ∀ record, Free record → ∀ part ∈ fields record, Unseparated part
  read_back : ∀ record (parts : Parts) before after,
    parts.toList = before ++ (fields record ++ after) → read parts before.length = .ok record

theorem codec_readPoseStamped (h : Lawful c r) :
    Codec (readPoseStamped c) 9 (poseFields r) PoseUnseparated where
  length_eq := fun _ => rfl
  throws := by
    intro parts i hi
    unfold readPoseStamped
    refine (onlyThrows_field (by omega)).bind fun _ => ?_
    refine (onlyThrows_field (by omega)).bind fun _ => ?_
    refine (onlyThrows_field (by omega)).bind fun _ => ?_
    refine (onlyThrows_field (by omega)).bind fun _ => ?_
    refine (onlyThrows_field (by omega)).bind fun _ => ?_
    refine (onlyThrows_field (by omega)).bind fun _ => ?_
    refine (onlyThrows_field (by omega)).bind fun _ => ?_
    refine (onlyThrows_field (by omega)).bind fun _ => ?_
    refine (onlyThrows_field (by omega)).bind fun _ => ?_
    exact onlyThrows_ok _
  unseparated := by
    intro p hp
    simp only [poseFields, List.forall_mem_cons, List.not_mem_nil, false_imp_iff, implies_true,
      and_true]
    exact ⟨h.int64.unseparated _, hp, h.double.unseparated _, h.double.unseparated _,
      h.double.unseparated _, h.double.unseparated _, h.double.unseparated _,
      h.double.unseparated _, h.double.unseparated _⟩
  read_back := by
    intro p parts before after hparts
    have hstamp : field c.int64 parts before.length = .ok p.header.stamp :=
      field_at hparts 0 rfl (h.int64.inverse _)
    have hframeId : field c.string parts (before.length + 1) = .ok p.header.frameId :=
      field_at hparts 1 rfl (h.string _)
    have hdouble := fun (j : Nat) (value : D) (hj : (poseFields r p)[j]? = some (r.double value)) =>
      field_at hparts j hj (h.double.inverse value)
    simp only [readPoseStamped, hstamp, hframeId, hdouble 2 _ rfl, hdouble 3 _ rfl,
      hdouble 4 _ rfl, hdouble 5 _ rfl, hdouble 6 _ rfl, hdouble 7 _ rfl, hdouble 8 _ rfl]
    rfl

theorem codec_readWaypointStatus (h : Lawful c r) :
    Codec (readWaypointStatus c) 13 (waypointFields r) WaypointUnseparated where
  length_eq := fun _ => rfl
  throws := by
    intro parts i hi
    unfold readWaypointStatus
    refine (onlyThrows_field (by omega)).bind fun _ => ?_
    refine (onlyThrows_field (by omega)).bind fun _ => ?_
    refine (onlyThrows_field (by omega)).bind fun _ => ?_
    refine (onlyThrows_field (by omega)).bind fun _ => ?_
    refine (onlyThrows_field (by omega)).bind fun _ => ?_
    refine (onlyThrows_field (by omega)).bind fun _ => ?_
    refine (onlyThrows_field (by omega)).bind fun _ => ?_
    refine (onlyThrows_field (by omega)).bind fun _ => ?_
    refine (onlyThrows_field (by omega)).bind fun _ => ?_
    refine (onlyThrows_field (by omega)).bind fun _ => ?_
    refine (onlyThrows_field (by omega)).bind fun _ => ?_
    refine (onlyThrows_field (by omega)).bind fun _ => ?_
    refine (onlyThrows_field (by omega)).bind fun _ => ?_
    exact onlyThrows_ok _
  unseparated := by
    intro w hw part hpart
    have hpose := (codec_readPoseStamped h).unseparated w.waypointPose hw.1
    simp only [waypointFields, List.mem_append, List.mem_cons, List.not_mem_nil, or_false] at hpart
    rcases hpart with ((rfl | rfl) | hpart) | rfl | rfl
    · exact h.uint8.unseparated _
    · exact h.uint32.unseparated _
    · exact hpose part hpart
    · exact h.uint16.unseparated _
    · exact hw.2
  read_back := by
    intro w parts before after hparts
    have hstatus : field c.uint8 parts before.length = .ok w.waypointStatus :=
      field_at hparts 0 rfl (h.uint8.inverse _)
    have hindex : field c.uint32 parts (before.length + 1) = .ok w.waypointIndex :=
      field_at hparts 1 rfl (h.uint32.inverse _)
    have hstamp : field c.int64 parts (before.length + 2) = .ok w.waypointPose.header.stamp :=
      field_at hparts 2 rfl (h.int64.inverse _)
    have hframeId : field c.string parts (before.length + 3) = .ok w.waypointPose.header.frameId :=
      field_at hparts 3 rfl (h.string _)
    have hdouble := fun (j : Nat) (value : D)
        (hj : (waypointFields r w)[j]? = some (r.double value)) =>
      field_at hparts j hj (h.double.inverse value)
    have herrorCode : field c.uint16 parts (before.length + 11) = .ok w.errorCode :=
      field_at hparts 11 rfl (h.uint16.inverse _)
    have herrorMsg : field c.string parts (before.length + 12) = .ok w.errorMsg :=
      field_at hparts 12 rfl (h.string _)
    simp only [readWaypointStatus, hstatus, hindex, hstamp, hframeId, hdouble 4 _ rfl,
      hdouble 5 _ rfl, hdouble 6 _ rfl, hdouble 7 _ rfl, hdouble 8 _ rfl, hdouble 9 _ rfl,
      hdouble 10 _ rfl, herrorCode, herrorMsg]
    rfl

/-- What comes before the records. -/
structure HeaderCodec {H : Type} (read : Parts → Except ConvertError H) (width : Nat)
    (fields : H → List String) (Free : H → Prop) : Prop where
  length_eq : ∀ header, (fields header).length = width
  throws : ∀ parts, width ≤ parts.toList.length → OnlyThrows (read parts)
  unseparated : ∀ header, Free header → ∀ part ∈ fields header, Unseparated part
  read_back : ∀ header (parts : Parts) after,
    parts.toList = fields header ++ after → read parts = .ok header

theorem headerCodec_none :
    HeaderCodec (fun _ => .ok PUnit.unit) 0 (fun _ => []) (fun _ => True) where
  length_eq := fun _ => rfl
  throws := fun _ _ => onlyThrows_ok _
  unseparated := by simp
  read_back := fun _ _ _ _ => rfl

theorem headerCodec_readHeader (h : Lawful c r) :
    HeaderCodec (readHeader c) 2 (headerFields r) (fun header => Unseparated header.frameId) where
  length_eq := fun _ => rfl
  throws := by
    intro parts hparts
    unfold readHeader
    refine (onlyThrows_field (by omega)).bind fun _ => ?_
    refine (onlyThrows_field (by omega)).bind fun _ => ?_
    exact onlyThrows_ok _
  unseparated := by
    intro header hheader part hpart
    simp only [headerFields, List.mem_cons, List.not_mem_nil, or_false] at hpart
    rcases hpart with rfl | rfl
    · exact h.int64.unseparated _
    · exact hheader
  read_back := by
    intro header parts after hparts
    have hfirst : parts.toList = [] ++ (headerFields r header ++ after) := hparts
    have hstamp : field c.int64 parts 0 = .ok header.stamp :=
      field_at hfirst 0 rfl (h.int64.inverse _)
    have hframeId : field c.string parts 1 = .ok header.frameId :=
      field_at hfirst 1 rfl (h.string _)
    simp only [readHeader, hstamp, hframeId]
    rfl

end Records

/-! ## Decoders -/

/-- The check, if no size that wraps around passes it. -/
theorem subSizeT_mod_eq_zero_iff {before width n : Nat}
    (hwrap : ∀ n < before, (n + 2 ^ 64 - before) % width ≠ 0) (hn : n < 2 ^ 64) :
    subSizeT n before % width = 0 ↔ ∃ k, n = before + width * k := by
  by_cases hlt : n < before
  · have hsub : subSizeT n before = n + 2 ^ 64 - before := Nat.mod_eq_of_lt (by omega)
    rw [hsub]
    refine iff_of_false (hwrap n hlt) ?_
    rintro ⟨k, hk⟩
    omega
  · have hsub : subSizeT n before = n - before := by
      rw [subSizeT, show n + 2 ^ 64 - before = n - before + 2 ^ 64 by omega, Nat.add_mod_right]
      exact Nat.mod_eq_of_lt (by omega)
    rw [hsub]
    constructor
    · intro hmod
      obtain ⟨k, hk⟩ := Nat.dvd_of_mod_eq_zero hmod
      exact ⟨k, by omega⟩
    · rintro ⟨k, rfl⟩
      rw [Nat.add_sub_cancel_left, Nat.mul_mod_right]

section Decoders

variable {D H R M : Type} {c : Conversions D} {fromJson : String → Except ConvertError M}
  {before width : Nat} {hwidth : 0 < width} {message : String}
  {readBefore : Parts → Except ConvertError H} {headerFields : H → List String}
  {HeaderFree : H → Prop} {readRecord : Parts → Nat → Except ConvertError R}
  {recordFields : R → List String} {RecordFree : R → Prop} {make : H → List R → M}
  {fields : M → List String} {Free : M → Prop}

/-- A message is made of a header and records. -/
structure MadeOf (make : H → List R → M) (headerFields : H → List String)
    (recordFields : R → List String) (HeaderFree : H → Prop) (RecordFree : R → Prop)
    (fields : M → List String) (Free : M → Prop) (m : M) (header : H) (records : List R) :
    Prop where
  make_eq : make header records = m
  fields_eq : fields m = headerFields header ++ records.flatMap recordFields
  free : Free m → HeaderFree header ∧ ∀ record ∈ records, RecordFree record

/-- The decoder after the split. -/
theorem decodeRecords_of_parts {key : String} (hkey : startWith key "json:" = false)
    (hwrap : ∀ n < before, (n + 2 ^ 64 - before) % width ≠ 0) :
    decodeRecords c fromJson before width hwidth message readBefore readRecord make key =
        .error (.runtimeError message) ∧
      (¬ ∃ k, (c.splitString key).toList.length = before + width * k) ∨
    ∃ k, (c.splitString key).toList.length = before + width * k ∧
      decodeRecords c fromJson before width hwidth message readBefore readRecord make key = (do
        let header ← readBefore (c.splitString key)
        let records ← readRecords (readRecord (c.splitString key)) width hwidth
          (c.splitString key).toList.length before
        return make header records) := by
  have hcheck := subSizeT_mod_eq_zero_iff hwrap (c.splitString key).length_lt
  unfold decodeRecords
  rw [if_neg (by simp [hkey])]
  by_cases hmod : subSizeT (c.splitString key).toList.length before % width = 0
  · right
    obtain ⟨k, hk⟩ := hcheck.mp hmod
    exact ⟨k, hk, if_neg (not_not.mpr hmod)⟩
  · left
    exact ⟨if_pos hmod, mt hcheck.mpr hmod⟩

theorem decodes_decodeRecords
    (hsplit : ∀ parts : Parts, (∀ part ∈ parts.toList, Unseparated part) →
      parts.toList ≠ [""] → c.splitString (joined parts.toList) = parts)
    (hheader : HeaderCodec readBefore before headerFields HeaderFree)
    (hrecord : Codec readRecord width recordFields RecordFree)
    (hwrap : ∀ n < before, (n + 2 ^ 64 - before) % width ≠ 0)
    (hone : ∀ k, before + width * k ≠ 1)
    (hmade : ∀ m, ∃ header records,
      MadeOf make headerFields recordFields HeaderFree RecordFree fields Free m header records) :
    Decodes c (decodeRecords c fromJson before width hwidth message readBefore readRecord make)
      message before width fields Free := by
  -- after the check only a conversion can throw
  have hthrows : ∀ key k, (c.splitString key).toList.length = before + width * k →
      OnlyThrows (do
        let header ← readBefore (c.splitString key)
        let records ← readRecords (readRecord (c.splitString key)) width hwidth
          (c.splitString key).toList.length before
        return make header records) := by
    intro key k hk
    refine (hheader.throws _ (by omega)).bind fun header => ?_
    refine OnlyThrows.bind ?_ fun records => onlyThrows_ok _
    intro e he
    obtain ⟨j, hj, hread⟩ := readRecords_error hk he
    exact hrecord.throws _ j hj e hread
  refine ⟨?_, ?_, ?_⟩
  · intro key hkey herror
    rcases decodeRecords_of_parts hkey hwrap with ⟨heq, -⟩ | ⟨k, hk, heq⟩
    · rw [heq] at herror
      cases herror
    · rw [heq] at herror
      cases hthrows key k hk _ herror
  · intro key hkey
    rcases decodeRecords_of_parts hkey hwrap with ⟨heq, hnot⟩ | ⟨k, hk, heq⟩
    · exact iff_of_false (not_not.mpr heq) hnot
    · refine iff_of_true ?_ ⟨k, hk⟩
      intro herror
      rw [heq] at herror
      cases hthrows key k hk _ herror
  · intro m hfree hlength hkey
    obtain ⟨header, records, hm⟩ := hmade m
    obtain ⟨hheaderFree, hrecordFree⟩ := hm.free hfree
    have hcount : (fields m).length = before + width * records.length := by
      rw [hm.fields_eq, List.length_append, hheader.length_eq, List.length_flatMap]
      simp [hrecord.length_eq, Nat.mul_comm]
    have hunseparated : ∀ part ∈ fields m, Unseparated part := by
      intro part hpart
      rw [hm.fields_eq, List.mem_append, List.mem_flatMap] at hpart
      rcases hpart with hpart | ⟨record, hmem, hpart⟩
      · exact hheader.unseparated header hheaderFree part hpart
      · exact hrecord.unseparated record (hrecordFree record hmem) part hpart
    have hsingle : fields m ≠ [""] := by
      intro heq
      rw [heq] at hcount
      exact hone records.length hcount.symm
    have hparts : c.splitString (joined (fields m)) = ⟨fields m, hlength⟩ :=
      hsplit ⟨fields m, hlength⟩ hunseparated hsingle
    rcases decodeRecords_of_parts hkey hwrap with ⟨-, hnot⟩ | ⟨k, -, heq⟩
    · rw [hparts] at hnot
      exact absurd ⟨records.length, hcount⟩ hnot
    · rw [heq, hparts]
      have hread := hheader.read_back header ⟨fields m, hlength⟩ _ hm.fields_eq
      have hrecords : readRecords (readRecord ⟨fields m, hlength⟩) width hwidth
          (fields m).length before = .ok records := by
        rw [← hheader.length_eq header]
        apply readRecords_flatMap hrecord.length_eq _ hm.fields_eq
        intro front record _ back hfront
        exact hrecord.read_back record ⟨fields m, hlength⟩ front back hfront
      rw [hread]
      simp only [hrecords]
      exact congrArg Except.ok hm.make_eq

end Decoders

section Messages

variable {D : Type} {c : Conversions D} (r : Renderings D)

def posesFields (poses : List (PoseStamped D)) : List String := poses.flatMap (poseFields r)

def goalsFields (m : Goals D) : List String := headerFields r m.header ++ posesFields r m.goals

def pathFields (m : Path D) : List String := headerFields r m.header ++ posesFields r m.poses

def waypointStatusesFields (statuses : List (WaypointStatus D)) : List String :=
  statuses.flatMap (waypointFields r)

def PosesUnseparated (poses : List (PoseStamped D)) : Prop := ∀ p ∈ poses, PoseUnseparated p

variable {r}

/-- **The decoders are safe and lossless**, each with its own message, number
of parts before the records and number of parts of a record. -/
theorem decoders_lossless (h : Lawful c r) :
    Decodes c (convertFromStringGoals c) "invalid number of fields for Goals attribute)" 2 9
        (goalsFields r) (fun m => Unseparated m.header.frameId ∧ PosesUnseparated m.goals) ∧
      Decodes c (convertFromStringPath c) "invalid number of fields for Path attribute)" 2 9
        (pathFields r) (fun m => Unseparated m.header.frameId ∧ PosesUnseparated m.poses) ∧
      Decodes c (convertFromStringPoses c)
        "invalid number of fields for std::vector<PoseStamped> attribute)" 0 9
        (posesFields r) PosesUnseparated ∧
      Decodes c (convertFromStringWaypointStatuses c)
        "invalid number of fields for std::vector<WaypointStatus> attribute)" 0 13
        (waypointStatusesFields r) (fun statuses => ∀ w ∈ statuses, WaypointUnseparated w) := by
  have hheader := headerCodec_readHeader h
  have hpose := codec_readPoseStamped h
  have hwaypoint := codec_readWaypointStatus h
  refine ⟨?_, ?_, ?_, ?_⟩
  · exact decodes_decodeRecords h.splitString hheader hpose (by decide) (by omega)
      fun m => ⟨m.header, m.goals, rfl, rfl, fun hfree => hfree⟩
  · exact decodes_decodeRecords h.splitString hheader hpose (by decide) (by omega)
      fun m => ⟨m.header, m.poses, rfl, rfl, fun hfree => hfree⟩
  · exact decodes_decodeRecords h.splitString headerCodec_none hpose (by simp) (by omega)
      fun poses => ⟨⟨⟩, poses, rfl, rfl, fun hfree => ⟨trivial, hfree⟩⟩
  · exact decodes_decodeRecords h.splitString headerCodec_none hwaypoint (by simp) (by omega)
      fun statuses => ⟨⟨⟩, statuses, rfl, rfl, fun hfree => ⟨trivial, hfree⟩⟩

end Messages

/-! ## Decimal numbers -/

theorem semicolon_not_mem_renderInt (n : Int) : ';' ∉ renderInt n :=
  not_mem_renderInt rfl (by decide) n

/-- Numbers of any type, by an integer. -/
theorem inverts_renderInt {α : Type} {toInt : α → Int} {ofInt : Int → α}
    (h : ∀ value, ofInt (toInt value) = value) :
    Inverts (fun text => (parseInt text.toList).map ofInt)
      (fun value => String.ofList (renderInt (toInt value))) where
  inverse := by
    intro value
    simp [parseInt_renderInt, h]
  unseparated := by
    intro value
    rw [Unseparated, String.toList_ofList]
    exact semicolon_not_mem_renderInt _

/-- The parts between the semicolons, none for the empty text. -/
def splitSemicolons (key : String) : List String :=
  let parts := (key.toList.splitOn ';').map String.ofList
  if parts = [""] then [] else parts

theorem splitSemicolons_joined {parts : List String} (h : ∀ part ∈ parts, Unseparated part)
    (hsingle : parts ≠ [""]) : splitSemicolons (joined parts) = parts := by
  by_cases hne : parts = []
  · subst hne
    rfl
  · have hsplit : ((joined parts).toList.splitOn ';').map String.ofList = parts := by
      have hsemicolon : ";".toList = [';'] := rfl
      rw [joined, String.toList_intercalate, hsemicolon, List.splitOn_intercalate]
      · simp
      · intro text htext
        rw [List.mem_map] at htext
        obtain ⟨part, hpart, rfl⟩ := htext
        exact h part hpart
      · simpa using hne
    unfold splitSemicolons
    rw [hsplit]
    exact if_neg hsingle

/-- The numbers of a pose are whole, and there is no JSON. -/
def decimal : Conversions Int where
  splitString key :=
    if h : (splitSemicolons key).length < 2 ^ 64 then ⟨splitSemicolons key, h⟩
    else ⟨[], by decide⟩
  int64 text := (parseInt text.toList).map Int64.ofInt
  string := some
  double text := (parseInt text.toList).map id
  uint8 text := (parseInt text.toList).map fun n => UInt8.ofNat n.toNat
  uint16 text := (parseInt text.toList).map fun n => UInt16.ofNat n.toNat
  uint32 text := (parseInt text.toList).map fun n => UInt32.ofNat n.toNat
  posesFromJson _ := .error .conversion
  goalsFromJson _ := .error .conversion
  pathFromJson _ := .error .conversion
  waypointStatusesFromJson _ := .error .conversion

def decimals : Renderings Int where
  int64 value := String.ofList (renderInt value.toInt)
  double value := String.ofList (renderInt value)
  uint8 value := String.ofList (renderInt (value.toNat : Int))
  uint16 value := String.ofList (renderInt (value.toNat : Int))
  uint32 value := String.ofList (renderInt (value.toNat : Int))

theorem lawful_decimal : Lawful decimal decimals where
  splitString := by
    intro parts hparts hsingle
    have hsplit := splitSemicolons_joined hparts hsingle
    have hlt : (splitSemicolons (joined parts.toList)).length < 2 ^ 64 := by
      rw [hsplit]
      exact parts.length_lt
    have heq : decimal.splitString (joined parts.toList) = ⟨_, hlt⟩ := dif_pos hlt
    rw [heq]
    cases parts
    congr
  string := fun _ => rfl
  int64 := inverts_renderInt (fun value => by simp)
  double := inverts_renderInt (fun value => rfl)
  uint8 := inverts_renderInt (fun value => by simp)
  uint16 := inverts_renderInt (fun value => by simp)
  uint32 := inverts_renderInt (fun value => by simp)

/-- Two poses in the frame `map`. -/
def twoGoals : Goals Int :=
  ⟨⟨5, "map"⟩, [⟨⟨6, "map"⟩, ⟨⟨1, -2, 3⟩, ⟨0, 0, 0, 1⟩⟩⟩, ⟨⟨7, ""⟩, ⟨⟨4, 5, 6⟩, ⟨0, 0, 1, 0⟩⟩⟩]⟩

theorem decoders_lossless_twoGoals :
    convertFromStringGoals decimal (joined (goalsFields decimals twoGoals)) = .ok twoGoals := by
  have hfree : Unseparated twoGoals.header.frameId ∧ PosesUnseparated twoGoals.goals := by
    simp [Unseparated, PosesUnseparated, PoseUnseparated, twoGoals]
  exact (decoders_lossless lawful_decimal).1.lossless twoGoals hfree (by decide) (by decide +kernel)

end Nav3D.BehaviorTree.ConvertFromString
