/-
Nav3D.BehaviorTree.BtActionServer — the members of `BtActionServer` that a
navigator works with, and the functions on them
(`bt_action_server_impl.hpp`): the loaded tree and the error codes.

The error codes that the tree has left on the blackboard are an argument,
in the order of `error_code_name_prefixes_`, each with its message if that
can be read, and without the codes that cannot be read.
-/
import Nav3D.Lib.BehaviorTree

namespace Nav3D.BehaviorTree

/-- `BtStatus`. -/
inductive BtStatus where
  | succeeded
  | failed
  | canceled
  deriving DecidableEq, Repr

/-- The part of an action's result that `BtActionServer` fills in. -/
structure ErrorResult where
  errorCode : UInt16
  errorMsg : String
  deriving DecidableEq, Inhabited

/-- The error codes of the navigation actions. -/
def errorNone : UInt16 := 0

def failedToLoadBehaviorTree : UInt16 := 9001

def tfError : UInt16 := 9002

structure BtActionServerParams where
  defaultBtXmlFilename : String
  alwaysReloadBtXml : Bool

structure BtActionServer where
  currentBtXmlFilename : String
  internalErrorCode : UInt16
  internalErrorMsg : String
  deriving DecidableEq

/-- What comes of loading an XML file. -/
inductive XmlLoad where
  | created
  | unreadable
  | throws (what : String)

namespace BtActionServer

/-- The members before the first goal. -/
def initial : BtActionServer := ⟨"", errorNone, ""⟩

def setInternalError (s : BtActionServer) (code : UInt16) (msg : String) : BtActionServer :=
  { s with internalErrorCode := code, internalErrorMsg := msg }

def resetInternalError (s : BtActionServer) : BtActionServer := s.setInternalError errorNone ""

def populateInternalError (s : BtActionServer) (result : ErrorResult) : ErrorResult × Bool :=
  if s.internalErrorCode ≠ errorNone then (⟨s.internalErrorCode, s.internalErrorMsg⟩, true)
  else (result, false)

/-- `loadBehaviorTree(bt_xml_filename)`. -/
def loadBehaviorTree (params : BtActionServerParams) (load : XmlLoad) (s : BtActionServer)
    (btXmlFilename : String) : Bool × BtActionServer :=
  let filename := if btXmlFilename.isEmpty then params.defaultBtXmlFilename else btXmlFilename
  if !params.alwaysReloadBtXml && s.currentBtXmlFilename == filename then (true, s)
  else
    match load with
    | .created => (true, { s with currentBtXmlFilename := filename })
    | .unreadable =>
      (false, s.setInternalError failedToLoadBehaviorTree
        ("Couldn't open input XML file: " ++ filename))
    | .throws what =>
      (false, s.setInternalError failedToLoadBehaviorTree ("Exception when loading BT: " ++ what))

/-- `std::numeric_limits<int>::max()`. -/
def intMax : Int := 2147483647

/-- `highest_priority_error_code` and `highest_priority_error_msg` before the
loop. -/
def internalError (s : BtActionServer) : Int × String :=
  if s.internalErrorCode ≠ 0 then (s.internalErrorCode.toNat, s.internalErrorMsg)
  else (intMax, "")

/-- One pass of the loop. The code is taken also where its message cannot be
read. -/
def higherPriority (highest : Int × String) (entry : Int × Option String) : Int × String :=
  if entry.1 ≠ 0 ∧ entry.1 < highest.1 then (entry.1, entry.2.getD highest.2) else highest

/-- `populateErrorCode(result)`: the smallest error code wins. -/
def populateErrorCode (s : BtActionServer) (codes : List (Int × Option String))
    (result : ErrorResult) : ErrorResult :=
  let highest := codes.foldl higherPriority s.internalError
  if highest.1 ≠ intMax then ⟨UInt16.ofInt highest.1, highest.2⟩ else result

end BtActionServer

end Nav3D.BehaviorTree
