import HostServices.Failure
import HostServices.Wait.Status

/-!
# Outcomes of waiting
-/

namespace HostServices.Wait

/-- What waiting for a child came to. -/
inductive Outcome
  | exited (pid code : Int)
  | signaled (pid signal : Int)
  | stopped (pid signal : Int)
  | noChildAvailable
  | noStateChange
  | otherError (errno : Errno)
  deriving DecidableEq

namespace Outcome

def ofStatus (pid : Int) : ChildStatus → Outcome
  | .exited code => .exited pid code
  | .signaled signal => .signaled pid signal
  | .stopped signal => .stopped pid signal

/-- The child that changed. -/
def pid? : Outcome → Option Int
  | .exited pid _ | .signaled pid _ | .stopped pid _ => some pid
  | _ => none

def isStateChange (o : Outcome) : Bool := o.pid?.isSome

/-- A change of a child in four places: exit code, ending signal, stopping signal, child. -/
structure Slots where
  exitCode : Option Int
  termSignal : Option Int
  stopSignal : Option Int
  pid : Int
  deriving DecidableEq

def slots? : Outcome → Option Slots
  | .exited pid code => some ⟨some code, none, none, pid⟩
  | .signaled pid signal => some ⟨none, some signal, none, pid⟩
  | .stopped pid signal => some ⟨none, none, some signal, pid⟩
  | _ => none

/-- The exit code that stands for an outcome: that of the child, or 128 and the signal. -/
def exitCode? : Outcome → Option Int
  | .exited _ code => some code
  | .signaled _ signal => some (128 + signal)
  | _ => none

/-- The case of an outcome as a reader sees it. -/
def display : Outcome → String
  | .exited pid code => fields "Exited" "code" pid code
  | .signaled pid signal => fields "Signaled" "signal" pid signal
  | .stopped pid signal => fields "Stopped" "signal" pid signal
  | .noChildAvailable => "NoChildAvailable"
  | .noStateChange => "NoStateChange"
  | .otherError errno =>
    "OtherError \x7b errno: " ++ String.ofList (Text.writeNatural errno.code) ++ " \x7d"
where
  fields (case key : String) (pid value : Int) : String :=
    case ++ " \x7b pid: " ++ String.ofList (Text.writeInteger pid) ++ ", " ++ key ++ ": " ++
      String.ofList (Text.writeInteger value) ++ " \x7d"

end Outcome

/-- A status word that tells nothing. -/
def undecodable (pid w : Int) : Failure :=
  .unsupported
    ("wait status 0x" ++ String.ofList (Text.writeNumeral 16 (w % Int.pow 2 32).toNat) ++ " for pid " ++
      String.ofList (Text.writeInteger pid))

end HostServices.Wait
