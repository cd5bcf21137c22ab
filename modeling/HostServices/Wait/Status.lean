import HostServices.Text.Numeral

/-!
# Status words of children

A status word is a number of 32 bits, read with its sign.  The low seven bits hold the signal that
ended a child, bit 7 tells of a core dump, and bits 8 to 15 hold the exit code or the signal that
stopped the child.  Quotient and remainder are those of the floor, so a negative word gives the
bits of its two's complement.
-/

namespace HostServices.Wait

def lowBits (w : Int) : Int := w % 128

def highBits (w : Int) : Int := w / 256 % 256

def isExited (w : Int) : Bool := lowBits w = 0

def isSignaled (w : Int) : Bool := lowBits w != 0 && lowBits w != 127

def isContinued (w : Int) : Bool := w = 65535

def isStopped (w : Int) : Bool := w % 256 = 127 && !isContinued w

/-- The word of a continued child is no stopped child's anyway. -/
theorem isStopped_eq (w : Int) : isStopped w = decide (w % 256 = 127) := by
  unfold isStopped isContinued
  by_cases hw : w = 65535
  · subst hw
    rfl
  · simp [hw]

def exitStatus (w : Int) : Int := highBits w

def termSignal (w : Int) : Int := lowBits w

def stopSignal (w : Int) : Int := highBits w

/-- The child was ended by a signal and left a core dump. -/
def isCoreDumped (w : Int) : Bool := isSignaled w && w / 128 % 2 = 1

/-- What became of a child. -/
inductive ChildStatus
  | exited (code : Int)
  | signaled (signal : Int)
  | stopped (signal : Int)
  deriving DecidableEq

namespace ChildStatus

/-- What a status word tells; some words tell nothing. -/
def decode? (w : Int) : Option ChildStatus :=
  if isExited w then some (.exited (exitStatus w))
  else if isSignaled w then some (.signaled (termSignal w))
  else if isStopped w then some (.stopped (stopSignal w))
  else none

def tag : ChildStatus → String
  | .exited _ => "exited"
  | .signaled _ => "signaled"
  | .stopped _ => "stopped"

def value : ChildStatus → Int
  | .exited n | .signaled n | .stopped n => n

def ofTag? (tag : String) (value : Int) : Option ChildStatus :=
  if tag = "exited" then some (.exited value)
  else if tag = "signaled" then some (.signaled value)
  else if tag = "stopped" then some (.stopped value)
  else none

def display : ChildStatus → String
  | .exited n => "Exited(" ++ String.ofList (Text.writeInteger n) ++ ")"
  | .signaled n => "Signaled(" ++ String.ofList (Text.writeInteger n) ++ ")"
  | .stopped n => "Stopped(" ++ String.ofList (Text.writeInteger n) ++ ")"

end ChildStatus

end HostServices.Wait
