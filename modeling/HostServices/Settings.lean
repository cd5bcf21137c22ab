import HostServices.Text.Blank

/-!
# Settings

How the services behave: the name of the dispatcher's thread, whether interrupted calls of the
system restart, and the clock ticks of a second to assume when the system does not tell.
-/

namespace HostServices

structure Settings where
  threadName : String
  restart : Bool
  fallbackTicks : Int
  deriving DecidableEq

namespace Settings

def standard : Settings := ⟨"signal-dispatch", false, 60⟩

def restarting : Settings := { standard with restart := true }

/-- The system takes the name for a thread: names of threads end at the first NUL. -/
def canNameThread (s : Settings) : Bool := !s.threadName.toList.contains (Char.ofNat 0)

/-- A flag is set by one of four words, in any case and between blanks. -/
def isFlagSet (value : String) : Bool :=
  String.ofList ((Text.trim value.toList).map Char.toLower) ∈ ["1", "true", "yes", "on"]

/-- The settings that the environment asks for.  A blank thread name counts as unset; any other is
taken as it is. -/
def ofEnvironment (restart threadName : Option String) : Settings where
  threadName :=
    match threadName with
    | some name => if Text.trim name.toList = [] then standard.threadName else name
    | none => standard.threadName
  restart := (restart.map isFlagSet).getD standard.restart
  fallbackTicks := standard.fallbackTicks

end Settings

end HostServices
