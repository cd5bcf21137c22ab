import HostServices.Signal.Action
import HostServices.Signal.Table

/-!
# What the operating system does with signals

The system's own table: a handler for every signal and whether it restarts interrupted calls.
-/

namespace HostServices.Watch

/-- What the system does when a signal is raised. -/
inductive Handler
  | default
  | ignore
  /-- The registry's handler: record a delivery and wake the dispatcher. -/
  | recorder
  | outside
  /-- The runtime's guard against faults, in place from the start. -/
  | guard
  deriving DecidableEq, Repr

namespace Handler

/-- What is reported about a handler that was not installed through the registry. -/
def disposition : Handler → Disposition
  | .default => .default
  | .ignore => .ignore
  | _ => .foreign

/-- The handler that serves an action. -/
def ofAction {κ : Type} : Action κ → Handler
  | .default => .default
  | .ignore => .ignore
  | .custom _ => .recorder

end Handler

structure Entry where
  handler : Handler
  restart : Bool
  deriving DecidableEq

abbrev System := Signal.Table Entry

/-- The table of a fresh process: broken pipes are ignored and memory faults are guarded. -/
def System.fresh : System :=
  (((Signal.Table.all ⟨.default, false⟩).set .pipe ⟨.ignore, false⟩).set
    .segv ⟨.guard, false⟩).set .bus ⟨.guard, false⟩

/-- Signals that the system ignores by itself. -/
def ignoredByDefault (s : Signal) : Bool :=
  s = .chld || s = .cont || s = .urg || s = .winch

/-- What raising a signal comes to. -/
inductive Raised
  /-- It would end or stop the process. -/
  | fatal
  | nothing
  | recorded
  | outside
  deriving DecidableEq

/-- What raising a signal comes to under a table. -/
def System.raised (t : System) (s : Signal) : Raised :=
  if s.isUncatchable || s.isReserved then .fatal
  else
    match (t.get s).handler with
    | .default => if ignoredByDefault s then .nothing else .fatal
    | .ignore => .nothing
    | .recorder => .recorded
    | .outside => .outside
    | .guard => .nothing

end HostServices.Watch
