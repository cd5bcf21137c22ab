import HostServices.Signal.Basic

/-!
# Forwarding signals to a child

A launcher's signals go to its child.  Before the child has started the latest signal is held, and
it is handed over as soon as the child is known.  Two threads share the two cells, so a call is a
sequence of steps, each of which reads or writes one cell at once; `Call.step` is such a step, and
`onSignal` and `childStarted` are the calls that nothing comes between.  What is forwarded is only
handed on, so it may be of any type.
-/

namespace HostServices.Launch

/-- The two cells; `σ` is the type of signals. -/
structure Forwarder (σ : Type := Signal) where
  /-- The child; not positive before it has started. -/
  child : Int
  /-- The signal that waits for the child. -/
  held : Option σ
  deriving DecidableEq

structure Target (σ : Type := Signal) where
  pid : Int
  signal : σ
  deriving DecidableEq

inductive Call (σ : Type := Signal)
  /-- A signal came: look for the child. -/
  | arrived (s : σ)
  /-- There was no child: hold the signal. -/
  | holding (s : σ)
  /-- The signal is held: look again. -/
  | rechecking
  /-- The child started: make it known. -/
  | starting (pid : Int)
  /-- Take the held signal for a child. -/
  | taking (pid : Int)
  | returned (target : Option (Target σ))
  deriving DecidableEq

variable {σ : Type}

namespace Call

def step (f : Forwarder σ) : Call σ → Call σ × Forwarder σ
  | .arrived s => (if 0 < f.child then .returned (some ⟨f.child, s⟩) else .holding s, f)
  | .holding s => (.rechecking, { f with held := some s })
  | .rechecking => (if 0 < f.child then .taking f.child else .returned none, f)
  | .starting pid => (.taking pid, { f with child := pid })
  | .taking pid => (.returned (f.held.map fun s => ⟨pid, s⟩), { f with held := none })
  | .returned target => (.returned target, f)

def answer? : Call σ → Option (Target σ)
  | .returned target => target
  | _ => none

/-- A call of at most `n` steps that nothing comes between. -/
def runSteps : Nat → Call σ → Forwarder σ → Call σ × Forwarder σ
  | 0, c, f => (c, f)
  | n + 1, c, f =>
    let (c, f) := c.step f
    runSteps n c f

/-- A call that nothing comes between; no call takes more than four steps. -/
def run (c : Call σ) (f : Forwarder σ) : Option (Target σ) × Forwarder σ :=
  let (c, f) := runSteps 4 c f
  (c.answer?, f)

end Call

namespace Forwarder

/-- No child, and nothing held. -/
def new : Forwarder σ := ⟨0, none⟩

/-- A signal came: the target to deliver it to, unless it is held. -/
def onSignal (f : Forwarder σ) (s : σ) : Option (Target σ) × Forwarder σ := (Call.arrived s).run f

/-- The child started: the held signal's target, if one is held. -/
def childStarted (f : Forwarder σ) (pid : Int) : Option (Target σ) × Forwarder σ :=
  (Call.starting pid).run f

/-- Takes the held signal for a child. -/
def takeHeld (f : Forwarder σ) (pid : Int) : Option (Target σ) × Forwarder σ :=
  (Call.taking pid).run f

end Forwarder

end HostServices.Launch
