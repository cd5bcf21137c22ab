import HostServices.Account
import HostServices.Clock
import HostServices.Settings
import HostServices.Wait.Waiter
import HostServices.Watch.Registry

/-!
# The services together

One handle gives a runtime all services: waiting with its interrupt flag, watching signals in the
registry of the process, accounts and clocks.  Handles may be made again; the registry keeps the
settings of the first one.  Services that wait or watch through the handle leave a numbered trace.
-/

namespace HostServices

/-- The handle in use and the process around it. -/
structure Services where
  settings : Settings
  accounts : Accounts
  clock : Clock
  /-- Waits with the interrupt flag of the handle. -/
  waiter : Wait.Waiter
  /-- The system calls of waiting, and all interrupt flags. -/
  scene : Wait.Scene
  registry : Watch.Registry Unit
  /-- The services that were called, the latest first, with the numbers of the calls. -/
  trace : List (String × Nat)
  nextCall : Nat

namespace Services

def first (settings : Settings) (accounts : Accounts) (clock : Clock)
    (script : List Wait.Entry) : Services where
  settings := settings
  accounts := accounts
  clock := clock
  waiter := ⟨FlagCells.empty.create.1⟩
  scene := .new script FlagCells.empty.create.2
  registry := .fresh settings
  trace := []
  nextCall := 0

/-- Another handle in the same process, with the interrupt flag of this one or with its own. -/
def remake (s : Services) (settings : Settings) (sharesFlag : Bool) : Services :=
  if sharesFlag then { s with settings := settings }
  else
    let (flag, flags) := s.scene.flags.create
    { s with settings := settings, waiter := ⟨flag⟩, scene := { s.scene with flags := flags } }

def isInterrupted (s : Services) : Bool := s.scene.flags.isRaised s.waiter.flag

def beginCall (s : Services) (service : String) : Nat × Services :=
  (s.nextCall, { s with trace := (service, s.nextCall) :: s.trace, nextCall := s.nextCall + 1 })

def beginCalls (s : Services) (service : String) : Nat → List Nat × Services
  | 0 => ([], s)
  | n + 1 =>
    let (id, s) := s.beginCall service
    let (ids, s) := s.beginCalls service n
    (id :: ids, s)

def setFlag (s : Services) (raised : Bool) : Services :=
  { s with scene := s.scene.setFlag s.waiter.flag raised }

def wait (s : Services) (request : Wait.Request) : Wait.Result × Services :=
  let (_, s) := s.beginCall "vm_wait_pid"
  let (result, scene) := s.waiter.wait request s.scene
  (result, { s with scene := scene })

/-- Waits for a child without the handle, and so without its flag. -/
def waitApart (s : Services) (request : Wait.Request) : Wait.Result × Services :=
  let (result, scene) := s.scene.waitAlone request
  (result, { s with scene := scene })

/-- Installs an action on the signal of a name, without the handle. -/
def watchApart (s : Services) (name : String) (action : Action Unit) :
    Except Fault Unit × Services :=
  let (result, registry) := s.registry.watch name action .nothing
  (result, { s with registry := registry })

def watch (s : Services) (name : String) (action : Action Unit) : Except Fault Unit × Services :=
  (s.beginCall "vm_watch_signal").2.watchApart name action

def readAction (descriptor : String) : Except Failure (Action Unit) :=
  match Action.ofDescriptor? descriptor with
  | some a => .ok a
  | none => .error (.ofDescriptor descriptor)

/-- Installs the action of a descriptor.  A descriptor that is refused begins no call. -/
def watchDescribed (s : Services) (name descriptor : String) : Except Fault Unit × Services :=
  match readAction descriptor with
  | .error f => (.error (.failure f), s)
  | .ok a => s.watch name a

def installed (s : Services) (name : String) : Except Failure (Option Disposition) :=
  match Signal.resolve name with
  | .error e => .error (.ofName e)
  | .ok signal => .ok (s.registry.installed signal)

/-- The system has a handler, or ignores the signal, by somebody's wish. -/
def isHandled (s : Services) (name : String) : Except Failure Bool :=
  match Signal.resolve name with
  | .error e => .error (.ofName e)
  | .ok signal => .ok ((s.registry.system.get signal).handler != .default)

def times (s : Services) : CpuTimes := s.clock.cpuTimes s.settings.fallbackTicks

end Services

end HostServices
