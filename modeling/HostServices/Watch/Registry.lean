import HostServices.Failure
import HostServices.Settings
import HostServices.Signal.Action
import HostServices.Watch.Pipe
import HostServices.Watch.Stats
import HostServices.Watch.System

/-!
# The watch registry

Watched signals are handled in two halves.  The handler in the system only counts a delivery and
writes a byte into the wake pipe; a dispatcher thread reads the pipe, takes the counted deliveries
and runs their callbacks.  When a callback is replaced, the deliveries still counted for it are
retired: they travel to the dispatcher as a batch together with the callback they belong to.

`Registry` is the state of all this, and every operation below is one indivisible step of it.  The
type `κ` is the type of callbacks.
-/

namespace HostServices.Watch

structure Slot (κ : Type) where
  /-- The action installed last, if any. -/
  action : Option (Action κ)
  /-- Deliveries counted and not yet taken, in 32 bits. -/
  pending : Nat

namespace Slot

variable {κ : Type}

def untouched : Slot κ := ⟨none, 0⟩

def record (slot : Slot κ) : Slot κ := { slot with pending := (slot.pending + 1) % UInt32.size }

/-- The slot without its deliveries. -/
def taken (slot : Slot κ) : Slot κ := { slot with pending := 0 }

/-- The callback to run for deliveries taken now. -/
def callback? (slot : Slot κ) : Option κ := slot.action.bind Action.callback?

end Slot

/-- Invocations that are owed to a callback. -/
structure Batch (κ : Type) where
  signal : Signal
  callback : κ
  count : Nat
  count_pos : 0 < count

def Batch.next? {κ : Type} (b : Batch κ) : Option (Batch κ) :=
  if h : 0 < b.count - 1 then some { b with count := b.count - 1, count_pos := h } else none

/-- Where the dispatcher is in its loop. -/
inductive Phase
  /-- It waits for a wake byte. -/
  | reading
  /-- It takes retired batches until there are none. -/
  | receiving
  /-- It looks at the next signal of this pass, then at the others. -/
  | scanning (next : Signal) (others : List Signal)
  deriving DecidableEq

def Phase.scan : List Signal → Phase
  | [] => .reading
  | next :: others => .scanning next others

/-- The dispatcher at work: its place in the loop, and the batch whose callback is running. -/
structure Dispatcher (κ : Type) where
  phase : Phase
  inHand : Option (Batch κ)

inductive Lifecycle (κ : Type)
  | absent
  | live (d : Dispatcher κ)
  | ended

/-- The state of the registry, together with the system's table. -/
structure Registry (κ : Type) where
  settings : Settings
  slots : Signal.Table (Slot κ)
  system : System
  retired : List (Batch κ)
  pipe : Pipe
  dispatcher : Lifecycle κ
  stats : Stats

inductive InstallError
  | uncatchable (s : Signal)
  | reserved (s : Signal)
  | wakePipe (number : Int)
  /-- The dispatcher's thread cannot have its name, which is a panic. -/
  | threadName
  | system (errno : Errno)

/-- What comes of an install that did not succeed: the failure that it answers, or a panic. -/
def InstallError.toFault : InstallError → Fault
  | .uncatchable s => .failure (.argument ("signal " ++ s.name ++ " cannot be trapped"))
  | .reserved s => .failure (.argument ("can't trap reserved signal: " ++ s.name))
  | .wakePipe number => .failure (.ofSystem number)
  | .threadName => .panic
  | .system errno => .failure (.ofErrno "sigaction" errno)

/-- What the system refuses during one install. -/
structure Refusals where
  wakePipe : Option Int
  handler : Option Errno
  /-- Writing the wake byte of a retired batch. -/
  wake : Bool

def Refusals.nothing : Refusals := ⟨none, none, false⟩

namespace Registry

variable {κ : Type}

/-- An empty registry in a process with the given table. -/
def empty (settings : Settings) (system : System) (pipe : Pipe) : Registry κ where
  settings := settings
  slots := .all .untouched
  system := system
  retired := []
  pipe := pipe.drained
  dispatcher := .absent
  stats := .zero

def fresh (settings : Settings) : Registry κ := .empty settings .fresh .standard

/-- The disposition that was installed through the registry. -/
def installed (r : Registry κ) (s : Signal) : Option Disposition :=
  (r.slots.get s).action.map Action.disposition

/-- What an install on `s` would replace: the installed action or, before the first install, what
the system has. -/
def current (r : Registry κ) (s : Signal) : Disposition :=
  match (r.slots.get s).action with
  | some a => a.disposition
  | none => (r.system.get s).handler.disposition

/-! ### Deliveries -/

def wake (r : Registry κ) : Registry κ :=
  match r.dispatcher with
  | .live _ => { r with pipe := r.pipe.write }
  | _ => r

/-- A wake byte would go into a pipe that nobody reads any more, which raises a signal of its own. -/
def hasBrokenPipe (r : Registry κ) : Bool :=
  match r.dispatcher with
  | .ended => true
  | _ => false

/-- The handler in the system runs for `s`. -/
def record (r : Registry κ) (s : Signal) : Registry κ :=
  wake { r with slots := r.slots.modify s Slot.record }

/-! ### Installing -/

/-- Queues a batch for the dispatcher; without a live dispatcher nobody takes it. -/
def enqueue (r : Registry κ) (b : Batch κ) (wakeRefused : Bool) : Registry κ :=
  match r.dispatcher with
  | .live _ =>
    let queued := { r with retired := r.retired ++ [b] }
    if wakeRefused then queued else queued.wake
  | _ => r

/-- Hands the deliveries counted under the callback of `s` to the dispatcher. -/
def retire (r : Registry κ) (s : Signal) (wakeRefused : Bool) : Registry κ :=
  let slot := r.slots.get s
  match slot.callback? with
  | none => r
  | some k =>
    let taken := { r with slots := r.slots.set s slot.taken }
    if h : 0 < slot.pending then taken.enqueue ⟨s, k, slot.pending, h⟩ wakeRefused else taken

/-- The number of signals with a callback, after one action took the place of another. -/
def customHandlersAfter (n : Nat) : Disposition → Disposition → Nat
  | .custom, .custom => n
  | .custom, _ => n - 1
  | _, .custom => n + 1
  | _, _ => n

/-- Puts an action in place, in the system and in the registry. -/
def replace (r : Registry κ) (s : Signal) (a : Action κ) (wakeRefused : Bool) : Registry κ :=
  let previous := r.current s
  let retired :=
    retire { r with system := r.system.set s ⟨.ofAction a, r.settings.restart⟩ } s wakeRefused
  { retired with
    slots := retired.slots.modify s fun slot => { slot with action := some a }
    stats :=
      { retired.stats with
        installs := retired.stats.installs + 1
        customHandlers :=
          customHandlersAfter retired.stats.customHandlers previous a.disposition } }

def start (r : Registry κ) (refused : Option Int) : Except InstallError (Registry κ) :=
  match r.dispatcher, refused with
  | .absent, some number => .error (.wakePipe number)
  | .absent, none =>
    if r.settings.canNameThread then
      .ok { r with dispatcher := .live ⟨.reading, none⟩, pipe := r.pipe.drained }
    else .error .threadName
  | _, _ => .ok r

/-- A callback needs a dispatcher. -/
def prepare (r : Registry κ) (a : Action κ) (refused : Option Int) :
    Except InstallError (Registry κ) :=
  match a with
  | .custom _ => r.start refused
  | _ => .ok r

def install (r : Registry κ) (s : Signal) (a : Action κ) (refused : Refusals) :
    Except InstallError Disposition × Registry κ :=
  if s.isUncatchable then (.error (.uncatchable s), r)
  else if s.isReserved then (.error (.reserved s), r)
  else
    match r.prepare a refused.wakePipe with
    | .error e => (.error e, r)
    | .ok r =>
      match refused.handler with
      | some errno => (.error (.system errno), r)
      | none => (.ok (r.current s), r.replace s a refused.wake)

def watch (r : Registry κ) (name : String) (a : Action κ) (refused : Refusals) :
    Except Fault Unit × Registry κ :=
  match Signal.resolve name with
  | .error e => (.error (.failure (.ofName e)), r)
  | .ok s =>
    let (result, r) := r.install s a refused
    match result with
    | .ok _ => (.ok (), r)
    | .error e => (.error e.toFault, r)

/-- Other code changes the system's handler. -/
def overrule (r : Registry κ) (s : Signal) (h : Handler) : Registry κ :=
  { r with system := r.system.set s ⟨h, false⟩ }

/-! ### Dispatching -/

/-- The registry with the dispatcher in another place. -/
def moveTo (r : Registry κ) (phase : Phase) (inHand : Option (Batch κ)) : Registry κ :=
  { r with dispatcher := .live ⟨phase, inHand⟩ }

/-- Deliveries count when the dispatcher takes them. -/
def countDeliveries (r : Registry κ) (n : Nat) : Registry κ :=
  { r with stats := { r.stats with deliveries := r.stats.deliveries + n } }

/-- The dispatcher reads wake bytes. -/
def read? (r : Registry κ) : Option (Registry κ) :=
  match r.dispatcher with
  | .live ⟨.reading, none⟩ =>
    if r.pipe.held = 0 then none else some { r.moveTo .receiving none with pipe := r.pipe.read }
  | _ => none

/-- The dispatcher's read fails: cut short by a signal it is tried again, else the dispatcher
ends. -/
def failRead? (r : Registry κ) (interrupted : Bool) : Option (Registry κ) :=
  match r.dispatcher with
  | .live ⟨.reading, none⟩ =>
    if interrupted then some r else some { r with dispatcher := .ended, retired := [] }
  | _ => none

/-- The dispatcher takes the next retired batch, or finds none. -/
def receive? (r : Registry κ) : Option (Registry κ) :=
  match r.dispatcher with
  | .live ⟨.receiving, none⟩ =>
    match r.retired with
    | [] => some (r.moveTo (.scan Signal.all) none)
    | b :: rest =>
      some { (r.countDeliveries b.count).moveTo .receiving (some b) with retired := rest }
  | _ => none

/-- The dispatcher looks at the next signal and takes its deliveries.  Without a callback they are
dropped. -/
def check? (r : Registry κ) : Option (Registry κ) :=
  match r.dispatcher with
  | .live ⟨.scanning s others, none⟩ =>
    let slot := r.slots.get s
    if h : 0 < slot.pending then
      let taken := { r.countDeliveries slot.pending with slots := r.slots.set s slot.taken }
      some (taken.moveTo (.scan others) (slot.callback?.map fun k => ⟨s, k, slot.pending, h⟩))
    else some (r.moveTo (.scan others) none)
  | _ => none

/-- The running invocation returns or panics. -/
def finish? (r : Registry κ) (panicked : Bool) : Option (Registry κ) :=
  match r.dispatcher with
  | .live ⟨phase, some b⟩ =>
    let stats :=
      if panicked then { r.stats with callbackPanics := r.stats.callbackPanics + 1 }
      else { r.stats with callbacksRun := r.stats.callbacksRun + 1 }
    some { r.moveTo phase b.next? with stats := stats }
  | _ => none

/-- The callback that is running. -/
def running? (r : Registry κ) : Option κ :=
  match r.dispatcher with
  | .live ⟨_, some b⟩ => some b.callback
  | _ => none

/-- The dispatcher waits for a wake byte. -/
def isReading (r : Registry κ) : Bool :=
  match r.dispatcher with
  | .live ⟨.reading, none⟩ => true
  | _ => false

end Registry

end HostServices.Watch
