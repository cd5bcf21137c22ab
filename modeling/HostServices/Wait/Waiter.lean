import HostServices.Interrupt
import HostServices.Wait.Outcome

/-!
# Waiting for children

A waiter asks the system about a child again and again: a call that a signal cut short is repeated
unless the waiter's interrupt flag is raised by then.  What the system answers is a script, and a
call may raise or clear a flag before it returns.  A waiter is known by its flag, so that a clone,
also one on another thread, looks at the same cell and takes from the same script.
-/

namespace HostServices.Wait

structure Request where
  pid : Int
  nonBlocking : Bool
  /-- Stopped children count as changed. -/
  reportStopped : Bool
  deriving DecidableEq

namespace Request

def new (pid : Int) (nonBlocking : Bool) : Request := ⟨pid, nonBlocking, false⟩

def anyChild (nonBlocking : Bool) : Request := new (-1) nonBlocking

/-- The system's option bits: 1 to return at once, 2 to report stopped children. -/
def options (r : Request) : Nat :=
  (if r.nonBlocking then 1 else 0) + if r.reportStopped then 2 else 0

end Request

/-- What a call to the system comes to. -/
inductive Reply
  | changed (pid status : Int)
  | notReady
  | failed (errno : Errno)
  | panicked
  deriving DecidableEq

structure Entry where
  reply : Reply
  /-- The flag that the call raises or clears before it returns. -/
  effect : Option (Flag × Bool)
  deriving DecidableEq

/-- What the calls see and leave behind. -/
structure Scene where
  /-- The replies to come. -/
  script : List Entry
  flags : FlagCells
  /-- The calls made, the latest first: whom for, and with which options. -/
  calls : List (Int × Nat)

/-- What a wait comes to. -/
inductive Result
  | returned (o : Outcome)
  | failed (f : Failure)
  | panicked

/-- What the last call of a wait means. -/
def Reply.result : Reply → Result
  | .changed pid status =>
    match ChildStatus.decode? status with
    | some s => .returned (.ofStatus pid s)
    | none => .failed (undecodable pid status)
  | .notReady => .returned .noStateChange
  | .failed errno =>
    if errno = .noChild then .returned .noChildAvailable
    else if errno = .interrupted then .failed .interrupted
    else .returned (.otherError errno)
  | .panicked => .panicked

/-- The reply was cut short by a signal. -/
def Reply.isInterrupted (r : Reply) : Bool := r = .failed .interrupted

/-- What the system replies when a script is over. -/
def Entry.last : Entry := ⟨.failed .noSuchCall, none⟩

def Entry.act (e : Entry) (flags : FlagCells) : FlagCells :=
  match e.effect with
  | some (flag, raised) => flags.set flag raised
  | none => flags

namespace Scene

def new (script : List Entry) (flags : FlagCells) : Scene := ⟨script, flags, []⟩

def setFlag (scene : Scene) (flag : Flag) (raised : Bool) : Scene :=
  { scene with flags := scene.flags.set flag raised }

def callsSince (scene : Scene) (n : Nat) : List (Int × Nat) :=
  (scene.calls.take (scene.calls.length - n)).reverse

end Scene

structure Waited where
  reply : Reply
  scene : Scene
  /-- How often a call was repeated, in 32 bits.  Only the log tells it. -/
  retries : UInt32

/-- What a wait came to. -/
def Waited.result (x : Waited) : Result := x.reply.result

/-- A waiter: the flag that it looks at.  The system it calls is the scene's. -/
structure Waiter where
  flag : Flag
  deriving DecidableEq

namespace Waiter

/-- Calls until one is not cut short, or until one is while the flag is raised. -/
def waitOn (w : Waiter) (request : Request) (flags : FlagCells) (calls : List (Int × Nat))
    (retries : UInt32) : List Entry → Waited
  | [] => ⟨Entry.last.reply, ⟨[], flags, (request.pid, request.options) :: calls⟩, retries⟩
  | e :: rest =>
    let flags := e.act flags
    let calls := (request.pid, request.options) :: calls
    if e.reply.isInterrupted && !flags.isRaised w.flag then
      w.waitOn request flags calls (retries + 1) rest
    else ⟨e.reply, ⟨rest, flags, calls⟩, retries⟩

/-- Waits for a child, and counts the calls that were repeated. -/
def waited (w : Waiter) (request : Request) (scene : Scene) : Waited :=
  w.waitOn request scene.flags scene.calls 0 scene.script

/-- Waits for a child. -/
def wait (w : Waiter) (request : Request) (scene : Scene) : Result × Scene :=
  let waited := w.waited request scene
  (waited.result, waited.scene)

def clone (w : Waiter) : Waiter := ⟨w.flag⟩

end Waiter

/-- Waits for a child with a flag of its own, which nobody else can raise, and counts the calls that
were repeated. -/
def Scene.waitedAlone (scene : Scene) (request : Request) : Waited :=
  let (flag, flags) := scene.flags.create
  Waiter.waited ⟨flag⟩ request { scene with flags := flags }

def Scene.waitAlone (scene : Scene) (request : Request) : Result × Scene :=
  let waited := scene.waitedAlone request
  (waited.result, waited.scene)

/-! ### Threads for blocking calls -/

/-- What a pool of threads made of a task. -/
inductive Joined
  | finished (answer : Except Failure Outcome)
  | panicked
  /-- The task never ran. -/
  | cancelled

/-- A task that ran to its end. -/
def Joined.ofResult : Result → Joined
  | .returned o => .finished (.ok o)
  | .failed f => .finished (.error f)
  | .panicked => .panicked

/-- The result of whoever waited for a task: a panic comes through, and a task that never ran was
interrupted. -/
def Joined.result : Joined → Result
  | .finished (.ok o) => .returned o
  | .finished (.error f) => .failed f
  | .panicked => .panicked
  | .cancelled => .failed .interrupted

/-- A pool of threads for blocking tasks, where a task reads and changes the scene: a task that is
given to it runs once, or it never runs. -/
structure Pool where
  spawn : (Scene → Result × Scene) → Scene → Joined × Scene
  spawn_once : ∀ task scene,
    spawn task scene = (.ofResult (task scene).1, (task scene).2) ∨
      spawn task scene = (.cancelled, scene)

namespace Pool

def live : Pool where
  spawn task scene := (.ofResult (task scene).1, (task scene).2)
  spawn_once _ _ := .inl rfl

/-- A pool that was shut down runs none. -/
def closed : Pool where
  spawn _ scene := (.cancelled, scene)
  spawn_once _ _ := .inr rfl

end Pool

inductive Way
  | direct
  | clone
  /-- On a clone that a pool of threads runs. -/
  | onPool (pool : Pool)

namespace Way

def pooled : Way := .onPool .live

def shutDown : Way := .onPool .closed

end Way

namespace Waiter

def waitOnPool (w : Waiter) (pool : Pool) (request : Request) (scene : Scene) : Result × Scene :=
  let (joined, scene) := pool.spawn (w.clone.wait request) scene
  (joined.result, scene)

/-- Waits in one of the ways. -/
def waitBy (w : Waiter) (way : Way) (request : Request) (scene : Scene) : Result × Scene :=
  match way with
  | .direct => w.wait request scene
  | .clone => w.clone.wait request scene
  | .onPool pool => w.waitOnPool pool request scene

end Waiter

end HostServices.Wait
