import HostServices.Launch.Shell.Grammar
import HostServices.Launch.Shell.State
import HostServices.Signal.Basic

/-!
# Scripts and processes

A script is carried out line by line.  A part of it can be carried out by a process of its own, which
is a copy of the shell: what it changes is forgotten when it ends.

Assumed of the shell that a launch starts, as `Launch.Shell.World` says.
-/

namespace HostServices.Launch.Shell

/-! ### Scripts -/

/-- Carries out the lines of a script: the result of the last command, zero if there is none.  The
first number bounds the lines, the second one how deep commands hold each other. -/
def runLines (run : Runner) (m : Manner) (depth : Nat) : Nat → Nat → Source → Eval Nat
  | 0, status, _ => return status
  | n + 1, status, source => do
    let (line, source) := source.nextLine depth
    match line with
    | .none => return status
    | .nonsense e =>
      modify fun s => { s with line := source.line }
      fail e.message
    | .commands c isLast =>
      modify fun s =>
        { s with
          documents := source.documents ++ s.documents
          nextDocument := max s.nextDocument source.nextDocument }
      run { m with isLast := m.isLast && isLast } c
      let s ← get
      let status := match c with
        | .nothing => status
        | _ => s.status
      runLines run m depth n status
        { source with documents := [], aliases := s.aliases, nextDocument := s.nextDocument }

def runText (run : Runner) (m : Manner) (n : Nat) (text : String) : Eval Nat := do
  let s ← get
  runLines run m n n 0 (.ofText text.toList s.aliases s.nextDocument)

/-! ### The end of a process -/

/-- The kept result counts, if the shell was asked to end. -/
def useKeptStatus (asked : Bool) : Eval Unit :=
  modify fun s =>
    { s with
      status := if asked then s.keptStatus.getD s.status else s.status
      keptStatus := none }

/-- What remains to be done before a shell ends: the action arranged for its end. -/
def leave (run : Runner) (n : Nat) : Eval Ending := do
  let s ← get
  let ending : Eval Ending := return .exited ((← get).status % 256)
  match s.traps.lookup 0 with
  | none | some "" => ending
  | some action =>
    set { s with
      traps := s.traps.filter fun t => t.1 != 0
      keptStatus := some s.status }
    try
      let _ ← runText run .plain n action
      useKeptStatus true
      ending
    catch
      | .ended e => return e
      | .exits asked => useKeptStatus asked; ending
      | _ => ending

def conclude (run : Runner) (n : Nat) (body : Eval Unit) (s : State) : Ending × State :=
  let whole : Eval Ending := do
    try
      body
      leave run n
    catch
      | .ended e => return e
      | .exits asked => useKeptStatus asked; leave run n
      | _ => leave run n
  match whole.run s with
  | .ok e s => (e, s)
  | .error (.ended e) s => (e, s)
  | .error _ s => (.exited (s.status % 256), s)

/-! ### Other processes -/

namespace Session

/-- A descriptor leads elsewhere, or nowhere. -/
def connect (s : Session) (descriptor : Nat) (channel : Option Channel) : Session :=
  let others := s.descriptors.filter fun p => p.1 != descriptor
  { s with
    descriptors := match channel with
      | some c => (descriptor, c) :: others
      | none => others }

def copy (s : Session) (pid : Nat) : Session :=
  { s with
    clock := s.clock + forkTime
    pid := pid
    parentPid := s.pid
    ancestors := s.pid :: s.ancestors
    traps := s.traps.filter fun t => t.2 = ""
    pending := []
    jobs := [] }

/-- The number of the next job, and the shell without the job that gives its number away: one that
has been waited for. -/
def nextJob (s : Session) : Nat × Session :=
  let isFree (k : Nat) : Bool := s.jobs.all fun j => j.number != k || j.isWaited
  let number := ((List.range (s.jobs.length + 1)).map (· + 1)).find? isFree |>.getD 1
  (number, { s with jobs := s.jobs.filter fun j => j.number != number })

def hasJob (s : Session) (pid : Nat) : Bool := s.jobs.any fun j => j.pid = pid

end Session

def obituary : Ending → Option String
  | .exited _ => none
  | .killed s =>
    if s = 2 || s = 13 then none
    else
      match Signal.ofNumber? s with
      | some .stkflt => some "Stack fault"
      | some .pwr => some "Power failure"
      | some g => some g.description
      | none => some (if 34 ≤ s then "Real-time signal " ++ toString (s - 34)
          else "Unknown signal " ++ toString s)

/-- Carries out something in a process of its own: its ending and when it ends. -/
def inChild (run : Runner) (n : Nat) (prepare : Session → Session) (body : Eval Unit) :
    Eval (Ending × Nat) := do
  let s ← get
  let child : State :=
    { toSession := prepare (s.toSession.copy s.nextPid)
      toWorld := { s.toWorld with nextPid := s.nextPid + 1 } }
  let (ending, child) := conclude run n body child
  set (⟨s.nextJob.2, child.toWorld⟩ : State)
  return (ending, child.clock)

def await (ending : Ending) (time : Nat) : Eval Unit := do
  passUntil time
  modify fun s => { s with waitTime := s.clock }
  match obituary ending with
  | some text => mutter (text ++ "\n")
  | none => return

/-- Carries out something in a process of its own and waits for it. -/
def inSubshell (run : Runner) (n : Nat) (body : Eval Unit) : Eval Unit := do
  let (ending, time) ← inChild run n id body
  await ending time
  setStatus ending.status

/-- Carries out a pipeline: each part reads what the one before has written. -/
def runPipeline (run : Runner) (m : Manner) (n : Nat) :
    List Command → Option Channel → Nat → Eval Unit
  | [], _, _ => return
  | c :: rest, input, latest => do
    let output ← if rest.isEmpty then pure none else some <$> newBuffer
    let prepare (s : Session) : Session :=
      let s := match input with
        | some channel => s.connect 0 (some channel)
        | none => s
      match output with
      | some id => s.connect 1 (some (.buffer id))
      | none => s
    let (ending, time) ← inChild run n prepare (run { m with isLast := true } c)
    let latest := max latest time
    match output with
    | none =>
      await ending latest
      setStatus ending.status
    | some id =>
      let w ← get
      let next ← newSource (w.textOf (.buffer id) time).toList time
      runPipeline run m n rest (some next) latest
      match obituary ending with
      | some text => mutter (text ++ "\n")
      | none => return

/-- What commands write, without the ends of lines behind it. -/
def outputOf (run : Runner) (n : Nat) (c : Command) : Eval (List Char) := do
  let id ← newBuffer
  let others := (← get).processes.map Process.pid
  let (ending, time) ← inChild run n (fun s => s.connect 1 (some (.buffer id)))
    (run ⟨false, true⟩ c)
  let s ← get
  let writers := s.processes.filter fun p =>
    !others.contains p.pid && p.start.descriptors.any fun d => d.2 = Channel.buffer id
  let time := writers.foldl (fun t p => max t p.endTime) time
  await ending time
  let s ← get
  let text := (s.textOf (.buffer id) time).toList
  set { s with
    outputStatus := ending.status
    written := s.written.filter fun p => p.channel != Channel.buffer id }
  let text := text.filter fun c => c.toNat != 0
  return (text.reverse.dropWhile (· = '\n')).reverse

/-! ### Processes in the background -/

/-- Carries a process in the background out to its end. -/
def simulate (run : Runner) (n : Nat) (p : Process) (w : World) : World :=
  let w := { w with sent := p.signals ++ w.sent }
  let (ending, s) := conclude run n (run ⟨false, true⟩ p.body) ⟨p.start, w⟩
  let p := { p with endTime := s.clock, ending := ending }
  { s.toWorld with processes := p :: s.processes.filter fun q => q.pid != p.pid }

def startBackground (run : Runner) (n : Nat) (body : Command) : Eval Unit := do
  let s ← get
  let pid := s.nextPid
  let copy := (s.toSession.copy pid).connect 0 (some .nothing)
  let start := { copy with owners := pid :: s.owners, ignored := 2 :: 3 :: s.ignored }
  let w := simulate run n ⟨pid, start, body, [], 0, .exited 0⟩
    { s.toWorld with nextPid := pid + 1 }
  let (number, shell) := s.nextJob
  let jobs := ⟨number, pid, false⟩ :: shell.jobs
  set (⟨{ shell with lastBackground := some pid, jobs := jobs }, w⟩ : State)
  setStatus 0
  pass (forkTime / 2)

/-- How long it takes the first program's parent to answer a signal. -/
def answerTime : Nat := 200

def send (run : Runner) (n : Nat) (signal pid : Nat) : Eval Bool := do
  let s ← get
  let deliver (receiver signal time : Nat) : Eval Unit :=
    modify fun s => { s with sent := ⟨time, receiver, signal, s.owners⟩ :: s.sent }
  if pid = World.parentPid then
    match s.reaction signal with
    | .nothing => return true
    | .answer g => deliver World.firstPid g (s.clock + answerTime); return true
    | .ends =>
      set { s with parentEnd := some (s.parentEnd.getD (s.clock, signal)) }
      return true
  else if pid = s.pid || s.ancestors.contains pid then
    deliver pid signal s.clock
    meetSignals
    return true
  else
    match s.processes.find? fun p => p.pid = pid with
    | none => return false
    | some p =>
      if p.endTime ≤ s.clock then return s.hasJob pid && s.waitTime < p.endTime
      else
        let p := { p with signals := ⟨s.clock, pid, signal, s.owners⟩ :: p.signals }
        set { s with toWorld := simulate run n p (s.toWorld.without pid) }
        return true

end HostServices.Launch.Shell
