import HostServices.Launch.Shell.Options

/-!
# Signals, traps and waiting

The commands with which a shell sends signals, arranges for them, and waits for its processes.

Assumed of the shell that a launch starts, as `Launch.Shell.World` says.
-/

namespace HostServices.Launch.Shell

/-! ### Names of signals -/

def lastSignal : Nat := 64

/-- The name of a signal by its number; zero stands for the end of the shell. -/
def signalName (n : Nat) : String :=
  if n = 0 then "EXIT"
  else if n = 34 then "RTMIN"
  else if n = lastSignal then "RTMAX"
  else if 34 < n && n < 50 then "RTMIN+" ++ toString (n - 34)
  else if 50 ≤ n then "RTMAX-" ++ toString (lastSignal - n)
  else
    match Signal.ofNumber? n with
    | some .stkflt | none => toString n
    | some s => s.shortName

def isNumber (s : String) : Bool := s != "" && s.toList.all Char.isDigit

def signalNumber? (least : Nat) (s : String) : Option Nat :=
  if isNumber s then (Text.readNatural? s.toList).filter (· ≤ lastSignal)
  else
    (List.range (lastSignal + 1)).find? fun n =>
      least ≤ n && signalName n = String.ofList (s.toList.map Char.toUpper)

/-! ### Traps -/

def quoteForShell (s : String) : String :=
  String.ofList (go (s.length + 1) s.toList)
where
  /-- Quotes themselves stand in quotes of the other kind. -/
  go : Nat → List Char → List Char
    | 0, _ => []
    | n + 1, s =>
      let mark := Char.ofNat 39
      let text := s.takeWhile (· != mark)
      let rest := s.dropWhile (· != mark)
      let marks := rest.takeWhile (· = mark)
      let behind := rest.dropWhile (· = mark)
      mark :: text ++ [mark] ++
        if marks.isEmpty then []
        else '"' :: marks ++ ['"'] ++ if behind.isEmpty then [] else go n behind

def listTraps : Eval Unit := do
  let s ← get
  (List.range (lastSignal + 1)).forM fun n =>
    match s.traps.lookup n with
    | some action => say ("trap -- " ++ quoteForShell action ++ " " ++ signalName n ++ "\n")
    | none => return

/-- Arranges for signals, or no longer, until one of them is unknown. -/
def arrange (action : Option String) : List String → Eval Nat
  | [] => return 0
  | name :: rest => do
    match signalNumber? 0 name with
    | none =>
      mutter ("trap: " ++ name ++ ": bad trap\n")
      return 1
    | some n =>
      modify fun s =>
        let others := s.traps.filter fun t => t.1 != n
        { s with
          traps := match action with
            | some a => (n, a) :: others
            | none => others }
      arrange action rest

def runTrap (operands : List String) : Eval Nat := do
  match ← takeOperands operands with
  | [] => listTraps; return 0
  | [name] => arrange none [name]
  | first :: rest =>
    if isNumber first && (signalNumber? 0 first).isSome then arrange none (first :: rest)
    else arrange (if first = "-" then none else some first) rest

/-- Carries out the actions for signals that have arrived.  The result of the last command is
the same afterwards. -/
def meetTraps (run : Runner) (n : Nat) : Nat → Eval Unit
  | 0 => return
  | k + 1 => do
    let s ← get
    match s.pending.min? with
    | none => return
    | some g =>
      let status := s.keptStatus.getD s.status
      set { s with pending := s.pending.filter (· != g), keptStatus := some status }
      let restore : Eval Unit := modify fun t => { t with keptStatus := s.keptStatus }
      try
        match s.traps.lookup g with
        | some action => let _ ← runText run .plain n action
        | none => pure ()
      catch
        | .returned => restore; throw .returned
        | e => throw e
      restore
      setStatus status
      meetTraps run n k

/-! ### Processes by number -/

def jobPid (name : String) : Eval Nat := do
  let jobs := (← get).jobs
  let current : Eval Nat := do
    match jobs with
    | j :: _ => return j.pid
    | [] => fail "No current job"
  match name with
  | "%" | "%%" | "%+" => current
  | name =>
    let number := (String.ofList (name.toList.drop 1)).toNat?
    match jobs.find? fun j => some j.number = number with
    | some j => return j.pid
    | none => fail ("No such job: " ++ name)

/-- Waits until a given time unless a signal arrives that is arranged for; false if one does. -/
def waitUntil (time : Nat) : Nat → Eval Bool
  | 0 => return true
  | n + 1 => do
    let s ← get
    let coming := s.sent.filter fun g => g.receiver = s.pid && g.time ≤ time
    match (coming.map Sent.time).min? with
    | none => passUntil time; return true
    | some t =>
      passUntil t
      if (← get).pending.isEmpty then waitUntil time n else return false

/-- Waits for a process: its result, or that of the signal that comes in between. -/
def waitFor (p : Process) (tells : Bool) : Eval (Option Nat) := do
  if ← waitUntil p.endTime ((← get).sent.length + 1) then
    let s ← get
    let isNew := s.waitTime < p.endTime
    set { s with
      waitTime := max s.waitTime p.endTime
      jobs := s.jobs.map (Job.waited p.pid) }
    if tells && isNew then
      match obituary p.ending with
      | some text => mutter (text ++ "\n")
      | none => return some p.ending.status
    return some p.ending.status
  else return none

def interruptedStatus : Eval Nat := return 128 + ((← get).pending.min?).getD 0

def waitForAll : List Process → Eval Nat
  | [] => return 0
  | p :: rest => do
    match ← waitFor p false with
    | some _ => waitForAll rest
    | none => interruptedStatus

/-- Waits for processes by number or job: the result of the last one. -/
def waitForEach (status : Nat) : List String → Eval Nat
  | [] => return status
  | name :: rest => do
    let pid ← if name.toList.head? = some '%' then jobPid name else numberOf name
    let s ← get
    match if s.hasJob pid then s.processes.find? fun p => p.pid = pid else none with
    | none => waitForEach 127 rest
    | some p =>
      match ← waitFor p true with
      | some status => waitForEach status rest
      | none => interruptedStatus

def runWait (operands : List String) : Eval Nat := do
  match ← takeOperands operands with
  | [] =>
    let s ← get
    waitForAll (s.processes.filter fun p => s.hasJob p.pid)
  | names => waitForEach 127 names

/-! ### Sending signals -/

/-- How the command that sends signals is used. -/
def killUsage : String :=
  "Usage: kill [-s sigspec | -signum | -sigspec] [pid | job]... or\nkill -l [exitstatus]"

def listSignals (operands : List String) : Eval Nat := do
  match operands with
  | [] =>
    say ("0\n" ++ String.join ((List.range lastSignal).map fun n => signalName (n + 1) ++ "\n"))
    return 0
  | operand :: _ =>
    let n ← numberOf operand
    let n := if 128 < n then n - 128 else n
    if 0 < n && n ≤ lastSignal then
      say (signalName n ++ "\n")
      return 0
    else fail ("invalid signal number or exit status: " ++ operand)

/-- Sends a signal to processes; one if some of them do not exist.  Jobs and negative numbers stand
for groups of processes, of which there are none. -/
def sendAll (run : Runner) (n signal : Nat) : Nat → List String → Eval Nat
  | status, [] => return status
  | status, name :: rest => do
    let found ←
      match name.toList with
      | '%' :: _ =>
        let _ ← jobPid name
        pure false
      | '-' :: digits =>
        let _ ← numberOf (String.ofList digits)
        pure false
      | _ => send run n signal (← numberOf name)
    if !found then complain "No such process\n"
    sendAll run n signal (if found then status else 1) rest

/-- The signal of the options of the command that sends signals; none to list them. -/
def signalOf (flags : List Flagged) (signal : Option Nat) (lists : Bool) :
    Eval (Option Nat × Bool) := do
  match flags with
  | [] => return (signal, lists)
  | ⟨'l', _⟩ :: rest => signalOf rest signal true
  | ⟨_, name⟩ :: rest =>
    match signalNumber? 1 name with
    | some n => signalOf rest (some n) lists
    | none => fail ("invalid signal number or name: " ++ name)

def runKill (run : Runner) (n : Nat) (operands : List String) : Eval Nat := do
  let short : Option Nat :=
    match operands with
    | first :: _ =>
      match first.toList with
      | '-' :: name => signalNumber? 1 (String.ofList name)
      | _ => none
    | [] => none
  let (signal, lists, rest) ←
    match short with
    | some s => pure (some s, false, operands.drop 1)
    | none =>
      let (flags, rest) ← takeOptions "ls:" operands
      let (signal, lists) ← signalOf flags none false
      pure (signal, lists, rest)
  if lists then
    if signal.isSome && !rest.isEmpty then fail killUsage else listSignals rest
  else if rest.isEmpty then fail killUsage
  else sendAll run n (signal.getD 15) 0 rest

end HostServices.Launch.Shell
