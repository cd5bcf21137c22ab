import HostServices.Launch.Child
import HostServices.Launch.Forwarder
import HostServices.Launch.LogFilter
import HostServices.Settings
import HostServices.Wait.Json
import HostServices.Wait.Waiter
import HostServices.Watch.Registry

/-!
# The launcher

The launcher runs a command as its child: it forwards the signals INT and TERM, waits for the child,
writes the outcome, and ends with the child's exit code.
-/

namespace HostServices.Launch

/-- What the launcher is given, in octets: its arguments, and what it knows of its surroundings. -/
structure Invocation where
  arguments : List String
  bindings : List (String × String)
  /-- Ended children are forgotten at once, so there is none to wait for. -/
  childrenForgotten : Bool

namespace Invocation

/-- The text of a variable; octets that spell no text do not count. -/
def value? (i : Invocation) (name : String) : Option String :=
  (i.bindings.lookup name).bind Text.spelled?

def logsAsData (i : Invocation) : Bool :=
  match i.value? "VMPRIM_TRACE_JSON" with
  | some s => s = "1" || s = "true"
  | none => false

def logFilter (i : Invocation) : LogFilter := .ofSetting (i.value? "RUST_LOG")

def settings (i : Invocation) : Settings :=
  .ofEnvironment (i.value? "VMPRIM_SA_RESTART") (i.value? "VMPRIM_DISPATCH_THREAD")

end Invocation

inductive OutputLine
  | text (s : String)
  | outcome (o : Wait.Outcome)

def OutputLine.render : OutputLine → String
  | .text s => s
  | .outcome o => o.toJson.render

/-- What a launch leaves behind.  The log comes before the output. -/
structure Report where
  /-- There is none if a signal has ended the launcher. -/
  exitCode : Option Nat
  errors : String
  output : List OutputLine
  log : List LogLine

def forwarded : List Signal := [.int, .term]

/-! ### Log lines of a launch -/

/-- Where log lines about the registry come from. -/
def registryTarget : String := "vm_primitives::signals::registry"

def tracingStarted (json : Bool) : LogLine :=
  ⟨.info, ServiceCall.target, "Structured tracing initialized", [("json", .bool json)], .outside⟩

def registryMade (s : Settings) : LogLine :=
  ⟨.info, registryTarget, "Signal watch registry initialized", [("restart", .bool s.restart)],
    .outside⟩

def dispatcherStarted (s : Settings) (c : ServiceCall) : List LogLine :=
  [⟨.debug, registryTarget, "Starting signal dispatcher", [], .inside c⟩,
    ⟨.info, "vm_primitives::signals::dispatch", "Signal dispatcher started",
      [("thread", .text s.threadName)], .inside c⟩]

def actionInstalled (s : Signal) (previous installed : Disposition) (c : ServiceCall) : LogLine :=
  ⟨.info, registryTarget, "Installed signal disposition",
    [("signal", .text s.name), ("previous", .shown previous.display),
      ("installed", .shown installed.display)], .inside c⟩

def childStartedLine (program : String) : LogLine :=
  ⟨.info, "vmprim", "Child started", [("pid", .masked), ("program", .shown program)], .outside⟩

/-- The child has changed, which is seen by a thread that waits for it and is in no call. -/
def childChanged (s : Wait.ChildStatus) (retries : UInt32) : LogLine :=
  ⟨.debug, "vm_primitives::process::wait", "Child changed state",
    [("pid", .masked), ("decoded", .shown s.display), ("retries", .number retries.toNat)],
    .outside⟩

/-! ### Launching -/

structure Progress where
  registry : Watch.Registry Signal
  nextCall : Nat
  log : List LogLine

namespace Progress

def note (l : Progress) (lines : List LogLine) : Progress := { l with log := l.log ++ lines }

/-- Watches a signal; the callback is known by the signal it forwards. -/
def watch (l : Progress) (s : Signal) (a : Action Signal) : Progress :=
  let (result, registry) := l.registry.install s a .nothing
  let call : ServiceCall := ⟨"vm_watch_signal", l.nextCall⟩
  let started :=
    match l.registry.dispatcher, registry.dispatcher with
    | .absent, .live _ => dispatcherStarted l.registry.settings call
    | _, _ => []
  let installed :=
    match result with
    | .ok previous => [actionInstalled s previous a.disposition call]
    | .error _ => []
  { l with registry := registry, nextCall := l.nextCall + 1 }.note
    (started ++ installed ++ call.ended)

def wait (l : Progress) (script : List Wait.Entry) (pid : Int) : Wait.Result × Progress :=
  let waited := (Wait.Scene.new script .empty).waitedAlone (.new pid false)
  let changed :=
    match waited.reply with
    | .changed _ word =>
      ((Wait.ChildStatus.decode? word).map fun s => childChanged s waited.retries).toList
    | _ => []
  let lines := changed ++ ServiceCall.ended ⟨"vm_wait_pid", l.nextCall⟩
  (waited.result, { l with nextCall := l.nextCall + 1 }.note lines)

end Progress

/-- Signals that do not end the launcher: those that it ignores, and those whose first arrival the
runtime takes for its own. -/
def isSurvived (n : Nat) : Bool := [0, 7, 11, 13, 17, 18, 23, 28].contains n

/-- What the launcher makes of a signal while the child runs: what it forwards goes to the child. -/
def reactionTo (pid : Int) (n : Nat) : Shell.Reaction :=
  match forwarded.find? fun s => s.number == n with
  | some s =>
    match ((Forwarder.new.childStarted pid).2.onSignal s).1 with
    | some t => .answer t.signal.number
    | none => .nothing
  | none => if isSurvived n then .nothing else .ends

/-- Text as lines, the last one perhaps without an end.  What ends a line may begin with a carriage
return. -/
def textLines (s : String) : List String :=
  let ended (line : String) : String :=
    if line.toList.getLast? = some '\r' then String.ofList line.toList.dropLast else line
  match (s.splitOn "\n").reverse with
  | [] => []
  | last :: lines => (lines.map ended).reverse ++ if last = "" then [] else [last]

def octetLines (s : String) : List OutputLine := (textLines (Text.ofOctets s)).map .text

/-- What a child has written with the outcome behind it, which goes on with an open line. -/
def outputLines (written : String) (o : Wait.Outcome) : List OutputLine :=
  if written = "" || written.toList.getLast? = some '\n' then octetLines written ++ [.outcome o]
  else octetLines (written ++ o.toJson.render)

def errorText (text : String) : String := "Error: " ++ text ++ "\n"

/-- The child's number; the system's choice does not matter. -/
def childPid : Int := 2

def awaitChild (i : Invocation) (l : Progress) (run : ChildRun) : Report :=
  let reply : Wait.Reply :=
    if i.childrenForgotten then .failed .noChild else .changed childPid run.ending.statusWord
  let (result, l) := l.wait [⟨reply, none⟩] childPid
  let l := forwarded.foldl (fun l s => l.watch s .default) l
  let errors := Text.ofOctets run.errors
  let behind := octetLines run.outputBehind
  let silent := octetLines (run.outputBefore ++ run.outputBehind)
  match result with
  | .returned o =>
    let lines := outputLines run.outputBefore o ++ behind
    match o.exitCode? with
    | some code => ⟨some code.toNat, errors, lines, l.log⟩
    | none =>
      ⟨some 1, errors ++ errorText ("child * not reaped: " ++ o.display), lines, l.log⟩
  | .failed f => ⟨some 1, errors ++ errorText f.message, silent, l.log⟩
  | .panicked => ⟨some 101, errors, silent, l.log⟩

/-- Runs a child that was found, and reports.  A launcher that a signal has ended leaves only what
came before, and what its child writes. -/
def runChild (i : Invocation) (l : Progress) (program : Program) (name : String)
    (operands : List String) : Report :=
  let l := l.note [childStartedLine (Text.ofOctets name)]
  let run := program.run (reactionTo childPid) name operands i.bindings
  if run.parentIsKilled then
    ⟨none, Text.ofOctets run.errors, octetLines run.outputBefore, l.log⟩
  else awaitChild i l run

/-- Launches a command; every log line is kept. -/
def launchLogged (i : Invocation) : Report :=
  let started := [tracingStarted i.logsAsData]
  match i.arguments with
  | [] => ⟨some 1, errorText "usage: vmprim <command> [args...]", [], started⟩
  | name :: operands =>
    let l : Progress :=
      { registry := .fresh i.settings
        nextCall := 1
        log := started ++ [registryMade i.settings] }
    let l := forwarded.foldl (fun l s => l.watch s (.custom s)) l
    match FileTree.find (i.bindings.lookup "PATH") name with
    | .error number =>
      let cause := "\n\nCaused by:\n    " ++ Errno.systemText number
      ⟨some 1, errorText ("failed to spawn " ++ Text.ofOctets name ++ cause), [], l.log⟩
    | .ok program => runChild i l program name operands

def launch (i : Invocation) : Report :=
  let report := launchLogged i
  { report with log := i.logFilter.apply report.log }

def Report.lines (r : Report) (logsAsData : Bool) : List String :=
  let log := r.log.map fun l => if logsAsData then l.toJson.render else l.display
  log ++ r.output.map OutputLine.render

end HostServices.Launch
