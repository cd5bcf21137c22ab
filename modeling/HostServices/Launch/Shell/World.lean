import HostServices.Launch.FileTree
import HostServices.Launch.Shell.Tree

/-!
# The world of a launched program

Programs run as processes.  Time is kept in microseconds, and every process has its own clock: a
process is carried out to its end where it starts, what it writes and the signals that it sends are
kept with their times, and its parent goes on from its own time.  What was written is put in order
at the end.

The shell, its programs and its files are the surroundings of a launch and no part of it: all of
`Launch.Shell`, like `Launch.FileTree`, `Launch.Format` and `Launch.Floating`, is an assumption about
them, made so that a launch can be carried out to the end. No theorem rests on it.
-/

namespace HostServices.Launch.Shell

inductive Ending
  | exited (code : Nat)
  | killed (signal : Nat)
  deriving DecidableEq

def Ending.statusWord : Ending → Int
  | .exited code => code * 256
  | .killed signal => signal

def Ending.status : Ending → Nat
  | .exited code => code
  | .killed signal => 128 + signal

/-- Where a descriptor leads. -/
inductive Channel
  | output
  | errors
  /-- A text that is being written. -/
  | buffer (id : Nat)
  /-- A text that is being read. -/
  | source (id : Nat)
  /-- Takes everything and holds nothing. -/
  | nothing
  | refusing
  deriving DecidableEq

/-- A piece of text that a process has written.  It belongs to a process and to those that have
started it in the background. -/
structure Written where
  time : Nat
  channel : Channel
  text : String
  owners : List Nat

structure Sent where
  time : Nat
  receiver : Nat
  signal : Nat
  owners : List Nat

/-- What is left to read of a text, and when it is there. -/
structure Unread where
  text : List Char
  time : Nat

structure Binding where
  value : Option String
  isExported : Bool
  isReadOnly : Bool
  deriving DecidableEq

/-- A process in the background as its shell knows it. -/
structure Job where
  number : Nat
  pid : Nat
  isWaited : Bool
  deriving DecidableEq

def Job.waited (pid : Nat) (j : Job) : Job := if j.pid = pid then { j with isWaited := true } else j

structure Session where
  clock : Nat
  pid : Nat
  parentPid : Nat
  /-- The shell's own number where this is a part of it. -/
  rootPid : Nat
  /-- The processes that wait for this one. -/
  ancestors : List Nat
  /-- The processes in the background that this one belongs to. -/
  owners : List Nat
  name : String
  line : Nat
  /-- The command of the shell in progress, which complains. -/
  current : Option String
  arguments : List String
  bindings : List (String × Binding)
  /-- What functions in progress put back when they end. -/
  scopes : List (List (String × Option Binding))
  functions : List (String × Command)
  aliases : List (String × String)
  documents : List (Nat × Word)
  nextDocument : Nat
  options : List Char
  /-- The options that have been taken back. -/
  disabled : List Char
  tracked : List (String × String)
  /-- The result of the last command. -/
  status : Nat
  /-- The result of the last command whose output has taken its place. -/
  outputStatus : Nat
  /-- The result that a trap or an exit has to keep. -/
  keptStatus : Option Nat
  /-- It works out what leads a trace. -/
  isTracing : Bool
  /-- How many functions are in progress. -/
  calls : Nat
  /-- How many loops are around the command. -/
  loops : Nat
  /-- What to do on a signal; zero stands for the end of the shell. -/
  traps : List (Nat × String)
  /-- Signals that were ignored from the start. -/
  ignored : List Nat
  /-- Signals that have arrived and wait for their traps. -/
  pending : List Nat
  /-- The processes in the background that it knows of, the last one first. -/
  jobs : List Job
  lastBackground : Option Nat
  waitTime : Nat
  descriptors : List (Nat × Channel)
  outputFailed : Bool
  directory : String
  mask : Nat
  /-- The operand whose options are read next, and how far it has been read. -/
  optionIndex : Nat
  optionPlace : Nat

structure Process where
  pid : Nat
  start : Session
  body : Command
  signals : List Sent
  endTime : Nat
  ending : Ending

/-- What the first program's parent makes of a signal. -/
inductive Reaction
  | nothing
  | answer (signal : Nat)
  | ends

/-- What all processes share. -/
structure World where
  /-- What has been written, the last piece first. -/
  written : List Written
  sent : List Sent
  unread : List (Nat × Unread)
  /-- Files that have been made, and the texts they hold. -/
  files : List (String × Nat)
  processes : List Process
  nextPid : Nat
  nextText : Nat
  reaction : Nat → Reaction
  /-- When the first program's parent has ended, and by which signal. -/
  parentEnd : Option (Nat × Nat)

structure State extends Session, World

/-- What keeps a command from going on. -/
inductive Interruption
  | leaveLoop (levels : Nat)
  /-- Goes on with the next round of a loop. -/
  | restartLoop (levels : Nat)
  | returned
  /-- An error, which ends the shell unless a command stands in between that stops it. -/
  | failed
  /-- The shell ends; if it was asked to, a kept result counts. -/
  | exits (asked : Bool)
  | ended (e : Ending)

abbrev Eval := EStateM Interruption State

/-- How a command is carried out. -/
structure Manner where
  /-- Its failure is looked at and is no error. -/
  isTested : Bool
  /-- Nothing follows in its process. -/
  isLast : Bool

namespace Manner

def plain : Manner := ⟨false, false⟩

/-- Something looks at the result. -/
def tested : Manner := ⟨true, false⟩

end Manner

abbrev Runner := Manner → Command → Eval Unit

/-! ### Texts in the world -/

namespace World

/-- A world without what a process in the background has written and sent. -/
def without (w : World) (pid : Nat) : World :=
  { w with
    written := w.written.filter fun p => !p.owners.contains pid
    sent := w.sent.filter fun g => !g.owners.contains pid }

def inOrder (pieces : List Written) : List Written :=
  (pieces.reverse).mergeSort fun a b => a.time ≤ b.time

def textOf (w : World) (channel : Channel) (time : Nat) : String :=
  let pieces := w.written.filter fun p => p.channel = channel && p.time ≤ time
  String.join ((inOrder pieces).map Written.text)

/-- The number of the first program's parent. -/
def parentPid : Nat := 1000

def firstPid : Nat := 1001

end World

end HostServices.Launch.Shell
