import HostServices.Launch.Shell.Run
import HostServices.Text.Octets

/-!
# The child of a launch

A launched program is carried out with all the processes that it starts.  What is left of it is how
and when it ended, and what was written, in the order of time.

What the processes do is assumed of the surroundings (`Launch.Shell.World`).
-/

namespace HostServices.Launch

open Shell

structure ChildRun where
  ending : Ending
  endTime : Nat
  written : List Written
  parentIsKilled : Bool

namespace ChildRun

def text (r : ChildRun) (channel : Channel) (counts : Nat → Bool) : String :=
  String.join ((r.written.filter fun p => p.channel = channel && counts p.time).map Written.text)

/-- How long it takes the parent to see that the child has ended. -/
def noticeTime : Nat := 500

/-- The output before the parent has seen that the child has ended. -/
def outputBefore (r : ChildRun) : String :=
  r.text .output fun time => r.parentIsKilled || time ≤ r.endTime + noticeTime

/-- The output of processes that go on afterwards. -/
def outputBehind (r : ChildRun) : String :=
  r.text .output fun time => !r.parentIsKilled && r.endTime + noticeTime < time

def errors (r : ChildRun) : String := r.text .errors fun _ => true

end ChildRun

/-- How deep the commands of a program may hold each other, and how often its loops may go round. -/
def patience : Nat := 50000

/-- The process in whose place a program is carried out. -/
def firstSession (bindings : List (String × String)) : Session where
  clock := 0
  pid := World.firstPid
  parentPid := World.parentPid
  rootPid := World.firstPid
  ancestors := []
  owners := []
  name := ""
  line := 0
  current := none
  arguments := []
  bindings := bindings.map fun (name, value) => (name, ⟨some value, true, false⟩)
  scopes := []
  functions := []
  aliases := []
  documents := []
  nextDocument := 0
  options := []
  disabled := []
  tracked := []
  status := 0
  outputStatus := 0
  keptStatus := none
  isTracing := false
  calls := 0
  loops := 0
  traps := []
  ignored := []
  pending := []
  jobs := []
  lastBackground := none
  waitTime := 0
  descriptors := [(0, .nothing), (1, .output), (2, .errors)]
  outputFailed := false
  directory := "/" ++ "/".intercalate FileTree.start
  mask := 18
  optionIndex := 1
  optionPlace := 0

/-- A world in which nothing has happened. -/
def firstWorld (reaction : Nat → Reaction) : World where
  written := []
  sent := []
  unread := []
  files := []
  processes := []
  nextPid := World.firstPid + 1
  nextText := 0
  reaction := reaction
  parentEnd := none

def Program.run (p : Program) (reaction : Nat → Reaction) (name : String) (operands : List String)
    (bindings : List (String × String)) : ChildRun :=
  let start : State := ⟨firstSession bindings, firstWorld reaction⟩
  let run := Command.run patience
  let (ending, s) := conclude run patience (runProgram run patience p name operands) start
  { ending := ending
    endTime := s.clock
    written := World.inOrder s.written
    parentIsKilled := match s.parentEnd with
      | some (time, _) => time ≤ s.clock + ChildRun.noticeTime
      | none => false }

end HostServices.Launch
