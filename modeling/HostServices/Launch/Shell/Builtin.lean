import HostServices.Launch.Format
import HostServices.Launch.Shell.Condition
import HostServices.Launch.Shell.Limits

/-!
# Commands that a shell carries out itself

Assumed of the shell that a launch starts, as `Launch.Shell.World` says.
-/

namespace HostServices.Launch.Shell

/-- What a command of the shell needs to carry out others. -/
structure Tools where
  run : Runner
  /-- How deep commands may hold each other, and how often loops may go round. -/
  bound : Nat
  manner : Manner

/-! ### Printing -/

def runFormat (operands : List String) : Eval Nat := do
  match ← takeOperands operands with
  | [] => fail "usage: printf format [arg ...]"
  | format :: operands =>
    let r := print .shell format operands
    say (String.ofList r.out.text)
    r.complaints.forM fun (operand, c) => complain (c.wording .shell operand id)
    match r.out.cut with
    | some (.refused why) => fail why
    | _ => return if r.complaints.isEmpty then 0 else 1

/-- The command that evaluates a condition, by either of its names. -/
def runTest (name : String) (operands : List String) : Eval Nat := do
  if name = "[" then
    if operands.getLast? = some "]" then runCondition operands.dropLast else fail "missing ]"
  else runCondition operands

/-! ### Leaving -/

/-- The command that leaves loops or goes on with their next round. -/
def runJump (operands : List String) (jump : Nat → Interruption) : Eval Nat := do
  let levels ← match operands with
    | [] => pure 1
    | operand :: _ =>
      let n ← numberOf operand
      if n = 0 then fail ("Illegal number: " ++ operand) else pure n
  let levels := min levels (← get).loops
  if levels = 0 then return 0
  else
    setStatus 0
    throw (jump levels)

def runExit (operands : List String) : Eval Nat := do
  match operands with
  | [] => throw (.exits true)
  | operand :: _ =>
    let n ← numberOf operand
    modify fun s => { s with keptStatus := some n }
    throw (.exits true)

/-- The command that ends a function. -/
def runReturn (operands : List String) : Eval Nat := do
  match operands with
  | [] => throw .returned
  | operand :: _ =>
    setStatus (← numberOf operand)
    throw .returned

/-! ### Other scripts -/

/-- The command that carries out its operands as a script. -/
def runEval (t : Tools) (operands : List String) : Eval Nat :=
  runText t.run { t.manner with isLast := false } t.bound (" ".intercalate operands)

/-- The path of a script, which is looked for along the search path. -/
def scriptPath (name : String) : Eval String := do
  if name.toList.contains '/' then return name
  else
    let s ← get
    let paths := (searchPath s.toSession).map fun d => FileTree.inDirectory d name
    match paths.find? fun p => (madeFile? s p).isSome with
    | some path => return path
    | none => fail (name ++ ": not found")

/-- The command that carries out a script from a file. -/
def runScript (t : Tools) (operands : List String) : Eval Nat := do
  match ← takeOperands operands with
  | [] => return 0
  | name :: _ =>
    let path ← scriptPath name
    match ← openToRead path with
    | .error e => fail ("cannot open " ++ path ++ ": " ++ fileComplaint false e)
    | .ok (.source id) =>
      let text := ((← get).unread.lookup id).elim [] Unread.text
      try runText t.run { t.manner with isLast := false } t.bound (String.ofList text)
      catch
        | .returned => return (← get).status
        | e => throw e
    | .ok _ => return 0

/-! ### All commands -/

/-- Carries out a command of the shell: its result. -/
def runOwn (t : Tools) (name : String) (operands : List String) : Eval Nat :=
  match name with
  | ":" | "true" => return 0
  | "false" => return 1
  | "echo" => do say (shellEcho operands); return 0
  | "printf" => runFormat operands
  | "test" | "[" => runTest name operands
  | "break" => runJump operands .leaveLoop
  | "continue" => runJump operands .restartLoop
  | "exit" => runExit operands
  | "return" => runReturn operands
  | "eval" => runEval t operands
  | "." => runScript t operands
  | "command" => runCommandQuery operands
  | "trap" => runTrap operands
  | "kill" => runKill t.run t.bound operands
  | "wait" => runWait operands
  | "export" =>
    markVariables name (fun b => { b with isExported := true }) Binding.isExported operands
  | "readonly" =>
    markVariables name (fun b => { b with isReadOnly := true }) Binding.isReadOnly operands
  | "local" => runLocal operands
  | "unset" => runUnset operands
  | "set" => runSet operands
  | "shift" => runShift operands
  | "getopts" => runGetopts operands
  | "read" => runRead operands
  | "alias" => runAlias operands
  | "unalias" => runUnalias operands
  | "type" => runType operands
  | "hash" => runHash operands
  | "cd" | "chdir" => runCd operands
  | "pwd" => runPwd operands
  | "umask" => runUmask operands
  | "ulimit" => runUlimit operands
  | "times" => runTimes
  | "jobs" => runJobs operands
  | "fg" | "bg" => runForeground operands
  | _ => return 0

/-- Carries out a command of the shell, which complains under its name; that it could not write
counts as a failure. -/
def runBuiltin (t : Tools) (name : String) (operands : List String) : Eval Unit := do
  let outer := (← get).current
  modify fun s => { s with current := some name, outputFailed := false }
  pass stepTime
  after (modify fun s => { s with current := outer }) do
    let status ← runOwn t name operands
    if (← get).outputFailed then
      complain (name ++ ": I/O error")
      setStatus (status ||| 1)
    else setStatus status

end HostServices.Launch.Shell
