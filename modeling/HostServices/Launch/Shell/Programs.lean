import HostServices.Launch.Format
import HostServices.Launch.Shell.Options
import HostServices.Launch.Shell.Redirection

/-!
# Programs

A program takes the place of the process that starts it.  It gets a name, operands and variables,
and goes on with the process's descriptors.

Assumed of the shell that a launch starts, as `Launch.Shell.World` says.
-/

namespace HostServices.Launch.Shell

def endWith (code : Nat) : Eval Unit := throw (.ended (.exited code))

/-- Writes a program's output; where that fails it complains and has failed. -/
def printOut (name text : String) (code : Nat) : Eval Unit := do
  let s ← get
  if ← write 1 text then endWith code
  else
    let why := match s.descriptors.lookup 1 with
      | some .refusing => "No space left on device"
      | _ => "Bad file descriptor"
    mutter (name ++ ": write error: " ++ why ++ "\n")
    endWith 1

/-- What programs say about wrong operands. -/
def misuse (name text : String) : String :=
  name ++ ": " ++ text ++ "\nTry '" ++ name ++ " --help' for more information.\n"

/-! ### Simple programs -/

def formatProgram (isStrict : Bool) (name : String) (operands : List String) : Eval Unit := do
  match operands with
  | [] | ["--"] => mutter (misuse name "missing operand"); endWith 1
  | operands =>
    let r := runPrintf isStrict operands
    r.complaints.forM fun c => mutter (name ++ ": " ++ c ++ "\n")
    printOut name r.output r.code

/-- A time in microseconds, written as a decimal number with a unit. -/
def interval? (s : String) : Option Nat :=
  let (whole, rest) := s.toList.span Char.isDigit
  let (part, rest) :=
    match rest with
    | '.' :: rest => rest.span Char.isDigit
    | rest => ([], rest)
  let unit? : Option Nat :=
    match rest with
    | [] | ['s'] => some 1
    | ['m'] => some 60
    | ['h'] => some 3600
    | ['d'] => some 86400
    | _ => none
  if whole.isEmpty && part.isEmpty then none
  else
    unit?.map fun unit =>
      let micros := (part ++ List.replicate 6 '0').take 6
      let value (digits : List Char) : Nat := (Text.takeDigits 10 0 digits).1
      (value whole * 1000000 + value micros) * unit

def sleepProgram (name : String) (operands : List String) : Eval Unit := do
  match operands with
  | [] => mutter (misuse name "missing operand"); endWith 1
  | operands =>
    let bad := operands.filter fun o => (interval? o).isNone
    match bad.getLast? with
    | some last =>
      bad.dropLast.forM fun o =>
        mutter (name ++ ": invalid time interval " ++ quotedOperand o ++ "\n")
      mutter (misuse name ("invalid time interval " ++ quotedOperand last))
      endWith 1
    | none =>
      pass ((operands.filterMap interval?).foldr (· + ·) 0)
      endWith 0

def concatenateProgram (name : String) (operands : List String) : Eval Unit := do
  let rec each (code : Nat) (text : List Char) : List String → Eval Unit
    | [] => printOut name (String.ofList text) code
    | "-" :: rest => do each code (text ++ (← takeAll 0)) rest
    | path :: rest => do
      let complains (why : String) : Eval Unit := do
        mutter (name ++ ": " ++ path ++ ": " ++ why ++ "\n")
        each 1 text rest
      match FileTree.fileAt (directoryWay (← get).toSession) path with
      | .ok .directory => complains "Is a directory"
      | _ =>
        match ← openToRead path with
        | .ok (.source id) =>
          each code (text ++ (((← get).unread.lookup id).elim [] Unread.text)) rest
        | .ok _ => each code text rest
        | .error e =>
          complains (if e = FileTree.missing then "No such file or directory"
            else if e = FileTree.notDirectory then "Not a directory"
            else "Permission denied")
  each 0 [] (if operands.isEmpty then ["-"] else operands)

/-! ### The shell -/

def firstBindings (parentPid : Nat) (environment : List (String × String)) :
    List (String × Binding) :=
  let given := environment.filter fun v => isNameText v.1
  let isGiven (name : String) : Bool := given.any fun v => v.1 = name
  let standard : List (String × String) :=
    [("PATH", ":".intercalate ["/usr/local/sbin", "/usr/local/bin", "/usr/sbin", "/usr/bin", "/sbin",
        "/bin"]),
      ("PS1", "# "), ("PS2", "> "), ("PS4", "+ ")]
  let fixed : List (String × String) :=
    [("IFS", " \t\n"), ("OPTIND", "1"), ("PPID", toString parentPid)]
  (given.filter fun v => !fixed.any fun f => f.1 = v.1).map (fun v => (v.1, ⟨some v.2, true, false⟩)) ++
    (standard.filter fun v => !isGiven v.1).map (fun v => (v.1, ⟨some v.2, false, false⟩)) ++
    fixed.map fun v => (v.1, ⟨some v.2, isGiven v.1, false⟩)

/-- A shell that has done nothing yet, in the place of a process. -/
def Session.begin (s : Session) (name : String) : Session :=
  let shell : Session :=
    { s with
      rootPid := s.pid
      name := name
      line := 0
      current := none
      arguments := []
      bindings := firstBindings s.parentPid s.environment
      scopes := []
      functions := []
      aliases := []
      options := []
      disabled := []
      tracked := []
      status := 0
      outputStatus := 0
      keptStatus := none
      isTracing := false
      calls := 0
      loops := 0
      jobs := []
      lastBackground := none
      waitTime := 0
      optionIndex := 1
      optionPlace := 0 }
  shell.bind "PWD" (some ⟨some s.directory, true, false⟩)

def shellProgram (run : Runner) (n : Nat) (name : String) (operands : List String) : Eval Unit := do
  let environment := (← get).environment
  modify fun s => { s with toSession := s.toSession.begin name }
  (environment.lookup "OPTIND").forM fun given => do let _ ← numberOf given
  let r ← readOptions true (operands.length + 1) operands false
  let script (m : Manner) (text : String) : Eval Unit := do
    modify fun s => { s with line := 1 }
    setStatus (← runText run m n text)
  let fromInput : Eval Unit := do
    modify fun s => { s with arguments := r.rest }
    script .plain (String.ofList (← takeAll 0))
  match r.hasScript, r.rest with
  | true, [] => fail "-c requires an argument"
  | true, text :: rest =>
    modify fun s => { s with name := rest.headD name, arguments := rest.drop 1 }
    script ⟨false, !(← get).has 's'⟩ text
  | false, [] => fromInput
  | false, path :: rest =>
    if (← get).has 's' then fromInput
    else
      match ← openToRead path with
      | .error e => fail ("cannot open " ++ path ++ ": " ++ fileComplaint false e)
      | .ok (.source id) =>
        modify fun s => { s with name := path, arguments := rest }
        script .plain (String.ofList (((← get).unread.lookup id).elim [] Unread.text))
      | .ok _ => return

/-! ### All programs -/

/-- Carries out a program in the place of a process. -/
def runProgram (run : Runner) (n : Nat) (p : Program) (name : String) (operands : List String) :
    Eval Unit := do
  modify fun s =>
    { s with
      ignored := s.ignored ++ (s.traps.filter fun t => t.2 = "").map Prod.fst
      traps := []
      pending := [] }
  pass programTime
  let isStrict := (← get).environment.any fun v => v.1 = "POSIXLY_CORRECT"
  match p with
  | .shell =>
    let (ending, s) := conclude run n (shellProgram run n name operands) (← get)
    set s
    throw (.ended ending)
  | .succeed => endWith 0
  | .fail => endWith 1
  | .echo => printOut name (programEcho isStrict operands) 0
  | .printf => formatProgram isStrict name operands
  | .sleep => sleepProgram name operands
  | .concatenate => concatenateProgram name operands

/-- Carries out the program at a path in the place of a process. -/
def launchProgram (run : Runner) (n : Nat) (path name : String) (operands : List String) :
    Eval Unit := do
  match FileTree.programAt (directoryWay (← get).toSession) path with
  | .ok p => runProgram run n p name operands
  | .error e =>
    let isMissing := e = FileTree.missing || e = FileTree.notDirectory
    let why := if isMissing then "not found"
      else if e = FileTree.forbidden then "Permission denied"
      else "File name too long"
    complain (name ++ ": " ++ why)
    endWith (if e = FileTree.forbidden then 126 else 127)

end HostServices.Launch.Shell
