import HostServices.Launch.Shell.Redirection
import HostServices.Launch.Shell.Variables

/-!
# Finding commands

A command is a function, a command of the shell, or a program on the search path.

Assumed of the shell that a launch starts, as `Launch.Shell.World` says.
-/

namespace HostServices.Launch.Shell

/-! ### Commands of the shell -/

/-- The commands of the shell whose errors end it. -/
def specialCommands : List String := "local" :: Grammar.specialNames

def regularCommands : List String :=
  ["[", "alias", "bg", "cd", "chdir", "command", "echo", "false", "fg", "getopts", "hash", "jobs",
    "kill", "printf", "pwd", "read", "test", "true", "type", "ulimit", "umask", "unalias", "wait"]

def isOwnCommand (name : String) : Bool :=
  specialCommands.contains name || regularCommands.contains name

/-! ### Programs -/

/-- What a name in a command stands for. -/
inductive Found
  | function (body : Command)
  | own
  | program (path : String)
  | nothing (why : Int)

def searchPath (s : Session) : List String := ((s.value? "PATH").getD "").splitOn ":"

def standardPath : List String :=
  ["/usr/local/sbin", "/usr/local/bin", "/usr/sbin", "/usr/bin", "/sbin", "/bin"]

def findProgram (s : Session) (name : String) (why : Int) : List String → Found
  | [] => .nothing why
  | directory :: rest =>
    let path := FileTree.inDirectory directory name
    match FileTree.programAt (directoryWay s) path with
    | .ok _ => .program path
    | .error e =>
      let isMissing := e = FileTree.missing || e = FileTree.notDirectory
      findProgram s name (if isMissing then why else e) rest

/-- What a name stands for; functions can be left out. -/
def findCommand (s : Session) (functions : Bool) (path : List String) (name : String) : Found :=
  if name.toList.contains '/' then .program name
  else
    match if functions then s.functions.lookup name else none with
    | some body => .function body
    | none =>
      if isOwnCommand name then .own else findProgram s name FileTree.missing path

/-- Why a command cannot be carried out, as it is told. -/
def commandComplaint (why : Int) : String :=
  if why = FileTree.missing || why = FileTree.notDirectory then "not found"
  else if why = FileTree.forbidden then "Permission denied"
  else "File name too long"

/-- Remembers where a program was found. -/
def track (name path : String) : Eval Unit :=
  modify fun s =>
    if (s.tracked.lookup name).isSome || name.toList.contains '/' then s
    else { s with tracked := s.tracked ++ [(name, path)] }

/-! ### Telling what a name stands for -/

/-- Tells what a name stands for, at length or only the name to use. -/
def describeCommand (long : Bool) (path : Option (List String)) (name : String) : Eval Nat := do
  let s ← get
  let tell (text short : String) : Eval Nat := do
    say ((if long then name ++ text else short) ++ "\n")
    return 0
  let isThere : Bool :=
    (FileTree.fileAt (directoryWay s.toSession) name).isOk || (madeFile? s name).isSome
  if reserved.contains name then tell " is a shell keyword" name
  else
    match s.aliases.lookup name with
    | some value => tell (" is an alias for " ++ value) ("alias " ++ name ++ "=" ++ quoteForShell value)
    | none =>
      let tracked := if path.isNone then s.tracked.lookup name else none
      match tracked, findCommand s.toSession true (path.getD (searchPath s.toSession)) name with
      | some path, .program _ => tell (" is a tracked alias for " ++ path) path
      | _, .function _ => tell " is a shell function" name
      | _, .own =>
        tell (if specialCommands.contains name then " is a special shell builtin"
          else " is a shell builtin") name
      | _, .program found =>
        if path.isNone then track name found
        if found != name || isThere then tell (" is " ++ found) found
        else missing s
      | _, .nothing _ => missing s
where
  missing (_ : State) : Eval Nat := do
    if long then say (name ++ ": not found\n")
    return 127

/-- The command that tells what names stand for. -/
def runType (names : List String) : Eval Nat := do
  let results ← names.mapM (describeCommand true none)
  return results.foldl (fun a b => a ||| b) 0

/-- The command that tells what a name stands for by option. -/
def runCommandQuery (operands : List String) : Eval Nat := do
  let (flags, names) ← takeOptions "pvV" operands
  let has (c : Char) : Bool := flags.any fun f => f.letter = c
  let path := if has 'p' then some standardPath else none
  match names with
  | name :: _ => if has 'v' || has 'V' then describeCommand (has 'V') path name else return 0
  | [] => return 0

/-- The command about the programs that have been found. -/
def runHash (operands : List String) : Eval Nat := do
  let (flags, names) ← takeOptions "r" operands
  let rec each (status : Nat) : List String → Eval Nat
    | [] => return status
    | name :: rest => do
      let s ← get
      match findCommand s.toSession true (searchPath s.toSession) name with
      | .nothing why =>
        complain (name ++ ": " ++ commandComplaint why)
        each 1 rest
      | .program path => track name path; each status rest
      | _ => each status rest
  if !flags.isEmpty then
    modify fun s => { s with tracked := [] }
    return 0
  else if names.isEmpty then
    (inBuckets 31 (← get).tracked).forM fun (_, path) => say (path ++ "\n")
    return 0
  else each 0 names

/-! ### Directories -/

/-- A directory's path with further names behind it; names that mean no step are left out, and two
dots take the last name away. -/
def logicalPath (directory path : String) : String :=
  let isWhole := path.toList.head? = some '/'
  let base := if isWhole then path else directory ++ "/" ++ path
  let doubled : Bool :=
    match base.toList with
    | ['/', '/'] => true
    | '/' :: '/' :: c :: _ => isWhole && c != '/'
    | _ => false
  let step (names : List String) (name : String) : List String :=
    if name = "" || name = "." then names
    else if name = ".." then names.drop 1
    else name :: names
  let names := ((base.splitOn "/").foldl step []).reverse
  (if doubled then "//" else "/") ++ "/".intercalate names

/-- Goes to a directory; false if there is none. -/
def enter (physical : Bool) (path : String) : Eval Bool := do
  let s ← get
  let target := if physical then path else logicalPath s.directory path
  match FileTree.place (directoryWay s.toSession) target with
  | .ok ⟨way, some .directory⟩ =>
    let new := if physical then "/" ++ "/".intercalate way else target
    let old := s.directory
    modify fun s => { s with directory := new }
    assign "OLDPWD" old
    markVariable "OLDPWD" fun b => { b with isExported := true }
    assign "PWD" new
    markVariable "PWD" fun b => { b with isExported := true }
    return true
  | _ => return false

/-- Tries a path in the directories of a search path: whether it has been entered, and whether that
is to be told. -/
def enterAlong (physical : Bool) (path : String) : List String → Eval (Option Bool)
  | [] => return none
  | directory :: rest => do
    if ← enter physical (FileTree.inDirectory directory path) then return some (directory != "")
    else enterAlong physical path rest

/-- The command that changes the directory. -/
def runCd (operands : List String) : Eval Nat := do
  let (flags, names) ← takeOptions "LP" operands
  let physical : Bool := (flags.getLast?.map Flagged.letter) = some 'P'
  let (target, tells) ←
    match names with
    | [] => pure (← valueOf "HOME", false)
    | "-" :: _ => pure (← valueOf "OLDPWD", true)
    | name :: _ => pure (name, false)
  let isPlain : Bool :=
    match target.toList with
    | '/' :: _ => true
    | ['.'] | ['.', '.'] | '.' :: '/' :: _ | '.' :: '.' :: '/' :: _ => true
    | _ => false
  let dest := if target = "" then "." else target
  let s ← get
  let along : List String :=
    match if isPlain then none else s.value? "CDPATH" with
    | some p => p.splitOn ":"
    | none => []
  let told ←
    match ← enterAlong physical dest along with
    | some t => pure (tells || t)
    | none =>
      if ← enter physical dest then pure tells
      else fail ("can't cd to " ++ dest)
  if told then say ((← get).directory ++ "\n")
  return 0

/-- The command that tells the directory. -/
def runPwd (operands : List String) : Eval Nat := do
  let (flags, _) ← takeOptions "LP" operands
  let s ← get
  let physical : Bool := (flags.getLast?.map Flagged.letter) = some 'P'
  say ((if physical then "/" ++ "/".intercalate (directoryWay s.toSession) else s.directory) ++ "\n")
  return 0

end HostServices.Launch.Shell
