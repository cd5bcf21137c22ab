import HostServices.Launch.Shell.Builtin
import HostServices.Launch.Shell.Programs

/-!
# Simple commands

A simple command is a list of words, perhaps with assignments and redirections.  Its first field
decides on what is carried out: a function, a command of the shell, or a program.

Assumed of the shell that a launch starts, as `Launch.Shell.World` says.
-/

namespace HostServices.Launch.Shell

/-- A simple command of which the first fields are known. -/
structure Resolved where
  /-- The fields in front of these, which only said how to look for the command. -/
  passed : List String
  fields : List String
  rest : List Word
  found : Found
  /-- The first field was a command of the shell, whose errors end the shell or do not. -/
  isSpecial : Option Bool
  functions : Bool
  path : Option (List String)

def expandFirst (run : Runner) (n : Nat) : List Word → Eval (List String × List Word)
  | [] => return ([], [])
  | w :: rest => do
    match ← expandFields run n w with
    | [] => expandFirst run n rest
    | fields => return (fields, rest)

def withMore (run : Runner) (n : Nat) (fields : List String) (rest : List Word) :
    Eval (List String × List Word) := do
  if fields.isEmpty then expandFirst run n rest else return (fields, rest)

inductive AfterCommand
  /-- A question about commands, with its operands so far. -/
  | asks (operands : List String) (rest : List Word)
  /-- A command behind some options, perhaps on the standard search path. -/
  | runs (passed fields : List String) (rest : List Word) (standard : Bool)

/-- Passes the options of `command`; those passed are kept, the last one first. -/
def passOptions (run : Runner) (n : Nat) :
    Nat → List String → List String → List Word → Bool → Eval AfterCommand
  | 0, passed, fields, rest, _ => return .asks (passed.reverse ++ fields) rest
  | k + 1, passed, fields, rest, standard => do
    let (fields, rest) ← withMore run n fields rest
    let asks : AfterCommand := .asks (passed.reverse ++ fields) rest
    match fields with
    | [] => return asks
    | field :: more =>
      match field.toList with
      | ['-', '-'] =>
        let (fields, rest) ← withMore run n more rest
        return if fields.isEmpty then asks
          else .runs (field :: passed).reverse fields rest standard
      | '-' :: c :: letters =>
        if (c :: letters).all (· = 'p') then passOptions run n k (field :: passed) more rest true
        else return asks
      | _ => return .runs passed.reverse fields rest standard

def resolve (run : Runner) (n : Nat) : Nat → Resolved → Eval Resolved
  | 0, r => return r
  | k + 1, r => do
    let s ← get
    let found := findCommand s.toSession r.functions (searchPath s.toSession) (r.fields.headD "")
    let r := { r with found := found }
    match found, r.fields with
    | .own, name :: operands =>
      let r := { r with isSpecial := some (r.isSpecial.getD (specialCommands.contains name)) }
      if name = "command" then
        match ← passOptions run n n [] operands r.rest false with
        | .asks operands rest => return { r with fields := name :: operands, rest := rest }
        | .runs passed fields rest standard =>
          resolve run n k
            { r with
              passed := r.passed ++ name :: passed
              fields := fields
              rest := rest
              functions := false
              path := if standard then some standardPath else r.path }
      else return r
    | _, _ => return r

/-! ### Carrying out -/

/-- Words in front of which variables are named are assignments for these commands. -/
def takesAssignments (name : String) : Bool := ["alias", "export", "local", "readonly"].contains name

/-- The fields of the words behind a command's first ones. -/
def expandRest (run : Runner) (n : Nat) (assigns : Bool) : List Word → Eval (List String)
  | [] => return []
  | w :: rest => do
    let fields ←
      match if assigns then assignment? w else none with
      | some (name, value) =>
        pure [String.ofList name ++ "=" ++ (← expandText run n .behindColons value)]
      | none => expandFields run n w
    return fields ++ (← expandRest run n assigns rest)

/-- Carries out the assignments in front of a command: their texts.  In a scope they are put back
later; and they may be for programs, too. -/
def runAssignments (run : Runner) (n : Nat) (isLocal exported : Bool) :
    List (List Char × Word) → Eval (List String)
  | [] => return []
  | (name, w) :: rest => do
    let name := String.ofList name
    let value ← expandText run n .behindColons w
    if isLocal then keepBinding name
    assign name value
    if exported then markVariable name fun b => { b with isExported := true }
    return (name ++ "=" ++ value) :: (← runAssignments run n isLocal exported rest)

/-- What leads a trace: a variable's value, expanded unless there is something wrong with it.
Nothing is traced meanwhile. -/
def traceLead (run : Runner) (n : Nat) : Eval String := do
  let s ← get
  let text := (s.value? "PS4").getD ""
  match readQuoted n text.toList with
  | .error e =>
    complain e.message
    return text
  | .ok w =>
    set { s with isTracing := true }
    let lead ←
      try expandText run n .nowhere w
      catch
        | .ended e => throw (.ended e)
        | _ => pure text
    modify fun after => { after with isTracing := false, status := s.status }
    return lead

/-- Writes down what is carried out, if that is wanted, to where complaints went before. -/
def trace (run : Runner) (n : Nat) (descriptors : List (Nat × Channel)) (texts : List String) :
    Eval Unit := do
  let s ← get
  if s.has 'x' && !s.isTracing then
    let lead ← traceLead run n
    withDescriptors do
      modify fun s => { s with descriptors := descriptors }
      mutter (lead ++ " ".intercalate texts ++ "\n")

/-- How many functions may be in progress at once. -/
def greatestDepth : Nat := 1000

def runFunction (t : Tools) (body : Command) (arguments : List String) : Eval Unit := do
  let s ← get
  if greatestDepth ≤ s.calls then
    modify fun s => { s with current := none }
    fail ("Maximum function recursion depth (" ++ toString greatestDepth ++ ") reached")
  set { s with
    arguments := arguments
    calls := s.calls + 1
    loops := 0
    optionIndex := 1
    optionPlace := 0 }
  let restore : Eval Unit :=
    modify fun after =>
      { after with
        arguments := s.arguments
        calls := s.calls
        loops := s.loops
        optionIndex := s.optionIndex
        optionPlace := s.optionPlace }
  after restore do
    try t.run { t.manner with isLast := false } body
    catch
      | .returned => return
      | e => throw e

/-- Carries out a program in a process of its own, or in the place of the shell if nothing is left
for that to do. -/
def runExternal (t : Tools) (path name : String) (operands : List String) : Eval Unit := do
  let launch := launchProgram t.run t.bound path name operands
  if t.manner.isLast && !(← get).hasTraps then launch else inSubshell t.run t.bound launch

/-- Carries out a program in the place of the shell. -/
def runExec (t : Tools) (operands : List String) : Eval Unit := do
  modify fun s => { s with current := some "exec" }
  let s ← get
  let name := operands.headD ""
  let found := if name.toList.contains '/' then .program name
    else findProgram s.toSession name FileTree.missing (searchPath s.toSession)
  match found with
  | .program path => launchProgram t.run t.bound path name (operands.drop 1)
  | .nothing why =>
    complain (name ++ ": " ++ commandComplaint why)
    setStatus (if why = FileTree.forbidden then 126 else 127)
    throw (.exits false)
  | _ => return

/-- Carries out a command whose fields are all known. -/
def carryOut (t : Tools) (r : Resolved) (name : String) (operands : List String) : Eval Unit := do
  let s ← get
  let found : Found := match r.found with
    | .own => .own
    | _ => findCommand s.toSession r.functions (r.path.getD (searchPath s.toSession)) name
  match found with
  | .own =>
    let own : Eval Unit := do
      if name = "exec" && !operands.isEmpty then runExec t operands
      else runBuiltin t name operands
    try own
    catch
      | .failed => if r.isSpecial = some true then throw Interruption.failed else return
      | e => throw e
  | .function body => runFunction t body operands
  | .program path =>
    track name path
    runExternal t path name operands
  | .nothing why =>
    complain (name ++ ": " ++ commandComplaint why)
    setStatus 127

/-- Does something with variables of its own, perhaps. -/
def inScope (isLocal : Bool) (body : Eval Unit) : Eval Unit :=
  if isLocal then do
    openScope
    after closeScope body
  else body

def runBare (t : Tools) (assignments : List (List Char × Word)) (redirects : List Redirect) :
    Eval Unit := do
  let descriptors := (← get).descriptors
  withDescriptors do
    if ← redirect t.run t.bound redirects then
      let texts ← runAssignments t.run t.bound false false assignments
      trace t.run t.bound descriptors texts
      setStatus (← get).outputStatus
    else setStatus 2

def runSimple (t : Tools) (line : Nat) (assignments : List (List Char × Word)) (words : List Word)
    (redirects : List Redirect) : Eval Unit := do
  modify fun s => { s with line := line, outputStatus := 0 }
  pass stepTime
  let (fields, rest) ← expandFirst t.run t.bound words
  if fields.isEmpty then runBare t assignments redirects
  else
    let r ← resolve t.run t.bound t.bound ⟨[], fields, rest, .own, none, true, none⟩
    let name := r.fields.headD ""
    let isOwn : Bool := match r.found with
      | .own => true
      | _ => false
    let more ← expandRest t.run t.bound (isOwn && takesAssignments name) r.rest
    let operands := r.fields.drop 1 ++ more
    let isLocal : Bool := r.isSpecial != some true
    let isExec := isOwn && name = "exec"
    inScope isLocal do
      let descriptors := (← get).descriptors
      let restore : Eval Unit := modify fun s => { s with descriptors := descriptors }
      let go : Eval Unit := do
        if ← redirect t.run t.bound redirects then
          let exported := isLocal || (isExec && !operands.isEmpty)
          let texts ← runAssignments t.run t.bound isLocal exported assignments
          trace t.run t.bound descriptors (texts ++ r.passed ++ name :: operands)
          carryOut t r name operands
        else
          restore
          setStatus 2
          if r.isSpecial = some true then throw .failed
      if isExec then go else withDescriptors go

end HostServices.Launch.Shell
