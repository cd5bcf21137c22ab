import HostServices.Launch.Shell.Expansion

/-!
# Redirections

Before a command is carried out, some of its descriptors are led to files, to other descriptors, or
to texts in the script.

Assumed of the shell that a launch starts, as `Launch.Shell.World` says.
-/

namespace HostServices.Launch.Shell

/-! ### Files -/

/-- What is wrong with a file, as it is told when it cannot be opened or made. -/
def fileComplaint (makes : Bool) (number : Int) : String :=
  if number = FileTree.missing || number = FileTree.notDirectory then
    if makes then "Directory nonexistent" else "No such file"
  else if number = FileTree.forbidden then "Permission denied"
  else if number = FileTree.nameTooLong then "File name too long"
  else if number = 21 then "Is a directory"
  else "File exists"

def descriptorOf? (path : String) : Option Nat :=
  match path with
  | "/dev/stdin" => some 0
  | "/dev/stdout" => some 1
  | "/dev/stderr" => some 2
  | path =>
    match path.splitOn "/" with
    | ["", "dev", "fd", n] | ["", "proc", "self", "fd", n] => n.toNat?
    | _ => none

def openToRead (path : String) : Eval (Except Int Channel) := do
  let s ← get
  match descriptorOf? path with
  | some d =>
    match s.descriptors.lookup d with
    | some channel => return .ok channel
    | none => return .error FileTree.missing
  | none =>
    match madeFile? s path with
    | some id => return .ok (← newSource (s.textOf (.buffer id) s.clock).toList s.clock)
    | none =>
      match FileTree.fileAt (directoryWay s.toSession) path with
      | .error e => return .error e
      | .ok (.device _) => return .ok .nothing
      | .ok _ => return .ok (← newSource [] s.clock)

def openToWrite (how : Opening) (path : String) : Eval (Except Int Channel) := do
  let s ← get
  let make (p : FileTree.Place) : Eval Channel := do
    let id ← newBuffer
    modify fun s => { s with files := (fileKey p, id) :: s.files.filter fun f => f.1 != fileKey p }
    return .buffer id
  match descriptorOf? path with
  | some d =>
    match s.descriptors.lookup d with
    | some channel => return .ok channel
    | none => return .error FileTree.missing
  | none =>
    match FileTree.place (directoryWay s.toSession) path with
    | .error e => return .error e
    | .ok p =>
      let spared := how = .write && s.has 'C'
      match p.file?, s.files.lookup (fileKey p) with
      | some .directory, _ => return .error 21
      | some (.device .null), _ => return .ok .nothing
      | some (.device .full), _ => return .ok .refusing
      | some (.device .other), _ => return .ok .nothing
      | some _, _ => return .error (if spared then 17 else FileTree.forbidden)
      | none, some id =>
        if spared then return .error 17
        else if how = .append || how = .readWrite then return .ok (.buffer id)
        else return .ok (← make p)
      | none, none => return .ok (← make p)

/-! ### Redirections -/

inductive Prepared
  | file (descriptor : Nat) (how : Opening) (path : String)
  /-- Another descriptor, or none. -/
  | duplicate (descriptor : Nat) (source : Option Nat)
  | document (descriptor id : Nat)

def prepareRedirect (run : Runner) (n : Nat) : Redirect → Eval Prepared
  | .file d how w => return .file d how (← expandText run n .atStart w)
  | .duplicate d _ w => do
    match ← expandFields run n w with
    | [] => fail "redir error"
    | source :: _ =>
      match source.toList with
      | ['-'] => return .duplicate d none
      | [c] =>
        if c.isDigit then return .duplicate d (some (c.toNat - 48))
        else fail SyntaxError.badDescriptor.message
      | _ => fail SyntaxError.badDescriptor.message
  | .here d id => return .document d id

def connect (descriptor : Nat) (channel : Option Channel) : Eval Unit :=
  modify fun s => { s with toSession := s.toSession.connect descriptor channel }

def applyRedirect (run : Runner) (n : Nat) : Prepared → Eval Unit
  | .file d .read path => do
    match ← openToRead path with
    | .ok channel => connect d (some channel)
    | .error e => fail ("cannot open " ++ path ++ ": " ++ fileComplaint false e)
  | .file d how path => do
    match ← openToWrite how path with
    | .ok channel => connect d (some channel)
    | .error e => fail ("cannot create " ++ path ++ ": " ++ fileComplaint true e)
  | .duplicate d none => connect d none
  | .duplicate d (some source) => do
    match (← get).descriptors.lookup source with
    | some channel => connect d (some channel)
    | none => fail (toString source ++ ": Bad file descriptor")
  | .document d id => do
    let w := ((← get).documents.lookup id).getD []
    let text ← expandText run n .nowhere w
    connect d (some (← newSource text.toList (← get).clock))

/-- Carries out redirections; false if one of them fails, after a complaint. -/
def redirect (run : Runner) (n : Nat) (rs : List Redirect) : Eval Bool := do
  let prepared ← rs.mapM (prepareRedirect run n)
  try
    prepared.forM (applyRedirect run n)
    return true
  catch
    | .failed => return false
    | e => throw e

/-- Does something, after which all descriptors lead where they led before. -/
def withDescriptors {α : Type} (body : Eval α) : Eval α := do
  let descriptors := (← get).descriptors
  after (modify fun s => { s with descriptors := descriptors }) body

end HostServices.Launch.Shell
