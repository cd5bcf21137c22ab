import HostServices.Launch.Shell.Matching
import HostServices.Launch.Shell.State

/-!
# Names of files

A shell finds files from the directory it is in, and those that were made as well.  A field in which
something is not quoted that has a meaning in patterns stands for the paths that it fits.

Assumed of the shell that a launch starts, as `Launch.Shell.World` says.
-/

namespace HostServices.Launch.Shell

def directoryWay (s : Session) : List String :=
  match FileTree.place FileTree.start s.directory with
  | .ok p => p.way
  | .error _ => FileTree.start

/-- The name under which a file that was made is known. -/
def fileKey (p : FileTree.Place) : String := "/".intercalate p.way

def madeFile? (s : State) (path : String) : Option Nat :=
  match FileTree.place (directoryWay s.toSession) path with
  | .ok p => s.files.lookup (fileKey p)
  | .error _ => none

/-! ### Paths that a pattern fits -/

/-- The names in a directory by its path; none if there is no such directory. -/
def namesAt (s : State) (path : String) : List String :=
  match FileTree.place (directoryWay s.toSession) (if path = "" then "." else path) with
  | .ok ⟨way, some .directory⟩ =>
    let made := s.files.filterMap fun f =>
      let names := f.1.splitOn "/"
      if names.dropLast = way then names.getLast? else none
    FileTree.namesIn way ++ made
  | _ => []

def leadsToFile (s : State) (path : String) : Bool :=
  (madeFile? s path).isSome || (FileTree.fileAt (directoryWay s.toSession) path).isOk

/-- A pattern fits more than one text. -/
def isOpen (pattern : List PatternItem) : Bool :=
  pattern.any fun i =>
    match i with
    | .exactly _ => false
    | _ => true

def betweenSlashes : List Letter → List (List Letter)
  | [] => [[]]
  | l :: rest =>
    match betweenSlashes rest with
    | part :: parts =>
      if l.char? = some '/' then [] :: part :: parts else (l :: part) :: parts
    | [] => []

/-- The paths that begin as given and go on as the parts of a pattern tell.  Names that begin with a
point are meant only where the pattern does, too. -/
def pathsFrom (s : State) (start : String) : List (List Letter) → List String
  | [] => [start]
  | part :: rest =>
    let pattern := compilePattern part
    let ending := if rest.isEmpty then "" else "/"
    if isOpen pattern then
      let isMeant (name : String) : Bool :=
        fits pattern name.toList &&
          (name.toList.head? != some '.' || (Letter.text part).head? = some '.')
      ((namesAt s start).filter isMeant).flatMap fun name =>
        pathsFrom s (start ++ name ++ ending) rest
    else pathsFrom s (start ++ String.ofList (Letter.text part) ++ ending) rest

def isMeaningful : Letter → Bool
  | .plain c => c = '*' || c = '?' || c = '['
  | _ => false

/-- What a field stands for: the paths that it fits, in order, or itself if there are none. -/
def pathsOf (s : State) (field : List Letter) : List String :=
  let self := [String.ofList (Letter.text field)]
  if field.any isMeaningful && isOpen (compilePattern field) then
    let paths := (pathsFrom s "" (betweenSlashes field)).filter (leadsToFile s)
    if paths.isEmpty then self else paths.mergeSort
  else self

end HostServices.Launch.Shell
