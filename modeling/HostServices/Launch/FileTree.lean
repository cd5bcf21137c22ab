import HostServices.Errno

/-!
# Files and programs

The files that a launcher and its programs find: the directories of a system, links between them,
devices, a few plain files, and programs.  Names are octets.

This is an assumption about the surroundings of a launch; no theorem rests on it.
-/

namespace HostServices.Launch

inductive Program
  | shell
  | succeed
  | fail
  | echo
  | printf
  | sleep
  | concatenate
  deriving DecidableEq

inductive Device
  /-- Takes everything and holds nothing. -/
  | null
  | full
  | other
  deriving DecidableEq

inductive File
  | directory
  | program (p : Program)
  | plain
  | device (d : Device)
  deriving DecidableEq

/-- What a name in a directory stands for. -/
inductive Entry
  | file (f : File)
  | link (way : List String)
  deriving DecidableEq

namespace FileTree

/-- The names on the way to a file, written with slashes. -/
def wayOf (path : String) : List String := path.splitOn "/"

def programs : List (String × Program) :=
  [("dash", .shell), ("true", .succeed), ("false", .fail), ("echo", .echo), ("printf", .printf),
    ("sleep", .sleep), ("cat", .concatenate)]

def directories : List (List String) :=
  [] ::
    ["boot", "dev", "dev/pts", "dev/shm", "dev/mqueue", "etc", "home", "media", "mnt", "opt",
      "proc", "root", "run", "run/lock", "srv", "sys", "tmp", "usr", "usr/bin", "usr/games",
      "usr/include", "usr/lib", "usr/lib64", "usr/libexec", "usr/local", "usr/local/bin",
      "usr/local/etc", "usr/local/lib", "usr/local/sbin", "usr/local/share", "usr/sbin",
      "usr/share", "usr/src", "var", "var/backups", "var/cache", "var/lib", "var/local",
      "var/log", "var/mail", "var/opt", "var/spool", "var/tmp"].map wayOf

def links : List (List String × List String) :=
  [("bin", "usr/bin"), ("lib", "usr/lib"), ("lib64", "usr/lib64"), ("sbin", "usr/sbin"),
    ("usr/bin/sh", "usr/bin/dash"), ("var/run", "run"), ("var/lock", "run/lock"), ("etc/os-release", "usr/lib/os-release")].map
    fun (name, way) => (wayOf name, wayOf way)

def plainFiles : List (List String) :=
  ["etc/bash.bashrc", "etc/debian_version", "etc/environment", "etc/fstab", "etc/group",
    "etc/hostname", "etc/hosts", "etc/issue", "etc/nsswitch.conf", "etc/passwd", "etc/profile",
    "etc/resolv.conf", "etc/shadow", "etc/shells", "proc/cpuinfo", "proc/meminfo", "proc/uptime",
    "proc/version", "usr/lib/os-release"].map wayOf

def devices : List (List String × Device) :=
  [("dev/null", .null), ("dev/full", .full), ("dev/zero", .other), ("dev/random", .other),
    ("dev/urandom", .other), ("dev/tty", .other), ("dev/ptmx", .other)].map
    fun (name, d) => (wayOf name, d)

def entry? (way : List String) : Option Entry :=
  if directories.contains way then some (.file .directory)
  else if plainFiles.contains way then some (.file .plain)
  else
    match links.lookup way, devices.lookup way, way with
    | some target, _, _ => some (.link target)
    | none, some d, _ => some (.file (.device d))
    | none, none, ["usr", "bin", name] => (programs.lookup name).map fun p => .file (.program p)
    | none, none, _ => none

/-- The names in a directory, those of itself and of the one that holds it among them. -/
def namesIn (way : List String) : List String :=
  let ways := directories ++ links.map Prod.fst ++ plainFiles ++ devices.map Prod.fst ++
    programs.map fun p => ["usr", "bin", p.1]
  "." :: ".." :: (ways.filter fun w => w.dropLast = way).filterMap List.getLast?

def nameTooLong : Int := 36

def notDirectory : Int := 20

def missing : Int := 2

def forbidden : Int := 13

/-- Where a path leads: a way on which there are no links, and the file there unless only that is
missing. -/
structure Place where
  way : List String
  file? : Option File
  deriving DecidableEq

/-- Follows names from a directory.  The number bounds names and links. -/
def follow : Nat → List String → List String → Except Int Place
  | 0, _, _ => .error missing
  | n + 1, way, names =>
    match entry? way, names with
    | some (.link target), names => follow n target names
    | some (.file f), [] => .ok ⟨way, some f⟩
    | none, [] => .ok ⟨way, none⟩
    | none, _ :: _ => .error missing
    | some (.file .directory), name :: rest =>
      if 255 < name.length then .error nameTooLong
      else if name = "" || name = "." then follow n way rest
      else if name = ".." then follow n way.dropLast rest
      else follow n (way ++ [name]) rest
    | some (.file _), _ :: _ => .error notDirectory

def place (directory : List String) (path : String) : Except Int Place :=
  if path = "" then .error missing
  else if 4095 < path.length then .error nameTooLong
  else
    let names := path.splitOn "/"
    let start := if path.toList.head? = some '/' then [] else directory
    follow (2 * names.length + 2) start names

def fileAt (directory : List String) (path : String) : Except Int File := do
  match (← place directory path).file? with
  | some f => return f
  | none => throw missing

def isLink (directory : List String) (path : String) : Bool :=
  let names := path.splitOn "/"
  let parent := "/".intercalate (names.dropLast ++ ["."])
  match place directory parent, names.getLast? with
  | .ok p, some name =>
    match entry? (p.way ++ [name]) with
    | some (.link _) => true
    | _ => false
  | _, _ => false

/-- Where relative paths start: an empty directory. -/
def start : List String := ["tmp"]

def programAt (directory : List String) (path : String) : Except Int Program := do
  match ← fileAt directory path with
  | .program p => return p
  | _ => throw forbidden

def inDirectory (directory name : String) : String :=
  if directory = "" then name else directory ++ "/" ++ name

/-- Tries directories one after another.  That a file is forbidden is told only if there is none
elsewhere. -/
def search (name : String) (refusal : Int) : List String → Except Int Program
  | [] => .error refusal
  | directory :: rest =>
    match programAt start (inDirectory directory name) with
    | .ok p => .ok p
    | .error e =>
      if e = nameTooLong then .error e
      else search name (if e = forbidden || refusal = forbidden then forbidden else e) rest

/-- Finds a program by its path or, if its name has no slash, along a search path. -/
def find (searchPath : Option String) (name : String) : Except Int Program :=
  if name = "" then .error missing
  else if name.toList.contains '/' then programAt start name
  else if 255 < name.length then .error nameTooLong
  else search name missing ((searchPath.getD "/bin:/usr/bin").splitOn ":")

end FileTree

end HostServices.Launch
