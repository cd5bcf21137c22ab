import HostServices.Launch.Shell.Lookup

/-!
# Permissions, limits and jobs

The commands about what the files that a shell makes may be used for, about its limits, and about
its jobs.

Assumed of the shell that a launch starts, as `Launch.Shell.World` says.
-/

namespace HostServices.Launch.Shell

/-! ### Permissions -/

/-- The bits that letters stand for, given what is allowed so far. -/
def permissionBits (allowed : Nat) (letters : List Char) : Nat :=
  letters.foldl (fun bits c =>
    bits |||
      match c with
      | 'r' => 4
      | 'w' => 2
      | 'x' => 1
      | 'u' => allowed / 64
      | 'g' => allowed / 8
      | 'o' => allowed
      | 'X' => if allowed &&& 73 = 0 then 0 else 1
      | _ => 0) 0 % 8

/-- The places that letters stand for: the owner, the group, the others. -/
def permissionPlaces (letters : List Char) : Nat :=
  let places := letters.foldl (fun n c =>
    n |||
      match c with
      | 'a' => 73
      | 'u' => 64
      | 'g' => 8
      | _ => 1) 0
  if places = 0 then 73 else places

def withoutBits (a b : Nat) : Nat := a &&& (511 - b % 512)

/-- Carries out changes of permissions; none if they make no sense.  The numbers are what was
allowed first, what is allowed now, and the places of the clause. -/
def changePermissions (first : Nat) : Nat → Nat → Nat → List Char → Option Nat
  | _, now, _, [] => some now
  | 0, _, _, _ => none
  | n + 1, now, places, s =>
    let letters := s.takeWhile ("augo".toList.contains ·)
    let rest := s.drop letters.length
    let places := if letters.isEmpty && places != 0 then places else permissionPlaces letters
    match rest with
    | op :: rest =>
      if !"=+-".toList.contains op then none
      else
        let letters := rest.takeWhile ("rwxugoXs".toList.contains ·)
        let bits := permissionBits first letters * places
        let now :=
          if op = '-' then withoutBits now bits
          else if op = '+' then now ||| bits
          else bits ||| withoutBits now (places * 7)
        match rest.drop letters.length with
        | ',' :: rest => changePermissions first n now 0 rest
        | [] => some now
        | c :: rest =>
          if "=+-".toList.contains c then changePermissions first n now places (c :: rest) else none
    | [] => none

def showPermissions (mask : Nat) : String :=
  let letters (bits : Nat) : String :=
    (if bits &&& 4 = 0 then "r" else "") ++ (if bits &&& 2 = 0 then "w" else "") ++
      if bits &&& 1 = 0 then "x" else ""
  "u=" ++ letters (mask / 64) ++ ",g=" ++ letters (mask / 8) ++ ",o=" ++ letters mask ++ "\n"

/-- The command about permissions of new files. -/
def runUmask (operands : List String) : Eval Nat := do
  let (flags, modes) ← takeOptions "S" operands
  let mask := (← get).mask
  match modes with
  | [] =>
    let digits := Text.writeNumeral 8 mask
    let padded := String.ofList (List.replicate (4 - digits.length) '0' ++ digits)
    say (if flags.isEmpty then padded ++ "\n" else showPermissions mask)
    return 0
  | mode :: _ =>
    let set (mask : Nat) : Eval Nat := do
      modify fun s => { s with mask := mask % 512 }
      return 0
    if mode.toList.head?.any Char.isDigit then
      match Text.takeDigits 8 0 mode.toList with
      | (n, []) => set n
      | _ => fail ("Illegal number: " ++ mode)
    else
      match changePermissions (511 - mask) (mode.length + 1) (511 - mask) 0 mode.toList with
      | some allowed => set (511 - allowed % 512)
      | none => fail ("Illegal mode: " ++ mode)

/-! ### Limits -/

/-- The command about limits; limits do not matter to what is modelled. -/
def runUlimit (operands : List String) : Eval Nat := do
  let (_, values) ← takeOptions "HSatfdscmlpnvwre" operands
  match values with
  | [] => say "unlimited\n"; return 0
  | [value] =>
    if value = "unlimited" || value.toList.all Char.isDigit then return 0 else fail "bad number"
  | _ => fail "too many arguments"

/-- The command that tells how long the shell and its processes have worked. -/
def runTimes : Eval Nat := do
  let line := "0m0.000000s 0m0.000000s\n"
  say (line ++ line)
  return 0

/-! ### Jobs -/

def jobState (now : Nat) (p : Process) : String :=
  if now < p.endTime then "Running"
  else
    match p.ending with
    | .exited 0 => "Done"
    | .exited code => "Done(" ++ toString code ++ ")"
    | .killed s => (obituary (.killed s)).getD ((Signal.ofNumber? s).elim "" Signal.description)

def jobLine (later : Nat) (number : Nat) (state : String) : String :=
  let sign := if later = 0 then "+" else if later = 1 then "-" else " "
  let line := "[" ++ toString number ++ "] " ++ sign ++ " " ++ state
  line ++ String.ofList (List.replicate (max 1 (33 - line.length)) ' ') ++ "\n"

/-- Writes down jobs, the last one first: those that are not over. -/
def tellJobs : Nat → List Job → Eval (List Job)
  | _, [] => return []
  | later, j :: rest => do
    let s ← get
    match s.processes.find? fun p => p.pid = j.pid with
    | none => tellJobs later rest
    | some p =>
      say (jobLine later j.number (jobState s.clock p))
      if p.endTime ≤ s.clock then tellJobs later rest
      else return j :: (← tellJobs (later + 1) rest)

def runJobs (operands : List String) : Eval Nat := do
  let _ ← takeOptions "lp" operands
  let jobs ← tellJobs 0 (← get).jobs
  modify fun s => { s with jobs := jobs }
  return 0

/-- The commands that go on with jobs, which only shells with a terminal can. -/
def runForeground (operands : List String) : Eval Nat := do
  let _ ← jobPid (operands.headD "%")
  fail ("job " ++ operands.headD "(null)" ++ " not created under job control")

end HostServices.Launch.Shell
