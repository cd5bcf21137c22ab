import HostServices.Launch.Shell.World
import HostServices.Text.Prefix

/-!
# What a shell does step by step

Time passes, signals arrive, something is written or read, and variables change.

Assumed of the shell that a launch starts, as `Launch.Shell.World` says.
-/

namespace HostServices.Launch.Shell

/-! ### Time and signals -/

def endsProcess (n : Nat) : Bool := !([0, 17, 18, 19, 20, 21, 22, 23, 28].contains n)

def receive (g : Sent) : Eval Unit := do
  let s ← get
  let action := if g.signal = 9 then none else s.traps.lookup g.signal
  match action with
  | some "" => return
  | some _ => set { s with pending := s.pending ++ [g.signal] }
  | none =>
    if (g.signal != 9 && s.ignored.contains g.signal) || !endsProcess g.signal then return
    else
      set { s with clock := g.time }
      throw (.ended (.killed g.signal))

/-- The signals that have arrived are received, in the order of their times. -/
def meetSignals : Eval Unit := do
  let s ← get
  let (due, later) := s.sent.partition fun g => g.receiver = s.pid && g.time ≤ s.clock
  set { s with sent := later }
  (due.mergeSort fun a b => a.time ≤ b.time).forM receive

/-- It is at least as late as a given time. -/
def passUntil (time : Nat) : Eval Unit := do
  modify fun s => { s with clock := max s.clock time }
  meetSignals

def pass (microseconds : Nat) : Eval Unit := do passUntil ((← get).clock + microseconds)

/-- How long a step of a shell takes. -/
def stepTime : Nat := 5

/-- How long it takes to start another process. -/
def forkTime : Nat := 300

/-- How long it takes to start a program. -/
def programTime : Nat := 700

/-! ### Writing -/

/-- Writes to where a descriptor leads; fails where nothing can be written. -/
def write (descriptor : Nat) (text : String) : Eval Bool := do
  let s ← get
  let keep (channel : Channel) : Eval Bool := do
    if text != "" then
      set { s with written := ⟨s.clock, channel, text, s.owners⟩ :: s.written }
    return true
  match s.descriptors.lookup descriptor with
  | none | some (.source _) | some .refusing => return text = ""
  | some .nothing => return true
  | some channel => keep channel

/-- Writes to the output and remembers if that fails. -/
def say (text : String) : Eval Unit := do
  if !(← write 1 text) then modify fun s => { s with outputFailed := true }

def mutter (text : String) : Eval Unit := do let _ ← write 2 text

def complain (text : String) : Eval Unit := do
  let s ← get
  let current := match s.current with
    | some c => c ++ ": "
    | none => ""
  mutter (s.name ++ ": " ++ toString s.line ++ ": " ++ current ++ text ++ "\n")

/-- The result of the last command. -/
def setStatus (n : Nat) : Eval Unit := modify fun s => { s with status := n }

def fail {α : Type} (text : String) : Eval α := do
  complain text
  setStatus 2
  throw .failed

/-- Does something, and afterwards something else, whatever happens. -/
def after {α : Type} (finish : Eval Unit) (body : Eval α) : Eval α := do
  let a ← tryCatch body fun e => do
    match e with
    | .ended _ => throw e
    | e => finish; throw e
  finish
  return a

/-! ### Reading -/

/-- The text to be read from a descriptor, and its number; none if there is nothing to read. -/
def unreadOf (descriptor : Nat) : Eval (Option (Nat × Unread)) := do
  let s ← get
  match s.descriptors.lookup descriptor with
  | some (.source id) => return (s.unread.lookup id).map fun u => (id, u)
  | _ => return none

/-- The rest of a text is changed. -/
def setUnread (id : Nat) (u : Unread) : Eval Unit :=
  modify fun s => { s with unread := (id, u) :: s.unread.filter fun p => p.1 != id }

/-- Takes the next character from a descriptor. -/
def takeChar (descriptor : Nat) : Eval (Option Char) := do
  match ← unreadOf descriptor with
  | none => return none
  | some (id, u) =>
    passUntil u.time
    match u.text with
    | [] => return none
    | c :: rest =>
      setUnread id { u with text := rest }
      return some c

/-- Takes all that is left to read from a descriptor. -/
def takeAll (descriptor : Nat) : Eval (List Char) := do
  match ← unreadOf descriptor with
  | none => return []
  | some (id, u) =>
    passUntil u.time
    setUnread id { u with text := [] }
    return u.text

def newSource (text : List Char) (time : Nat) : Eval Channel := do
  let s ← get
  set { s with nextText := s.nextText + 1 }
  setUnread s.nextText ⟨text, time⟩
  return .source s.nextText

def newBuffer : Eval Nat := do
  let s ← get
  set { s with nextText := s.nextText + 1 }
  return s.nextText

/-! ### Variables -/

namespace Session

def value? (s : Session) (name : String) : Option String :=
  (s.bindings.lookup name).bind Binding.value

def bind (s : Session) (name : String) (b : Option Binding) : Session :=
  let others := s.bindings.filter fun p => p.1 != name
  { s with
    bindings := match b with
      | some b => (name, b) :: others
      | none => others }

def has (s : Session) (option : Char) : Bool := s.options.contains option

def hasTraps (s : Session) : Bool := s.traps.any fun t => t.2 != ""

/-- The variables that programs get. -/
def environment (s : Session) : List (String × String) :=
  s.bindings.filterMap fun (name, b) => if b.isExported then b.value.map fun v => (name, v) else none

end Session

/-- The value of a variable, empty if it has none. -/
def valueOf (name : String) : Eval String := return ((← get).value? name).getD ""

def isNameText (s : String) : Bool := isName s.toList

def changeable (name : String) : Eval (Option Binding) := do
  if !isNameText name then fail (name ++ ": bad variable name")
  let b := (← get).bindings.lookup name
  if b.any Binding.isReadOnly then fail (name ++ ": is read only")
  return b

/-- Gives a variable a value, and nothing depends on it. -/
def assignQuietly (name value : String) : Eval Unit := do
  let b := (← changeable name).getD ⟨none, false, false⟩
  let s ← get
  let exported := b.isExported || s.has 'a'
  set { s with
    toSession := s.toSession.bind name (some { b with value := some value, isExported := exported }) }

/-- The number of a text, in base ten and not negative; other texts are errors. -/
def numberOf (s : String) : Eval Nat := do
  match Text.takeDecimal? s.toList with
  | some ⟨n, rest⟩ =>
    if rest.all Text.isPlainBlank && 0 ≤ n && n < Int.pow 2 31 then return n.toNat
    else fail ("Illegal number: " ++ s)
  | none => fail ("Illegal number: " ++ s)

def Session.readOptionsFrom (s : Session) (index : Nat) : Session :=
  { s with optionIndex := max index 1, optionPlace := 0 }

/-- What depends on a variable follows its value. -/
def follow (name value : String) : Eval Unit := do
  if name = "PATH" then modify fun s => { s with tracked := [] }
  if name = "OPTIND" then
    let index ← numberOf value
    modify fun s => { s with toSession := s.toSession.readOptionsFrom index }

def assign (name value : String) : Eval Unit := do
  let _ ← changeable name
  follow name value
  assignQuietly name value

def unassign (name : String) : Eval Unit := do
  if (← changeable name).isSome then
    follow name ""
    modify fun s => { s with toSession := s.toSession.bind name none }

def markVariable (name : String) (change : Binding → Binding) : Eval Unit := do
  if !isNameText name then fail (name ++ ": bad variable name")
  modify fun s =>
    let b := (s.bindings.lookup name).getD ⟨none, false, false⟩
    { s with toSession := s.toSession.bind name (some (change b)) }

/-- A variable will be put back when the innermost scope ends. -/
def keepBinding (name : String) : Eval Unit :=
  modify fun s =>
    match s.scopes with
    | [] => s
    | scope :: rest =>
      if scope.any fun p => p.1 = name then s
      else { s with scopes := ((name, s.bindings.lookup name) :: scope) :: rest }

def openScope : Eval Unit := modify fun s => { s with scopes := [] :: s.scopes }

/-- Puts a variable back, and what depends on it follows. -/
def Session.putBack (s : Session) (name : String) (b : Option Binding) : Session :=
  let s := s.bind name b
  if name = "PATH" then { s with tracked := [] }
  else if name = "OPTIND" then
    s.readOptionsFrom (((s.value? name).bind fun v => Text.readNatural? v.toList).getD 1)
  else s

/-- Ends the innermost scope and puts variables back. -/
def closeScope : Eval Unit :=
  modify fun s =>
    match s.scopes with
    | [] => s
    | scope :: rest =>
      let shell := scope.foldl (fun sh (p : String × Option Binding) => sh.putBack p.1 p.2) s.toSession
      { s with toSession := { shell with scopes := rest } }

end HostServices.Launch.Shell
