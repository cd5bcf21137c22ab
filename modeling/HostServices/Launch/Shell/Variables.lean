import HostServices.Launch.Shell.Signalling

/-!
# Variables, arguments and aliases

The commands with which a shell changes what it knows.

Assumed of the shell that a launch starts, as `Launch.Shell.World` says.
-/

namespace HostServices.Launch.Shell

/-! ### Marking variables -/

/-- A name and the value behind an equals sign, if there is one. -/
def nameAndValue (s : String) : String × Option String :=
  match s.toList.span (· != '=') with
  | (name, _ :: value) => (String.ofList name, some (String.ofList value))
  | (name, []) => (String.ofList name, none)

def alphabetical {α : Type} (table : List (String × α)) : List (String × α) :=
  table.mergeSort fun a b => a.1 ≤ b.1

def listVariables (command : String) (isListed : Binding → Bool) : Eval Unit := do
  let s ← get
  let listed := alphabetical (s.bindings.filter fun p => isListed p.2)
  let lead := if command = "" then "" else command ++ " "
  listed.forM fun (name, b) =>
    say (lead ++ name ++
      (match b.value with
        | some v => "=" ++ quoteForShell v
        | none => "") ++ "\n")

def markVariables (command : String) (change : Binding → Binding) (isMarked : Binding → Bool)
    (operands : List String) : Eval Nat := do
  let (flags, names) ← takeOptions "p" operands
  if !flags.isEmpty || names.isEmpty then listVariables command isMarked
  else
    names.forM fun operand => do
      let (name, value) := nameAndValue operand
      match value with
      | some v => assign name v
      | none => pure ()
      markVariable name change
  return 0

/-- The command for variables of the innermost function. -/
def runLocal (operands : List String) : Eval Nat := do
  if (← get).scopes.isEmpty then fail "not in a function"
  operands.forM fun operand => do
    let (name, value) := nameAndValue operand
    if operand != "-" then
      if !isNameText name then fail (name ++ ": bad variable name")
      keepBinding name
      match value with
      | some v => assign name v
      | none => markVariable name id
  return 0

/-- The command that makes shells forget variables and functions. -/
def runUnset (operands : List String) : Eval Nat := do
  let (flags, names) ← takeOptions "vf" operands
  let isFunction : Bool := (flags.getLast?.map Flagged.letter) = some 'f'
  names.forM fun name => do
    if isFunction then
      modify fun s => { s with functions := s.functions.filter fun f => f.1 != name }
    else unassign name
  return 0

/-! ### Arguments -/

def setArguments (arguments : List String) : Eval Unit :=
  modify fun s => { s with arguments := arguments, optionIndex := 1, optionPlace := 0 }

/-- The command that sets options and arguments. -/
def runSet (operands : List String) : Eval Nat := do
  if operands.isEmpty then listVariables "" fun b => b.value.isSome
  else
    let r ← readOptions false (operands.length + 1) operands false
    if !r.rest.isEmpty || r.isEnded then setArguments r.rest
  return 0

/-- The command that drops arguments. -/
def runShift (operands : List String) : Eval Nat := do
  let n ← match operands with
    | [] => pure 1
    | operand :: _ => numberOf operand
  let s ← get
  if s.arguments.length < n then fail "can't shift that many"
  setArguments (s.arguments.drop n)
  return 0

/-! ### Options of scripts -/

/-- What reading one option of a script gives. -/
structure OptionTaken where
  letter : Char
  argument : Option String
  /-- The operand to go on with, and how far it has been read. -/
  index : Nat
  place : Nat
  isOver : Bool

/-- Reads an option letter from some text of an operand; the index is the one of the next
operand. -/
def takeScriptOption (known : List Char) (operands : List String) (index place : Nat) (c : Char)
    (rest : List Char) : Eval OptionTaken := do
  let quiet : Bool := known.head? = some ':'
  let goOn : Nat := if rest.isEmpty then 0 else place + 1
  match takes? known c with
  | none =>
    if quiet then return ⟨'?', some c.toString, index, goOn, false⟩
    else
      mutter ("Illegal option -" ++ c.toString ++ "\n")
      return ⟨'?', none, index, goOn, false⟩
  | some false => return ⟨c, some "", index, goOn, false⟩
  | some true =>
    if !rest.isEmpty then return ⟨c, some (String.ofList rest), index, 0, false⟩
    else
      match operands[index - 1]? with
      | some argument => return ⟨c, some argument, index + 1, 0, false⟩
      | none =>
        if quiet then return ⟨':', some c.toString, index, 0, false⟩
        else
          mutter ("No arg for -" ++ c.toString ++ " option\n")
          return ⟨'?', none, index, 0, false⟩

def nextScriptOption (known : List Char) (operands : List String) : Eval OptionTaken := do
  let s ← get
  let (index, place) :=
    if operands.length + 1 < s.optionIndex then (1, 0) else (s.optionIndex, s.optionPlace)
  let open' :=
    if index ≤ 1 || place = 0 then [] else ((operands[index - 2]?).getD "").toList.drop place
  match open' with
  | c :: rest => takeScriptOption known operands index place c rest
  | [] =>
    match (operands[index - 1]?).map String.toList with
    | some ['-', '-'] => return ⟨'?', none, index + 1, 0, true⟩
    | some ('-' :: c :: rest) => takeScriptOption known operands (index + 1) 1 c rest
    | _ => return ⟨'?', none, index, 0, true⟩

/-- The command that reads the options of a script. -/
def runGetopts (operands : List String) : Eval Nat := do
  match operands with
  | known :: name :: rest =>
    let s ← get
    let t ← nextScriptOption known.toList (if rest.isEmpty then s.arguments else rest)
    if !t.isOver then
      match t.argument with
      | some a => assign "OPTARG" a
      | none => unassign "OPTARG"
    assignQuietly "OPTIND" (toString t.index)
    assign name t.letter.toString
    modify fun s => { s with optionIndex := t.index, optionPlace := t.place }
    return if t.isOver then 1 else 0
  | _ => fail "Usage: getopts optstring var [arg...]"

/-! ### Reading a line -/

/-- Reads a line: its pieces, last first, and whether its end was found.  A backslash protects the
next character. -/
def readLinePieces (raw : Bool) : Nat → List Letter → List Piece → Eval (List Piece × Bool)
  | 0, open', done => return (⟨open'.reverse, .separators⟩ :: done, false)
  | n + 1, open', done => do
    let close (letters : List Letter) : List Piece := ⟨letters.reverse, .separators⟩ :: done
    match ← takeChar 0 with
    | none => return (close open', false)
    | some '\n' => return (close open', true)
    | some c =>
      if c = '\\' && !raw then
        match ← takeChar 0 with
        | none => return (close open', false)
        | some '\n' => readLinePieces raw n [] (close open')
        | some d => readLinePieces raw n [] (⟨[.quoted d], .nothing⟩ :: close open')
      else if c.toNat = 0 then readLinePieces raw n open' done
      else readLinePieces raw n (.plain c :: open') done

def assignFields : List String → List String → Eval Unit
  | [], _ => return
  | name :: names, fields => do
    assign name (fields.headD "")
    assignFields names (fields.drop 1)

def runRead (operands : List String) : Eval Nat := do
  let (flags, names) ← takeOptions "p:r" operands
  if names.isEmpty then fail "arg count"
  let bound := match ← unreadOf 0 with
    | some (_, u) => u.text.length
    | none => 0
  let raw := flags.any fun f => f.letter = 'r'
  let (pieces, isWhole) ← readLinePieces raw (bound + 1) [] []
  let isSeparator := (separators (← get).toSession).contains
  let fields := Fields.ofPieces isSeparator (some names.length) pieces.reverse
  assignFields names (fields.map fun f => String.ofList (Letter.text f))
  return if isWhole then 0 else 1

/-! ### Aliases -/

/-- The place of a name in a table of some size, by which tables are listed. -/
def bucket (size : Nat) (name : String) : Nat :=
  let codes := name.toList.map Char.toNat
  (codes.headD 0 * 16 + codes.foldr (· + ·) 0) % size

def inBuckets {α : Type} (size : Nat) (table : List (String × α)) : List (String × α) :=
  table.mergeSort fun a b => bucket size a.1 ≤ bucket size b.1

def sayAlias (name value : String) : Eval Unit := say (name ++ "=" ++ quoteForShell value ++ "\n")

def runAlias (operands : List String) : Eval Nat := do
  let rec each (status : Nat) : List String → Eval Nat
    | [] => return status
    | operand :: rest => do
      match operand.toList with
      | c :: tail =>
        match tail.span (· != '=') with
        | (name, _ :: value) =>
          let name := String.ofList (c :: name)
          let value := String.ofList value
          modify fun s =>
            { s with
              aliases :=
                if (s.aliases.lookup name).isSome then
                  s.aliases.map fun a => if a.1 = name then (name, value) else a
                else s.aliases ++ [(name, value)] }
          each status rest
        | _ =>
          match (← get).aliases.lookup operand with
          | some value => sayAlias operand value; each status rest
          | none => mutter ("alias: " ++ operand ++ " not found\n"); each 1 rest
      | [] => mutter "alias:  not found\n"; each 1 rest
  if operands.isEmpty then
    (inBuckets 39 (← get).aliases).forM fun (name, value) => sayAlias name value
    return 0
  else each 0 operands

/-- The command that removes aliases. -/
def runUnalias (operands : List String) : Eval Nat := do
  let (flags, names) ← takeOptions "a" operands
  let rec each (status : Nat) : List String → Eval Nat
    | [] => return status
    | name :: rest => do
      let s ← get
      if (s.aliases.lookup name).isSome then
        set { s with aliases := s.aliases.filter fun a => a.1 != name }
        each status rest
      else
        mutter ("unalias: " ++ name ++ " not found\n")
        each 1 rest
  if !flags.isEmpty then
    modify fun s => { s with aliases := [] }
    return 0
  else each 0 names

end HostServices.Launch.Shell
