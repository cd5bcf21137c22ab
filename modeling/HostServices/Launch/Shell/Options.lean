import HostServices.Launch.Shell.Expansion

/-!
# Options

Options stand in front of a command's operands, several letters in one word; a word of two hyphens
ends them.

Assumed of the shell that a launch starts, as `Launch.Shell.World` says.
-/

namespace HostServices.Launch.Shell

/-- An option letter with its argument. -/
structure Flagged where
  letter : Char
  argument : String

/-- A letter among the options that a command takes, and whether it takes an argument. -/
def takes? (known : List Char) (c : Char) : Option Bool :=
  match known.dropWhile (· != c) with
  | [] => none
  | _ :: rest => if c = ':' then none else some (rest.head? = some ':')

/-- The options in front of some operands.  The number bounds their characters. -/
def takeLetters (known : List Char) :
    Nat → List Char → List String → Eval (List Flagged × List String)
  | 0, _, operands => return ([], operands)
  | n + 1, [], operands => do
    match operands with
    | word :: rest =>
      match word.toList with
      | ['-', '-'] => return ([], rest)
      | '-' :: c :: letters => takeLetters known n (c :: letters) rest
      | _ => return ([], operands)
    | [] => return ([], [])
  | n + 1, c :: letters, operands => do
    match takes? known c with
    | none => fail ("Illegal option -" ++ c.toString)
    | some false =>
      let (flags, rest) ← takeLetters known n letters operands
      return (⟨c, ""⟩ :: flags, rest)
    | some true =>
      let (argument, operands) ←
        match letters, operands with
        | [], [] => fail ("No arg for -" ++ c.toString ++ " option")
        | [], argument :: rest => pure (argument, rest)
        | letters, operands => pure (String.ofList letters, operands)
      let (flags, rest) ← takeLetters known n [] operands
      return (⟨c, argument⟩ :: flags, rest)

/-- The options in front of some operands; letters that take an argument stand before a colon. -/
def takeOptions (known : String) (operands : List String) : Eval (List Flagged × List String) :=
  takeLetters known.toList ((operands.map String.length).foldr (· + ·) 0 + 2 * operands.length + 1) [] operands

def takeOperands (operands : List String) : Eval (List String) :=
  return (← takeOptions "" operands).2

/-! ### The options of the shell -/

def setOption (letter : Char) (on : Bool) : Eval Unit := do
  if optionLetters.any fun o => o.2 = letter then
    modify fun s =>
      let others := s.options.filter (· != letter)
      { s with
        options := if on then letter :: others else others
        disabled := if on then s.disabled else letter :: s.disabled }
  else fail ("Illegal option -" ++ letter.toString)

def setNamedOption (name : String) (on : Bool) : Eval Unit := do
  match optionLetters.lookup name with
  | some letter => setOption letter on
  | none => fail ("Illegal option -o " ++ name)

/-- Writes down all options.  Where the shell starts, those about which nothing has been said are
told as if they were set. -/
def listOptions (isStart on : Bool) : Eval Unit := do
  let s ← get
  let pad (name : String) : String := name ++ String.ofList (List.replicate (16 - name.length) ' ')
  if on then say "Current option settings\n"
  optionLetters.forM fun (name, letter) =>
    let isSet := s.has letter || (isStart && !s.disabled.contains letter)
    say (if on then pad name ++ (if isSet then "on" else "off") ++ "\n"
      else "set " ++ (if isSet then "-" else "+") ++ "o " ++ name ++ "\n")

structure OptionsRead where
  rest : List String
  isEnded : Bool
  hasScript : Bool

def readOptionWord (isStart on : Bool) :
    List Char → List String → Bool → Eval (List String × Bool)
  | [], rest, hasScript => return (rest, hasScript)
  | 'o' :: letters, rest, hasScript => do
    match rest with
    | [] => listOptions isStart on
    | name :: _ => setNamedOption name on
    readOptionWord isStart on letters (rest.drop 1) hasScript
  | c :: letters, rest, hasScript => do
    if isStart && c = 'c' then readOptionWord isStart on letters rest true
    else if isStart && c = 'l' then readOptionWord isStart on letters rest hasScript
    else
      setOption c on
      readOptionWord isStart on letters rest hasScript

def readOptions (isStart : Bool) : Nat → List String → Bool → Eval OptionsRead
  | 0, operands, hasScript => return ⟨operands, false, hasScript⟩
  | n + 1, operands, hasScript => do
    match operands with
    | [] => return ⟨[], false, hasScript⟩
    | word :: rest =>
      match word.toList with
      | ['-'] =>
        if !isStart then
          setOption 'x' false
          setOption 'v' false
        return ⟨rest, false, hasScript⟩
      | ['-', '-'] => return ⟨rest, true, hasScript⟩
      | '-' :: letters =>
        let (rest, hasScript) ← readOptionWord isStart true letters rest hasScript
        readOptions isStart n rest hasScript
      | '+' :: letters =>
        let (rest, hasScript) ← readOptionWord isStart false letters rest hasScript
        readOptions isStart n rest hasScript
      | _ => return ⟨operands, false, hasScript⟩

end HostServices.Launch.Shell
