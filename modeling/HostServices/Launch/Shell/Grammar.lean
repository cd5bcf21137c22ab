import HostServices.Launch.Shell.Reader

/-!
# Reading commands

A script is read line by line: `Source.nextLine` gives the commands of the next line, which go on
into later lines where something is still open.

Assumed of the shell that a launch starts, as `Launch.Shell.World` says.
-/

namespace HostServices.Launch.Shell

open Parse

/-- What holds a list of commands, which decides on where it may end. -/
inductive Holder
  | line
  | command
  | place
  deriving DecidableEq

inductive Wanted
  | list (h : Holder)
  | command

/-- How the commands inside a command are read; the number bounds what is read in a row. -/
structure Grammar where
  read : Wanted → Parse (Option Command)
  bound : Nat

namespace Grammar

def list (g : Grammar) (h : Holder) : Parse Command :=
  return (← g.read (.list h)).getD .nothing

def command (g : Grammar) : Parse Command := return (← g.read .command).getD .nothing

def bare : Reading := ⟨pure .nothing, pure .nothing, false, none⟩

/-- A list and the parenthesis behind it. -/
def enclosed (g : Grammar) : Parse Command := do
  let awaited := (← get).awaited
  modify fun s => { s with awaited := [] }
  let reading : Reading := { bare with commands := g.list .place }
  let c ← g.list .place
  let t ← next reading g.bound .word
  modify fun s => { s with awaited := awaited }
  if t.isSign ")" then return c else throw (.expecting t "\")\"")

def reading (g : Grammar) : Reading := ⟨g.list .place, g.enclosed, false, none⟩

def next (g : Grammar) (w : Wants) : Parse Token := Shell.next g.reading g.bound w

def expect (g : Grammar) (spelling : String) (w : Wants) : Parse Unit := do
  let t ← g.next w
  if t.isSign spelling then return
  else throw (.expecting t ("\"" ++ spelling ++ "\""))

/-! ### Redirections -/

def expectWord (g : Grammar) : Parse Word := do
  match ← g.next .word with
  | .word w => return w
  | t => throw (.unexpected t)

def bareText (w : Word) : List Char :=
  w.flatMap fun
    | .text s _ => s
    | _ => []

def redirect (g : Grammar) (descriptor : Nat) (sign : RedirectSign) : Parse Redirect := do
  match sign with
  | .file how => return .file descriptor how (← g.expectWord)
  | .duplicate forOutput => return .duplicate descriptor forOutput (← g.expectWord)
  | .here stripsTabs =>
    match ← Shell.next { g.reading with isPlain := true } g.bound .word with
    | .word w =>
      let id := (← get).nextDocument
      let isPlain := w.any fun
        | .text _ false => false
        | _ => true
      modify fun s =>
        { s with
          nextDocument := id + 1
          awaited := s.awaited ++ [⟨id, bareText w, stripsTabs, isPlain⟩] }
      return .here descriptor id
    | t => throw (.unexpected t)

def redirects (g : Grammar) : Nat → Parse (List Redirect)
  | 0 => return []
  | n + 1 => do
    match ← g.next .command with
    | .redirect descriptor sign => return (← g.redirect descriptor sign) :: (← g.redirects n)
    | t => putBack t; return []

/-! ### Simple commands -/

/-- A simple command being read. -/
structure Pending where
  assignments : List (List Char × Word)
  words : List Word
  redirects : List Redirect

def specialNames : List String :=
  [".", ":", "break", "continue", "eval", "exec", "exit", "export", "readonly", "return", "set",
    "shift", "times", "trap", "unset"]

def function (g : Grammar) (name : Word) : Parse Command := do
  g.expect ")" .word
  match plainText? name with
  | some s =>
    if !isName s || specialNames.contains (String.ofList s) then throw .badFunctionName
    let reading := g.reading
    let t ← Shell.next reading g.bound .commandBelow
    putBack t
    return .define (← get).line s (← g.command)
  | none => throw .badFunctionName

def simple (g : Grammar) (line : Nat) : Nat → Pending → Parse Command
  | 0, _ => return .nothing
  | n + 1, p => do
    let finish (t : Token) : Parse Command := do
      putBack t
      return .simple line p.assignments.reverse p.words.reverse p.redirects.reverse
    match ← g.next ⟨false, false, p.words.isEmpty⟩ with
    | .word w =>
      match if p.words.isEmpty then assignment? w else none with
      | some a => g.simple line n { p with assignments := a :: p.assignments }
      | none => g.simple line n { p with words := w :: p.words }
    | .redirect descriptor sign =>
      let r ← g.redirect descriptor sign
      g.simple line n { p with redirects := r :: p.redirects }
    | t =>
      match p with
      | ⟨[], [name], []⟩ => if t.isSign "(" then g.function name else finish t
      | _ => finish t

/-! ### Commands made of commands -/

/-- The rest of a branch, behind its first word. -/
def branch (g : Grammar) : Nat → Parse Command
  | 0 => return .nothing
  | n + 1 => do
    let condition ← g.list .command
    g.expect "then" .word
    let yes ← g.list .command
    let t ← g.next .word
    if t.isSign "elif" then return .branch condition yes (some (← g.branch n))
    else if t.isSign "else" then return .branch condition yes (some (← g.list .command))
    else
      putBack t
      return .branch condition yes none

/-- The items of a loop up to the end of their line. -/
def items (g : Grammar) : Nat → Parse (List Word)
  | 0 => return []
  | n + 1 => do
    match ← g.next .word with
    | .word w => return w :: (← g.items n)
    | .newline => return []
    | t => if t.isSign ";" then return [] else throw (.unexpected t)

def allArguments : Word := [.parameter ['@'] .value true]

/-- The rest of a loop over items, behind its first word. -/
def forEach (g : Grammar) (line : Nat) : Parse Command := do
  let name ←
    match ← g.next .word with
    | .word w =>
      match plainText? w with
      | some s => if isName s then pure s else throw .badLoopVariable
      | none => throw .badLoopVariable
    | _ => throw .badLoopVariable
  let t ← g.next .commandBelow
  let words ←
    if t.isSign "in" then g.items g.bound
    else
      if !t.isSign ";" then putBack t
      pure [allArguments]
  g.expect "do" .commandBelow
  return .forEach line name words (← g.list .command)

/-- The patterns of a clause, of which the first token has been read. -/
def patterns (g : Grammar) : Nat → Token → Parse (List Word)
  | 0, _ => return []
  | n + 1, t => do
    let w :=
      match t with
      | .word w => w
      | .sign spelling => [.text spelling.toList false]
      | _ => []
    let t ← g.next .word
    if t.isSign "|" then return w :: (← g.patterns n (← g.next .word))
    else if t.isSign ")" then return [w]
    else throw (.expecting t "\")\"")

def clauses (g : Grammar) : Nat → Parse (List (List Word × Option Command))
  | 0 => return []
  | n + 1 => do
    let wants : Wants := ⟨true, true, false⟩
    let t ← g.next wants
    if t.isSign "esac" then return []
    else
      let first ← if t.isSign "(" then g.next .word else pure t
      let patterns ← g.patterns g.bound first
      let body ← g.read (.list .place)
      let t ← g.next wants
      if t.isSign "esac" then return [(patterns, body)]
      else if t.isSign ";;" then return (patterns, body) :: (← g.clauses n)
      else throw (.expecting t "\";;\"")

/-- The rest of a choice, behind its first word. -/
def choose (g : Grammar) (line : Nat) : Parse Command := do
  match ← g.next .word with
  | .word w =>
    g.expect "in" .commandBelow
    return .choose line w (← g.clauses g.bound)
  | t => throw (.expecting t "word")

/-- The rest of a loop, behind its first word. -/
def loop (g : Grammar) (untilSuccess : Bool) : Parse Command := do
  let condition ← g.list .command
  g.expect "do" .word
  return .loop untilSuccess condition (← g.list .command)

def redirected (g : Grammar) (line : Nat) (c : Command) : Parse Command := do
  match ← g.redirects g.bound with
  | [] => return c
  | rs =>
    match c with
    | .subshell line c _ => return .subshell line c rs
    | c => return .redirected line c rs

def oneCommand (g : Grammar) : Parse Command := do
  let line := (← get).line
  let closed (c : Command) (spelling : String) : Parse Command := do
    g.expect spelling .word
    g.redirected line c
  let t ← g.next .word
  match t with
  | .word _ | .redirect _ _ =>
    putBack t
    g.simple (← get).line g.bound ⟨[], [], []⟩
  | .sign "if" => closed (← g.branch g.bound) "fi"
  | .sign "while" => closed (← g.loop false) "done"
  | .sign "until" => closed (← g.loop true) "done"
  | .sign "for" => closed (← g.forEach line) "done"
  | .sign "case" => g.redirected line (← g.choose line)
  | .sign "(" => closed (.subshell line (← g.list .command) []) ")"
  | .sign "\x7b" => closed (← g.list .command) "\x7d"
  | t => throw (.unexpected t)

/-! ### Lists -/

def pipeParts (g : Grammar) : Nat → Parse (List Command)
  | 0 => return []
  | n + 1 => do
    let t ← g.next .word
    if t.isSign "|" then
      let first ← g.next .commandBelow
      putBack first
      let c ← g.command
      return c :: (← g.pipeParts n)
    else
      putBack t
      return []

/-- A pipeline, whose first token is looked for in a given way. -/
def pipeline (g : Grammar) (w : Wants) : Parse Command := do
  let t ← g.next w
  let negated := t.isSign "!"
  if negated then
    let t ← g.next .command
    putBack t
  else putBack t
  let c ← g.command
  let c ←
    match ← g.pipeParts g.bound with
    | [] => pure c
    | parts => pure (.pipeline (c :: parts))
  return if negated then .negated c else c

/-- What follows a pipeline that a condition joins to it. -/
def andOr (g : Grammar) : Nat → Command → Parse Command
  | 0, c => return c
  | n + 1, c => do
    let t ← g.next .word
    if t.isSign "&&" then g.andOr n (.both c (← g.pipeline .commandBelow))
    else if t.isSign "||" then g.andOr n (.either c (← g.pipeline .commandBelow))
    else
      putBack t
      return c

def inBackground : Command → Command
  | .redirected _ c rs => .background c rs
  | c => .background c []

def commands (g : Grammar) (h : Holder) :
    Nat → Bool → Option Command → Parse (Option Command)
  | 0, _, acc => return acc
  | n + 1, mayEnd, acc => do
    let t ← g.next ⟨h != .line, true, true⟩
    match t with
    | .newline => readDocuments g.reading g.bound; return acc
    | .endOfText => readDocuments g.reading g.bound; putBack t; return acc
    | _ =>
      putBack t
      if mayEnd && h != .line && t.endsList then return acc
      let c ← g.andOr g.bound (← g.pipeline .word)
      let t ← g.next .word
      let c := if t.isSign "&" then inBackground c else c
      let acc := match acc with
        | some a => .sequence a c
        | none => c
      match t with
      | .endOfText => readDocuments g.reading g.bound; putBack t; return some acc
      | .newline => putBack t; g.commands h n true (some acc)
      | _ =>
        if t.isSign "&" || t.isSign ";" then g.commands h n true (some acc)
        else if h = .line then throw (.unexpected t)
        else
          putBack t
          return some acc

/-- Reads what is wanted, with a bound on how deep commands hold each other. -/
def parse : Nat → Wanted → Parse (Option Command)
  | 0, _ => return none
  | n + 1, w =>
    let g : Grammar := ⟨parse n, n⟩
    match w with
    | .command => return some (← g.oneCommand)
    | .list h => g.commands h n (h = .place) none

end Grammar

/-- A text read by the rules of double quotes; a text that makes no sense stands for itself. -/
def readQuoted (n : Nat) (text : List Char) : Except SyntaxError Word :=
  let g : Grammar := ⟨Grammar.parse n, n⟩
  match readParts g.reading n (.double .endOfText) .empty (.ofText text [] 0) with
  | .ok d _ => .ok d.finish
  | .error e _ => .error e

inductive NextLine
  | none
  | commands (c : Command) (isLast : Bool)
  | nonsense (e : SyntaxError)

def Source.nextLine (s : Source) (n : Nat) : NextLine × Source :=
  let s := { s with pushedBack := .none, awaited := [] }
  match Grammar.parse n (.list .line) s with
  | .error e s => (.nonsense e, s)
  | .ok c s =>
    let isLast := match s.pushedBack with
      | some .endOfText => true
      | _ => false
    match c with
    | some c => (.commands c isLast, s)
    | .none => (if isLast then .none else .commands .nothing false, s)

end HostServices.Launch.Shell
