import HostServices.Launch.Shell.Pathname
import HostServices.Launch.Shell.Process
import HostServices.Launch.Shell.Sum

/-!
# Expanding words

Before a command is carried out, the parameters, sums and commands in its words give way to their
values, and what was not quoted of these is divided into fields.

Assumed of the shell that a launch starts, as `Launch.Shell.World` says.
-/

namespace HostServices.Launch.Shell

/-- What divides a piece of a word into fields. -/
inductive Division
  | nothing
  | separators
  /-- Only the bounds between arguments, which are kept as the character zero. -/
  | arguments
  deriving DecidableEq

structure Piece where
  letters : List Letter
  division : Division

/-! ### Fields -/

/-- A word being divided: the finished fields and the open one, last first. -/
structure Fields where
  done : List (List Letter)
  current : List Letter
  behindBlank : Bool
  /-- How many fields there may be; the last one takes all that is left. -/
  limit : Option Nat
  /-- How much of the last field counts, if not all of it. -/
  kept : Option Nat

namespace Fields

def start (limit : Option Nat) : Fields := ⟨[], [], false, limit, none⟩

def add (f : Fields) (l : Letter) : Fields := { f with current := l :: f.current }

/-- The last field takes all, but separators at its end do not count. -/
def addLast (f : Fields) (l : Letter) (separates isBlank : Bool) : Fields :=
  if isBlank then { f.add l with kept := some (f.kept.getD f.current.length) }
  else
    { f.add l with
      kept := if separates && f.behindBlank then f.kept else none
      behindBlank := false }

def separate (f : Fields) (l : Letter) (isBlank : Bool) : Fields :=
  if f.current.isEmpty && isBlank then { f with behindBlank := false }
  else if f.limit = some 1 then
    { f.add l with limit := some 0, kept := some f.current.length, behindBlank := isBlank }
  else
    { f with
      done := f.current.reverse :: f.done
      current := []
      behindBlank := isBlank
      limit := f.limit.map (· - 1) }

def step (isSeparator : Char → Bool) (blanks : Bool) (f : Fields) (l : Letter) : Fields :=
  let c := l.char?.getD 'x'
  let separates := l.char?.isSome && (isSeparator c || c.toNat = 0)
  let isBlank := separates && (c = ' ' || c = '\t' || c = '\n' || c.toNat = 0)
  if f.limit = some 0 then f.addLast l separates isBlank
  else if f.behindBlank then
    if isBlank then f
    else if separates then { f with behindBlank := false }
    else { f.add l with behindBlank := false }
  else if separates then f.separate l (isBlank && blanks)
  else f.add l

/-- The pieces of a word, and what divided the one before. -/
def addPieces (isSeparator : Char → Bool) :
    Fields → Division → List Piece → Fields × Division
  | f, before, [] => (f, before)
  | f, before, p :: rest =>
    match p.division with
    | .nothing => addPieces isSeparator (p.letters.foldl add f) before rest
    | .separators =>
      let blanks := before != .arguments
      let f := p.letters.foldl (step isSeparator blanks) { f with behindBlank := false }
      addPieces isSeparator f .separators rest
    | .arguments =>
      let f := p.letters.foldl (step (fun _ => false) false) { f with behindBlank := false }
      addPieces isSeparator f .arguments rest

def ofPieces (isSeparator : Char → Bool) (limit : Option Nat) (pieces : List Piece) :
    List (List Letter) :=
  let (f, last) := addPieces isSeparator (start limit) .nothing pieces
  let current := f.current.reverse.take (f.kept.getD f.current.length)
  let done := f.done.reverse
  if last = .arguments || !current.isEmpty then done ++ [current] else done

end Fields

/-! ### Parameters -/

inductive TildeRule
  | nowhere
  | atStart
  | behindColons
  deriving DecidableEq

structure Expanding where
  divides : Bool
  /-- It stands for a parameter's value, and its text is divided as well. -/
  inParameter : Bool
  tildes : TildeRule

/-- The options in the order in which they are told, with their letters. -/
def optionLetters : List (String × Char) :=
  [("errexit", 'e'), ("noglob", 'f'), ("ignoreeof", 'I'), ("interactive", 'i'), ("monitor", 'm'),
    ("noexec", 'n'), ("stdin", 's'), ("xtrace", 'x'), ("verbose", 'v'), ("vi", 'V'),
    ("emacs", 'E'), ("noclobber", 'C'), ("allexport", 'a'), ("notify", 'b'), ("nounset", 'u'),
    ("privileged", 'p'), ("nolog", Char.ofNat 1), ("debug", Char.ofNat 2)]

def separators (s : Session) : List Char := ((s.value? "IFS").getD " \t\n").toList

def betweenArguments (s : Session) : List Char :=
  match s.value? "IFS" with
  | some ifs => ifs.toList.take 1
  | none => [' ']

def parameterValue (s : Session) (name : List Char) (quoted divides : Bool) : Option (List Char) :=
  let number (n : Nat) : Option (List Char) := some (toString n).toList
  let bound := [Char.ofNat 0]
  let joined (between : List Char) : Option (List Char) :=
    some (between.intercalate (s.arguments.map String.toList))
  let star :=
    if !quoted && divides then joined (if (s.value? "IFS").isSome then bound else [' '])
    else joined (betweenArguments s)
  match name with
  | ['$'] => number s.rootPid
  | ['?'] => number s.status
  | ['#'] => number s.arguments.length
  | ['!'] => s.lastBackground.bind number
  | ['-'] => some ((optionLetters.reverse.map Prod.snd).filter fun c => s.has c && 32 ≤ c.toNat)
  | ['@'] => if quoted && divides then joined bound else star
  | ['*'] => star
  | name =>
    match (String.ofList name).toNat? with
    | some 0 => some s.name.toList
    | some n => (s.arguments[n - 1]?).map String.toList
    | none => (s.value? (String.ofList name)).map String.toList

def valuePiece (s : Session) (name : List Char) (e : Expanding) (quoted : Bool) (v : List Char) :
    Piece :=
  let division : Division :=
    if !e.divides then .nothing
    else if !quoted then .separators
    else if name = ['@'] && !s.arguments.isEmpty then .arguments
    else .nothing
  ⟨Letter.ofText quoted v, division⟩

/-- Home directories by user. -/
def homes : List (String × String) :=
  [("root", "/root"), ("daemon", "/usr/sbin"), ("bin", "/bin"), ("nobody", "/nonexistent")]

/-- The letters of an unquoted text with its tildes carried out.  The number bounds the
characters. -/
def expandTildes (s : Session) (rule : TildeRule) (isWhole : Bool) :
    Nat → Bool → List Char → List Letter
  | 0, _, _ => []
  | _, _, [] => []
  | n + 1, canBegin, c :: rest =>
    let ends (c : Char) : Bool := c = '/' || (rule = .behindColons && c = ':')
    let name := rest.takeWhile fun c => !ends c
    let behind := rest.dropWhile fun c => !ends c
    let home? : Option String :=
      if !canBegin || c != '~' || (behind.isEmpty && !isWhole) then none
      else if name.isEmpty then s.value? "HOME"
      else homes.lookup (String.ofList name)
    match home? with
    | some home =>
      Letter.ofText true home.toList ++ expandTildes s rule isWhole n false behind
    | none =>
      .plain c :: expandTildes s rule isWhole n (rule = .behindColons && c = ':') rest

/-! ### Words -/

def integerOf (s : Session) (name : String) : Except SumError Int :=
  match s.value? name with
  | none => .ok 0
  | some v =>
    match Text.takeInteger? v.toList with
    | some ⟨i, rest⟩ =>
      if rest.all Text.isPlainBlank && Text.isInt64 i then .ok i else .error (.illegalNumber v)
    | none => if v.toList.all Text.isPlainBlank then .ok 0 else .error (.illegalNumber v)

def sumValue (text : List Char) : Eval (List Char) := do
  match evaluateSum (integerOf (← get).toSession) text with
  | .error e => fail (e.message (String.ofList text))
  | .ok (value, changes) =>
    changes.forM fun (name, n) => assign name (toString n)
    return (toString value).toList

def needValue (name : List Char) (v : Option (List Char)) : Eval (Option (List Char)) := do
  if v.isNone && (← get).has 'u' then fail (String.ofList name ++ ": parameter not set")
  else return v

def textOfPieces (ps : List Piece) : List Char := ps.flatMap fun p => Letter.text p.letters

def Expanding.toText : Expanding := ⟨false, false, .atStart⟩

/-- What is made of a parameter, given how words are expanded. -/
def expandUse (words : Expanding → Word → Eval (List Piece)) (e : Expanding) (name : List Char)
    (quoted : Bool) (use : Use) : Eval (List Piece) := do
  let s ← get
  let v := parameterValue s.toSession name quoted e.divides
  let value (v : Option (List Char)) : Eval (List Piece) := do
    match v with
    | some v => return [valuePiece (← get).toSession name e quoted v]
    | none => return []
  let nested (w : Word) : Eval (List Piece) := words { e with inParameter := true, tildes := .atStart } w
  let shown := String.ofList name
  match use with
  | .bad => fail "Bad substitution"
  | .value => value (← needValue name v)
  | .length =>
    let whole := if name = ['@'] || name = ['*'] then parameterValue s.toSession name true false else v
    let text := (← needValue name whole).getD []
    value (some (toString text.length).toList)
  | .trim atEnd longest w =>
    match ← needValue name v with
    | none => return []
    | some v =>
      let pattern := (← words .toText w).flatMap Piece.letters
      value (some (trim atEnd longest (compilePattern pattern) v))
  | .lacking colon lack w =>
    let isAbsent := v.isNone || (colon && v = some [])
    match lack with
    | .replace => if isAbsent then nested w else value v
    | .invert => if isAbsent then return [] else nested w
    | .assign =>
      if isAbsent then
        let text := textOfPieces (← words .toText w)
        assign shown (String.ofList text)
        value (parameterValue (← get).toSession name quoted e.divides)
      else value v
    | .complain =>
      if isAbsent then
        if w.isEmpty then
          fail (shown ++ ": parameter not set" ++ if colon then " or null" else "")
        else fail (shown ++ ": " ++ String.ofList (textOfPieces (← words .toText w)))
      else value v

def expandPart (run : Runner) (n : Nat) (words : Expanding → Word → Eval (List Piece))
    (e : Expanding) (isFirst isLast : Bool) (p : Part) : Eval (List Piece) := do
  let s ← get
  let divided (quoted : Bool) : Division := if e.divides && !quoted then .separators else .nothing
  match p with
  | .quotation => return [⟨[.mark], .nothing⟩]
  | .text t true => return [⟨Letter.ofText true t, .nothing⟩]
  | .text t false =>
    let letters :=
      if e.tildes = .nowhere then Letter.ofText false t
      else expandTildes s.toSession e.tildes isLast (t.length + 1) isFirst t
    return [⟨letters, if e.inParameter then divided false else .nothing⟩]
  | .parameter name use quoted => expandUse words e name quoted use
  | .arithmetic body quoted =>
    let text := textOfPieces (← words ⟨false, false, .nowhere⟩ body)
    return [⟨Letter.ofText quoted (← sumValue text), divided quoted⟩]
  | .output c quoted => return [⟨Letter.ofText quoted (← outputOf run n c), divided quoted⟩]

/-- The parts of a word.  All arguments in quotes of their own are no field if there are none. -/
def expandParts (part : Bool → Bool → Part → Eval (List Piece)) :
    Bool → Bool → List Part → Eval (List Piece)
  | _, _, [] => return []
  | isFirst, false, .quotation :: .parameter ['@'] .value true :: .quotation :: rest => do
    let ps ← part isFirst rest.isEmpty (.parameter ['@'] .value true)
    return ps ++ (← expandParts part false false rest)
  | isFirst, inQuotes, p :: rest => do
    let ps ← part isFirst rest.isEmpty p
    let inQuotes := match p with
      | .quotation => !inQuotes
      | _ => inQuotes
    return ps ++ (← expandParts part false inQuotes rest)

/-- The pieces of a word.  The number bounds how deep words hold each other. -/
def expandWord (run : Runner) (depth : Nat) : Nat → Expanding → Word → Eval (List Piece)
  | 0, _, _ => return []
  | n + 1, e, w => expandParts (expandPart run depth (expandWord run depth n) e) true false w

def expandFields (run : Runner) (n : Nat) (w : Word) : Eval (List String) := do
  let pieces ← expandWord run n n ⟨true, false, .atStart⟩ w
  let s ← get
  let fields := Fields.ofPieces (separators s.toSession).contains none pieces
  if s.has 'f' then return fields.map fun f => String.ofList (Letter.text f)
  else return fields.flatMap (pathsOf s)

def expandText (run : Runner) (n : Nat) (tildes : TildeRule) (w : Word) : Eval String := do
  return String.ofList (textOfPieces (← expandWord run n n ⟨false, false, tildes⟩ w))

def expandPattern (run : Runner) (n : Nat) (w : Word) : Eval (List PatternItem) := do
  return compilePattern ((← expandWord run n n .toText w).flatMap Piece.letters)

end HostServices.Launch.Shell
