import HostServices.Launch.Shell.Redirection

/-!
# Conditions

The conditions that `test` and `[` know: comparisons of texts and numbers, and questions about files.
They are joined by `-a`, `-o`, `!` and parentheses.

Assumed of the shell that a launch starts, as `Launch.Shell.World` says.
-/

namespace HostServices.Launch.Shell

inductive ConditionSign
  | opening
  | closing
  | negation
  | both
  | either
  | oneOperand
  | twoOperands
  deriving DecidableEq

def conditionSign? (s : String) : Option ConditionSign :=
  match s with
  | "(" => some .opening
  | ")" => some .closing
  | "!" => some .negation
  | "-a" => some .both
  | "-o" => some .either
  | s =>
    if ["-r", "-w", "-x", "-e", "-f", "-d", "-c", "-b", "-p", "-u", "-g", "-k", "-s", "-t", "-z",
      "-n", "-h", "-L", "-O", "-G", "-S"].contains s then some .oneOperand
    else if ["=", "!=", "<", ">", "-eq", "-ne", "-ge", "-gt", "-le", "-lt", "-nt", "-ot",
      "-ef"].contains s then some .twoOperands
    else none

/-- What the first word of some is: a sign, a mere operand, or nothing. -/
inductive ConditionToken
  | nothing
  | operand
  | sign (s : ConditionSign)
  deriving DecidableEq

/-- What the first word of some is, which depends on those that follow. -/
def conditionToken (ws : List String) : ConditionToken :=
  match ws with
  | [] => .nothing
  | w :: rest =>
    match conditionSign? w with
    | none => .operand
    | some .opening => if rest.isEmpty then .operand else .sign .opening
    | some .oneOperand =>
      match rest with
      | [] => .operand
      | [_] => .sign .oneOperand
      | next :: _ =>
        if conditionSign? next = some .twoOperands then .operand else .sign .oneOperand
    | some s => .sign s

/-- Why a condition makes no sense, as it is told. -/
abbrev ConditionError := String

structure Facts where
  /-- Whether a question about a file holds. -/
  file : String → String → Bool
  /-- Whether a comparison of files holds. -/
  files : String → String → String → Bool

def conditionNumber (s : String) : Except ConditionError Int :=
  match Text.takeDecimal? s.toList with
  | some ⟨n, rest⟩ =>
    if rest.all Text.isPlainBlank && Text.isInt64 n then .ok n
    else .error ("Illegal number: " ++ s)
  | none => .error ("Illegal number: " ++ s)

def holdsOne (facts : Facts) (sign operand : String) : Except ConditionError Bool :=
  match sign with
  | "-z" => .ok (operand = "")
  | "-n" => .ok (operand != "")
  | "-t" => do
    let _ ← conditionNumber operand
    return false
  | sign => .ok (facts.file sign operand)

def holdsTwo (facts : Facts) (sign a b : String) : Except ConditionError Bool := do
  let compare (f : Int → Int → Bool) : Except ConditionError Bool := do
    return f (← conditionNumber a) (← conditionNumber b)
  match sign with
  | "=" => return a = b
  | "!=" => return a != b
  | "<" => return a < b
  | ">" => return b < a
  | "-eq" => compare fun x y => x = y
  | "-ne" => compare fun x y => x ≠ y
  | "-ge" => compare fun x y => y ≤ x
  | "-gt" => compare fun x y => y < x
  | "-le" => compare fun x y => x ≤ y
  | "-lt" => compare fun x y => x < y
  | sign => return facts.files sign a b

/-- Which kind of condition is to be read. -/
inductive ConditionLevel
  | either
  | both
  | negation
  | primary

/-- Whether a condition holds, and the words from its last one on. -/
abbrev ConditionResult := Except ConditionError (Bool × List String)

/-- Evaluates a condition of a level whose first word is already known.  The number bounds how
deep conditions hold each other. -/
def evaluateCondition (facts : Facts) :
    Nat → ConditionLevel → ConditionToken → List String → ConditionResult
  | 0, _, _, ws => .ok (false, ws)
  | n + 1, level, t, ws =>
    let again := evaluateCondition facts n
    let behind := conditionToken (ws.drop 1)
    match level with
    | .either => do
      let (a, ws) ← again .both t ws
      if conditionToken (ws.drop 1) = .sign .either then
        let (b, ws) ← again .either (conditionToken (ws.drop 2)) (ws.drop 2)
        return (a || b, ws)
      else return (a, ws)
    | .both => do
      let (a, ws) ← again .negation t ws
      if conditionToken (ws.drop 1) = .sign .both then
        let (b, ws) ← again .both (conditionToken (ws.drop 2)) (ws.drop 2)
        return (a && b, ws)
      else return (a, ws)
    | .negation =>
      if t = .sign .negation then do
        let (a, ws) ← again .negation behind (if behind = .nothing then ws else ws.drop 1)
        return (!a, ws)
      else again .primary t ws
    | .primary =>
      let first := ws.headD ""
      match t with
      | .nothing => .ok (false, ws)
      | .sign .opening => do
        if behind = .sign .closing then return (false, ws.drop 1)
        else
          let (a, ws) ← again .either behind (ws.drop 1)
          if conditionToken (ws.drop 1) = .sign .closing then return (a, ws.drop 1)
          else throw "closing paren expected"
      | .sign .oneOperand =>
        match ws.drop 1 with
        | [] => .error (first ++ ": argument expected")
        | operand :: rest => do return (← holdsOne facts first operand, operand :: rest)
      | _ =>
        match ws.drop 1 with
        | sign :: rest =>
          if behind = .sign .twoOperands then
            match rest with
            | [] => .error (sign ++ ": argument expected")
            | b :: rest => do return (← holdsTwo facts sign first b, b :: rest)
          else .ok (first != "", ws)
        | [] => .ok (first != "", ws)

/-- Evaluates a whole condition from its first word. -/
def wholeCondition (facts : Facts) (t : ConditionToken) (ws : List String) :
    Except ConditionError Bool := do
  let (holds, rest) ← evaluateCondition facts (4 * ws.length + 8) .either t ws
  match rest with
  | w :: _ :: _ => throw (if w = "" then "unexpected operator" else w ++ ": unexpected operator")
  | _ => return holds

/-- Whether a condition holds, or does not if it is negated.  Three or four words are read in a way
of their own: outer parentheses and a negation in front come first. -/
def condition (facts : Facts) (negated : Bool) : List String → Except ConditionError Bool
  | [] => .ok negated
  | w :: ws =>
    let whole (t : ConditionToken) (ws : List String) : Except ConditionError Bool :=
      (wholeCondition facts t ws).map (· != negated)
    let isShort : Bool := ws.length = 2 || ws.length = 3
    if ws.length = 2 && (ws.head?.bind conditionSign?) = some .twoOperands then
      whole .operand (w :: ws)
    else if isShort && w = "(" && ws.getLast? = some ")" then
      whole (conditionToken ws.dropLast) ws.dropLast
    else if isShort && w = "!" then condition facts true ws
    else whole (conditionToken (w :: ws)) (w :: ws)

/-! ### Questions about files -/

def factsOf (s : State) : Facts where
  file sign path :=
    let file := (FileTree.fileAt (directoryWay s.toSession) path).toOption
    let made := madeFile? s path
    let way := (FileTree.place (directoryWay s.toSession) path).toOption.map FileTree.Place.way
    let device := match file with
      | some (.device _) => true
      | _ => false
    let program := match file with
      | some (.program _) => true
      | _ => false
    let isThere := file.isSome || made.isSome || (descriptorOf? path).isSome
    match sign with
    | "-e" | "-r" | "-w" | "-O" | "-G" => isThere
    | "-d" => file = some .directory
    | "-f" => file = some .plain || program || made.isSome
    | "-x" => file = some .directory || program
    | "-s" =>
      match made with
      | some id => s.textOf (.buffer id) s.clock != ""
      | none => file.isSome && !device
    | "-c" => device
    | "-k" => [["tmp"], ["var", "tmp"], ["dev", "shm"]].any fun w => way = some w
    | "-h" | "-L" => FileTree.isLink (directoryWay s.toSession) path
    | _ => false
  files sign a b :=
    match FileTree.place (directoryWay s.toSession) a, FileTree.place (directoryWay s.toSession) b with
    | .ok p, .ok q => sign = "-ef" && p.file?.isSome && p.way = q.way
    | _, _ => false

/-- Tells the result of a condition: zero if it holds, one if not, two for a complaint. -/
def runCondition (operands : List String) : Eval Nat := do
  match condition (factsOf (← get)) false operands with
  | .ok true => return 0
  | .ok false => return 1
  | .error text => fail text

end HostServices.Launch.Shell
