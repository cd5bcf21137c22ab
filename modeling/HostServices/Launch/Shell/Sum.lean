import HostServices.Text.Prefix

/-!
# Sums

A sum is an arithmetic expression over numbers of 64 bits and variables, some of which it may
change.

Assumed of the shell that a launch starts, as `Launch.Shell.World` says.
-/

namespace HostServices.Launch.Shell

inductive SumToken
  | number (n : Int)
  | variable (name : String)
  | operator (spelling : String)
  /-- Something that makes no sense. -/
  | bad
  deriving DecidableEq

inductive SumError
  | expecting (what : String)
  | divisionByZero
  /-- A variable holds something that is no number. -/
  | illegalNumber (value : String)
  deriving DecidableEq

def SumError.message (sum : String) : SumError → String
  | .expecting what => "arithmetic expression: expecting " ++ what ++ ": \"" ++ sum ++ "\""
  | .divisionByZero => "arithmetic expression: division by zero: \"" ++ sum ++ "\""
  | .illegalNumber value => "Illegal number: " ++ value

namespace SumToken

/-- The operators, longer ones before their beginnings. -/
def operators : List String :=
  ["<<=", ">>=", "==", "!=", "<=", ">=", "<<", ">>", "&&", "||", "+=", "-=", "*=", "/=", "%=",
    "&=", "|=", "^=", "=", "<", ">", "&", "|", "!", "+", "-", "*", "/", "%", "^", "~", "(", ")",
    "?", ":"]

/-- The tokens of a sum.  The number bounds its characters. -/
def ofText : Nat → List Char → List SumToken
  | 0, _ => []
  | _, [] => []
  | n + 1, c :: rest =>
    if c = ' ' || c = '\t' || c = '\n' then ofText n rest
    else if c.isDigit then
      match Text.takeNumeral? (c :: rest) with
      | some (value, rest) => .number (Text.clampInt64 value) :: ofText n rest
      | none => [.bad]
    else if c.isAlpha || c = '_' then
      let (name, rest) := (c :: rest).span fun c => c.isAlphanum || c = '_'
      .variable (String.ofList name) :: ofText n rest
    else
      match operators.find? fun o => o.toList.isPrefixOf (c :: rest) with
      | some o => .operator o :: ofText n ((c :: rest).drop o.length)
      | none => [.bad]

end SumToken

/-- The variables that a sum reads and those that it has changed, last first. -/
structure SumBindings where
  outside : String → Except SumError Int
  changed : List (String × Int)

namespace SumBindings

def value (b : SumBindings) (name : String) : Except SumError Int :=
  match b.changed.lookup name with
  | some n => .ok n
  | none => b.outside name

def assign (b : SumBindings) (name : String) (n : Int) : SumBindings :=
  { b with changed := (name, n) :: b.changed }

end SumBindings

def truth (b : Bool) : Int := if b then 1 else 0

/-- A bitwise operation on numbers of 64 bits. -/
def bitwise (f : Nat → Nat → Nat) (a b : Int) : Int :=
  Text.wrapInt64 (f (a % Int.pow 2 64).toNat (b % Int.pow 2 64).toNat)

def operate (operator : String) (a b : Int) : Except SumError Int :=
  match operator with
  | "*" => .ok (Text.wrapInt64 (a * b))
  | "/" => if b = 0 then .error .divisionByZero else .ok (Text.wrapInt64 (a.tdiv b))
  | "%" => if b = 0 then .error .divisionByZero else .ok (a.tmod b)
  | "+" => .ok (Text.wrapInt64 (a + b))
  | "-" => .ok (Text.wrapInt64 (a - b))
  | "<<" => .ok (Text.wrapInt64 (a * Int.pow 2 (b % 64).toNat))
  | ">>" => .ok (a >>> (b % 64).toNat)
  | "<" => .ok (truth (a < b))
  | "<=" => .ok (truth (a ≤ b))
  | ">" => .ok (truth (b < a))
  | ">=" => .ok (truth (b ≤ a))
  | "==" => .ok (truth (a = b))
  | "!=" => .ok (truth (a ≠ b))
  | "&" => .ok (bitwise (· &&& ·) a b)
  | "^" => .ok (bitwise (· ^^^ ·) a b)
  | _ => .ok (bitwise (· ||| ·) a b)

/-- How closely an operator of two operands binds; the closest ones have the least number. -/
def bindingOf : SumToken → Option (String × Nat)
  | .operator o =>
    let levels : List (List String) :=
      [["*", "/", "%"], ["+", "-"], ["<<", ">>"], ["<", "<=", ">", ">="], ["==", "!="], ["&"],
        ["^"], ["|"]]
    (levels.findIdx? fun l => l.contains o).map fun n => (o, n)
  | _ => none

/-- The operator that an assignment carries out, empty for a plain one. -/
def assigning? : SumToken → Option String
  | .operator "=" => some ""
  | .operator o =>
    if ["*=", "/=", "%=", "+=", "-=", "<<=", ">>=", "&=", "^=", "|="].contains o then
      some (String.ofList o.toList.dropLast)
    else none
  | _ => none

/-- Which kind of expression is to be read. -/
inductive SumLevel
  | assignment
  | choice
  | either
  | both
  /-- Operators that bind as closely as a number says, or closer. -/
  | binary (looseness : Nat)
  | more (looseness : Nat) (first : Int)
  | primary

/-- A value, what is left to read, and the variables. -/
structure SumState where
  value : Int
  rest : List SumToken
  bindings : SumBindings

namespace SumState

def holding (s : SumState) (value : Int) : SumState := { s with value := value }

/-- The rest without its first token, which has to be an operator. -/
def expect (s : SumState) (spelling what : String) : Except SumError SumState :=
  match s.rest with
  | .operator o :: rest =>
    if o = spelling then .ok { s with rest := rest } else .error (.expecting what)
  | _ => .error (.expecting what)

def startsWith (s : SumState) (spelling : String) : Bool := s.rest.head? = some (.operator spelling)

end SumState

/-- Evaluates an expression of a level; where nothing counts, variables are left alone.  The
number bounds how deep expressions hold each other. -/
def evaluate : Nat → SumLevel → Bool → List SumToken → SumBindings → Except SumError SumState
  | 0, _, _, _, _ => .error (.expecting "primary")
  | n + 1, level, idle, ts, b =>
    match level with
    | .assignment =>
      match ts with
      | .variable name :: o :: rest =>
        match assigning? o with
        | none => evaluate n .choice idle ts b
        | some operator => do
          let s ← evaluate n .assignment idle rest b
          if idle then return s
          else
            let value ←
              if operator = "" then pure s.value
              else operate operator (← s.bindings.value name) s.value
            return ⟨value, s.rest, s.bindings.assign name value⟩
      | _ => evaluate n .choice idle ts b
    | .choice => do
      let s ← evaluate n .either idle ts b
      if s.startsWith "?" then
        let holds : Bool := s.value != 0
        let yes ← evaluate n .assignment (idle || !holds) (s.rest.drop 1) s.bindings
        let yes' ← yes.expect ":" "':'"
        let no ← evaluate n .choice (idle || holds) yes'.rest yes'.bindings
        return no.holding (if holds then yes.value else no.value)
      else return s
    | .either => do
      let s ← evaluate n .both idle ts b
      if s.startsWith "||" then
        let holds : Bool := s.value != 0
        let t ← evaluate n .either (idle || holds) (s.rest.drop 1) s.bindings
        return t.holding (truth (holds || t.value != 0))
      else return s
    | .both => do
      let s ← evaluate n (.binary 7) idle ts b
      if s.startsWith "&&" then
        let holds : Bool := s.value != 0
        let t ← evaluate n .both (idle || !holds) (s.rest.drop 1) s.bindings
        return t.holding (truth (holds && t.value != 0))
      else return s
    | .binary looseness => do
      let s ← evaluate n .primary idle ts b
      evaluate n (.more looseness s.value) idle s.rest s.bindings
    | .more looseness first =>
      match ts.head?.bind bindingOf with
      | none => .ok ⟨first, ts, b⟩
      | some (operator, level) =>
        if looseness < level then .ok ⟨first, ts, b⟩
        else do
          let s ←
            if level = 0 then evaluate n .primary idle (ts.drop 1) b
            else evaluate n (.binary (level - 1)) idle (ts.drop 1) b
          let value ← if idle then pure s.value else operate operator first s.value
          evaluate n (.more looseness value) idle s.rest s.bindings
    | .primary =>
      match ts with
      | .number value :: rest => .ok ⟨value, rest, b⟩
      | .variable name :: rest =>
        if idle then .ok ⟨0, rest, b⟩
        else do return ⟨← b.value name, rest, b⟩
      | .operator "(" :: rest => do
        let s ← evaluate n .assignment idle rest b
        s.expect ")" "')'"
      | .operator "+" :: rest => evaluate n .primary idle rest b
      | .operator "-" :: rest => do
        let s ← evaluate n .primary idle rest b
        return s.holding (Text.wrapInt64 (-s.value))
      | .operator "!" :: rest => do
        let s ← evaluate n .primary idle rest b
        return s.holding (truth (s.value = 0))
      | .operator "~" :: rest => do
        let s ← evaluate n .primary idle rest b
        return s.holding (-s.value - 1)
      | _ => .error (.expecting "primary")

/-- The value of a sum and the variables that it changes, first ones first. -/
def evaluateSum (outside : String → Except SumError Int) (text : List Char) :
    Except SumError (Int × List (String × Int)) := do
  let ts := SumToken.ofText text.length text
  let s ← evaluate (12 * ts.length + 12) .assignment false ts ⟨outside, []⟩
  if s.rest.isEmpty then return (s.value, s.bindings.changed.reverse)
  else throw (.expecting "EOF")

end HostServices.Launch.Shell
