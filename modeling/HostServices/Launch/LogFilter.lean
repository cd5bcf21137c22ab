import HostServices.Launch.Log
import HostServices.Text.Alphanumeric
import HostServices.Text.Blank
import HostServices.Text.Numeral
import HostServices.Text.Pattern.Written

/-!
# Log filters

A filter says which log lines are written.  Its rules have the form `target[call{field=value}]=level`
where every part may be missing.

A rule that names neither a kind of call nor a field's value is about lines: of those whose target
begins with the rule's target and that have its fields, the closest rule decides.  A rule that names
a kind of call or a field is about calls as well: it lets through the lines that are written in the
course of the calls it fits, whatever their own targets are.
-/

namespace HostServices.Launch

/-- What a rule demands of a field's value. -/
inductive ValueTest
  | number (n : Nat)
  /-- The written form of a pattern that must accept a text. -/
  | pattern (form : String)
  /-- A value of a type that no field of a call has. -/
  | unheld
  deriving DecidableEq

/-- What a rule demands of a field: that it is there, and perhaps its value. -/
structure FieldTest where
  name : String
  value : Option ValueTest
  deriving DecidableEq

structure Rule where
  target : Option String
  call : Option String
  fields : List FieldTest
  rank : Nat
  deriving DecidableEq

/-! ### Reading -/

namespace ValueTest

/-- A text that is written as a number with a fraction, an exponent or a name. -/
def isDecimal (s : List Char) : Bool :=
  let unsigned :=
    match s with
    | '+' :: rest | '-' :: rest => rest
    | s => s
  if ["inf", "infinity", "nan"].contains (String.ofList (unsigned.map Char.toLower)) then true
  else
    let (whole, rest) := unsigned.span Char.isDigit
    let (fraction, rest) :=
      match rest with
      | '.' :: rest => rest.span Char.isDigit
      | rest => ([], rest)
    let exponentFits :=
      match rest with
      | [] => true
      | e :: rest =>
        let digits :=
          match rest with
          | '+' :: rest | '-' :: rest => rest
          | rest => rest
        (e = 'e' || e = 'E') && !digits.isEmpty && digits.all Char.isDigit
    (!whole.isEmpty || !fraction.isEmpty) && exponentFits

/-- The test of a written value: a truth value or a number if it looks like one, else a pattern. -/
def parse? (s : String) : Option ValueTest :=
  let unsigned :=
    match s.toList with
    | '+' :: rest => rest
    | s => s
  match s = "true" || s = "false", Text.readNatural? unsigned with
  | true, _ => some .unheld
  | _, some n => some (if n < UInt64.size then .number n else .unheld)
  | _, none =>
    if isDecimal s.toList then some .unheld
    else (Text.Pattern.parse? s).map fun _ => .pattern s

def fits : ValueTest → FieldValue → Bool
  | .number n, .number m => n = m
  | .pattern form, .text s => (Text.Pattern.parse? form).any fun p => p.accepts s
  | _, _ => false

end ValueTest

/-- The test of a written field; what stands behind a second sign does not count. -/
def FieldTest.parse? (s : String) : Option FieldTest :=
  match s.splitOn "=" with
  | "" :: [] | [] => none
  | [name] => some ⟨name, none⟩
  | name :: value :: _ => (ValueTest.parse? value).map fun v => ⟨name, some v⟩

namespace Rule

/-- The rank of a word: a number up to five, or a name in letters of either case. -/
def rank? (word : String) : Option Nat :=
  let digits :=
    match word.toList with
    | '+' :: rest => rest
    | word => word
  match Text.readNatural? digits with
  | some n => if n ≤ 5 then some n else none
  | none =>
    match String.ofList (word.toList.map Char.toLower) with
    | "off" => some 0
    | "error" => some 1
    | "warn" => some 2
    | "info" => some 3
    | "debug" => some 4
    | "trace" => some 5
    | _ => none

/-- The rank behind an equals sign; nothing lets all through. -/
def rankBehind? (word : String) : Option Nat := if word = "" then some 5 else rank? word

/-- The parts of a rule while it is read. -/
inductive Part
  | start
  | target (begin : Nat)
  | call (begin : Nat)
  | field (begin : Nat)
  | behindFields
  | behindCall
  | rank (begin : Nat)

/-- The characters that a rule can begin with, beside an opening bracket. -/
def beginsRule (c : Char) : Bool := c = '-' || c = ':' || c = '_' || Text.isAlphanumeric c

/-- The text between two places that are counted in bytes. -/
def between (text : List Char) (first last : Nat) : String :=
  let rec go (place : Nat) : List Char → List Char
    | [] => []
    | c :: rest =>
      let others := go (place + c.utf8Size) rest
      if first ≤ place && place < last then c :: others else others
  String.ofList (go 0 text)

/-- One more character of a rule.  The parts are cut out of `text` by the places of their ends. -/
def step? (text : List Char) (place : Nat) (c : Char) : Part × Rule → Option (Part × Rule)
  | (.start, r) =>
    if c = '[' then some (.call (place + 1), r)
    else if beginsRule c then some (.target place, r)
    else none
  | (.target begin, r) =>
    let named := { r with target := some (between text begin place) }
    if c = '=' then some (.rank (place + 1), named)
    else if c = '[' then some (.call (place + 1), named)
    else some (.target begin, r)
  | (.call begin, r) =>
    let kind := between text begin place
    if c = ']' then some (.behindCall, { r with call := some kind })
    else if c = '\x7b' then
      some (.field (place + 1), { r with call := if kind = "" then none else some kind })
    else some (.call begin, r)
  | (.field begin, r) =>
    if c = '\x7d' then
      (FieldTest.parse? (between text begin place)).map fun f =>
        (.behindFields, { r with fields := r.fields ++ [f] })
    else some (.field begin, r)
  | (.behindFields, r) => if c = ']' then some (.behindCall, r) else none
  | (.behindCall, r) => if c = '=' then some (.rank (place + 1), r) else none
  | (.rank begin, r) => some (.rank begin, r)

def steps? (text : List Char) : Nat → List Char → Part × Rule → Option (Part × Rule)
  | _, [], state => some state
  | place, c :: rest, state =>
    (step? text place c state).bind (steps? text (place + c.utf8Size) rest)

/-- The rule of a text.  Where its parts end is found without the blanks around the text, and then
counted with them. -/
def parse? (text : String) : Option Rule := do
  let bare := Text.trim text.toList
  let (part, r) ← steps? text.toList 0 bare (.start, ⟨none, none, [], 5⟩)
  let restFrom (begin : Nat) := between text.toList begin text.utf8ByteSize
  match part with
  | .target begin =>
    let word := restFrom begin
    match rank? word with
    | some rank => return { r with rank := rank }
    | none => return { r with target := some word }
  | .rank begin => return { r with rank := ← rankBehind? (restFrom begin) }
  | .behindCall => return r
  | _ => none

/-! ### What rules are about -/

def concernsLines (r : Rule) : Bool := r.call.isNone && r.fields.all fun f => f.value.isNone

def concernsCalls (r : Rule) : Bool :=
  (r.call.isNone || r.call = some ServiceCall.kind) && (r.call.isSome || !r.fields.isEmpty)

def coversTarget (r : Rule) (target : String) : Bool :=
  match r.target with
  | some t => t.toList.isPrefixOf target.toList
  | none => true

def coversFields (r : Rule) (names : List String) : Bool :=
  r.fields.all fun f => names.contains f.name

/-- A call passes the tests of the rule. -/
def fits (r : Rule) (fields : Fields) : Bool :=
  r.fields.all fun f =>
    match f.value with
    | none => true
    | some v => (fields.lookup f.name).any v.fits

/-- How close a rule about lines is: a longer target first, then more fields. -/
def closeness (r : Rule) : Nat × Nat :=
  ((r.target.map fun t => t.utf8ByteSize + 1).getD 0, r.fields.length)

/-- One rule about lines is closer than another; of equally close ones the greater names win. -/
def isCloser (a b : Rule) : Bool :=
  let names (r : Rule) := r.fields.map FieldTest.name
  let order := compare a.closeness.1 b.closeness.1
    |>.then (compare a.closeness.2 b.closeness.2)
    |>.then (compare a.target b.target)
    |>.then (compare (names a) (names b))
  order == .gt

/-- Two rules are about the same calls. -/
def isAboutSame (a b : Rule) : Bool :=
  a.target = b.target && a.call = b.call && a.fields = b.fields

end Rule

/-! ### Filtering -/

structure LogFilter where
  rules : List Rule

namespace LogFilter

def upTo (rank : Nat) : LogFilter := ⟨[⟨none, none, [], rank⟩]⟩

/-- The filter of a text: rules between commas.  Without any rule errors are written. -/
def parse? (text : String) : Option LogFilter := do
  let rules ← ((text.splitOn ",").filter (· ≠ "")).mapM Rule.parse?
  return if rules.isEmpty then upTo Level.error.rank else ⟨rules⟩

/-- The filter of a setting; what makes no sense counts as unset, and then everything up to
information is written. -/
def ofSetting (setting : Option String) : LogFilter :=
  (setting.bind parse?).getD (upTo Level.info.rank)

/-- The closer of two rules; of equally close ones the later. -/
def closer (best : Option Rule) (r : Rule) : Option Rule :=
  match best with
  | some b => if b.isCloser r then some b else some r
  | none => some r

/-- How much the closest of some rules lets through. -/
def closestRank (rules : List Rule) : Nat :=
  match rules.foldl closer none with
  | some r => r.rank
  | none => 0

/-- How much is let through of lines with a target and fields. -/
def lineRank (f : LogFilter) (target : String) (names : List String) : Nat :=
  closestRank (f.rules.filter fun r =>
    r.concernsLines && r.coversTarget target && r.coversFields names)

/-- The later of two rules about the same calls takes the place of the earlier. -/
def latest : List Rule → List Rule
  | [] => []
  | r :: rest => if rest.any r.isAboutSame then latest rest else r :: latest rest

def callRules (f : LogFilter) : List Rule :=
  latest (f.rules.filter fun r =>
    r.concernsCalls && r.coversTarget ServiceCall.target && r.coversFields ServiceCall.fieldNames)

/-- The most that any line may need to be written.  Tests of values cannot be made beforehand and
leave everything possible. -/
def reach (f : LogFilter) : Nat :=
  if f.rules.any fun r => r.fields.any fun field => field.value.isSome then Level.trace.rank
  else (f.rules.map Rule.rank).foldl max 0

/-- Calls are followed: they are closed in the log, and rules about calls work.  The closest rule
about their target does for that whatever its fields are. -/
def followsCalls (f : LogFilter) : Bool :=
  let rank :=
    closestRank (f.rules.filter fun r => r.concernsLines && r.coversTarget ServiceCall.target)
  ServiceCall.level.rank ≤ f.reach && (!f.callRules.isEmpty || ServiceCall.level.rank ≤ rank)

/-- How much is let through in the course of a call because of the call. -/
def callRank (f : LogFilter) (c : ServiceCall) : Nat :=
  if f.followsCalls then
    ((f.callRules.filter fun r => r.fits (c.fields false)).map Rule.rank).foldl max 0
  else 0

def admits (f : LogFilter) (l : LogLine) : Bool :=
  match l.place with
  | .closing _ => f.followsCalls
  | place =>
    let inCall := (place.call?.map f.callRank).getD 0
    l.level.rank ≤ inCall ||
      l.level.rank ≤ f.lineRank l.target ("message" :: l.fields.map Prod.fst)

/-- The lines that are written.  Only a call that is followed shows in its lines. -/
def apply (f : LogFilter) (lines : List LogLine) : List LogLine :=
  let written := lines.filter f.admits
  if f.followsCalls then written else written.map fun l => { l with place := .outside }

end LogFilter

end HostServices.Launch
