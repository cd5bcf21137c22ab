import HostServices.Catch.Expr
import HostServices.Catch.TagBook

/-!
# Evaluation by results

Every expression comes to a value or unwinds, and each form decides for itself whether what comes
out of its parts goes on.  `Outcome.caughtBy` is the whole of catching: an escape whose tag is the
catch's becomes its payload, and everything else passes.
-/

namespace HostServices.Catch

structure Escape where
  tag : Tag
  payload : Value

/-- Why an expression has no value. -/
inductive Unwind
  | thrown (e : Escape)
  | raised (f : Failure)

abbrev Outcome := Except Unwind Value

structure Store where
  objects : Bindings Shared
  next : Nat
  /-- Logged values, the latest first. -/
  log : List Value

namespace Store

/-- Nothing shared, nothing logged. -/
def empty : Store := ⟨[], 0, []⟩

def mint (st : Store) (label : Option String) : Tag × Store :=
  (.mint st.next label, { st with next := st.next + 1 })

/-- A new shared object under a name. -/
def share (st : Store) (name : String) (content : Content) : Store :=
  { st with
    objects := Bindings.bind st.objects name ⟨st.next, content⟩
    next := st.next + 1 }

def record (st : Store) (v : Value) : Store := { st with log := v :: st.log }

end Store

abbrev Env := Bindings Tag

def Unwind.unbound (name : String) : Unwind := .raised (.argument ("unbound tag " ++ name))

def Env.tag (env : Env) (name : String) : Except Unwind Tag :=
  match Bindings.find? env name with
  | some t => .ok t
  | none => .error (.unbound name)

def TagSource.tag (env : Env) (st : Store) : TagSource → Except Unwind Tag × Store
  | .fresh => let (t, st) := st.mint none; (.ok t, st)
  | .labeled label => let (t, st) := st.mint (some label); (.ok t, st)
  | .shared object =>
    match Bindings.find? st.objects object with
    | some o => (.ok (.ofShared o), st)
    | none => (.error (.unbound object), st)
  | .clone name => (env.tag name, st)

def Outcome.caughtBy (t : Tag) : Outcome → Outcome
  | .error (.thrown e) => if e.tag.is t then .ok e.payload else .error (.thrown e)
  | r => r

/-- A raised failure becomes its wording. -/
def Outcome.rescued : Outcome → Outcome
  | .error (.raised f) => .ok (.text f.message)
  | r => r

def Escape.display (e : Escape) : String := "uncaught throw " ++ e.tag.display

def Outcome.sum (a b : Value) : Outcome :=
  match Value.add? a b with
  | some v => .ok v
  | none => .error (.raised (.argument "add"))

/-- Runs something inside catches for new tags that it does not know. -/
def insideFresh (run : Store → Outcome × Store) : Nat → Store → Outcome × Store
  | 0, st => run st
  | n + 1, st =>
    let (t, st) := st.mint none
    let (r, st) := insideFresh run n st
    (r.caughtBy t, st)

def eval (env : Env) (st : Store) : Expr → Outcome × Store
  | .value v => (.ok v, st)
  | .log e =>
    match eval env st e with
    | (.ok v, st) => (.ok v, st.record v)
    | r => r
  | .andThen a b =>
    match eval env st a with
    | (.ok _, st) => eval env st b
    | r => r
  | .add a b =>
    match eval env st a with
    | (.ok x, st) =>
      match eval env st b with
      | (.ok y, st) => (Outcome.sum x y, st)
      | r => r
    | r => r
  | .same t u =>
    (do return .bool ((← env.tag t).is (← env.tag u)), st)
  | .bindTag name source body =>
    match source.tag env st with
    | (.ok t, st) => eval (Bindings.bind env name t) st body
    | (.error u, st) => (.error u, st)
  | .object name content body => eval env (st.share name content) body
  | .catching name body =>
    match env.tag name with
    | .error u => (.error u, st)
    | .ok t =>
      let (r, st) := eval (Bindings.bind env "it" t) st body
      (r.caughtBy t, st)
  | .catchFresh name body =>
    let (t, st) := st.mint none
    let (r, st) := eval (Bindings.bind env name t) st body
    (r.caughtBy t, st)
  | .nest depth body => insideFresh (fun st => eval env st body) depth st
  | .throwing name e =>
    match env.tag name with
    | .error u => (.error u, st)
    | .ok t =>
      match eval env st e with
      | (.ok v, st) => (.error (.thrown ⟨t, v⟩), st)
      | r => r
  | .raise f => (.error (.raised f), st)
  | .rescue body =>
    let (r, st) := eval env st body
    (r.rescued, st)
  | .ensure body cleanup =>
    let (r, st) := eval env st body
    match eval env st cleanup with
    | (.ok _, st) => (r, st)
    | (.error u, st) => (.error u, st)
  | .rewrap body e =>
    match eval env st body with
    | (.error (.thrown escape), st) =>
      match eval env (st.record escape.payload) e with
      | (.ok v, st) => (.error (.thrown { escape with payload := v }), st)
      | r => r
    | r => r
  | .direct name e =>
    match env.tag name with
    | .error u => (.error u, st)
    | .ok t =>
      match eval env st e with
      | (.ok v, st) => (.ok (.text (Escape.display ⟨t, v⟩)), st)
      | r => r

/-- Evaluates a whole program, and tells what it logged. -/
def Expr.run (e : Expr) : Outcome × List Value :=
  let (r, st) := eval [] .empty e
  (r, st.log.reverse)

/-! ### How an unwind is shown -/

def Escape.inspect (e : Escape) : String :=
  "Escape \x7b tag: " ++ e.tag.inspect ++ ", value: " ++ e.payload.inspect ++ " \x7d"

namespace Unwind

def display : Unwind → String
  | .thrown e => e.display
  | .raised f => f.message

def inspect : Unwind → String
  | .thrown e => "Throw(" ++ e.inspect ++ ")"
  | .raised f => "Raise(" ++ f.display ++ ")"

def escape? : Unwind → Option Escape
  | .thrown e => some e
  | .raised _ => none

def failure? : Unwind → Option Failure
  | .thrown _ => none
  | .raised f => some f

end Unwind

end HostServices.Catch
