import HostServices.Launch.Shell.Simple

/-!
# Carrying out commands

Commands are carried out one inside the other; `Command.run` is given a bound on how deep.

Assumed of the shell that a launch starts, as `Launch.Shell.World` says.
-/

namespace HostServices.Launch.Shell

/-! ### Loops -/

inductive Round
  | goesOn
  | stops

/-- Carries out a part of a loop.  Leaving one loop, or going on with its next round, ends here. -/
def inLoop (body : Eval Unit) : Eval Round := do
  try
    body
    return .goesOn
  catch
    | .leaveLoop levels => if levels ≤ 1 then return .stops else throw (.leaveLoop (levels - 1))
    | .restartLoop levels =>
      if levels ≤ 1 then return .goesOn else throw (.restartLoop (levels - 1))
    | e => throw e

def loopDeeper (body : Eval Nat) : Eval Unit := do
  let loops := (← get).loops
  modify fun s => { s with loops := loops + 1 }
  setStatus (← after (modify fun s => { s with loops := loops }) body)

/-- Goes round as long as a condition allows: the result of the last round. -/
def goRound (t : Tools) (untilSuccess : Bool) (condition body : Command) : Nat → Nat → Eval Nat
  | 0, status => return status
  | n + 1, status => do
    match ← inLoop (t.run .tested condition) with
    | .stops => return status
    | .goesOn =>
      if ((← get).status = 0) = !untilSuccess then
        let round ← inLoop (t.run { t.manner with isLast := false } body)
        let status := (← get).status
        match round with
        | .goesOn => goRound t untilSuccess condition body n status
        | .stops => return status
      else return status

/-- Goes round once for each item: the result of the last round. -/
def goThrough (t : Tools) (name : String) (body : Command) : Nat → List String → Eval Nat
  | status, [] => return status
  | _, item :: rest => do
    assign name item
    let round ← inLoop (t.run { t.manner with isLast := false } body)
    let status := (← get).status
    match round with
    | .goesOn => goThrough t name body status rest
    | .stops => return status

/-! ### Choices -/

def anyFits (t : Tools) (text : List Char) : List Word → Eval Bool
  | [] => return false
  | w :: rest => do
    if fits (← expandPattern t.run t.bound w) text then return true else anyFits t text rest

/-- Carries out the commands behind the first patterns of which one fits. -/
def chooseClause (t : Tools) (text : List Char) :
    List (List Word × Option Command) → Eval Unit
  | [] => setStatus 0
  | (patterns, body) :: rest => do
    if ← anyFits t text patterns then
      match body with
      | some c => t.run t.manner c
      | none => setStatus 0
    else chooseClause t text rest

/-! ### Commands -/

/-- A failure of a command at which nothing looks ends the shell, if that is wanted. -/
def checkFailure (m : Manner) : Eval Unit := do
  let s ← get
  if s.has 'e' && s.status != 0 && !m.isTested then throw (.exits false)

def setLine (line : Nat) : Eval Unit := modify fun s => { s with line := line }

/-- Carries out a command with redirections; it is not carried out if one of them fails. -/
def runRedirected (t : Tools) (redirects : List Redirect) (body : Eval Unit) : Eval Unit :=
  withDescriptors do
    if ← redirect t.run t.bound redirects then body
    else
      setStatus 2
      checkFailure t.manner

def runSubshell (t : Tools) (c : Command) (redirects : List Redirect) : Eval Unit := do
  let body : Eval Unit := do
    if ← redirect t.run t.bound redirects then t.run { t.manner with isLast := true } c
    else throw .failed
  if t.manner.isLast && !(← get).hasTraps then body else inSubshell t.run t.bound body

def runKind (t : Tools) (c : Command) : Eval Unit := do
  let m := t.manner
  match c with
  | .nothing => return
  | .simple line assignments words redirects =>
    runSimple t line assignments words redirects
    meetTraps t.run t.bound t.bound
    checkFailure m
  | .redirected line c redirects =>
    setLine line
    runRedirected t redirects (t.run { m with isLast := false } c)
  | .sequence a b =>
    t.run { m with isLast := false } a
    t.run m b
  | .both a b =>
    t.run .tested a
    if (← get).status = 0 then t.run m b
  | .either a b =>
    t.run .tested a
    if (← get).status != 0 then t.run m b
  | .negated a =>
    t.run .tested a
    setStatus (if (← get).status = 0 then 1 else 0)
  | .pipeline parts =>
    pass forkTime
    runPipeline t.run m t.bound parts none 0
    meetTraps t.run t.bound t.bound
    checkFailure m
  | .loop untilSuccess condition body =>
    loopDeeper (goRound t untilSuccess condition body t.bound 0)
  | .forEach line name items body =>
    setLine line
    let fields ← items.mapM (expandFields t.run t.bound)
    loopDeeper (goThrough t (String.ofList name) body 0 fields.flatten)
  | .branch condition yes no =>
    t.run .tested condition
    if (← get).status = 0 then t.run m yes
    else
      match no with
      | some c => t.run m c
      | none => setStatus 0
  | .choose line subject cases =>
    setLine line
    let text ← expandText t.run t.bound .atStart subject
    chooseClause t text.toList cases
  | .subshell line c redirects =>
    setLine line
    runSubshell t c redirects
    meetTraps t.run t.bound t.bound
    checkFailure m
  | .background c redirects =>
    let line := (← get).line
    let body := if redirects.isEmpty then c else .redirected line c redirects
    startBackground t.run t.bound body
  | .define _ name body =>
    let name := String.ofList name
    modify fun s =>
      { s with functions := (name, body) :: s.functions.filter fun f => f.1 != name }
    setStatus 0

/-- Carries out a command.  Signals that have arrived are met before and behind it. -/
def Command.run : Nat → Runner
  | 0, _, _ => throw .failed
  | n + 1, m, c => do
    if (← get).has 'n' then return
    match c with
    | .nothing => return
    | c =>
      meetTraps (run n) n n
      runKind ⟨run n, n, m⟩ c
      meetTraps (run n) n n

end HostServices.Launch.Shell
