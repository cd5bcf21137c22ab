import HostServices.Watch.Step

/-!
# Rehearsals

A rehearsal is a registry in a process whose callbacks and refusals are scripted.  Requests come
one after another; the dispatcher moves only when a request waits for it, and then as far as it
can.  A callback may hold the dispatcher until it is released, install and raise from inside, and
panic.
-/

namespace HostServices.Watch

/-- What a rehearsed callback does, in this order, after its run is counted under its label. -/
structure Cue where
  label : String
  /-- Wait until the rehearsal is released. -/
  holds : Bool
  /-- Install a descriptor's action or another callback on a signal. -/
  installs : Option (String × (String ⊕ Cue))
  raises : Option String
  panics : Bool

/-- An action to install: that of a descriptor, or a callback. -/
abbrev Plan := String ⊕ Cue

def Plan.action : Plan → Except Failure (Action Cue)
  | .inl descriptor =>
    match Action.ofDescriptor? descriptor with
    | some a => .ok a
    | none => .error (.ofDescriptor descriptor)
  | .inr cue => .ok (.custom cue)

inductive Request
  /-- Install an action, the plan being looked at first. -/
  | watch (name : String) (plan : Plan)
  /-- Install an action and tell what it replaced, the name being looked at first. -/
  | install (name : String) (plan : Plan)
  | installed (name : String)
  /-- Raise a signal some times, and perhaps wait until all is dispatched. -/
  | raise (name : String) (times : Nat) (waits : Bool)
  /-- Wait until all is dispatched. -/
  | settle
  /-- Wait until a callback holds the dispatcher. -/
  | held
  /-- Let the callback go on that holds the dispatcher, and all later ones. -/
  | release
  | inner
  | threads
  | outside
  | stats
  | settings
  | system (name : String)
  | overrule (name : String) (handler : Handler)
  | refuseHandler (number : Int)
  | refuseWakePipe (number : Int)
  | refuseWake
  /-- The read after the one that the dispatcher waits in fails. -/
  | failRead (number : Int)
  /-- Wait until that read has failed. -/
  | readFailed

inductive Answer
  | failed (f : Failure)
  | panicked
  | accepted (b : Bool)
  | replaced (d : Disposition)
  | installed (d : Option Disposition)
  | raised
  /-- The raise would have ended the process. -/
  | refused
  | counts (table : List (String × Nat))
  | inner (answers : List Answer)
  | number (n : Nat)
  | stats (s : Stats)
  | settings (s : Settings)
  | entry (handler : Handler) (restart : Bool)
  | nothing

def countUnder (key : String) : List (String × Nat) → List (String × Nat)
  | [] => [(key, 1)]
  | (k, n) :: rest => if k = key then (k, n + 1) :: rest else (k, n) :: countUnder key rest

structure Rehearsal where
  registry : Registry Cue
  /-- Runs of callbacks by label. -/
  hits : List (String × Nat)
  /-- Runs of callbacks by the name of their thread. -/
  threads : List (String × Nat)
  /-- Deliveries to the handler of other code. -/
  outsideHits : Nat
  /-- Answers that callbacks got, latest first. -/
  inner : List Answer
  /-- The running invocation has been counted. -/
  begun : Bool
  released : Bool
  refusals : Refusals
  /-- The error of the next read that begins. -/
  readFault : Option Int
  /-- Other code has seen the registry's handler and can install it. -/
  recorderSeen : Bool
  /-- Deliveries to the registry's handler. -/
  raised : Nat
  /-- Those of them that found a callback installed. -/
  owed : Nat

namespace Rehearsal

def start (settings : Settings) : Rehearsal where
  registry := .fresh settings
  hits := []
  threads := []
  outsideHits := 0
  inner := []
  begun := false
  released := false
  refusals := .nothing
  readFault := none
  recorderSeen := false
  raised := 0
  owed := 0

/-- A read that begins meets the scripted fault, if there is one. -/
def beginRead (t : Rehearsal) : Rehearsal :=
  match t.readFault with
  | none => t
  | some number =>
    match t.registry.failRead? (number = Errno.interrupted.code) with
    | none => t
    | some r => { t with registry := r, readFault := none }

def moved (t : Rehearsal) (r : Registry Cue) : Rehearsal :=
  let after := { t with registry := r }
  if r.isReading && !t.registry.isReading then after.beginRead else after

/-- The refusals that are left after an install. -/
def refusalsAfter (refused : Refusals) (before after : Registry Cue) :
    Except InstallError Disposition → Refusals
  | .error (.wakePipe _) => { refused with wakePipe := none }
  | .error (.system _) => { refused with handler := none }
  | .error _ => refused
  | .ok _ =>
    { refused with wake := refused.wake && after.retired.length ≤ before.retired.length }

def install (t : Rehearsal) (s : Signal) (a : Action Cue) :
    Except Fault Disposition × Rehearsal :=
  let (result, r) := t.registry.install s a t.refusals
  let after := { t.moved r with refusals := refusalsAfter t.refusals t.registry r result }
  (result.mapError InstallError.toFault, after)

/-- Installs a plan under a name, the name being looked at first. -/
def installNamed (t : Rehearsal) (name : String) (plan : Plan) :
    Except Fault Disposition × Rehearsal :=
  match Signal.resolve name with
  | .error e => (.error (.failure (.ofName e)), t)
  | .ok s =>
    match plan.action with
    | .error f => (.error (.failure f), t)
    | .ok a => t.install s a

/-- Installs a plan under a name, the plan being looked at first. -/
def watchNamed (t : Rehearsal) (name : String) (plan : Plan) :
    Except Fault Disposition × Rehearsal :=
  match plan.action with
  | .error f => (.error (.failure f), t)
  | .ok a =>
    match Signal.resolve name with
    | .error e => (.error (.failure (.ofName e)), t)
    | .ok s => t.install s a

/-- A wake byte was written: a broken pipe has a signal for it, which other code may handle. -/
def wroteWakeByte (t : Rehearsal) : Rehearsal :=
  if t.registry.hasBrokenPipe && t.registry.system.raised .pipe = .outside then
    { t with outsideHits := t.outsideHits + 1 }
  else t

def raiseOnce (t : Rehearsal) (s : Signal) : Rehearsal :=
  match t.registry.system.raised s with
  | .recorded =>
    { t with
      registry := t.registry.record s
      raised := t.raised + 1
      owed := t.owed + (t.registry.slots.get s).callback?.isSome.toNat }.wroteWakeByte
  | .outside => { t with outsideHits := t.outsideHits + 1 }
  | .fatal | .nothing => t

/-- Raises a signal some times, unless that would end the process. -/
def raise (t : Rehearsal) (s : Signal) (times : Nat) : Answer × Rehearsal :=
  if t.registry.system.raised s = .fatal then (.refused, t)
  else (.raised, times.repeat (fun t => t.raiseOnce s) t)

def faultAnswer : Fault → Answer
  | .failure f => .failed f
  | .panic => .panicked

def replacedAnswer : Except Fault Disposition → Answer
  | .ok d => .replaced d
  | .error fault => faultAnswer fault

/-- A callback begins: its run is counted. -/
def beginCue (t : Rehearsal) (cue : Cue) : Rehearsal :=
  { t with
    hits := countUnder cue.label t.hits
    threads := countUnder t.registry.settings.threadName t.threads
    begun := true }

def cueInstalls (t : Rehearsal) (cue : Cue) : Rehearsal :=
  match cue.installs with
  | none => t
  | some (name, plan) =>
    let (result, t) := t.installNamed name plan
    { t with inner := replacedAnswer result :: t.inner }

def cueRaises (t : Rehearsal) (cue : Cue) : Rehearsal :=
  match cue.raises with
  | none => t
  | some name =>
    match Signal.resolve name with
    | .error e => { t with inner := .failed (.ofName e) :: t.inner }
    | .ok s =>
      let (answer, t) := t.raise s 1
      { t with inner := answer :: t.inner }

def endCue (t : Rehearsal) (cue : Cue) : Rehearsal :=
  let t := (t.cueInstalls cue).cueRaises cue
  match t.registry.finish? cue.panics with
  | none => t
  | some r => { t.moved r with begun := false }

/-- The dispatcher's next move, unless it waits or is held. -/
def advance? (t : Rehearsal) : Option Rehearsal :=
  match t.registry.running? with
  | some cue =>
    if !t.begun then some (t.beginCue cue)
    else if cue.holds && !t.released then none
    else some (t.endCue cue)
  | none => (t.registry.move?.bind t.registry.step?).map t.moved

/-- Moves the dispatcher until it waits or is held, or until the moves are used up. -/
def settleWithin : Nat → Rehearsal → Rehearsal
  | 0, t => t
  | n + 1, t =>
    match t.advance? with
    | none => t
    | some t => settleWithin n t

/-- Moves the dispatcher until it waits or is held.  Callbacks that raise their own signal for ever
are given up. -/
def settle (t : Rehearsal) : Rehearsal := settleWithin 4000000 t

/-- All deliveries are dispatched: each is counted, and as many callbacks have ended as deliveries
found one installed.  Nothing more comes of those that a dispatcher that has ended left behind. -/
def isSettled (t : Rehearsal) : Bool :=
  match t.registry.dispatcher with
  | .live _ =>
    t.registry.stats.deliveries = t.raised &&
      t.registry.stats.callbacksRun + t.registry.stats.callbackPanics = t.owed
  | _ => true

/-- A callback holds the dispatcher. -/
def isHeld (t : Rehearsal) : Bool :=
  match t.registry.running? with
  | some cue => t.begun && cue.holds && !t.released
  | none => false

/-- Lets the dispatcher go on and answers when what is waited for has come; to wait for what never
comes is a panic. -/
def await (t : Rehearsal) (hasCome : Rehearsal → Bool) (answer : Rehearsal → Answer) :
    Answer × Rehearsal :=
  let t := t.settle
  (if hasCome t then answer t else .panicked, t)

def named? : Request → Option Signal
  | .watch name _ | .install name _ | .installed name | .raise name _ _ | .system name
  | .overrule name _ => (Signal.resolve name).toOption
  | _ => none

/-- Other code sees the registry's handler on a signal that a request named. -/
def see (t : Rehearsal) (request : Request) : Rehearsal :=
  match named? request with
  | none => t
  | some s => { t with recorderSeen := t.recorderSeen || t.registry.installed s == some .custom }

def withSignal (t : Rehearsal) (name : String) (f : Signal → Answer × Rehearsal) :
    Answer × Rehearsal :=
  match Signal.resolve name with
  | .error e => (.failed (.ofName e), t)
  | .ok s => f s

def answer (t : Rehearsal) : Request → Answer × Rehearsal
  | .watch name plan =>
    match t.watchNamed name plan with
    | (.ok _, t) => (.accepted true, t)
    | (.error fault, t) => (faultAnswer fault, t)
  | .install name plan =>
    let (result, t) := t.installNamed name plan
    (replacedAnswer result, t)
  | .installed name => t.withSignal name fun s => (.installed (t.registry.installed s), t)
  | .raise name times waits =>
    t.withSignal name fun s =>
      match t.raise s times, waits with
      | (.raised, t), true => t.await isSettled fun _ => .raised
      | (answer, t), _ => (answer, t)
  | .settle => t.await isSettled fun t => .counts t.hits
  | .held => t.await isHeld fun t => .counts t.hits
  | .release => (.nothing, { t with released := true })
  | .inner => (.inner t.inner.reverse, { t with inner := [] })
  | .threads => (.counts t.threads, t)
  | .outside => (.number t.outsideHits, t)
  | .stats => t.await isSettled fun t => .stats t.registry.stats
  | .settings => (.settings t.registry.settings, t)
  | .system name =>
    t.withSignal name fun s =>
      let entry := t.registry.system.get s
      (.entry entry.handler entry.restart, t)
  | .overrule name handler =>
    t.withSignal name fun s =>
      if handler = .recorder && !t.recorderSeen then (.accepted false, t)
      else (.accepted true, { t with registry := t.registry.overrule s handler })
  | .refuseHandler number =>
    (.nothing, { t with refusals := { t.refusals with handler := some (Errno.ofNumber number) } })
  | .refuseWakePipe number =>
    (.nothing, { t with refusals := { t.refusals with wakePipe := some number } })
  | .refuseWake => (.nothing, { t with refusals := { t.refusals with wake := true } })
  | .failRead number => (.nothing, { t with readFault := some number })
  | .readFailed => t.await (fun t => t.readFault.isNone) fun _ => .nothing

/-- Answers one request; other code sees its outcome. -/
def perform (t : Rehearsal) (request : Request) : Answer × Rehearsal :=
  let (answer, t) := t.answer request
  (answer, t.see request)

def performAll (t : Rehearsal) : List Request → List Answer
  | [] => []
  | request :: rest =>
    let (answer, t) := t.perform request
    answer :: t.performAll rest

end Rehearsal

end HostServices.Watch
