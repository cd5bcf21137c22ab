import HostServices.Watch.Registry

/-!
# Steps of the watch registry

Installs, arriving signals, interference from other code and the dispatcher's own moves are the
steps of one machine; a run is any sequence of them in which each step is possible when its turn
comes.  Callbacks are no steps by themselves: what one does while it runs are further steps, and
`finish` is the moment when it returns or panics.
-/

namespace HostServices.Watch

/-- One indivisible step. -/
inductive Step (κ : Type)
  | install (s : Signal) (a : Action κ) (refused : Refusals)
  /-- The handler in the system runs. -/
  | record (s : Signal)
  /-- Other code changes the system's handler. -/
  | overrule (s : Signal) (h : Handler)
  | read
  | failRead (interrupted : Bool)
  | receive
  | check
  | finish (panicked : Bool)

namespace Registry

variable {κ : Type}

/-- The registry after a step, if the step is possible.  A delivery is recorded only while the
system's handler is the registry's own. -/
def step? (r : Registry κ) : Step κ → Option (Registry κ)
  | .install s a refused => some (r.install s a refused).2
  | .record s => if (r.system.get s).handler = .recorder then some (r.record s) else none
  | .overrule s h => some (r.overrule s h)
  | .read => r.read?
  | .failRead interrupted => r.failRead? interrupted
  | .receive => r.receive?
  | .check => r.check?
  | .finish panicked => r.finish? panicked

/-- The registry after a run, if every step of it is possible. -/
def run? (r : Registry κ) : List (Step κ) → Option (Registry κ)
  | [] => some r
  | step :: rest => (r.step? step).bind fun r => r.run? rest

theorem run?_append (r : Registry κ) (xs ys : List (Step κ)) :
    r.run? (xs ++ ys) = (r.run? xs).bind fun r => r.run? ys := by
  induction xs generalizing r with
  | nil => rfl
  | cons x xs ih =>
    simp only [List.cons_append, run?]
    cases r.step? x with
    | none => rfl
    | some r' => simpa using ih r'

/-- The move that the dispatcher makes next by itself, if it does not wait for anything. -/
def move? (r : Registry κ) : Option (Step κ) :=
  match r.dispatcher with
  | .live ⟨.reading, none⟩ => if r.pipe.held = 0 then none else some .read
  | .live ⟨.receiving, none⟩ => some .receive
  | .live ⟨.scanning .., none⟩ => some .check
  | _ => none

end Registry

end HostServices.Watch
