import HostServices.Catch.Eval

/-!
# A machine with a handler stack

The reference for evaluation: a machine that keeps what is left to do as a stack of frames. A frame
in the stack is active; an unwind goes to the innermost frame that stops it, in one step, and
forgets those in between. Evaluation by results, in which every form hands on what comes out of its
parts, comes to what the machine halts with (`Expr.run_eq_iff_halts`).
-/

namespace HostServices.Catch

/-- What is left to do with the value of an expression. -/
inductive Frame
  | log
  | andThen (b : Expr) (env : Env)
  | addLeft (b : Expr) (env : Env)
  | addRight (x : Value)
  | catching (t : Tag)
  | throwing (t : Tag)
  | rescue
  | ensure (cleanup : Expr) (env : Env)
  /-- The cleanup runs; this is what it runs before. -/
  | resume (r : Outcome)
  | rewrap (e : Expr) (env : Env)
  | direct (t : Tag)

/-- The machine, with the innermost frame in front. -/
inductive Machine
  | run (e : Expr) (env : Env) (st : Store) (frames : List Frame)
  | give (v : Value) (st : Store) (frames : List Frame)
  | unwind (u : Unwind) (st : Store) (frames : List Frame)
  | halted (r : Outcome) (st : Store)

/-- What becomes of an unwind at a frame that stops it. -/
def Frame.stop? (u : Unwind) (st : Store) (rest : List Frame) : Frame → Option Machine
  | .catching t =>
    match u with
    | .thrown e => if t.origin = e.tag.origin then some (.give e.payload st rest) else none
    | .raised _ => none
  | .rescue =>
    match u with
    | .thrown _ => none
    | .raised f => some (.give (.text f.message) st rest)
  | .ensure cleanup env => some (.run cleanup env st (.resume (.error u) :: rest))
  | .rewrap e env =>
    match u with
    | .thrown x => some (.run e env (st.record x.payload) (.throwing x.tag :: rest))
    | .raised _ => none
  | .log | .andThen .. | .addLeft .. | .addRight _ | .throwing _ | .resume _ | .direct _ => none

namespace Machine

def deliver (frames : List Frame) : Outcome × Store → Machine
  | (.ok v, st) => .give v st frames
  | (.error u, st) => .unwind u st frames

/-- Takes an unwind to the innermost frame that stops it, or to the top. -/
def search (u : Unwind) (st : Store) : List Frame → Machine
  | [] => .halted (.error u) st
  | f :: rest => (f.stop? u st rest).getD (search u st rest)

/-- Takes a value to the innermost frame. -/
def apply (v : Value) (st : Store) (rest : List Frame) : Frame → Machine
  | .log => .give v (st.record v) rest
  | .andThen b env => .run b env st rest
  | .addLeft b env => .run b env st (.addRight v :: rest)
  | .addRight x => deliver rest (Outcome.sum x v, st)
  | .catching _ | .rescue | .rewrap .. => .give v st rest
  | .throwing t => .unwind (.thrown ⟨t, v⟩) st rest
  | .ensure cleanup env => .run cleanup env st (.resume (.ok v) :: rest)
  | .resume r => deliver rest (r, st)
  | .direct t => .give (.text (Escape.display ⟨t, v⟩)) st rest

def begin (env : Env) (st : Store) (frames : List Frame) : Expr → Machine
  | .value v => .give v st frames
  | .log e => .run e env st (.log :: frames)
  | .andThen a b => .run a env st (.andThen b env :: frames)
  | .add a b => .run a env st (.addLeft b env :: frames)
  | .same t u =>
    match env.tag t, env.tag u with
    | .ok a, .ok b => .give (.bool (a.origin == b.origin)) st frames
    | .error x, _ | .ok _, .error x => .unwind x st frames
  | .bindTag name source body =>
    match source.tag env st with
    | (.ok t, st) => .run body (Bindings.bind env name t) st frames
    | (.error x, st) => .unwind x st frames
  | .object name content body => .run body env (st.share name content) frames
  | .catching name body =>
    match env.tag name with
    | .ok t => .run body (Bindings.bind env "it" t) st (.catching t :: frames)
    | .error x => .unwind x st frames
  | .catchFresh name body =>
    let (t, st) := st.mint none
    .run body (Bindings.bind env name t) st (.catching t :: frames)
  | .nest 0 body => .run body env st frames
  | .nest (depth + 1) body =>
    let (t, st) := st.mint none
    .run (.nest depth body) env st (.catching t :: frames)
  | .throwing name e =>
    match env.tag name with
    | .ok t => .run e env st (.throwing t :: frames)
    | .error x => .unwind x st frames
  | .raise f => .unwind (.raised f) st frames
  | .rescue body => .run body env st (.rescue :: frames)
  | .ensure body cleanup => .run body env st (.ensure cleanup env :: frames)
  | .rewrap body e => .run body env st (.rewrap e env :: frames)
  | .direct name e =>
    match env.tag name with
    | .ok t => .run e env st (.direct t :: frames)
    | .error x => .unwind x st frames

/-- One step; a machine that has halted stays as it is. -/
def step : Machine → Machine
  | .run e env st frames => begin env st frames e
  | .give v st [] => .halted (.ok v) st
  | .give v st (f :: rest) => apply v st rest f
  | .unwind u st frames => search u st frames
  | .halted r st => .halted r st

/-- The machine halts with an outcome. -/
inductive Halts : Machine → Outcome × Store → Prop
  | halted (r : Outcome) (st : Store) : Halts (.halted r st) (r, st)
  | step {m : Machine} {out : Outcome × Store} : Halts m.step out → Halts m out

end Machine

/-! ### Where an unwind goes -/

/-- The frame does not stop the unwind. -/
def Frame.Passes (f : Frame) (u : Unwind) : Prop := ∀ st rest, f.stop? u st rest = none

namespace Machine

variable {u : Unwind} {st : Store} {before rest : List Frame}

theorem search_append (h : ∀ f ∈ before, f.Passes u) :
    search u st (before ++ rest) = search u st rest := by
  induction before with
  | nil => rfl
  | cons f before ih =>
    rw [List.cons_append, search, h f List.mem_cons_self, Option.getD_none]
    exact ih fun f hf => h f (List.mem_cons_of_mem _ hf)

/-- A throw goes to the innermost catch of its origin and comes out as its payload. -/
theorem step_thrown {e : Escape} {t : Tag} (h : ∀ f ∈ before, f.Passes (.thrown e))
    (ht : t.origin = e.tag.origin) :
    step (.unwind (.thrown e) st (before ++ .catching t :: rest)) = .give e.payload st rest := by
  rw [step, search_append h, search, Frame.stop?, if_pos ht, Option.getD_some]

/-- What nothing stops reaches the top as it is. -/
theorem step_uncaught (h : ∀ f ∈ before, f.Passes u) :
    step (.unwind u st before) = .halted (.error u) st := by
  rw [step, ← List.append_nil before, search_append h, search]

/-- A raised failure passes every catch. -/
theorem passes_raised (t : Tag) (f : Failure) : (Frame.catching t).Passes (.raised f) :=
  fun _ _ => rfl

/-! ### The machine does what evaluation says -/

namespace Halts

variable {out : Outcome × Store} {K : List Frame}

theorem unique {m : Machine} {out out' : Outcome × Store} (h : Halts m out) (h' : Halts m out') :
    out = out' := by
  induction h with
  | halted r st =>
    generalize hm : Machine.halted r st = m at h'
    induction h' with
    | halted => cases hm; rfl
    | step _ ih => exact ih (by rw [← hm]; rfl)
  | @step m out h ih =>
    cases h' with
    | halted r st => exact ih (.halted r st)
    | step h' => exact ih h'

/-- A frame that an unwind passes might as well not be there. -/
theorem pass {f : Frame} (hf : f.Passes u) (h : Halts (.unwind u st K) out) :
    Halts (.unwind u st (f :: K)) out := by
  cases h with
  | step h =>
    refine .step ?_
    rwa [Machine.step, search, hf, Option.getD_none]

/-- A frame that stops an unwind goes on with it. -/
theorem stop {f : Frame} {m : Machine} (hf : f.stop? u st K = some m) (h : Halts m out) :
    Halts (.unwind u st (f :: K)) out := by
  refine .step ?_
  rwa [Machine.step, search, hf, Option.getD_some]

/-- A catch frame does to an outcome what catching does. -/
theorem caughtBy {t : Tag} {r : Outcome} (h : Halts (deliver K (r.caughtBy t, st)) out) :
    Halts (deliver (.catching t :: K) (r, st)) out := by
  cases r with
  | ok v => exact .step h
  | error u =>
    cases u with
    | raised f => exact pass (passes_raised t f) h
    | thrown e =>
      unfold Outcome.caughtBy at h
      simp only at h
      split at h
      · next hc => exact stop (if_pos (Tag.is_iff.1 hc).symm) h
      · next hc =>
        refine pass (fun st rest => if_neg fun ht => hc ?_) h
        exact Tag.is_iff.2 ht.symm

theorem rescued {r : Outcome} (h : Halts (deliver K (r.rescued, st)) out) :
    Halts (deliver (.rescue :: K) (r, st)) out := by
  cases r with
  | ok v => exact .step h
  | error u =>
    cases u with
    | raised f => exact stop rfl h
    | thrown e => exact pass (fun _ _ => rfl) h

/-- A frame that stops no unwind has its turn with a value only. -/
theorem strict {f : Frame} (hf : ∀ u, f.Passes u) {o : Outcome × Store}
    (hv : ∀ v st, o = (.ok v, st) → Halts (apply v st K f) out)
    (hu : ∀ u st, o = (.error u, st) → Halts (.unwind u st K) out) :
    Halts (deliver (f :: K) o) out := by
  rcases o with ⟨u | v, st⟩
  · exact pass (hf u) (hu u st rfl)
  · exact .step (hv v st rfl)

/-- Catches for new tags that the body does not know. -/
theorem nest {body : Expr} {env : Env} (depth : Nat)
    (ih : ∀ {st K}, Halts (deliver K (eval env st body)) out → Halts (.run body env st K) out)
    (h : Halts (deliver K (insideFresh (fun st => eval env st body) depth st)) out) :
    Halts (.run (.nest depth body) env st K) out := by
  induction depth generalizing st K with
  | zero => exact .step (ih h)
  | succ depth ihd => exact .step (ihd (caughtBy h))

/-- A cleanup has its turn after a value and after an unwind, and then what it ran before goes on. -/
theorem ensure {cleanup : Expr} {env : Env} {o : Outcome × Store}
    (ih : ∀ {st K}, Halts (deliver K (eval env st cleanup)) out →
      Halts (.run cleanup env st K) out)
    (h : Halts (deliver K (match eval env o.2 cleanup with
      | (.ok _, st) => (o.1, st)
      | (.error u, st) => (.error u, st))) out) :
    Halts (deliver (.ensure cleanup env :: K) o) out := by
  have hc : Halts (.run cleanup env o.2 (.resume o.1 :: K)) out := by
    refine ih (strict (fun _ _ _ => rfl) (fun v st ho => ?_) fun u st ho => ?_)
    · rw [ho] at h
      exact h
    · rw [ho] at h
      exact h
  rcases o with ⟨u | v, st⟩
  · exact stop rfl hc
  · exact .step hc

/-- What a rewrapping frame does with the outcome of its body. -/
theorem rewrap {e : Expr} {env : Env} {o : Outcome × Store}
    (ih : ∀ {st K}, Halts (deliver K (eval env st e)) out → Halts (.run e env st K) out)
    (h : Halts (deliver K (match o with
      | (.error (.thrown escape), st) =>
        match eval env (st.record escape.payload) e with
        | (.ok v, st) => (.error (.thrown { escape with payload := v }), st)
        | r => r
      | r => r)) out) :
    Halts (deliver (.rewrap e env :: K) o) out := by
  rcases o with ⟨(escape | f) | v, st⟩
  · refine stop rfl (ih (strict (fun _ _ _ => rfl) (fun v st' ho => ?_) fun u st' ho => ?_))
    · simp only [ho] at h
      exact h
    · simp only [ho] at h
      exact h
  · exact pass (fun _ _ => rfl) h
  · exact .step h

/-- An expression that is begun comes to what it evaluates to, whatever is left to do after it. -/
theorem run (e : Expr) {env : Env} (h : Halts (deliver K (eval env st e)) out) :
    Halts (.run e env st K) out := by
  induction e generalizing env st K with
  | value v => exact .step h
  | log e ih =>
    refine .step (ih (strict (fun _ _ _ => rfl) (fun v st' ho => ?_) fun u st' ho => ?_))
    · rw [eval, ho] at h
      exact h
    · rw [eval, ho] at h
      exact h
  | andThen a b iha ihb =>
    refine .step (iha (strict (fun _ _ _ => rfl) (fun v st' ho => ?_) fun u st' ho => ?_))
    · rw [eval, ho] at h
      exact ihb h
    · rw [eval, ho] at h
      exact h
  | add a b iha ihb =>
    refine .step (iha (strict (fun _ _ _ => rfl) (fun x st' ho => ?_) fun u st' ho => ?_))
    · rw [eval, ho] at h
      refine ihb (strict (fun _ _ _ => rfl) (fun y st'' ho' => ?_) fun u st'' ho' => ?_)
      · simp only [ho'] at h
        exact h
      · simp only [ho'] at h
        exact h
    · rw [eval, ho] at h
      exact h
  | same t u =>
    refine .step ?_
    rw [eval] at h
    rw [Machine.step, begin]
    cases ht : env.tag t with
    | error x => rw [ht] at h; exact h
    | ok a =>
      cases hu : env.tag u with
      | error x => rw [ht, hu] at h; exact h
      | ok b => rw [ht, hu] at h; exact h
  | bindTag name source body ih =>
    refine .step ?_
    rw [eval] at h
    rw [Machine.step, begin]
    rcases ht : source.tag env st with ⟨x | t, st'⟩
    · rw [ht] at h
      exact h
    · rw [ht] at h
      exact ih h
  | object name content body ih => exact .step (ih h)
  | catching name body ih =>
    refine .step ?_
    rw [eval] at h
    rw [Machine.step, begin]
    cases ht : env.tag name with
    | error x => rw [ht] at h; exact h
    | ok t =>
      rw [ht] at h
      exact ih (caughtBy h)
  | catchFresh name body ih => exact .step (ih (caughtBy h))
  | nest depth body ih => exact nest depth ih h
  | throwing name e ih =>
    refine .step ?_
    rw [eval] at h
    rw [Machine.step, begin]
    cases ht : env.tag name with
    | error x => rw [ht] at h; exact h
    | ok t =>
      rw [ht] at h
      refine ih (strict (fun _ _ _ => rfl) (fun v st' ho => ?_) fun u st' ho => ?_)
      · simp only [ho] at h
        exact h
      · simp only [ho] at h
        exact h
  | raise f => exact .step h
  | rescue body ih => exact .step (ih (rescued h))
  | ensure body cleanup ihb ihc =>
    refine .step (ihb (ensure ihc ?_))
    rw [eval] at h
    exact h
  | rewrap body e ihb ihe =>
    refine .step (ihb (rewrap ihe ?_))
    rw [eval] at h
    exact h
  | direct name e ih =>
    refine .step ?_
    rw [eval] at h
    rw [Machine.step, begin]
    cases ht : env.tag name with
    | error x => rw [ht] at h; exact h
    | ok t =>
      rw [ht] at h
      refine ih (strict (fun _ _ _ => rfl) (fun v st' ho => ?_) fun u st' ho => ?_)
      · simp only [ho] at h
        exact h
      · simp only [ho] at h
        exact h

end Halts

end Machine

/-- Evaluation comes to an outcome and a log exactly when the machine halts with them. -/
theorem Expr.run_eq_iff_halts (e : Expr) (r : Outcome) (log : List Value) :
    e.run = (r, log) ↔ ∃ st, Machine.Halts (.run e [] .empty []) (r, st) ∧ st.log.reverse = log := by
  have hh : Machine.Halts (.run e [] .empty []) (eval [] .empty e) := by
    refine Machine.Halts.run e (.step ?_)
    rcases eval [] .empty e with ⟨u | v, st⟩
    · exact .halted _ _
    · exact .halted _ _
  constructor
  · intro he
    rw [Expr.run] at he
    cases he
    exact ⟨_, hh, rfl⟩
  · rintro ⟨st, hm, rfl⟩
    rw [Expr.run, hh.unique hm]

end HostServices.Catch
