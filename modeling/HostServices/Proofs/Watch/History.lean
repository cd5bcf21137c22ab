import HostServices.Proofs.Watch.Ledger

/-!
# Runs with their ledger

`Ledger.next` keeps the ledger over one step of the registry. A `Course` is a run together with its
ledger, and a `History` is a course that begins with an empty registry. `Move` lists what a step can
do to both, one constructor for each case; `Course.rule` lifts what every move keeps to courses.
-/

namespace HostServices.Watch

variable {κ : Type}

/-- The wake bytes that the dispatcher has not read yet. -/
def Registry.unread (r : Registry κ) : Nat := if r.isLive then r.pipe.held else 0

namespace Ledger

/-- Counts the wake bytes that a step from `r` to `r'` wrote. -/
def note (l : Ledger κ) (r r' : Registry κ) : Ledger κ :=
  { l with wakeBytes := l.wakeBytes + (r'.unread - r.unread) }

/-- Keeps the books over a step that leads from `r` to `r'`. -/
def next (l : Ledger κ) (r : Registry κ) (step : Step κ) (r' : Registry κ) : Ledger κ :=
  match step with
  | .install s a refused =>
    match (r.install s a refused).1 with
    | .ok _ =>
      ((l.note r r').retire s r'.isLive refused.wake).appoint s
        (a.callback?.map fun k => ⟨r.stats.installs, k⟩)
    | .error _ => l
  | .record s => (l.note r r').record s
  | .failRead interrupted => if interrupted then l else l.discardQueue
  | .receive => if r.retired.isEmpty then l else l.receive
  | .check =>
    match r.upNext? with
    | some s => l.take s
    | none => l
  | .finish panicked =>
    match r.running? with
    | some k => l.finish k panicked
    | none => l
  | .overrule .. | .read => l

end Ledger

/-- A run from `r₀` and `l₀` in which every step was allowed, and what it leads to. -/
inductive Course (allowed : Registry κ → Step κ → Prop) (r₀ : Registry κ) (l₀ : Ledger κ) :
    List (Step κ) → Registry κ → Ledger κ → Prop where
  | refl : Course allowed r₀ l₀ [] r₀ l₀
  | step {steps : List (Step κ)} {r r' : Registry κ} {l : Ledger κ} {x : Step κ} :
      Course allowed r₀ l₀ steps r l → allowed r x → r.step? x = some r' →
      Course allowed r₀ l₀ (steps ++ [x]) r' (l.next r x r')

/-- Takes the steps and keeps the books, if every step can be taken. -/
def Registry.follow? (r : Registry κ) (l : Ledger κ) :
    List (Step κ) → Option (Registry κ × Ledger κ)
  | [] => some (r, l)
  | x :: rest => (r.step? x).bind fun r' => r'.follow? (l.next r x r') rest

/-- A course of an empty registry. The system's table may be any that does not have the registry's
handler in it, and the pipe may have any size. -/
def History (allowed : Registry κ → Step κ → Prop) (steps : List (Step κ)) (r : Registry κ)
    (l : Ledger κ) : Prop :=
  ∃ (settings : Settings) (system : System) (pipe : Pipe),
    (∀ s, (system.get s).handler ≠ .recorder) ∧
      Course allowed (.empty settings system pipe) .empty steps r l

theorem System.handler_fresh (s : Signal) : (System.fresh.get s).handler ≠ .recorder := by
  cases s <;> decide

def Step.isDispatch : Step κ → Bool
  | .read | .receive | .check | .finish _ => true
  | _ => false

/-- The handler in the system runs. -/
def Step.isRecord : Step κ → Bool
  | .record _ => true
  | _ => false

/-- Only the handler in the system records. -/
theorem Ledger.recorded_next {l : Ledger κ} {r r' : Registry κ} {x : Step κ}
    (hx : x.isRecord = false) : (l.next r x r').recorded = l.recorded := by
  cases x with
  | install s a refused =>
    simp only [next]
    split <;> simp [appoint, note]
  | record s => cases hx
  | failRead interrupted => cases interrupted <;> rfl
  | receive =>
    simp only [next]
    split <;> simp
  | check =>
    simp only [next]
    split <;> rfl
  | finish panicked =>
    simp only [next]
    split <;> simp
  | overrule s h => rfl
  | read => rfl

theorem Ledger.length_recorded_next {l : Ledger κ} {r r' : Registry κ} {x : Step κ} :
    (l.next r x r').recorded.length = l.recorded.length + x.isRecord.toNat := by
  cases hx : x.isRecord with
  | false => rw [recorded_next hx]; rfl
  | true =>
    cases x with
    | record s => simp [next, record, note]
    | _ => cases hx

/-- What a step can do. An install that has to start the dispatcher first is two moves. -/
inductive Move : Step κ → Registry κ → Ledger κ → Registry κ → Ledger κ → Prop where
  /-- An install failed, or a read was cut short. -/
  | nothing {x : Step κ} {r : Registry κ} {l : Ledger κ} : x.isDispatch = false → Move x r l r l
  | start {s : Signal} {a : Action κ} {refused : Refusals} {r : Registry κ} {l : Ledger κ} :
      r.dispatcher = .absent → Move (.install s a refused) r l r.started l
  | replace {s : Signal} {a : Action κ} {refused : Refusals} {r : Registry κ} {l : Ledger κ}
      {t : Option (Tenure κ)} :
      (a.callback?.isSome → r.dispatcher ≠ .absent) →
      t = a.callback?.map (Tenure.mk r.stats.installs) →
      Move (.install s a refused) r l (r.replace s a refused.wake)
        (((l.note r (r.replace s a refused.wake)).retire s r.isLive refused.wake).appoint s t)
  | record {s : Signal} {r : Registry κ} {l : Ledger κ} :
      (r.system.get s).handler = .recorder →
      Move (.record s) r l (r.record s) ((l.note r (r.record s)).record s)
  | overrule {s : Signal} {h : Handler} {r : Registry κ} {l : Ledger κ} :
      Move (.overrule s h) r l (r.overrule s h) l
  | read {r : Registry κ} {l : Ledger κ} :
      r.dispatcher = .live ⟨.reading, none⟩ → 0 < r.pipe.held →
      Move .read r l { r with dispatcher := .live ⟨.receiving, none⟩, pipe := r.pipe.read } l
  | close {r : Registry κ} {l : Ledger κ} :
      r.dispatcher = .live ⟨.reading, none⟩ →
      Move (.failRead false) r l { r with dispatcher := .ended, retired := [] } l.discardQueue
  | turn {r : Registry κ} {l : Ledger κ} :
      r.dispatcher = .live ⟨.receiving, none⟩ → r.retired = [] →
      Move .receive r l (r.moveTo (.scan Signal.all) none) l
  | receive {r : Registry κ} {l : Ledger κ} {b : Batch κ} {rest : List (Batch κ)} :
      r.dispatcher = .live ⟨.receiving, none⟩ → r.retired = b :: rest →
      Move .receive r l
        { (r.countDeliveries b.count).moveTo .receiving (some b) with retired := rest } l.receive
  | take {s : Signal} {others : List Signal} {r : Registry κ} {l : Ledger κ} :
      r.dispatcher = .live ⟨.scanning s others, none⟩ →
      Move .check r l
        { (r.countDeliveries (r.slots.get s).pending).moveTo (.scan others) (r.owed? s) with
          slots := r.slots.set s (r.slots.get s).taken } (l.take s)
  | finish {phase : Phase} {b : Batch κ} {panicked : Bool} {r : Registry κ} {l : Ledger κ} :
      r.dispatcher = .live ⟨phase, some b⟩ →
      Move (.finish panicked) r l { r.moveTo phase b.next? with stats := r.stats.ended panicked }
        (l.finish b.callback panicked)

section

variable {r r' : Registry κ} {l : Ledger κ} {x : Step κ}

theorem Registry.unread_started (r : Registry κ) : r.started.unread = 0 := by
  simp [unread, started, isLive]

theorem Registry.unread_absent (h : r.dispatcher = .absent) : r.unread = 0 := by
  simp [unread, isLive, h]

/-- A step is one move, or it is an install that starts the dispatcher and then makes another. -/
theorem Move.of_step (hx : r.step? x = some r') :
    Move x r l r' (l.next r x r') ∨
      ∃ s a refused, x = .install s a refused ∧ r.dispatcher = .absent ∧
        Move x r.started l r' (l.next r x r') := by
  cases x with
  | install s a refused =>
    cases hx
    rcases r.install_cases s a refused with ⟨e, hi⟩ | ⟨e, hd, hi⟩ | ⟨ha, hi⟩ | ⟨hd, hi⟩
    · simp only [Ledger.next, hi]
      exact .inl (.nothing rfl)
    · simp only [Ledger.next, hi]
      exact .inl (.start hd)
    · simp only [Ledger.next, hi, Registry.isLive_replace]
      exact .inl (.replace ha rfl)
    · refine .inr ⟨s, a, refused, rfl, hd, ?_⟩
      have hn : l.note r = l.note r.started := by
        funext r'
        simp only [Ledger.note, Registry.unread_absent hd, Registry.unread_started]
      simp only [Ledger.next, hi, hn, Registry.isLive_replace]
      exact .replace (fun _ => nofun) rfl
  | record s =>
    simp only [Registry.step?] at hx
    split at hx
    · next hs => cases hx; exact .inl (.record hs)
    · cases hx
  | overrule s h => cases hx; exact .inl .overrule
  | read =>
    obtain ⟨hd, hp, rfl⟩ := Registry.read?_eq_some hx
    exact .inl (.read hd hp)
  | failRead interrupted =>
    obtain ⟨hd, rfl⟩ := Registry.failRead?_eq_some hx
    cases interrupted with
    | true => exact .inl (.nothing rfl)
    | false => exact .inl (.close hd)
  | receive =>
    obtain ⟨hd, ⟨hq, rfl⟩ | ⟨b, rest, hq, rfl⟩⟩ := Registry.receive?_eq_some hx
    · simp only [Ledger.next, hq]
      exact .inl (.turn hd hq)
    · simp only [Ledger.next, hq]
      exact .inl (.receive hd hq)
  | check =>
    obtain ⟨s, others, hd, rfl⟩ := Registry.check?_eq_some hx
    have hu : r.upNext? = some s := by rw [Registry.upNext?, hd]
    simp only [Ledger.next, hu]
    exact .inl (.take hd)
  | finish panicked =>
    obtain ⟨phase, b, hd, rfl⟩ := Registry.finish?_eq_some hx
    have hk : r.running? = some b.callback := by rw [Registry.running?, hd]
    simp only [Ledger.next, hk]
    exact .inl (.finish hd)

end

namespace Course

variable {allowed allowed' : Registry κ → Step κ → Prop} {steps more : List (Step κ)}
  {r₀ r r' : Registry κ} {l₀ l l' : Ledger κ}

theorem mono (hle : ∀ r x, allowed r x → allowed' r x) (h : Course allowed r₀ l₀ steps r l) :
    Course allowed' r₀ l₀ steps r l := by
  induction h with
  | refl => exact .refl
  | step _ ha hx ih => exact .step ih (hle _ _ ha) hx

theorem single {x : Step κ} (hx : r.step? x = some r') :
    Course (fun _ _ => True) r l [x] r' (l.next r x r') := .step .refl trivial hx

theorem trans (h : Course allowed r₀ l₀ steps r l) (h' : Course allowed r l more r' l') :
    Course allowed r₀ l₀ (steps ++ more) r' l' := by
  induction h' with
  | refl => simpa using h
  | step _ ha hx ih =>
    rw [← List.append_assoc]
    exact .step ih ha hx

/-- A condition that every step of the run meets may be added to what is allowed. -/
theorem restrict {P : Step κ → Prop} (h : Course allowed r₀ l₀ steps r l)
    (hp : ∀ x ∈ steps, P x) : Course (fun r x => allowed r x ∧ P x) r₀ l₀ steps r l := by
  induction h with
  | refl => exact .refl
  | step _ ha hx ih =>
    exact .step (ih fun y hy => hp y (List.mem_append_left _ hy)) ⟨ha, hp _ (by simp)⟩ hx

/-- The steps lead from the registry that the course begins with to the one that it ends with. -/
theorem run? (h : Course allowed r₀ l₀ steps r l) : r₀.run? steps = some r := by
  induction h with
  | refl => rfl
  | step _ _ hx ih => simp [Registry.run?_append, ih, Registry.run?, hx]

/-- Every run has a course. -/
theorem of_run? (l : Ledger κ) (hr : r₀.run? steps = some r)
    (ha : ∀ x ∈ steps, ∀ r, allowed r x) : ∃ l', Course allowed r₀ l steps r l' := by
  induction steps generalizing r₀ l with
  | nil => cases hr; exact ⟨l, .refl⟩
  | cons x steps ih =>
    simp only [Registry.run?, Option.bind_eq_some_iff] at hr
    obtain ⟨r₁, hx, hr⟩ := hr
    obtain ⟨l', hc⟩ := ih (l.next r₀ x r₁) hr fun y hy => ha y (List.mem_cons_of_mem _ hy)
    exact ⟨l', (Course.refl.step (ha x (List.mem_cons_self ..) _) hx).trans hc⟩

theorem of_follow? (hr : r₀.follow? l₀ steps = some (r, l))
    (ha : ∀ x ∈ steps, ∀ r, allowed r x) : Course allowed r₀ l₀ steps r l := by
  induction steps generalizing r₀ l₀ with
  | nil => cases hr; exact .refl
  | cons x steps ih =>
    simp only [Registry.follow?, Option.bind_eq_some_iff] at hr
    obtain ⟨r₁, hx, hr⟩ := hr
    have hc := ih hr fun y hy => ha y (List.mem_cons_of_mem _ hy)
    exact (Course.refl.step (ha x (List.mem_cons_self ..) _) hx).trans hc

/-- What every allowed move keeps holds at the end of a course if it held at its beginning. -/
theorem rule {P : Registry κ → Ledger κ → Prop}
    (install : ∀ {r s a refused}, allowed r (.install s a refused) →
      allowed r.started (.install s a refused))
    (move : ∀ {x r l r' l'}, allowed r x → P r l → Move x r l r' l' → P r' l')
    (h : Course allowed r₀ l₀ steps r l) (start : P r₀ l₀) : P r l := by
  induction h with
  | refl => exact start
  | @step steps r r' l x _ ha hx ih =>
    rcases Move.of_step (l := l) hx with hm | ⟨s, a, refused, rfl, hd, hm⟩
    · exact move ha ih hm
    · exact move (install ha) (move ha ih (.start hd)) hm

end Course

namespace History

variable {allowed allowed' : Registry κ → Step κ → Prop} {steps more : List (Step κ)}
  {r r' : Registry κ} {l l' : Ledger κ}

theorem mono (hle : ∀ r x, allowed r x → allowed' r x) (h : History allowed steps r l) :
    History allowed' steps r l := by
  obtain ⟨settings, system, pipe, hs, hc⟩ := h
  exact ⟨settings, system, pipe, hs, hc.mono hle⟩

theorem restrict {P : Step κ → Prop} (h : History allowed steps r l) (hp : ∀ x ∈ steps, P x) :
    History (fun r x => allowed r x ∧ P x) steps r l := by
  obtain ⟨settings, system, pipe, hs, hc⟩ := h
  exact ⟨settings, system, pipe, hs, hc.restrict hp⟩

theorem of_run? {settings : Settings} {system : System} {pipe : Pipe}
    (hs : ∀ s, (system.get s).handler ≠ .recorder) (ha : ∀ x ∈ steps, ∀ r, allowed r x)
    (hr : (Registry.empty settings system pipe).run? steps = some r) :
    ∃ l, History allowed steps r l := by
  obtain ⟨l, hc⟩ := Course.of_run? .empty hr ha
  exact ⟨l, settings, system, pipe, hs, hc⟩

theorem of_follow? {settings : Settings} {system : System} {pipe : Pipe}
    (hs : ∀ s, (system.get s).handler ≠ .recorder) (ha : ∀ x ∈ steps, ∀ r, allowed r x)
    (hr : (Registry.empty settings system pipe).follow? .empty steps = some (r, l)) :
    History allowed steps r l := ⟨settings, system, pipe, hs, .of_follow? hr ha⟩

theorem length_recorded (h : History allowed steps r l) :
    l.recorded.length = steps.countP Step.isRecord := by
  obtain ⟨settings, system, pipe, -, hc⟩ := h
  induction hc with
  | refl => rfl
  | @step steps r r' l x _ _ _ ih =>
    rw [Ledger.length_recorded_next, ih, List.countP_append, List.countP_singleton]
    cases x.isRecord <;> rfl

end History

end HostServices.Watch
