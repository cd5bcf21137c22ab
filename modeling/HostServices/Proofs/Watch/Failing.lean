import HostServices.Proofs.Watch.Standing
import HostServices.Proofs.Watch.Wake

/-!
# Calls that fail

A call that fails leaves the registry as it was, or with a dispatcher that has begun and has nothing
to do (`Early`). Nobody can tell: every run without the failed call is one after it, with the same
answers and the same ledger.
-/

namespace HostServices.Watch

variable {κ : Type}

namespace Registry

variable {r r' q : Registry κ} {l : Ledger κ} {s u : Signal} {a : Action κ} {x : Step κ}

/-- A call that installs an action, by signal or by name, fails. -/
inductive Fails (r : Registry κ) : Fault → Registry κ → Prop
  | install {s : Signal} {a : Action κ} {refused : Refusals} {e : InstallError} {r' : Registry κ} :
      r.install s a refused = (.error e, r') → r.Fails e.toFault r'
  | watch {name : String} {a : Action κ} {refused : Refusals} {f : Fault} {r' : Registry κ} :
      r.watch name a refused = (.error f, r') → r.Fails f r'

/-- The step starts the dispatcher if that has to be started. -/
def Starts (r : Registry κ) : Step κ → Prop
  | .install _ a refused =>
    a.callback?.isSome → r.dispatcher = .absent → refused.wakePipe = none
  | _ => True

def answer? (r : Registry κ) : Step κ → Option (Except InstallError Disposition)
  | .install s a refused => some (r.install s a refused).1
  | _ => none

/-- What the steps of a run answer. -/
def answers (r : Registry κ) : List (Step κ) → List (Except InstallError Disposition) :=
  r.collect answer?

/-- The registries are alike in all but the dispatcher's place in its loop and its pipe. -/
structure Alike (r r' : Registry κ) : Prop where
  settings : r'.settings = r.settings
  slots : r'.slots = r.slots
  system : r'.system = r.system
  retired : r'.retired = r.retired
  inHand : r'.inHand? = r.inHand?
  stats : r'.stats = r.stats

/-- The registry, or the same with a dispatcher that has begun before it was needed. -/
inductive Early (r : Registry κ) : Registry κ → Prop
  | same : r.Early r
  | begun : r.dispatcher = .absent → r.settings.canNameThread = true → r.Early r.started

theorem Early.alike (h : r.Early r') : r.Alike r' := by
  cases h with
  | same => exact ⟨rfl, rfl, rfl, rfl, rfl, rfl⟩
  | begun hd => exact ⟨rfl, rfl, rfl, rfl, by rw [inHand?, inHand?, hd]; rfl, rfl⟩

/-! ### How calls fail -/

theorem prepare_early {refused : Option Int} (h : r.prepare a refused = .ok r') : r.Early r' := by
  cases a with
  | custom k =>
    rcases start_eq_ok h with ⟨-, rfl⟩ | ⟨hd, rfl⟩
    · exact .same
    · exact .begun hd (((r.start_isOk_iff ⟨refused, none, false⟩).1 ⟨_, h⟩) hd).2
  | default => cases h; exact .same
  | ignore => cases h; exact .same

/-- An install that fails has started the dispatcher only if it came to the system. -/
theorem install_early {refused : Refusals} {e : InstallError}
    (h : r.install s a refused = (.error e, r')) :
    r.Early r' ∧ ((∃ errno, e = .system errno) ∨ r' = r) := by
  unfold install at h
  split at h
  · cases h; exact ⟨.same, .inr rfl⟩
  split at h
  · cases h; exact ⟨.same, .inr rfl⟩
  split at h
  · cases h; exact ⟨.same, .inr rfl⟩
  · next r₁ hp =>
    split at h
    · cases h; exact ⟨prepare_early hp, .inl ⟨_, rfl⟩⟩
    · cases h

theorem start_eq_wakePipe {refused : Option Int} {n : Int}
    (h : r.start refused = .error (.wakePipe n)) : r.dispatcher = .absent := by
  unfold start at h
  split at h
  · next hd => exact hd
  · next hd => exact hd
  · cases h

/-- The wake pipe is made only for a dispatcher that is not there. -/
theorem install_eq_wakePipe {refused : Refusals} {n : Int}
    (h : r.install s a refused = (.error (.wakePipe n), r')) : r.dispatcher = .absent := by
  unfold install at h
  split at h
  · cases h
  split at h
  · cases h
  split at h
  · next e hp =>
    cases h
    cases a with
    | custom k => exact start_eq_wakePipe hp
    | default => cases hp
    | ignore => cases hp
  · next r₁ hp => split at h <;> cases h

namespace Fails

variable {f : Fault}

theorem exists_install (h : r.Fails f r') :
    r' = r ∧ (∃ e : Signal.NameError, f = .failure (.ofName e)) ∨
      ∃ s a refused e, f = InstallError.toFault e ∧ r.install s a refused = (.error e, r') := by
  cases h with
  | @install s a refused e _ h => exact .inr ⟨s, a, refused, e, rfl, h⟩
  | @watch name a refused _ _ h =>
    rcases r.watch_cases name a refused with ⟨e, -, hw⟩ | ⟨s, -, hr, hw⟩
    · rw [h] at hw
      cases hw
      exact .inl ⟨rfl, e, rfl⟩
    · rw [h] at hr hw
      rcases hw with ⟨d, -, hd⟩ | ⟨e, he, hd⟩
      · cases hd
      · cases hd
        exact .inr ⟨s, a, refused, e, rfl, Prod.ext he hr.symm⟩

theorem early (h : r.Fails f r') : r.Early r' := by
  rcases h.exists_install with ⟨rfl, -⟩ | ⟨s, a, refused, e, -, hi⟩
  · exact .same
  · exact (install_early hi).1

/-- Only the system's refusal of the handler comes after the dispatcher's start. -/
theorem eq_or_system (h : r.Fails f r') :
    (∃ errno, f = .failure (.ofErrno "sigaction" errno)) ∨ r' = r := by
  rcases h.exists_install with ⟨rfl, -⟩ | ⟨s, a, refused, e, rfl, hi⟩
  · exact .inr rfl
  · refine (install_early hi).2.imp_left ?_
    rintro ⟨errno, rfl⟩
    exact ⟨errno, rfl⟩

theorem eq_of_not_system (h : r.Fails f r')
    (hn : ∀ errno, f ≠ .failure (.ofErrno "sigaction" errno)) : r' = r :=
  h.eq_or_system.resolve_left fun ⟨errno, hf⟩ => hn errno hf

theorem absent_of_wakePipe {n : Int} (h : r.Fails (.failure (.ofSystem n)) r') :
    r.dispatcher = .absent := by
  rcases h.exists_install with ⟨-, e, he⟩ | ⟨s, a, refused, e, he, hi⟩
  · cases he
  · cases e with
    | wakePipe m => exact install_eq_wakePipe hi
    | system errno => simp [InstallError.toFault, Failure.ofSystem, Failure.ofErrno] at he
    | uncatchable s => cases he
    | reserved s => cases he
    | threadName => cases he

end Fails

/-! ### The same run after a failed call -/

theorem started_replace {w : Bool} (h : (r.slots.get s).callback? = none) :
    r.started.replace s a w = (r.replace s a w).started := by
  have hs : (r.started.slots.get s).callback? = none := h
  simp only [replace, retire, h, hs]
  rfl

/-- A callback starts the dispatcher unless that is refused. -/
theorem prepare_absent {k : κ} (hd : r.dispatcher = .absent)
    (hn : r.settings.canNameThread = true) :
    r.prepare (.custom k) none = .ok r.started := by
  simp only [prepare, start, hd, hn, if_true]
  rfl

theorem isLive_install {k : κ} {refused : Refusals} (hd : r.dispatcher = .absent)
    (hn : r.settings.canNameThread = true) (hw : refused.wakePipe = none)
    (hs : s.isUncatchable = false ∧ s.isReserved = false) :
    (r.install s (.custom k) refused).2.isLive = true := by
  simp only [install, hs.1, hs.2, hw, prepare_absent hd hn, Bool.false_eq_true, if_false]
  cases refused.handler with
  | some errno => rfl
  | none => exact isLive_replace

theorem install_started {refused : Refusals} (hd : r.dispatcher = .absent)
    (hn : r.settings.canNameThread = true) (hk : ∀ u, (r.slots.get u).callback? = none)
    (hst : r.Starts (.install s a refused)) :
    (r.started.install s a refused).1 = (r.install s a refused).1 ∧
      (r.install s a refused).2.Early (r.started.install s a refused).2 := by
  have hbegun : r.Early r.started := .begun hd hn
  unfold install
  split
  · exact ⟨rfl, hbegun⟩
  split
  · exact ⟨rfl, hbegun⟩
  cases a with
  | custom k =>
    -- the callback starts the dispatcher here, and there it has begun already
    have hp : r.started.prepare (.custom k) none = .ok r.started := rfl
    rw [hst rfl hd, prepare_absent hd hn, hp]
    cases refused.handler with
    | some errno => exact ⟨rfl, .same⟩
    | none => exact ⟨rfl, .same⟩
  | _ =>
    simp only [prepare]
    cases refused.handler with
    | some errno => exact ⟨rfl, hbegun⟩
    | none =>
      refine ⟨rfl, ?_⟩
      simp only [started_replace (hk s)]
      refine .begun (by rw [replace_dispatcher, hd]) ?_
      rw [(Shows.replace (s := s)).settings, hn]

theorem unread_early (h : r.Early r') : r'.unread = r.unread := by
  cases h with
  | same => rfl
  | begun hd => rw [unread_started, unread_absent hd]

theorem Early.starts (h : r.Early r') (hs : r.HasShown x ∧ r.Starts x) :
    r'.HasShown x ∧ r'.Starts x := by
  cases h with
  | same => exact hs
  | begun =>
    refine ⟨?_, ?_⟩
    · cases x with
      | overrule u h => exact fun _ => nofun
      | _ => trivial
    · cases x with
      | install u a refused => exact fun _ => nofun
      | _ => trivial

/-- The step is possible after the failed call too. It answers the same, and the ledger does not
differ. -/
theorem Early.step (h : r.Early r') (ha : l.Agrees r) (hal : Alert r l) (hat : Attended r l)
    (hs : r.HasShown x ∧ r.Starts x) (hx : r.step? x = some q) :
    ∃ q', r'.step? x = some q' ∧ q.Early q' ∧ r'.answer? x = r.answer? x ∧
      l.next r' x q' = l.next r x q := by
  cases h with
  | same => exact ⟨q, hx, .same, rfl, rfl⟩
  | begun hd hn =>
    cases x with
    | install u a refused =>
      cases hx
      obtain ⟨hanswer, hearly⟩ := install_started hd hn (hat.callback hd) hs.2
      refine ⟨_, rfl, hearly, by simp only [answer?, hanswer], ?_⟩
      have hnote : l.note r.started (r.started.install u a refused).2 =
          l.note r (r.install u a refused).2 := by
        simp only [Ledger.note, unread_early hearly, unread_started, unread_absent hd]
      have hnone (live : Bool) : (l.note r (r.install u a refused).2).retire u live refused.wake =
          l.note r (r.install u a refused).2 := by
        have hp : (l.note r (r.install u a refused).2).parcel? u = none :=
          ha.parcel?_of_free (hat.callback hd u)
        simp only [Ledger.retire, hp]
      simp only [Ledger.next, hanswer, hnote, hnone]
      rfl
    | record u =>
      simp only [step?] at hx
      split at hx
      · next hu => exact ((hal.absent hd u).1 hu).elim
      · cases hx
    | overrule u h => cases hx; exact ⟨_, rfl, .begun hd hn, rfl, rfl⟩
    | read => have := (read?_eq_some hx).1; rw [hd] at this; cases this
    | failRead interrupted => have := (failRead?_eq_some hx).1; rw [hd] at this; cases this
    | receive => have := (receive?_eq_some hx).1; rw [hd] at this; cases this
    | check => obtain ⟨_, _, hc, -⟩ := check?_eq_some hx; rw [hd] at hc; cases hc
    | finish panicked => obtain ⟨_, _, hc, -⟩ := finish?_eq_some hx; rw [hd] at hc; cases hc

/-- After the failed call no other step is possible, but for reads that fail. -/
theorem Early.isSome_step (h : r.Early r') (hx : (r'.step? x).isSome) :
    (r.step? x).isSome ∨ r.dispatcher = .absent ∧ ∃ interrupted, x = .failRead interrupted := by
  cases h with
  | same => exact .inl hx
  | begun hd =>
    cases x with
    | install u a refused => exact .inl rfl
    | record u =>
      have hu : (r.system.get u).handler = .recorder := by
        by_contra hu
        simp [step?, started, hu] at hx
      exact .inl (by simp [step?, hu])
    | overrule u h => exact .inl rfl
    | failRead interrupted => exact .inr ⟨hd, interrupted, rfl⟩
    | read => cases hx
    | receive => cases hx
    | check => cases hx
    | finish panicked => cases hx

theorem collect_append {β : Type} (tell : Registry κ → Step κ → Option β) {xs ys : List (Step κ)}
    (hr : r.run? xs = some r') :
    r.collect tell (xs ++ ys) = r.collect tell xs ++ r'.collect tell ys := by
  induction xs generalizing r with
  | nil => cases hr; rfl
  | cons x xs ih =>
    simp only [run?, Option.bind_eq_some_iff] at hr
    obtain ⟨r₁, hx, hr⟩ := hr
    simp only [List.cons_append, collect, hx, Option.elim, ih hr, List.append_assoc]

end Registry

namespace History

variable {allowed : Registry κ → Step κ → Prop} {steps more : List (Step κ)} {r r' q : Registry κ}
  {l lq : Ledger κ}

theorem append (h : History allowed steps r l) (hc : Course allowed r l more q lq) :
    History allowed (steps ++ more) q lq := by
  obtain ⟨settings, system, pipe, hs, h⟩ := h
  exact ⟨settings, system, pipe, hs, h.trans hc⟩

theorem course_early (h : History Registry.HasShown steps r l) (he : r.Early r')
    (hc : Course (fun r x => r.HasShown x ∧ r.Starts x) r l more q lq) :
    ∃ q', Course (fun r x => r.HasShown x ∧ r.Starts x) r' l more q' lq ∧ q.Early q' ∧
      r'.answers more = r.answers more := by
  induction hc with
  | refl => exact ⟨r', .refl, he, rfl⟩
  | @step more q₁ q l₁ x hc hs hx ih =>
    obtain ⟨q₁', hc', he₁, hans⟩ := ih
    have h₁ : History Registry.HasShown (steps ++ more) q₁ l₁ :=
      h.append (hc.mono fun _ _ hs => hs.1)
    obtain ⟨q', hx', he', hanswer, hl⟩ :=
      he₁.step h₁.agrees (h₁.alert fun _ _ hs => hs) h₁.attended hs hx
    refine ⟨q', hl ▸ hc'.step (he₁.starts hs) hx', he', ?_⟩
    rw [Registry.answers, Registry.answers, Registry.collect_append _ hc'.run?,
      Registry.collect_append _ hc.run?, ← Registry.answers, ← Registry.answers, hans]
    simp only [Registry.answers, Registry.collect, hanswer, hx, hx', Option.elim, List.append_nil]

/-- A call that fails changes nothing. Signals, counters, batches and statistics are as before, and
the dispatcher has begun at most, if the system refused the handler of its first callback. Every
later run in which the dispatcher's start is not refused gives the answers and the ledger that it
gives without the failed call, and nothing else can happen but that the dispatcher's read fails
before the dispatcher is needed. A start that was refused is tried again. -/
theorem failure_unnoticed {f : Fault} (h : History Registry.HasShown steps r l)
    (hf : r.Fails f r') :
    r.Alike r' ∧ r.Early r' ∧
      ((∀ errno, f ≠ .failure (.ofErrno "sigaction" errno)) → r' = r) ∧
      (∀ s, r'.installed s = r.installed s ∧ r'.current s = r.current s ∧ r'.owed? s = r.owed? s) ∧
      (∀ more q lq, Course (fun r x => r.HasShown x ∧ r.Starts x) r l more q lq →
        ∃ q', Course (fun r x => r.HasShown x ∧ r.Starts x) r' l more q' lq ∧ q.Alike q' ∧
          r'.answers more = r.answers more ∧
          ∀ x, (q'.step? x).isSome →
            (q.step? x).isSome ∨
              q.dispatcher = .absent ∧ ∃ interrupted, x = .failRead interrupted) ∧
      ∀ n, f = .failure (.ofSystem n) → r' = r ∧ r.dispatcher = .absent ∧
        ∀ s k refused, s.isUncatchable = false ∧ s.isReserved = false → refused.wakePipe = none →
          r.settings.canNameThread = true → (r'.install s (.custom k) refused).2.isLive = true := by
  have he := hf.early
  have ha := he.alike
  refine ⟨ha, he, hf.eq_of_not_system, fun s => ?_, fun more q lq hc => ?_, ?_⟩
  · simp only [Registry.installed, Registry.current, Registry.owed?, ha.slots, ha.system, and_self]
  · obtain ⟨q', hc', he', hans⟩ := h.course_early he hc
    exact ⟨q', hc', he'.alike, hans, fun x => he'.isSome_step⟩
  · rintro n rfl
    have hd := hf.absent_of_wakePipe
    have hr : r' = r := hf.eq_of_not_system fun errno => by
      simp [Failure.ofSystem, Failure.ofErrno]
    exact ⟨hr, hd, fun s k refused hs hw hn => hr ▸ Registry.isLive_install hd hn hw hs⟩

/-- The system refuses the handler of the first callback, whose dispatcher has begun by then; the
callback is installed after that, and its signal arrives. -/
theorem exists_failure_with_dispatcher :
    ∃ (steps more : List (Step Bool)) (r r' q q' : Registry Bool) (l lq : Ledger Bool) (f : Fault),
      History Registry.HasShown steps r l ∧ r.Fails f r' ∧ r.isLive = false ∧
        r'.isLive = true ∧ Course (fun r x => r.HasShown x ∧ r.Starts x) r l more q lq ∧
        Course (fun r x => r.HasShown x ∧ r.Starts x) r' l more q' lq ∧ q.Alike q' ∧
        (q.slots.get .usr1).pending = 1 ∧ r'.answers more = r.answers more ∧
        (r.answers more).map Except.toOption = [some .ignore] := by
  let steps : List (Step Bool) := [.install .usr1 .ignore .nothing]
  let more : List (Step Bool) :=
    [.overrule .usr1 .outside, .install .usr1 (.custom true) .nothing, .record .usr1]
  let refused : Refusals := ⟨none, some (.ofNumber 22), false⟩
  have hu : ∀ x ∈ steps, x.Unforged := by decide
  have hs : ∀ x ∈ more, ∀ r : Registry Bool, r.HasShown x ∧ r.Starts x := by
    simp [more, Registry.HasShown, Registry.Starts, Refusals.nothing]
  obtain ⟨r, hr, hd, hf, hl, q, hq, hp, hans⟩ :
      ∃ r ∈ (Registry.empty .standard .fresh .standard).run? steps,
        r.isLive = false ∧ (r.install .usr1 (.custom true) refused).1.toOption = none ∧
          (r.install .usr1 (.custom true) refused).2.isLive = true ∧
          ∃ q ∈ r.run? more, (q.slots.get .usr1).pending = 1 ∧
            (r.answers more).map Except.toOption = [some .ignore] := by decide
  obtain ⟨l, h⟩ := of_run? System.handler_fresh (fun x hx => (hu x hx).hasShown) hr
  obtain ⟨lq, hc⟩ := Course.of_run? l hq hs
  cases hi : r.install .usr1 (.custom true) refused with
  | mk result r' =>
    rw [hi] at hf hl
    cases result with
    | ok d => cases hf
    | error e =>
      have hfails : r.Fails e.toFault r' := .install hi
      obtain ⟨-, -, -, -, hrun, -⟩ := h.failure_unnoticed hfails
      obtain ⟨q', hc', hq', hans', -⟩ := hrun more q lq hc
      exact ⟨steps, more, r, r', q, q', l, lq, e.toFault, h, hfails, hd, hl, hc, hc', hq', hp,
        hans', hans⟩

end History

end HostServices.Watch
