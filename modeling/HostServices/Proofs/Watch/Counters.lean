import HostServices.Proofs.Watch.Standing
import Mathlib.Data.List.Nodup
import Mathlib.Data.List.Perm.Basic

/-!
# Counters of installs and of callbacks

An install adjusts the number of callbacks by what it replaced and what it put in place, and what it
replaced is read from the system before the first install and from the slot later. `watched` counts
the callbacks in the table itself, and the two agree after every run (`Counted`): the system's
report is never `custom`, and a slot's is exactly when it has a callback.
-/

namespace HostServices

/-- Two counts over all signals that differ at one signal at most. -/
theorem Signal.countP_all_add {p q : Signal → Bool} {s : Signal} (h : ∀ u, u ≠ s → p u = q u) :
    Signal.all.countP p + (q s).toNat = Signal.all.countP q + (p s).toNat := by
  have hs : Signal.all.Perm (s :: Signal.all.erase s) := List.perm_cons_erase s.mem_all
  have hrest : (Signal.all.erase s).countP p = (Signal.all.erase s).countP q := by
    refine List.countP_congr fun u hu => ?_
    rw [h u]
    rintro rfl
    exact List.Nodup.not_mem_erase (by decide) hu
  rw [hs.countP_eq, hs.countP_eq, List.countP_cons, List.countP_cons, hrest]
  cases p s <;> cases q s <;> simp

/-- How many callbacks stand behind a disposition. -/
def Disposition.callbacks (d : Disposition) : Nat := (decide (d = .custom)).toNat

namespace Watch

variable {κ : Type}

/-- What happens to a registry: a step, or an install on the signal of a name. -/
inductive Event (κ : Type)
  | step (x : Step κ)
  | watch (name : String) (a : Action κ) (refused : Refusals)

namespace Registry

variable {r r' : Registry κ} {s u : Signal} {a : Action κ} {w : Bool} {x : Step κ}

/-- The number of signals with a callback in the table. -/
def watched (r : Registry κ) : Nat := Signal.all.countP fun s => r.installed s = some .custom

theorem current_eq_custom : r.current s = .custom ↔ r.installed s = some .custom := by
  unfold current installed
  cases (r.slots.get s).action with
  | none => cases (r.system.get s).handler <;> simp [Handler.disposition]
  | some a => simp

/-! ### One install -/

theorem customHandlersAfter_add {n : Nat} {previous new : Disposition}
    (h : previous = .custom → 0 < n) :
    customHandlersAfter n previous new + previous.callbacks = n + new.callbacks := by
  cases previous <;> cases new <;> simp [customHandlersAfter, Disposition.callbacks] at h ⊢ <;>
    omega

theorem replace_customHandlers : (r.replace s a w).stats.customHandlers =
    customHandlersAfter r.stats.customHandlers (r.current s) a.disposition := by
  simp [replace, retire_eq]

theorem replace_customHandlers_add (h : r.current s = .custom → 0 < r.stats.customHandlers) :
    (r.replace s a w).stats.customHandlers + (r.current s).callbacks =
      r.stats.customHandlers + a.disposition.callbacks := by
  rw [replace_customHandlers]
  exact customHandlersAfter_add h

theorem installed_replace : (r.replace s a w).installed u =
    if u = s then some a.disposition else r.installed u := by
  rw [installed, replace_slots]
  split <;> rfl

theorem watched_pos (h : r.current s = .custom) : 0 < r.watched :=
  List.countP_pos_iff.mpr ⟨s, s.mem_all, by simpa using current_eq_custom.mp h⟩

theorem watched_replace :
    (r.replace s a w).watched + (r.current s).callbacks = r.watched + a.disposition.callbacks := by
  have hc : (r.current s).callbacks = (decide (r.installed s = some .custom)).toNat :=
    congrArg Bool.toNat (decide_eq_decide.mpr current_eq_custom)
  have ha : a.disposition.callbacks =
      (decide ((r.replace s a w).installed s = some .custom)).toNat := by
    simp only [installed_replace, if_true, Option.some.injEq]
    rfl
  rw [hc, ha]
  refine Signal.countP_all_add (p := fun u => (r.replace s a w).installed u = some .custom)
    (q := fun u => r.installed u = some .custom) fun u hu => ?_
  rw [installed_replace, if_neg hu]

/-- The counters agree with the table. -/
structure Counted (r : Registry κ) (installs : Nat) : Prop where
  customHandlers : r.stats.customHandlers = r.watched
  installs : r.stats.installs = installs

/-- What was replaced was counted, so the counter has something to take from. -/
theorem Counted.pos {n : Nat} (h : r.Counted n) (hc : r.current s = .custom) :
    0 < r.stats.customHandlers := by
  rw [h.customHandlers]
  exact watched_pos hc

theorem Counted.replace {n : Nat} (h : r.Counted n) : (r.replace s a w).Counted (n + 1) where
  customHandlers := by
    have hs := replace_customHandlers_add (a := a) (w := w) (h.pos (s := s))
    have hw := watched_replace (r := r) (s := s) (a := a) (w := w)
    have hc := h.customHandlers
    omega
  installs := by rw [replace_installs, h.installs]

theorem Counted.started {n : Nat} (h : r.Counted n) : r.started.Counted n :=
  ⟨h.customHandlers, h.installs⟩

/-! ### One event -/

theorem Counted.install {n : Nat} (h : r.Counted n) (refused : Refusals) :
    (r.install s a refused).2.Counted (n + (r.install s a refused).1.isOk.toNat) := by
  rcases r.install_cases s a refused with ⟨e, hi⟩ | ⟨e, -, hi⟩ | ⟨-, hi⟩ | ⟨-, hi⟩ <;> rw [hi]
  · exact h
  · exact h.started
  · exact h.replace
  · exact h.started.replace

/-- A watch succeeds when the install on its signal does. -/
theorem Counted.watch {n : Nat} (h : r.Counted n) (name : String) (a : Action κ)
    (refused : Refusals) :
    (r.watch name a refused).2.Counted (n + (r.watch name a refused).1.isOk.toNat) := by
  rcases r.watch_cases name a refused with ⟨e, -, hw⟩ | ⟨s, -, hw, hr⟩
  · rw [hw]
    exact h
  · have hs := h.install (s := s) (a := a) refused
    rw [hw]
    rcases hr with ⟨d, hi, hr⟩ | ⟨e, hi, hr⟩
    · rw [hi] at hs
      rwa [hr]
    · rw [hi] at hs
      rwa [hr]

section

variable (hx : r.step? x = some r') (hn : ∀ s a refused, x ≠ .install s a refused)

include hx hn

/-- A step that is no install changes no action. -/
theorem installed_of_not_install (s : Signal) : r'.installed s = r.installed s := by
  have hc : (change? s r x).toList.filterMap Change.action? = [] := by
    cases x with
    | install u a refused => exact (hn u a refused rfl).elim
    | overrule u h =>
      simp only [change?]
      split <;> rfl
    | _ => rfl
  rw [installed, (Shows.step hx).action, hc]
  rfl

/-- A step that is no install changes neither counter. -/
theorem counters_of_not_install :
    r'.stats.customHandlers = r.stats.customHandlers ∧ r'.stats.installs = r.stats.installs := by
  cases x with
  | install s a refused => exact (hn s a refused rfl).elim
  | record u =>
    simp only [step?] at hx
    split at hx
    · cases hx
      rw [record_stats]
      exact ⟨rfl, rfl⟩
    · cases hx
  | overrule => cases hx; exact ⟨rfl, rfl⟩
  | read => obtain ⟨-, -, rfl⟩ := read?_eq_some hx; exact ⟨rfl, rfl⟩
  | failRead interrupted =>
    obtain ⟨-, rfl⟩ := failRead?_eq_some hx
    cases interrupted <;> exact ⟨rfl, rfl⟩
  | receive =>
    obtain ⟨-, ⟨-, rfl⟩ | ⟨b, rest, -, rfl⟩⟩ := receive?_eq_some hx
    · exact ⟨rfl, rfl⟩
    · exact ⟨rfl, rfl⟩
  | check => obtain ⟨u, others, -, rfl⟩ := check?_eq_some hx; exact ⟨rfl, rfl⟩
  | finish panicked =>
    obtain ⟨phase, b, -, rfl⟩ := finish?_eq_some hx
    cases panicked <;> exact ⟨rfl, rfl⟩

theorem Counted.of_not_install {n : Nat} (h : r.Counted n) : r'.Counted n := by
  obtain ⟨hc, hi⟩ := counters_of_not_install hx hn
  refine ⟨?_, hi.trans h.installs⟩
  rw [hc, h.customHandlers, watched, watched]
  simp only [installed_of_not_install hx hn]

end

def event? (r : Registry κ) : Event κ → Option (Registry κ)
  | .step x => r.step? x
  | .watch name a refused => some (r.watch name a refused).2

def succeeds (r : Registry κ) : Event κ → Bool
  | .step (.install s a refused) => (r.install s a refused).1.isOk
  | .step _ => false
  | .watch name a refused => (r.watch name a refused).1.isOk

theorem Counted.event {n : Nat} {e : Event κ} (h : r.Counted n) (he : r.event? e = some r') :
    r'.Counted (n + (r.succeeds e).toNat) := by
  cases e with
  | watch name a refused => cases he; exact h.watch name a refused
  | step x =>
    have hx : r.step? x = some r' := he
    cases x with
    | install s a refused => cases hx; exact h.install refused
    | _ => exact h.of_not_install hx (by simp)

/-! ### A run -/

/-- The registry after events, if every one is possible. -/
def events? (r : Registry κ) : List (Event κ) → Option (Registry κ)
  | [] => some r
  | e :: rest => (r.event? e).bind fun r => r.events? rest

/-- How many of the events are installs that succeed. -/
def successes (r : Registry κ) : List (Event κ) → Nat
  | [] => 0
  | e :: rest => (r.succeeds e).toNat + (r.event? e).elim 0 fun r => r.successes rest

theorem Counted.events {n : Nat} {events : List (Event κ)} (h : r.Counted n)
    (hr : r.events? events = some r') : r'.Counted (n + r.successes events) := by
  induction events generalizing r n with
  | nil => cases hr; exact h
  | cons e events ih =>
    simp only [events?, Option.bind_eq_some_iff] at hr
    obtain ⟨r₁, he, hr⟩ := hr
    simp only [successes, he, Option.elim]
    rw [← Nat.add_assoc]
    exact ih (h.event he) hr

theorem counted_empty (settings : Settings) (system : System) (pipe : Pipe) :
    (empty settings system pipe : Registry κ).Counted 0 := by
  refine ⟨?_, rfl⟩
  simp [empty, watched, installed, Slot.untouched, Stats.zero]

@[simp] theorem retire_stats : (r.retire s w).stats = r.stats := by rw [retire_eq]

end Registry

/-- The counters match the table after everything that can happen to a registry: one counts the
signals with a callback, the other the installs that succeeded, by signal or by name. An install
takes from the former only what is counted there, and neither changes in any other step or when
deliveries are retired. The counters are numbers: in 64 bits they agree with them until `2 ^ 64`
installs have succeeded. -/
theorem Registry.counters_match {settings : Settings} {system : System} {pipe : Pipe}
    {events : List (Event κ)} {r₀ r : Registry κ} (h₀ : r₀ = .empty settings system pipe)
    (hr : r₀.events? events = some r) :
    r.stats.customHandlers = Signal.all.countP (fun s => r.installed s = some .custom) ∧
      r.stats.installs = r₀.successes events ∧
      (∀ s a refused d, (r.install s a refused).1 = .ok d →
        (d = .custom → 0 < r.stats.customHandlers) ∧
        (r.install s a refused).2.stats.customHandlers + d.callbacks =
          r.stats.customHandlers + a.disposition.callbacks) ∧
      (∀ x r', r.step? x = some r' → (∀ s a refused, x ≠ .install s a refused) →
        r'.stats.customHandlers = r.stats.customHandlers ∧
          r'.stats.installs = r.stats.installs) ∧
      ∀ s w, (r.retire s w).stats = r.stats := by
  have h : r.Counted (0 + r₀.successes events) :=
    (h₀ ▸ counted_empty settings system pipe).events hr
  rw [Nat.zero_add] at h
  refine ⟨h.customHandlers, h.installs, fun s a refused d hd => ?_,
    fun x r' hx hn => counters_of_not_install hx hn, fun s w => retire_stats⟩
  obtain ⟨rfl, hi⟩ := install_eq_ok hd
  refine ⟨h.pos, ?_⟩
  rcases hi with hi | ⟨-, hi⟩ <;> rw [hi]
  · exact replace_customHandlers_add h.pos
  · exact replace_customHandlers_add (r := r.started) h.pos

/-- A callback takes the place of other code's handler, then another its own, and is itself replaced
in the middle of its batch, in which it panics; two other installs fail. -/
theorem Registry.exists_counted_run :
    ∃ (events : List (Event Bool)) (r : Registry Bool),
      (Registry.empty .standard .fresh .standard).events? events = some r ∧
        r.stats.callbackPanics = 1 ∧ r.stats.installs = 4 ∧ r.stats.customHandlers = 1 ∧
        r.stats.customHandlers = Signal.all.countP (fun s => r.installed s = some .custom) ∧
        r.stats.installs =
          (Registry.empty .standard .fresh .standard).successes events ∧
        (r.install .usr2 .ignore .nothing).1 = .ok .custom ∧
        (r.install .usr2 .ignore .nothing).2.stats.customHandlers = 0 := by
  let events : List (Event Bool) :=
    [.step (.overrule .usr1 .outside), .watch "USR1" (.custom true) ⟨some 24, none, false⟩,
      .watch "SIGUSR1" (.custom true) .nothing, .step (.install .usr1 (.custom false) .nothing),
      .step (.record .usr1), .step (.record .usr1), .step .read, .step .receive] ++
      List.replicate (Signal.all.idxOf .usr1 + 1) (.step .check) ++
      [.watch "10" .default .nothing,
        .step (.install .usr2 (.custom true) ⟨none, some (.ofNumber 22), false⟩),
        .watch "USR2" (.custom true) .nothing, .step (.finish true)]
  have hr : ∃ r ∈ (Registry.empty .standard .fresh .standard).events? events,
      r.stats.callbackPanics = 1 ∧ r.stats.installs = 4 ∧ r.stats.customHandlers = 1 ∧
        r.current .usr2 = .custom := by decide
  obtain ⟨r, hr, hp, hn, hc, hu⟩ := hr
  have h := Registry.counters_match rfl hr
  obtain ⟨d, hd⟩ := (r.install_isOk_iff .usr2 .ignore .nothing).2 ⟨rfl, rfl, nofun, rfl⟩
  obtain rfl : d = .custom := (install_eq_ok hd).1.trans hu
  have hz := (h.2.2.1 _ _ _ _ hd).2
  rw [hc] at hz
  exact ⟨events, r, hr, hp, hn, hc, h.1, h.2.1, hd, Nat.succ.inj hz⟩

end Watch

end HostServices
