import HostServices.Proofs.Watch.Transition

/-!
# An install, stage by stage

For other threads an install is not one step. It makes sure of the dispatcher, takes the lock of the
signal's slot, changes the system's table, takes the action out of the slot, hands over what was
counted for it, fills the slot and counts itself. `Installer.next` is one such stage; a stage reads
and changes what its own lock or an atomic keeps from the others. An install that nothing comes
between is `Registry.install` (`Installer.runStages_begin`).
-/

namespace HostServices

theorem Signal.Table.modify_modify {α : Type} (t : Signal.Table α) (s : Signal) (f g : α → α) :
    (t.modify s f).modify s g = t.modify s fun a => g (f a) := by
  refine Signal.Table.ext_get fun u => ?_
  simp only [Signal.Table.get_modify]
  split <;> rfl

namespace Watch

variable {κ : Type}

/-! ### Stages of an install -/

/-- What an install in progress does next. -/
inductive Stage (κ : Type)
  /-- It makes sure of a dispatcher if its action is a callback. -/
  | preparing
  /-- It waits for the lock of the signal's slot. -/
  | entering
  /-- It changes the system's table. -/
  | handling
  /-- It takes the action out of the slot; the system had `found`. -/
  | vacating (found : Handler)
  /-- It takes the deliveries counted for the callback that was in the slot. -/
  | emptying (k : κ)
  | sending (b : Batch κ)
  /-- It writes their wake byte. -/
  | waking
  /-- It fills the slot and lets go of the lock. -/
  | filling (previous : Disposition)
  /-- It adjusts the number of callbacks. -/
  | adjusting (previous : Disposition)
  | counting (previous : Disposition)
  | returned (answer : Except InstallError Disposition)

namespace Registry

def handled (r : Registry κ) (s : Signal) (a : Action κ) : Registry κ :=
  { r with system := r.system.set s ⟨.ofAction a, r.settings.restart⟩ }

/-- The registry with the action taken out of a slot. -/
def vacated (r : Registry κ) (s : Signal) : Registry κ :=
  { r with slots := r.slots.modify s fun slot => { slot with action := none } }

def emptied (r : Registry κ) (s : Signal) : Registry κ :=
  { r with slots := r.slots.modify s Slot.taken }

def occupied (r : Registry κ) (s : Signal) (a : Action κ) : Registry κ :=
  { r with slots := r.slots.modify s fun slot => { slot with action := some a } }

/-- The registry with one action's callback counted in place of another's. -/
def adjusted (r : Registry κ) (previous new : Disposition) : Registry κ :=
  { r with stats := { r.stats with
      customHandlers := customHandlersAfter r.stats.customHandlers previous new } }

def counted (r : Registry κ) : Registry κ :=
  { r with stats := { r.stats with installs := r.stats.installs + 1 } }

end Registry

structure Installer (κ : Type) where
  signal : Signal
  action : Action κ
  refused : Refusals
  stage : Stage κ

namespace Installer

/-- An install that has looked at its signal only. -/
def begin (s : Signal) (a : Action κ) (refused : Refusals) : Installer κ where
  signal := s
  action := a
  refused := refused
  stage :=
    if s.isUncatchable then .returned (.error (.uncatchable s))
    else if s.isReserved then .returned (.error (.reserved s))
    else .preparing

/-- The install has the lock of its signal's slot. -/
def holdsLock (x : Installer κ) : Bool :=
  match x.stage with
  | .handling | .vacating _ | .emptying _ | .sending _ | .waking | .filling _ => true
  | _ => false

/-- One stage of an install, and the stage after it. -/
def next (x : Installer κ) (r : Registry κ) : Stage κ × Registry κ :=
  match x.stage with
  | .preparing =>
    match r.prepare x.action x.refused.wakePipe with
    | .error e => (.returned (.error e), r)
    | .ok r => (.entering, r)
  | .entering => (.handling, r)
  | .handling =>
    match x.refused.handler with
    | some errno => (.returned (.error (.system errno)), r)
    | none => (.vacating (r.system.get x.signal).handler, r.handled x.signal x.action)
  | .vacating found =>
    match (r.slots.get x.signal).action with
    | some (.custom k) => (.emptying k, r.vacated x.signal)
    | some a => (.filling a.disposition, r.vacated x.signal)
    | none => (.filling found.disposition, r.vacated x.signal)
  | .emptying k =>
    if h : 0 < (r.slots.get x.signal).pending then
      (.sending ⟨x.signal, k, (r.slots.get x.signal).pending, h⟩, r.emptied x.signal)
    else (.filling .custom, r.emptied x.signal)
  | .sending b => (.waking, r.enqueue b true)
  | .waking => (.filling .custom, if x.refused.wake then r else r.wake)
  | .filling previous => (.adjusting previous, r.occupied x.signal x.action)
  | .adjusting previous => (.counting previous, r.adjusted previous x.action.disposition)
  | .counting previous => (.returned (.ok previous), r.counted)
  | .returned answer => (.returned answer, r)

/-- Stages of an install that nothing comes between. -/
def runStages : Nat → Installer κ → Registry κ → Installer κ × Registry κ
  | 0, x, r => (x, r)
  | n + 1, x, r => runStages n { x with stage := (x.next r).1 } (x.next r).2

/-- No install has more stages. -/
def stages : Nat := 10

end Installer

/-! ### An install that nothing comes between -/

namespace Registry

variable {r : Registry κ} {s : Signal} {a : Action κ} {b : Batch κ} {w : Bool}

theorem replace_eq : r.replace s a w =
    ((((r.handled s a).retire s w).occupied s a).adjusted (r.current s) a.disposition).counted :=
  rfl

theorem occupied_vacated : (r.vacated s).occupied s a = r.occupied s a := by
  simp only [occupied, vacated, Signal.Table.modify_modify]

theorem emptied_vacated : (r.vacated s).emptied s = (r.emptied s).vacated s := by
  simp only [emptied, vacated, Signal.Table.modify_modify]
  rfl

theorem enqueue_vacated : (r.vacated s).enqueue b w = (r.enqueue b w).vacated s := by
  rw [enqueue_eq, enqueue_eq]
  rfl

theorem enqueue_eq_wake :
    r.enqueue b w = if w then r.enqueue b true else (r.enqueue b true).wake := by
  unfold enqueue
  cases hd : r.dispatcher with
  | live d => cases w <;> rfl
  | absent => cases w <;> simp [wake, hd]
  | ended => cases w <;> simp [wake, hd]

theorem wake_vacated : (r.vacated s).wake = r.wake.vacated s := by
  obtain ⟨settings, slots, system, retired, pipe, dispatcher, stats⟩ := r
  cases dispatcher <;> rfl

theorem retire_of_free (h : (r.slots.get s).callback? = none) : r.retire s w = r := by
  simp only [retire]
  split
  · rfl
  · next hk => rw [h] at hk; cases hk

theorem retire_of_held {k : κ} (h : (r.slots.get s).callback? = some k) :
    r.retire s w = if hp : 0 < (r.slots.get s).pending then
      (r.emptied s).enqueue ⟨s, k, (r.slots.get s).pending, hp⟩ w else r.emptied s := by
  simp only [retire]
  split
  · next hk => rw [h] at hk; cases hk
  · next hk => rw [h] at hk; cases hk; rfl

end Registry

namespace Installer

variable {s : Signal} {a : Action κ} {refused : Refusals} {r : Registry κ}

theorem runStages_succ {t t' : Stage κ} {r' : Registry κ} (n : Nat)
    (h : next ⟨s, a, refused, t⟩ r = (t', r')) :
    runStages (n + 1) ⟨s, a, refused, t⟩ r = runStages n ⟨s, a, refused, t'⟩ r' := by
  rw [runStages, h]

theorem runStages_returned (answer : Except InstallError Disposition) (n : Nat) :
    runStages n ⟨s, a, refused, .returned answer⟩ r = (⟨s, a, refused, .returned answer⟩, r) := by
  induction n with
  | zero => rfl
  | succ n ih => exact ih

theorem runStages_filling (previous : Disposition) (n : Nat) :
    runStages (n + 3) ⟨s, a, refused, .filling previous⟩ (r.vacated s) =
      (⟨s, a, refused, .returned (.ok previous)⟩,
        ((r.occupied s a).adjusted previous a.disposition).counted) := by
  rw [← Registry.occupied_vacated]
  exact runStages_returned _ n

/-- Without a callback in the slot there is nothing to hand over. -/
theorem runStages_vacating_free (h : (r.slots.get s).callback? = none) (n : Nat) :
    runStages (n + 4) ⟨s, a, refused, .vacating (r.system.get s).handler⟩ (r.handled s a) =
      (⟨s, a, refused, .returned (.ok (r.current s))⟩, r.replace s a refused.wake) := by
  have hn : next ⟨s, a, refused, .vacating (r.system.get s).handler⟩ (r.handled s a) =
      (.filling (r.current s), (r.handled s a).vacated s) := by
    have hs : (r.handled s a).slots = r.slots := rfl
    rw [Slot.callback?] at h
    simp only [next, hs, Registry.current]
    cases ha : (r.slots.get s).action with
    | none => rfl
    | some b =>
      rw [ha] at h
      cases b with
      | custom k => cases h
      | default => rfl
      | ignore => rfl
  rw [runStages_succ _ hn, runStages_filling, Registry.replace_eq,
    Registry.retire_of_free (r := r.handled s a) h]

theorem next_emptying {k : κ} :
    next ⟨s, a, refused, .emptying k⟩ (r.vacated s) =
      if h : 0 < (r.slots.get s).pending then
        (.sending ⟨s, k, (r.slots.get s).pending, h⟩, (r.emptied s).vacated s)
      else (.filling .custom, (r.emptied s).vacated s) := by
  have hp : ((r.vacated s).slots.get s).pending = (r.slots.get s).pending := by
    rw [Registry.vacated, Signal.Table.get_modify, if_pos rfl]
  simp only [next, hp, Registry.emptied_vacated]

theorem next_sending {b : Batch κ} : next ⟨s, a, refused, .sending b⟩ (r.vacated s) =
    (.waking, (r.enqueue b true).vacated s) := by
  rw [← Registry.enqueue_vacated]
  rfl

theorem next_waking : next ⟨s, a, refused, .waking⟩ (r.vacated s) =
    (.filling .custom, (if refused.wake then r else r.wake).vacated s) := by
  simp only [next, Registry.wake_vacated]
  split <;> rfl

/-- A callback that was in the slot gets what was counted for it, if anything was. -/
theorem runStages_emptying {k : κ} (h : (r.slots.get s).callback? = some k) (n : Nat) :
    runStages (n + 6) ⟨s, a, refused, .emptying k⟩ (r.vacated s) =
      (⟨s, a, refused, .returned (.ok .custom)⟩,
        (((r.retire s refused.wake).occupied s a).adjusted .custom a.disposition).counted) := by
  rw [Registry.retire_of_held h]
  by_cases hp : 0 < (r.slots.get s).pending
  · have hn : next ⟨s, a, refused, .emptying k⟩ (r.vacated s) =
        (.sending ⟨s, k, (r.slots.get s).pending, hp⟩, (r.emptied s).vacated s) := by
      rw [next_emptying, dif_pos hp]
    rw [dif_pos hp, runStages_succ _ hn, runStages_succ _ next_sending,
      runStages_succ _ next_waking, ← Registry.enqueue_eq_wake, runStages_filling]
  · have hn : next ⟨s, a, refused, .emptying k⟩ (r.vacated s) =
        (.filling .custom, (r.emptied s).vacated s) := by
      rw [next_emptying, dif_neg hp]
    rw [dif_neg hp, runStages_succ _ hn, runStages_filling]

theorem runStages_vacating_held {k : κ} (h : (r.slots.get s).callback? = some k) (n : Nat) :
    runStages (n + 7) ⟨s, a, refused, .vacating (r.system.get s).handler⟩ (r.handled s a) =
      (⟨s, a, refused, .returned (.ok (r.current s))⟩, r.replace s a refused.wake) := by
  have ha : (r.slots.get s).action = some (.custom k) := by
    rw [Slot.callback?] at h
    obtain ⟨b, hb, hk⟩ := Option.bind_eq_some_iff.mp h
    cases b with
    | custom k' => cases hk; exact hb
    | default => cases hk
    | ignore => cases hk
  have hc : r.current s = .custom := by rw [Registry.current, ha]; rfl
  have hv : next ⟨s, a, refused, .vacating (r.system.get s).handler⟩ (r.handled s a) =
      (.emptying k, (r.handled s a).vacated s) := by
    have hs : (r.handled s a).slots = r.slots := rfl
    simp only [next, hs, ha]
  rw [Registry.replace_eq, hc, runStages_succ _ hv,
    runStages_emptying (r := r.handled s a) h]

/-- From a slot's lock on, an install that the system does not refuse replaces what was there. -/
theorem runStages_entering (h : refused.handler = none) (n : Nat) :
    runStages (n + 9) ⟨s, a, refused, .entering⟩ r =
      (⟨s, a, refused, .returned (.ok (r.current s))⟩, r.replace s a refused.wake) := by
  have hh : next ⟨s, a, refused, .handling⟩ r =
      (.vacating (r.system.get s).handler, r.handled s a) := by
    simp only [next, h]
  rw [runStages_succ _ rfl, runStages_succ _ hh]
  cases hk : (r.slots.get s).callback? with
  | none => exact runStages_vacating_free hk (n + 3)
  | some k => exact runStages_vacating_held hk n

/-- An install that nothing comes between. -/
theorem runStages_begin (r : Registry κ) (s : Signal) (a : Action κ) (refused : Refusals) :
    (begin s a refused).runStages stages r =
      (⟨s, a, refused, .returned (r.install s a refused).1⟩, (r.install s a refused).2) := by
  unfold begin Registry.install stages
  split
  · exact runStages_returned _ _
  split
  · exact runStages_returned _ _
  cases hp : r.prepare a refused.wakePipe with
  | error e =>
    have hn : next ⟨s, a, refused, .preparing⟩ r = (.returned (.error e), r) := by
      simp only [next, hp]
    rw [runStages_succ _ hn, runStages_returned]
  | ok r₁ =>
    have hn : next ⟨s, a, refused, .preparing⟩ r = (.entering, r₁) := by
      simp only [next, hp]
    rw [runStages_succ _ hn]
    cases hh : refused.handler with
    | none => exact runStages_entering hh 0
    | some errno =>
      have hr : next ⟨s, a, refused, .handling⟩ r₁ = (.returned (.error (.system errno)), r₁) := by
        simp only [next, hh]
      rw [runStages_succ _ rfl, runStages_succ _ hr, runStages_returned]

end Installer

end Watch

end HostServices
