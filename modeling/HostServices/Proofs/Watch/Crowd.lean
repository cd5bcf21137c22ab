import HostServices.Proofs.Watch.Attendance
import HostServices.Proofs.Watch.Stages

/-!
# Installs from many threads

A `Crowd` is a registry with the installs that are in progress, each at a stage of its own. Any of
them may go on next, a signal may arrive, other code may interfere or the dispatcher may move; only
the lock of a slot makes an install or the dispatcher wait. What a registry does in whole steps a
crowd can do too (`Crowd.exists_turns_of_run?`).

Two kinds of state are all there is. Before the dispatcher starts (`Crowd.Dormant`), nothing in the
system's table, in the slots or in the installs could bring about a delivery; once it has started
it is there for good (`Crowd.Awake`). So nothing that a crowd hands over is ever discarded
(`Crowd.never_discards`).
-/

namespace HostServices.Watch

variable {κ : Type}

/-- A registry with the installs in progress. -/
structure Crowd (κ : Type) where
  registry : Registry κ
  /-- The installs that have begun, the first one first. -/
  installers : List (Installer κ)
  /-- How often a dispatcher was started. -/
  starts : Nat
  /-- The registry's handler has been in the system's table. -/
  shown : Bool

inductive Turn (κ : Type)
  /-- A thread begins an install. -/
  | call (s : Signal) (a : Action κ) (refused : Refusals)
  /-- An install goes on by one stage. -/
  | proceed (i : Nat)
  /-- A step of the registry that is no install. -/
  | step (x : Step κ)

namespace Crowd

def begin (r : Registry κ) : Crowd κ := ⟨r, [], 0, false⟩

/-- An install has the lock of the slot of `s`. -/
def isLocked (c : Crowd κ) (s : Signal) : Bool :=
  c.installers.any fun x => x.holdsLock && x.signal = s

/-- The install waits for a lock that another has. -/
def isWaiting (c : Crowd κ) (x : Installer κ) : Bool :=
  match x.stage with
  | .entering => c.isLocked x.signal
  | _ => false

/-- Other code can put the registry's handler back only once it was in the system's table, and the
dispatcher needs the lock of a slot to take what is counted there. -/
def allows (c : Crowd κ) : Step κ → Bool
  | .install .. => false
  | .overrule _ h => h ≠ .recorder || c.shown
  | .check =>
    match c.registry.upNext? with
    | some s => (c.registry.slots.get s).pending = 0 || !c.isLocked s
    | none => true
  | _ => true

def advanced (c : Crowd κ) (i : Nat) (x : Installer κ) : Crowd κ where
  registry := (x.next c.registry).2
  installers := c.installers.set i { x with stage := (x.next c.registry).1 }
  starts := c.starts + (!c.registry.isLive && (x.next c.registry).2.isLive).toNat
  shown := c.shown || ((x.next c.registry).2.system.get x.signal).handler = .recorder

/-- The crowd after a turn, if it is possible. -/
def turn? (c : Crowd κ) : Turn κ → Option (Crowd κ)
  | .call s a refused => some { c with installers := c.installers ++ [.begin s a refused] }
  | .proceed i =>
    c.installers[i]?.bind fun x => if c.isWaiting x then none else some (c.advanced i x)
  | .step x =>
    if c.allows x then (c.registry.step? x).map fun r => { c with registry := r } else none

def turns? (c : Crowd κ) : List (Turn κ) → Option (Crowd κ)
  | [] => some c
  | t :: rest => (c.turn? t).bind fun c => c.turns? rest

end Crowd

/-! ### Once the dispatcher has started -/

section

variable {r r' : Registry κ} {x : Step κ}

@[simp] theorem Registry.wake_dispatcher (r : Registry κ) : r.wake.dispatcher = r.dispatcher := by
  unfold wake
  split <;> rfl

/-- A dispatcher ends only in a read that fails. -/
theorem Registry.isLive_step (hx : r.step? x = some r') (hn : x ≠ .failRead false)
    (h : r.isLive = true) : r'.isLive = true := by
  cases x with
  | install s a refused =>
    cases hx
    rcases r.install_cases s a refused with ⟨e, hi⟩ | ⟨e, -, hi⟩ | ⟨-, hi⟩ | ⟨-, hi⟩ <;> rw [hi]
    · exact h
    · rfl
    · rwa [isLive_replace]
    · rw [isLive_replace]; rfl
  | record s =>
    simp only [step?] at hx
    split at hx
    · cases hx
      rwa [isLive, record_dispatcher]
    · cases hx
  | overrule => cases hx; exact h
  | read => obtain ⟨-, -, rfl⟩ := read?_eq_some hx; rfl
  | failRead interrupted =>
    obtain ⟨-, rfl⟩ := failRead?_eq_some hx
    cases interrupted with
    | true => exact h
    | false => exact (hn rfl).elim
  | receive => obtain ⟨-, ⟨-, rfl⟩ | ⟨b, rest, -, rfl⟩⟩ := receive?_eq_some hx <;> rfl
  | check => obtain ⟨s, others, -, rfl⟩ := check?_eq_some hx; rfl
  | finish panicked => obtain ⟨phase, b, -, rfl⟩ := finish?_eq_some hx; rfl

theorem Installer.isLive_next (y : Installer κ) (h : r.isLive = true) :
    (y.next r).2.isLive = true := by
  unfold next
  split
  · split
    · exact h
    · next hp =>
      rcases Registry.prepare_eq_ok hp with ⟨-, rfl⟩ | ⟨-, rfl⟩
      · exact h
      · rfl
  · exact h
  · split <;> exact h
  · split <;> exact h
  · split <;> exact h
  · rw [Registry.enqueue_eq]
    exact h
  · split
    · exact h
    · rwa [Registry.isLive, Registry.wake_dispatcher]
  · exact h
  · exact h
  · exact h
  · exact h

end

namespace Crowd

variable {c c' : Crowd κ} {t : Turn κ}

/-- The one dispatcher is at work. -/
structure Awake (c : Crowd κ) : Prop where
  live : c.registry.isLive = true
  starts : c.starts = 1

theorem Awake.turn (h : c.Awake) (ht : t ≠ .step (.failRead false)) (hc : c.turn? t = some c') :
    c'.Awake := by
  cases t with
  | call s a refused => cases hc; exact ⟨h.live, h.starts⟩
  | proceed i =>
    simp only [turn?, Option.bind_eq_some_iff] at hc
    obtain ⟨x, -, hc⟩ := hc
    split at hc
    · cases hc
    · cases hc
      refine ⟨x.isLive_next h.live, ?_⟩
      simp [advanced, h.live, h.starts]
  | step x =>
    simp only [turn?] at hc
    split at hc
    · obtain ⟨r, hx, rfl⟩ := Option.map_eq_some_iff.mp hc
      refine ⟨Registry.isLive_step hx ?_ h.live, h.starts⟩
      rintro rfl
      exact ht rfl
    · cases hc

end Crowd

/-! ### Before the dispatcher has started -/

theorem Handler.ofAction_ne_recorder {a : Action κ} (h : a.callback? = none) :
    Handler.ofAction a ≠ .recorder := by
  intro hr
  cases a with
  | custom k => cases h
  | default => cases hr
  | ignore => cases hr

/-- The slot has no callback, and nothing is counted for one. -/
structure Slot.IsIdle (slot : Slot κ) : Prop where
  callback : slot.callback? = none
  pending : slot.pending = 0

theorem Slot.isIdle_modify {slots : Signal.Table (Slot κ)} {f : Slot κ → Slot κ} (s : Signal)
    (h : ∀ u, (slots.get u).IsIdle) (hf : ∀ slot : Slot κ, slot.IsIdle → (f slot).IsIdle)
    (u : Signal) : ((slots.modify s f).get u).IsIdle := by
  rw [Signal.Table.get_modify]
  split
  · exact hf _ (h u)
  · exact h u

/-- The install is at a stage where a callback has not come to the system's table or to a slot, and
none has come from a slot. -/
def Installer.IsDormant (x : Installer κ) : Prop :=
  match x.stage with
  | .preparing | .returned _ => True
  | .emptying _ | .sending _ | .waking => False
  | _ => x.action.callback? = none

theorem Installer.isDormant_begin (s : Signal) (a : Action κ) (refused : Refusals) :
    (begin s a refused).IsDormant := by
  unfold begin IsDormant
  cases s.isUncatchable <;> cases s.isReserved <;> trivial

namespace Crowd

variable {c c' : Crowd κ} {t : Turn κ}

/-- There is no dispatcher, and nothing that would need one. -/
structure Dormant (c : Crowd κ) : Prop where
  absent : c.registry.dispatcher = .absent
  starts : c.starts = 0
  shown : c.shown = false
  handler : ∀ s, (c.registry.system.get s).handler ≠ .recorder
  slots : ∀ s, (c.registry.slots.get s).IsIdle
  installers : ∀ x ∈ c.installers, x.IsDormant

namespace Dormant

theorem begin {settings : Settings} {system : System} {pipe : Pipe}
    (hs : ∀ s, (system.get s).handler ≠ .recorder) :
    (Crowd.begin (.empty settings system pipe) : Crowd κ).Dormant where
  absent := rfl
  starts := rfl
  shown := rfl
  handler := hs
  slots s := by
    rw [Crowd.begin, Registry.empty, Signal.Table.get_all]
    exact ⟨rfl, rfl⟩
  installers _ hx := (List.not_mem_nil hx).elim

theorem isLive (h : c.Dormant) : c.registry.isLive = false := by
  rw [Registry.isLive, h.absent]

/-- A stage after which there is still nothing that would need a dispatcher. -/
theorem advanced (h : c.Dormant) {i : Nat} {x : Installer κ} {stage : Stage κ} {r : Registry κ}
    (hn : x.next c.registry = (stage, r)) (ha : r.dispatcher = .absent)
    (hh : ∀ s, (r.system.get s).handler ≠ .recorder)
    (hp : ∀ s, (r.slots.get s).IsIdle) (hi : ({ x with stage } : Installer κ).IsDormant) :
    (c.advanced i x).Dormant := by
  have hl : r.isLive = false := by rw [Registry.isLive, ha]
  rw [Crowd.advanced, hn]
  refine ⟨ha, ?_, ?_, hh, hp, fun y hy => ?_⟩
  · simp [hl, h.starts]
  · simp [h.shown, hh]
  · rcases List.mem_or_eq_of_mem_set hy with hy | rfl
    · exact h.installers y hy
    · exact hi

/-- A stage that leaves the registry as it is. -/
theorem advanced_same (h : c.Dormant) {i : Nat} {x : Installer κ} {stage : Stage κ}
    (hn : x.next c.registry = (stage, c.registry))
    (hi : ({ x with stage } : Installer κ).IsDormant) : (c.advanced i x).Dormant :=
  h.advanced hn h.absent h.handler h.slots hi

theorem preparing (h : c.Dormant) {i : Nat} {x : Installer κ} (hx : x.stage = .preparing) :
    (c.advanced i x).Dormant ∨ (c.advanced i x).Awake := by
  cases hp : c.registry.prepare x.action x.refused.wakePipe with
  | error e =>
    have hn : x.next c.registry = (.returned (.error e), c.registry) := by
      simp only [Installer.next, hx, hp]
    exact .inl (h.advanced_same hn trivial)
  | ok r =>
    have hn : x.next c.registry = (.entering, r) := by
      simp only [Installer.next, hx, hp]
    rcases Registry.prepare_eq_ok hp with ⟨hd, rfl⟩ | ⟨-, rfl⟩
    · refine .inl (h.advanced_same hn ?_)
      show x.action.callback? = none
      cases hk : x.action.callback? with
      | none => rfl
      | some k => exact (hd (by rw [hk]; rfl) h.absent).elim
    -- this stage is the only one that starts a dispatcher, and it counts the start
    · refine .inr ⟨by rw [Crowd.advanced, hn]; rfl, ?_⟩
      have hl : c.registry.started.isLive = true := rfl
      simp [Crowd.advanced, hn, h.starts, h.isLive, hl]

/-- An action that is no callback leaves no trace of one in the system's table. -/
theorem handling (h : c.Dormant) {i : Nat} {x : Installer κ} (hx : x.stage = .handling)
    (ha : x.action.callback? = none) : (c.advanced i x).Dormant := by
  cases hr : x.refused.handler with
  | some errno =>
    have hn : x.next c.registry = (.returned (.error (.system errno)), c.registry) := by
      simp only [Installer.next, hx, hr]
    exact h.advanced_same hn trivial
  | none =>
    have hn : x.next c.registry = (.vacating (c.registry.system.get x.signal).handler,
        c.registry.handled x.signal x.action) := by
      simp only [Installer.next, hx, hr]
    refine h.advanced hn h.absent (fun s => ?_) h.slots ha
    rw [Registry.handled, Signal.Table.get_set]
    split
    · exact Handler.ofAction_ne_recorder ha
    · exact h.handler s

/-- No slot has a callback that could be owed anything. -/
theorem vacating (h : c.Dormant) {i : Nat} {x : Installer κ} {found : Handler}
    (hx : x.stage = .vacating found) (ha : x.action.callback? = none) :
    (c.advanced i x).Dormant := by
  obtain ⟨previous, hn⟩ : ∃ previous, x.next c.registry =
      (.filling previous, c.registry.vacated x.signal) := by
    have hk := (h.slots x.signal).callback
    rw [Slot.callback?] at hk
    simp only [Installer.next, hx]
    cases hs : (c.registry.slots.get x.signal).action with
    | none => exact ⟨_, rfl⟩
    | some b =>
      rw [hs] at hk
      cases b with
      | custom k => cases hk
      | default => exact ⟨_, rfl⟩
      | ignore => exact ⟨_, rfl⟩
  exact h.advanced hn h.absent h.handler
    (Slot.isIdle_modify x.signal h.slots fun slot hs => ⟨rfl, hs.pending⟩) ha

theorem filling (h : c.Dormant) {i : Nat} {x : Installer κ} {previous : Disposition}
    (hx : x.stage = .filling previous) (ha : x.action.callback? = none) :
    (c.advanced i x).Dormant := by
  have hn : x.next c.registry = (.adjusting previous, c.registry.occupied x.signal x.action) := by
    simp only [Installer.next, hx]
  exact h.advanced hn h.absent h.handler
    (Slot.isIdle_modify x.signal h.slots fun slot hs => ⟨ha, hs.pending⟩) ha

theorem proceed (h : c.Dormant) {i : Nat} {x : Installer κ} (hx : x.IsDormant) :
    (c.advanced i x).Dormant ∨ (c.advanced i x).Awake := by
  unfold Installer.IsDormant at hx
  cases hst : x.stage <;> simp only [hst] at hx
  case preparing => exact h.preparing hst
  case entering =>
    have hn : x.next c.registry = (.handling, c.registry) := by
      simp only [Installer.next, hst]
    exact .inl (h.advanced_same hn hx)
  case handling => exact .inl (h.handling hst hx)
  case vacating found => exact .inl (h.vacating hst hx)
  case filling previous => exact .inl (h.filling hst hx)
  case adjusting previous =>
    have hn : x.next c.registry =
        (.counting previous, c.registry.adjusted previous x.action.disposition) := by
      simp only [Installer.next, hst]
    exact .inl (h.advanced hn h.absent h.handler h.slots hx)
  case counting previous =>
    have hn : x.next c.registry = (.returned (.ok previous), c.registry.counted) := by
      simp only [Installer.next, hst]
    exact .inl (h.advanced hn h.absent h.handler h.slots trivial)
  case returned answer =>
    have hn : x.next c.registry = (.returned answer, c.registry) := by
      simp only [Installer.next, hst]
    exact .inl (h.advanced_same hn trivial)

/-- Without a dispatcher and its handler, other code is all that can do anything. -/
theorem step (h : c.Dormant) {x : Step κ} {r : Registry κ} (ha : c.allows x = true)
    (hx : c.registry.step? x = some r) : ({ c with registry := r } : Crowd κ).Dormant := by
  have hd {d : Dispatcher κ} (hd : c.registry.dispatcher = .live d) : False := by
    rw [h.absent] at hd
    cases hd
  cases x with
  | install s a refused => cases ha
  | record s =>
    simp only [Registry.step?, h.handler s, if_false] at hx
    cases hx
  | overrule s handler =>
    cases hx
    refine ⟨h.absent, h.starts, h.shown, fun u => ?_, h.slots, h.installers⟩
    simp only [Registry.overrule, Signal.Table.get_set]
    split
    · simpa [allows, h.shown] using ha
    · exact h.handler u
  | read => exact (hd (Registry.read?_eq_some hx).1).elim
  | failRead interrupted => exact (hd (Registry.failRead?_eq_some hx).1).elim
  | receive => exact (hd (Registry.receive?_eq_some hx).1).elim
  | check => obtain ⟨s, others, hs, -⟩ := Registry.check?_eq_some hx; exact (hd hs).elim
  | finish panicked => obtain ⟨phase, b, hs, -⟩ := Registry.finish?_eq_some hx; exact (hd hs).elim

theorem turn (h : c.Dormant) (hc : c.turn? t = some c') : c'.Dormant ∨ c'.Awake := by
  cases t with
  | call s a refused =>
    cases hc
    refine .inl ⟨h.absent, h.starts, h.shown, h.handler, h.slots, fun x hx => ?_⟩
    rcases List.mem_append.mp hx with hx | hx
    · exact h.installers x hx
    · rw [List.mem_singleton.mp hx]
      exact Installer.isDormant_begin s a refused
  | proceed i =>
    simp only [turn?, Option.bind_eq_some_iff] at hc
    obtain ⟨x, hx, hc⟩ := hc
    split at hc
    · cases hc
    · cases hc
      exact h.proceed (h.installers x (List.mem_of_getElem? hx))
  | step x =>
    simp only [turn?] at hc
    split at hc
    · next ha =>
      obtain ⟨r, hx, rfl⟩ := Option.map_eq_some_iff.mp hc
      exact .inl (h.step ha hx)
    · cases hc

end Dormant

/-- A crowd is dormant or awake. -/
theorem dormant_or_awake {turns : List (Turn κ)} (h : c.Dormant ∨ c.Awake)
    (ht : ∀ t ∈ turns, t ≠ .step (.failRead false)) (hc : c.turns? turns = some c') :
    c'.Dormant ∨ c'.Awake := by
  -- on the turns: one of them may wake a dormant crowd, and none puts an awake one to sleep
  induction turns generalizing c with
  | nil => cases hc; exact h
  | cons t turns ih =>
    simp only [turns?, Option.bind_eq_some_iff] at hc
    obtain ⟨c₁, h₁, hc⟩ := hc
    refine ih ?_ (fun u hu => ht u (List.mem_cons_of_mem _ hu)) hc
    rcases h with h | h
    · exact h.turn h₁
    · exact .inr (h.turn (ht t (List.mem_cons_self ..)) h₁)

end Crowd

/-! ### Whole steps -/

namespace Crowd

variable {c c' : Crowd κ} {r : Registry κ} {s : Signal}

theorem turns?_append (c : Crowd κ) (before after : List (Turn κ)) :
    c.turns? (before ++ after) = (c.turns? before).bind fun c => c.turns? after := by
  induction before generalizing c with
  | nil => rfl
  | cons t before ih =>
    simp only [List.cons_append, turns?]
    cases c.turn? t with
    | none => rfl
    | some c₁ => simpa using ih c₁

def IsUnlocked (c : Crowd κ) : Prop := ∀ x ∈ c.installers, x.holdsLock = false

theorem IsUnlocked.isLocked (h : c.IsUnlocked) (s : Signal) : c.isLocked s = false := by
  refine List.any_eq_false.mpr fun x hx => ?_
  simp [h x hx]

/-- The last install goes on alone while the others have no lock. -/
theorem exists_turns_proceed {l : List (Installer κ)} (hl : ∀ y ∈ l, y.holdsLock = false) (n : Nat)
    {x : Installer κ} (hc : c.installers = l ++ [x]) :
    ∃ c', c.turns? (List.replicate n (.proceed l.length)) = some c' ∧
      c'.registry = (x.runStages n c.registry).2 ∧
      c'.installers = l ++ [(x.runStages n c.registry).1] := by
  induction n generalizing c x with
  | zero => exact ⟨c, rfl, rfl, hc⟩
  | succ n ih =>
    have hx : c.installers[l.length]? = some x := by rw [hc, List.getElem?_concat_length]
    -- at the lock nobody is in its way: the others have none, and it has not yet got one itself
    have hw : c.isWaiting x = false := by
      unfold isWaiting
      split
      · next hst =>
        have hh : x.holdsLock = false := by rw [Installer.holdsLock, hst]
        refine List.any_eq_false.mpr fun y hy => ?_
        rw [hc, List.mem_append, List.mem_singleton] at hy
        rcases hy with hy | rfl
        · simp [hl y hy]
        · simp [hh]
      · rfl
    have ht : c.turn? (.proceed l.length) = some (c.advanced l.length x) := by
      simp [turn?, hx, hw]
    have hi : (c.advanced l.length x).installers =
        l ++ [{ x with stage := (x.next c.registry).1 }] := by
      simp [advanced, hc]
    obtain ⟨c', hc', hr, hi'⟩ := ih hi
    refine ⟨c', ?_, hr, hi'⟩
    rw [List.replicate_succ, turns?, ht]
    exact hc'

/-- Where nobody has a lock, a thread can install an action at one go. -/
theorem exists_turns_install (hc : c.IsUnlocked) (s : Signal) (a : Action κ) (refused : Refusals) :
    ∃ turns c', c.turns? turns = some c' ∧ c'.registry = (c.registry.install s a refused).2 ∧
      c'.installers =
        c.installers ++ [⟨s, a, refused, .returned (c.registry.install s a refused).1⟩] := by
  obtain ⟨c', ht, hr, hi⟩ := exists_turns_proceed hc Installer.stages
    (c := { c with installers := c.installers ++ [.begin s a refused] }) rfl
  rw [Installer.runStages_begin] at hr hi
  exact ⟨.call s a refused :: List.replicate Installer.stages (.proceed c.installers.length), c',
    ht, hr, hi⟩

theorem exists_turns_step {x : Step κ} (hc : c.IsUnlocked) (hx : c.registry.step? x = some r)
    (hu : x.Unforged) :
    ∃ turns c', c.turns? turns = some c' ∧ c'.registry = r ∧ c'.IsUnlocked := by
  have alone (ha : c.allows x = true) :
      ∃ turns c', c.turns? turns = some c' ∧ c'.registry = r ∧ c'.IsUnlocked := by
    refine ⟨[.step x], { c with registry := r }, ?_, rfl, hc⟩
    simp [turns?, turn?, ha, hx]
  cases x with
  | install s a refused =>
    cases hx
    obtain ⟨turns, c', ht, hr, hi⟩ := exists_turns_install hc s a refused
    refine ⟨turns, c', ht, hr, fun y hy => ?_⟩
    rw [hi, List.mem_append, List.mem_singleton] at hy
    rcases hy with hy | rfl
    · exact hc y hy
    · rfl
  | overrule s h => exact alone (by simp [allows, show h ≠ .recorder from hu])
  | check =>
    refine alone ?_
    simp only [allows]
    split <;> simp [hc.isLocked]
  | record s => exact alone rfl
  | read => exact alone rfl
  | failRead interrupted => exact alone rfl
  | receive => exact alone rfl
  | finish panicked => exact alone rfl

/-- What a registry does in whole steps a crowd can do. -/
theorem exists_turns_of_run? {steps : List (Step κ)} (hc : c.IsUnlocked)
    (hr : c.registry.run? steps = some r) (hu : ∀ x ∈ steps, x.Unforged) :
    ∃ turns c', c.turns? turns = some c' ∧ c'.registry = r ∧ c'.IsUnlocked := by
  induction steps generalizing c with
  | nil => cases hr; exact ⟨[], c, rfl, rfl, hc⟩
  | cons x steps ih =>
    simp only [Registry.run?, Option.bind_eq_some_iff] at hr
    obtain ⟨r₁, hx, hr⟩ := hr
    obtain ⟨before, c₁, h₁, rfl, hc₁⟩ := exists_turns_step hc hx (hu x (List.mem_cons_self ..))
    obtain ⟨after, c', h', hr'⟩ := ih hc₁ hr fun y hy => hu y (List.mem_cons_of_mem _ hy)
    refine ⟨before ++ after, c', ?_, hr'⟩
    rw [turns?_append, h₁]
    exact h'

/-! ### Nothing is discarded -/

/-- While reads of the wake pipe give bytes or are cut short, a callback in a slot or a delivery in
a counter means that the dispatcher was started, once, and is at work; so does an install that is
about to hand over deliveries, and the dispatcher's channel takes them. -/
theorem never_discards {settings : Settings} {system : System} {pipe : Pipe}
    {turns : List (Turn κ)} (hs : ∀ s, (system.get s).handler ≠ .recorder)
    (ht : ∀ t ∈ turns, t ≠ .step (.failRead false))
    (hc : (begin (.empty settings system pipe)).turns? turns = some c) :
    (∀ s, (c.registry.slots.get s).callback?.isSome ∨ 0 < (c.registry.slots.get s).pending →
      c.registry.isLive = true ∧ c.starts = 1) ∧
    (c.registry.dispatcher = .absent ∧ c.starts = 0 ∨ c.registry.isLive = true ∧ c.starts = 1) ∧
    ∀ x ∈ c.installers, (∀ k, x.stage = .emptying k → c.registry.isLive = true) ∧
      ∀ b, x.stage = .sending b → c.registry.isLive = true ∧
        (x.next c.registry).2.retired = c.registry.retired ++ [b] := by
  rcases dormant_or_awake (.inl (.begin hs)) ht hc with h | h
  · refine ⟨fun s hk => ?_, .inl ⟨h.absent, h.starts⟩,
      fun x hx => ⟨fun k hst => ?_, fun b hst => ?_⟩⟩
    · rw [(h.slots s).callback, (h.slots s).pending] at hk
      rcases hk with hk | hk
      · cases hk
      · exact (Nat.lt_irrefl 0 hk).elim
    · have hd := h.installers x hx
      rw [Installer.IsDormant, hst] at hd
      exact hd.elim
    · have hd := h.installers x hx
      rw [Installer.IsDormant, hst] at hd
      exact hd.elim
  · refine ⟨fun _ _ => ⟨h.live, h.starts⟩, .inr ⟨h.live, h.starts⟩,
      fun x _ => ⟨fun _ _ => h.live, fun b hst => ⟨h.live, ?_⟩⟩⟩
    simp only [Installer.next, hst, Registry.enqueue_eq, h.live, if_true]

/-- The dispatcher cannot be started at first. Then two threads watch a signal at once: a delivery
comes before the first callback is in the slot, another after other code has taken the handler out
of the system and put it back, and the second thread hands both over while a third is counted. -/
theorem exists_contended_hand_over :
    ∃ (turns : List (Turn Bool)) (c : Crowd Bool) (x : Installer Bool) (b : Batch Bool),
      (begin (.empty .standard .fresh .standard)).turns? turns = some c ∧ x ∈ c.installers ∧
        x.stage = .sending b ∧ b.count = 2 ∧ 0 < (c.registry.slots.get .usr1).pending ∧
        c.registry.isLive = true ∧ c.starts = 1 ∧
        (x.next c.registry).2.retired = c.registry.retired ++ [b] := by
  let turns : List (Turn Bool) :=
    [.call .usr1 (.custom true) ⟨some 24, none, false⟩, .proceed 0,
      .call .usr1 (.custom true) .nothing, .call .usr1 (.custom false) .nothing, .proceed 1,
      .proceed 2, .proceed 2, .proceed 2, .step (.record .usr1)] ++
      List.replicate 4 (.proceed 2) ++
      [.step (.overrule .usr1 .outside), .step (.overrule .usr1 .recorder),
        .step (.record .usr1)] ++
      List.replicate 4 (.proceed 1) ++ [.step (.record .usr1)]
  have hr : ∃ c ∈ (begin (.empty .standard .fresh .standard)).turns? turns,
      0 < (c.registry.slots.get .usr1).pending ∧
        c.installers.any fun x => match x.stage with | .sending b => b.count == 2 | _ => false := by
    decide
  obtain ⟨c, hc, hp, hs⟩ := hr
  obtain ⟨x, hx, hn⟩ := List.any_eq_true.mp hs
  have ht : ∀ t ∈ turns, t ≠ .step (.failRead false) := by
    rintro t ht rfl
    simp [turns, List.replicate] at ht
  have h := never_discards System.handler_fresh ht hc
  split at hn
  case h_2 => cases hn
  next b hst =>
    obtain ⟨hl, hs⟩ := h.1 .usr1 (.inr hp)
    exact ⟨turns, c, x, b, hc, hx, hst, eq_of_beq hn, hp, hl, hs, ((h.2.2 x hx).2 b hst).2⟩

end Crowd

end HostServices.Watch
