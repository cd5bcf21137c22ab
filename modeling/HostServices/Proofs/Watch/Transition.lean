import HostServices.Watch.Step

/-!
# What a step does

One lemma for each step says everything the step can do, so that invariants are proved without
opening the operations again. An install is at most two moves: `started`, when its callback is the
first, and then `replace`; `install_cases` says which of the two happen. The batch that a
replacement hands over is `owed?`.
-/

namespace HostServices.Watch

@[simp] theorem Slot.callback?_untouched {κ : Type} : (untouched : Slot κ).callback? = none := rfl

theorem Batch.count_next? {κ : Type} {b c : Batch κ} (h : b.next? = some c) :
    c.count + 1 = b.count ∧ c.signal = b.signal ∧ c.callback = b.callback := by
  unfold next? at h
  split at h
  · cases h; exact ⟨by simp only; omega, rfl, rfl⟩
  · cases h

theorem Batch.next?_eq_none {κ : Type} {b : Batch κ} : b.next? = none ↔ b.count = 1 := by
  have := b.count_pos
  unfold next?
  split
  · simp; omega
  · simp; omega

/-- The dispatcher will look at `s` before it reads again. -/
def Phase.WillCheck : Phase → Signal → Prop
  | .reading, _ => False
  | .receiving, _ => True
  | .scanning next others, s => s ∈ next :: others

@[simp] theorem Phase.willCheck_scan (todo : List Signal) (s : Signal) :
    (Phase.scan todo).WillCheck s ↔ s ∈ todo := by
  cases todo <;> simp [scan, WillCheck]

def Stats.ended (c : Stats) (panicked : Bool) : Stats :=
  if panicked then { c with callbackPanics := c.callbackPanics + 1 }
  else { c with callbacksRun := c.callbacksRun + 1 }

@[simp] theorem Stats.deliveries_ended (c : Stats) (panicked : Bool) :
    (c.ended panicked).deliveries = c.deliveries := by cases panicked <;> rfl

@[simp] theorem Stats.installs_ended (c : Stats) (panicked : Bool) :
    (c.ended panicked).installs = c.installs := by cases panicked <;> rfl

namespace Registry

variable {κ : Type} {r r' : Registry κ} {s u : Signal} {a : Action κ} {w : Bool}

/-- The dispatcher was started and has not ended. -/
def isLive (r : Registry κ) : Bool :=
  match r.dispatcher with
  | .live _ => true
  | _ => false

def inHand? (r : Registry κ) : Option (Batch κ) :=
  match r.dispatcher with
  | .live d => d.inHand
  | _ => none

theorem inHand?_of_live {d : Dispatcher κ} (hd : r.dispatcher = .live d) : r.inHand? = d.inHand := by
  rw [inHand?, hd]

theorem running?_eq (r : Registry κ) : r.running? = r.inHand?.map Batch.callback := by
  unfold running? inHand?
  rcases r.dispatcher with _ | ⟨phase, _ | b⟩ | _ <;> rfl

/-- The signal that the dispatcher looks at next, if it is free to. -/
def upNext? (r : Registry κ) : Option Signal :=
  match r.dispatcher with
  | .live ⟨.scanning s _, none⟩ => some s
  | _ => none

theorem isReading_iff (r : Registry κ) : r.isReading = true ↔ r.dispatcher = .live ⟨.reading, none⟩ := by
  unfold isReading
  split
  · next hd => simp [hd]
  · next hd => exact ⟨fun h => (Bool.false_ne_true h).elim, fun h => (hd h).elim⟩

def started (r : Registry κ) : Registry κ :=
  { r with dispatcher := .live ⟨.reading, none⟩, pipe := r.pipe.drained }

/-- The deliveries that replacing the callback of `s` would hand over. -/
def owed? (r : Registry κ) (s : Signal) : Option (Batch κ) :=
  match (r.slots.get s).callback? with
  | none => none
  | some k =>
    if h : 0 < (r.slots.get s).pending then some ⟨s, k, (r.slots.get s).pending, h⟩ else none

theorem owed?_of_free (h : (r.slots.get s).callback? = none) : r.owed? s = none := by
  unfold owed?
  split
  · rfl
  · next hk => rw [h] at hk; cases hk

theorem owed?_of_held {k : κ} (h : (r.slots.get s).callback? = some k) :
    r.owed? s =
      if hp : 0 < (r.slots.get s).pending then some ⟨s, k, (r.slots.get s).pending, hp⟩
      else none := by
  unfold owed?
  split
  · next hk => rw [h] at hk; cases hk
  · next hk => rw [h] at hk; cases hk; rfl

/-! ### Installing -/

@[simp] theorem started_slots (r : Registry κ) : r.started.slots = r.slots := rfl

theorem start_eq_ok {refused : Option Int} (h : r.start refused = .ok r') :
    (r.dispatcher ≠ .absent ∧ r' = r) ∨ (r.dispatcher = .absent ∧ r' = r.started) := by
  unfold start at h
  cases hd : r.dispatcher with
  | absent =>
    rw [hd] at h
    cases refused with
    | some number => cases h
    | none =>
      simp only at h
      split at h
      · cases h; exact .inr ⟨rfl, rfl⟩
      · cases h
  | live d => rw [hd] at h; cases h; exact .inl ⟨nofun, rfl⟩
  | ended => rw [hd] at h; cases h; exact .inl ⟨nofun, rfl⟩

theorem prepare_eq_ok {refused : Option Int} (h : r.prepare a refused = .ok r') :
    ((a.callback?.isSome → r.dispatcher ≠ .absent) ∧ r' = r) ∨
      (r.dispatcher = .absent ∧ r' = r.started) := by
  cases a with
  | custom k => exact (start_eq_ok h).imp_left fun h => ⟨fun _ => h.1, h.2⟩
  | default => cases h; exact .inl ⟨fun h => (Bool.false_ne_true h).elim, rfl⟩
  | ignore => cases h; exact .inl ⟨fun h => (Bool.false_ne_true h).elim, rfl⟩

/-- What an install comes to: nothing, the dispatcher's start alone, or a replacement that follows
the start if the action is a callback and the dispatcher was not there yet. -/
theorem install_cases (r : Registry κ) (s : Signal) (a : Action κ) (refused : Refusals) :
    (∃ e, r.install s a refused = (.error e, r)) ∨
    (∃ e, r.dispatcher = .absent ∧ r.install s a refused = (.error e, r.started)) ∨
    ((a.callback?.isSome → r.dispatcher ≠ .absent) ∧
      r.install s a refused = (.ok (r.current s), r.replace s a refused.wake)) ∨
    (r.dispatcher = .absent ∧
      r.install s a refused = (.ok (r.current s), r.started.replace s a refused.wake)) := by
  unfold install
  split
  · exact .inl ⟨_, rfl⟩
  split
  · exact .inl ⟨_, rfl⟩
  cases hp : r.prepare a refused.wakePipe with
  | error e => exact .inl ⟨e, rfl⟩
  | ok r₁ =>
    rcases prepare_eq_ok hp with ⟨hd, rfl⟩ | ⟨hd, rfl⟩
    · cases refused.handler with
      | none => exact .inr (.inr (.inl ⟨hd, rfl⟩))
      | some errno => exact .inl ⟨_, rfl⟩
    · cases refused.handler with
      | none => exact .inr (.inr (.inr ⟨hd, rfl⟩))
      | some errno => exact .inr (.inl ⟨_, hd, rfl⟩)

theorem enqueue_eq (r : Registry κ) (b : Batch κ) (w : Bool) :
    r.enqueue b w =
      { r with
        retired := if r.isLive then r.retired ++ [b] else r.retired
        pipe := if r.isLive && !w then r.pipe.write else r.pipe } := by
  obtain ⟨settings, slots, system, retired, pipe, dispatcher, stats⟩ := r
  cases dispatcher with
  | live d => cases w <;> rfl
  | absent => rfl
  | ended => rfl

/-- Retiring empties the counter of a slot with a callback and hands over what was counted. -/
theorem retire_eq (r : Registry κ) (s : Signal) (w : Bool) :
    r.retire s w =
      { r with
        slots := if (r.slots.get s).callback?.isSome then r.slots.set s (r.slots.get s).taken
          else r.slots
        retired := if r.isLive then r.retired ++ (r.owed? s).toList else r.retired
        pipe := if r.isLive && (r.owed? s).isSome && !w then r.pipe.write else r.pipe } := by
  simp only [retire]
  split
  · next hk => simp [hk, owed?_of_free hk]
  · next k hk =>
    split
    · next hp =>
      have hl (slots : Signal.Table (Slot κ)) : ({ r with slots } : Registry κ).isLive = r.isLive :=
        rfl
      simp [hk, owed?_of_held hk, hp, enqueue_eq, hl]
    · next hp => simp [hk, owed?_of_held hk, hp]

@[simp] theorem replace_system :
    (r.replace s a w).system = r.system.set s ⟨.ofAction a, r.settings.restart⟩ := by
  simp [replace, retire_eq]

@[simp] theorem replace_dispatcher : (r.replace s a w).dispatcher = r.dispatcher := by
  simp [replace, retire_eq]

@[simp] theorem isLive_replace : (r.replace s a w).isLive = r.isLive := by
  simp [isLive]

theorem replace_slots : (r.replace s a w).slots.get u =
    if u = s then
      ⟨some a, if (r.slots.get s).callback?.isSome then 0 else (r.slots.get s).pending⟩
    else r.slots.get u := by
  simp only [replace, retire_eq, Signal.Table.get_modify]
  by_cases hu : u = s
  · subst hu
    simp only [if_true]
    split <;> simp [Slot.taken]
  · simp only [hu, if_false]
    split <;> simp [Signal.Table.get_set, hu]

theorem replace_retired : (r.replace s a w).retired =
    if r.isLive then r.retired ++ (r.owed? s).toList else r.retired := by
  simp only [replace, retire_eq]
  rfl

theorem replace_pipe : (r.replace s a w).pipe =
    if r.isLive && (r.owed? s).isSome && !w then r.pipe.write else r.pipe := by
  simp only [replace, retire_eq]
  rfl

@[simp] theorem replace_deliveries :
    (r.replace s a w).stats.deliveries = r.stats.deliveries := by simp [replace, retire_eq]

@[simp] theorem replace_installs :
    (r.replace s a w).stats.installs = r.stats.installs + 1 := by simp [replace, retire_eq]

@[simp] theorem replace_callbacksRun :
    (r.replace s a w).stats.callbacksRun = r.stats.callbacksRun := by simp [replace, retire_eq]

@[simp] theorem replace_callbackPanics :
    (r.replace s a w).stats.callbackPanics = r.stats.callbackPanics := by simp [replace, retire_eq]

/-! ### Recording -/

theorem record_slots : (r.record s).slots.get u =
    if u = s then (r.slots.get u).record else r.slots.get u := by
  unfold record wake
  split <;> exact Signal.Table.get_modify _ _ _ _

theorem record_pipe : (r.record s).pipe = if r.isLive then r.pipe.write else r.pipe := by
  unfold record wake isLive
  cases hd : r.dispatcher <;> simp

@[simp] theorem record_dispatcher : (r.record s).dispatcher = r.dispatcher := by
  unfold record wake
  split <;> rfl

@[simp] theorem record_retired : (r.record s).retired = r.retired := by
  unfold record wake
  split <;> rfl

@[simp] theorem record_stats : (r.record s).stats = r.stats := by
  unfold record wake
  split <;> rfl

@[simp] theorem record_system : (r.record s).system = r.system := by
  unfold record wake
  split <;> rfl

/-! ### Dispatching -/

theorem read?_eq_some (h : r.read? = some r') :
    r.dispatcher = .live ⟨.reading, none⟩ ∧ 0 < r.pipe.held ∧
      r' = { r with dispatcher := .live ⟨.receiving, none⟩, pipe := r.pipe.read } := by
  unfold read? at h
  split at h
  · next hd =>
    split at h
    · cases h
    · cases h; exact ⟨hd, by omega, rfl⟩
  · cases h

theorem failRead?_eq_some {interrupted : Bool} (h : r.failRead? interrupted = some r') :
    r.dispatcher = .live ⟨.reading, none⟩ ∧
      r' = if interrupted then r else { r with dispatcher := .ended, retired := [] } := by
  unfold failRead? at h
  split at h
  · next hd => cases interrupted <;> (cases h; exact ⟨hd, rfl⟩)
  · cases h

theorem receive?_eq_some (h : r.receive? = some r') :
    r.dispatcher = .live ⟨.receiving, none⟩ ∧
      ((r.retired = [] ∧ r' = r.moveTo (.scan Signal.all) none) ∨
        ∃ b rest, r.retired = b :: rest ∧
          r' = { (r.countDeliveries b.count).moveTo .receiving (some b) with retired := rest }) := by
  unfold receive? at h
  split at h
  · next hd =>
    split at h
    · next hq => cases h; exact ⟨hd, .inl ⟨hq, rfl⟩⟩
    · next b rest hq => cases h; exact ⟨hd, .inr ⟨b, rest, hq, rfl⟩⟩
  · cases h

/-- A look at a signal with nothing counted takes nothing, and is no case of its own. -/
theorem check?_eq_some (h : r.check? = some r') :
    ∃ s others, r.dispatcher = .live ⟨.scanning s others, none⟩ ∧
      r' = { (r.countDeliveries (r.slots.get s).pending).moveTo (.scan others) (r.owed? s) with
        slots := r.slots.set s (r.slots.get s).taken } := by
  unfold check? at h
  split at h
  · next s others hd =>
    refine ⟨s, others, hd, ?_⟩
    simp only at h
    split at h
    · next hp =>
      cases h
      have : (r.slots.get s).callback?.map (fun k => ⟨s, k, _, hp⟩) = r.owed? s := by
        cases hk : (r.slots.get s).callback? with
        | none => simp [owed?_of_free hk]
        | some k => simp [owed?_of_held hk, hp]
      rw [this]
      rfl
    · next hp =>
      cases h
      have hz : (r.slots.get s).pending = 0 := by omega
      have ho : r.owed? s = none := by
        cases hk : (r.slots.get s).callback? with
        | none => exact owed?_of_free hk
        | some k => simp [owed?_of_held hk, hz]
      have ht : (r.slots.get s).taken = r.slots.get s := by
        simp only [Slot.taken, ← hz]
      rw [ho, hz, ht, Signal.Table.set_get]
      rfl
  · cases h

theorem finish?_eq_some {panicked : Bool} (h : r.finish? panicked = some r') :
    ∃ phase b, r.dispatcher = .live ⟨phase, some b⟩ ∧
      r' = { r.moveTo phase b.next? with stats := r.stats.ended panicked } := by
  unfold finish? at h
  split at h
  · next phase b hd => cases h; exact ⟨phase, b, hd, rfl⟩
  · cases h

end Registry

end HostServices.Watch
