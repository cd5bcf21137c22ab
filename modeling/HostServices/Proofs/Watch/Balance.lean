import HostServices.Proofs.Watch.Wake

/-!
# The books balance

Read off in numbers, a complete ledger says that the registry's own statistics account for every run
of the handler: what is counted, what is in the channel and what was dispatched add up to them.
-/

namespace HostServices.Watch

variable {κ : Type}

/-- The deliveries that a step drops: those that the dispatcher takes from a slot without a
callback. -/
def Registry.drops (r : Registry κ) : Step κ → Nat
  | .check =>
    match r.upNext? with
    | some s => if (r.slots.get s).callback?.isNone then (r.slots.get s).pending else 0
    | none => 0
  | _ => 0

namespace Ledger

variable {l : Ledger κ} {r r' : Registry κ} {x : Step κ}

/-- Deliveries are dropped only for want of a callback. -/
theorem length_dropped_next (h : l.Agrees r) :
    (l.next r x r').dropped.length = l.dropped.length + r.drops x := by
  cases x with
  | check =>
    simp only [next, Registry.drops]
    cases hu : r.upNext? with
    | none => rfl
    | some s =>
      have hw := h.waiting s
      simp only [take, List.length_append, Nat.add_left_cancel_iff]
      cases hk : (r.slots.get s).callback? with
      | none =>
        simp [h.parcel?_of_free hk, hw]
      | some k =>
        cases hp : l.parcel? s with
        | some p => rfl
        | none =>
          rcases parcel?_eq_none hp with ht | he
          · rw [h.free, hk] at ht
            cases ht
          · simp [he]
  | install s a refused =>
    simp only [next]
    split <;> simp [appoint, note, Registry.drops]
  | record s => rfl
  | failRead interrupted => cases interrupted <;> rfl
  | receive =>
    simp only [next]
    split <;> simp [Registry.drops]
  | finish panicked =>
    simp only [next]
    split <;> simp [Registry.drops]
  | overrule s h => rfl
  | read => rfl

end Ledger

/-- Every invocation has returned or panicked. -/
theorem Ledger.Agrees.length_invocations {l : Ledger κ} {r : Registry κ} (h : l.Agrees r) :
    l.invocations.length = r.stats.callbacksRun + r.stats.callbackPanics := by
  rw [← h.run, ← h.panics, List.length_eq_countP_add_countP fun v : Invocation κ => !v.panicked]
  simp only [Bool.not_eq_true, Bool.not_eq_false', Bool.decide_eq_true]

/-- A move is one successful install at most. -/
theorem Move.installs_le {x : Step κ} {r r' : Registry κ} {l l' : Ledger κ}
    (m : Move x r l r' l') : r'.stats.installs ≤ r.stats.installs + 1 := by
  cases m with
  | replace => simp
  | record => simp
  | finish => simp [Stats.installs_ended]
  | _ => exact Nat.le_succ _

namespace History

variable {allowed : Registry κ → Step κ → Prop} {steps : List (Step κ)} {r : Registry κ}
  {l : Ledger κ}

theorem installs_le_length (h : History allowed steps r l) :
    r.stats.installs ≤ steps.length := by
  obtain ⟨settings, system, pipe, -, hc⟩ := h
  induction hc with
  | refl => exact Nat.le_refl 0
  | @step steps r r' l x _ _ hx ih =>
    rw [List.length_append, List.length_singleton]
    refine Nat.le_trans ?_ (Nat.succ_le_succ ih)
    rcases Move.of_step (l := l) hx with hm | ⟨_, _, _, -, -, hm⟩
    · exact hm.installs_le
    · exact hm.installs_le

/-- No counter has counted more than there were steps, so counters of 64 bits do as well for any run
of fewer than `2 ^ 64` steps. -/
theorem stats_le_length (h : History allowed steps r l) :
    r.stats.installs ≤ steps.length ∧ r.stats.deliveries ≤ steps.length ∧
      r.stats.callbacksRun + r.stats.callbackPanics ≤ r.stats.deliveries := by
  have ha := h.agrees
  have hheld := h.complete.held.length_eq
  rw [Ledger.length_held ha, h.length_recorded] at hheld
  have hdel := ha.deliveries
  have hrecords := List.countP_le_length (p := Step.isRecord) (l := steps)
  refine ⟨h.installs_le_length, ?_, ?_⟩
  · omega
  · rw [← ha.length_invocations]
    omega

/-- The books balance. Until the dispatcher ends, every run of the handler is in a counter, in a batch
in the channel or in `deliveries`, and every one in `deliveries` was run, has panicked, was dropped
for want of a callback or belongs to the batch in hand. At rest with an empty channel there are no
others. The counters are taken for such as never come round to zero (`stats_le_length`). -/
theorem books_balance (h : History Registry.HasRoom steps r l) (he : r.dispatcher ≠ .ended) :
    steps.countP Step.isRecord = (Signal.all.map fun s => (r.slots.get s).pending).sum +
        (r.retired.map Batch.count).sum + r.stats.deliveries ∧
      r.stats.deliveries = r.stats.callbacksRun + r.stats.callbackPanics + l.dropped.length +
        r.inHand?.elim 0 Batch.count ∧
      (∀ x r', (l.next r x r').dropped.length = l.dropped.length + r.drops x) ∧
      (History Registry.HasShown steps r l → r.IsIdle → r.retired = [] →
        steps.countP Step.isRecord = r.stats.deliveries ∧
          r.stats.deliveries =
            r.stats.callbacksRun + r.stats.callbackPanics + l.dropped.length) := by
  have ha := h.agrees
  have hdel : r.stats.deliveries = r.stats.callbacksRun + r.stats.callbackPanics +
      l.dropped.length + r.inHand?.elim 0 Batch.count := by
    have := ha.deliveries
    rw [ha.length_invocations, ha.carried_eq] at this
    omega
  have hrec : steps.countP Step.isRecord = (Signal.all.map fun s => (r.slots.get s).pending).sum +
      (r.retired.map Batch.count).sum + r.stats.deliveries := by
    have hheld := h.complete.held.length_eq
    rw [Ledger.length_held ha, h.attended.discarded he, h.wrapped fun _ _ hx => hx,
      h.length_recorded] at hheld
    have := ha.deliveries
    simp only [List.length_nil] at hheld
    omega
  refine ⟨hrec, hdel, fun x r' => Ledger.length_dropped_next ha, fun hs hi hq => ?_⟩
  have hz := (hs.alert fun _ _ hx => hx).sum_pending_of_idle hi
  have hhand : r.inHand?.elim 0 Batch.count = 0 := by
    rw [Registry.inHand?, hi.1]
    rfl
  rw [hq] at hrec
  simp only [List.map_nil, List.sum_nil] at hrec
  exact ⟨by omega, by omega⟩

/-- A callback panics, and it is replaced in the middle of its batch, the wake byte refused. -/
theorem exists_unsettled_books :
    ∃ (steps : List (Step Bool)) (r : Registry Bool) (l : Ledger Bool),
      History Registry.HasRoom steps r l ∧ r.dispatcher ≠ .ended ∧
        steps.countP Step.isRecord = 3 ∧ r.retired.map Batch.count = [1] ∧
        r.stats.callbackPanics = 1 ∧ r.inHand?.elim 0 Batch.count = 1 ∧
        steps.countP Step.isRecord = (Signal.all.map fun s => (r.slots.get s).pending).sum +
          (r.retired.map Batch.count).sum + r.stats.deliveries ∧
        r.stats.deliveries = r.stats.callbacksRun + r.stats.callbackPanics + l.dropped.length +
          r.inHand?.elim 0 Batch.count := by
  let steps : List (Step Bool) :=
    [.install .usr1 (.custom true) .nothing, .record .usr1, .record .usr1, .read, .receive] ++
      List.replicate (Signal.all.idxOf .usr1 + 1) .check ++
      [.finish true, .record .usr1, .install .usr1 .default ⟨none, none, true⟩]
  have hr : ∃ r ∈ (Registry.empty .standard .fresh .standard).run? steps,
      r.isLive ∧ r.retired.map Batch.count = [1] ∧ r.stats.callbackPanics = 1 ∧
        r.inHand?.elim 0 Batch.count = 1 := by decide
  obtain ⟨r, hr, hl, hq, hp, hi⟩ := hr
  obtain ⟨l, h⟩ : ∃ l, History (fun _ _ => True) steps r l :=
    of_run? System.handler_fresh (fun _ _ _ => trivial) hr
  have h : History Registry.HasRoom steps r l := (h.hasRoom (by decide)).mono fun _ _ hx => hx.2
  have he : r.dispatcher ≠ .ended := (Registry.isLive_iff.1 hl).2
  obtain ⟨hrec, hdel, -⟩ := h.books_balance he
  exact ⟨steps, r, l, h, he, by decide, hq, hp, hi, hrec, hdel⟩

end History

end HostServices.Watch
