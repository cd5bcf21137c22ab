import HostServices.Proofs.Watch.History
import Mathlib.Data.List.Forall2

/-!
# The ledger keeps up with the registry

Over every run the ledger agrees with the registry (`History.agrees`): what it names is what the
counters, the batches and the statistics count.
-/

namespace HostServices.Watch

variable {κ : Type}

/-- The parcel is what the registry knows as the batch. -/
structure Parcel.Carries (p : Parcel κ) (b : Batch κ) : Prop where
  signal : p.signal = b.signal
  callback : p.tenure.callback = b.callback
  count : p.deliveries.length = b.count

namespace Ledger

/-- The ledger agrees with the registry. -/
structure Agrees (l : Ledger κ) (r : Registry κ) : Prop where
  tenures : ∀ s, (l.tenures.get s).map Tenure.callback = (r.slots.get s).callback?
  waiting : ∀ s, (l.waiting.get s).length = (r.slots.get s).pending
  bounded : ∀ s, (r.slots.get s).pending < 2 ^ 32
  queued : List.Forall₂ (fun q b => q.parcel.Carries b) l.queued r.retired
  inHand : Option.Rel Parcel.Carries l.inHand r.inHand?
  run : l.invocations.countP (fun v => !v.panicked) = r.stats.callbacksRun
  panics : l.invocations.countP (fun v => v.panicked) = r.stats.callbackPanics
  deliveries : r.stats.deliveries =
    l.invocations.length + l.carried + l.dropped.length

variable {l : Ledger κ} {r r' : Registry κ} {s : Signal}

theorem agrees_empty (settings : Settings) (system : System) (pipe : Pipe) :
    Agrees (κ := κ) .empty (.empty settings system pipe) where
  tenures s := by simp [empty, Registry.empty]
  waiting s := by simp [empty, Registry.empty, Slot.untouched]
  bounded s := by simp [Registry.empty, Slot.untouched]
  queued := .nil
  inHand := .none
  run := rfl
  panics := rfl
  deliveries := rfl

namespace Agrees

/-- What the ledger takes out of a counter is what the registry takes. -/
theorem parcel (h : l.Agrees r) (s : Signal) :
    Option.Rel Parcel.Carries (l.parcel? s) (r.owed? s) := by
  have ht := h.tenures s
  have hw := h.waiting s
  unfold parcel?
  cases htn : l.tenures.get s with
  | none =>
    rw [htn] at ht
    rw [Registry.owed?_of_free ht.symm]
    exact .none
  | some t =>
    rw [htn] at ht
    rw [Registry.owed?_of_held ht.symm]
    cases hwt : l.waiting.get s with
    | nil =>
      rw [hwt] at hw
      rw [dif_neg (by simp [← hw])]
      exact .none
    | cons d rest =>
      rw [hwt] at hw
      rw [dif_pos (by simp [← hw])]
      exact .some ⟨rfl, rfl, hw⟩

theorem free (h : l.Agrees r) : l.tenures.get s = none ↔ (r.slots.get s).callback? = none := by
  rw [← h.tenures s, Option.map_eq_none_iff]

theorem parcel?_of_free (h : l.Agrees r) (hk : (r.slots.get s).callback? = none) :
    l.parcel? s = none := by rw [parcel?, h.free.2 hk]

theorem inHand_none (h : l.Agrees r) (hd : r.inHand? = none) : l.inHand = none := by
  have hi := h.inHand
  rw [hd] at hi
  generalize l.inHand = carried at hi
  cases hi
  rfl

theorem inHand_some (h : l.Agrees r) {b : Batch κ} (hd : r.inHand? = some b) :
    ∃ p, l.inHand = some p ∧ p.Carries b := by
  have hi := h.inHand
  rw [hd] at hi
  generalize l.inHand = carried at hi
  cases hi with
  | some hc => exact ⟨_, rfl, hc⟩

theorem carried_eq (h : l.Agrees r) : l.carried = r.inHand?.elim 0 Batch.count := by
  have hi := h.inHand
  unfold Ledger.carried
  generalize l.inHand = p at hi
  generalize r.inHand? = b at hi
  cases hi with
  | none => rfl
  | some hc => exact hc.count

theorem started (h : l.Agrees r) (hd : r.dispatcher = .absent) : l.Agrees r.started := by
  have hi : l.inHand = none := h.inHand_none (by rw [Registry.inHand?, hd])
  exact { h with inHand := by rw [hi]; exact .none }

theorem replace (h : l.Agrees r) {a : Action κ} {w : Bool} {n : Nat} {t : Option (Tenure κ)}
    (ht : t = a.callback?.map (Tenure.mk n)) :
    ((l.retire s r.isLive w).appoint s t).Agrees (r.replace s a w) where
  tenures u := by
    simp only [appoint, retire_tenures, Signal.Table.get_set, Registry.replace_slots]
    split
    · rw [ht]
      cases a <;> rfl
    · exact h.tenures u
  waiting u := by
    simp only [appoint, retire_waiting, Registry.replace_slots]
    have hs : (l.tenures.get s).isSome = (r.slots.get s).callback?.isSome := by
      rw [← h.tenures s, Option.isSome_map]
    by_cases hu : u = s
    · subst hu
      simp only [true_and, if_true, hs]
      split
      · rfl
      · exact h.waiting u
    · simp only [hu, false_and, if_false]
      exact h.waiting u
  bounded u := by
    simp only [Registry.replace_slots]
    split
    · have := h.bounded s
      simp only
      split <;> omega
    · exact h.bounded u
  queued := by
    simp only [appoint, retire_queued, Registry.replace_retired]
    split
    · refine List.rel_append h.queued ?_
      have hc := h.parcel s
      generalize l.parcel? s = p at hc
      generalize r.owed? s = b at hc
      cases hc with
      | none => exact .nil
      | some hc => exact .cons hc .nil
    · exact h.queued
  inHand := by
    simp only [appoint, retire_inHand, Registry.inHand?, Registry.replace_dispatcher]
    exact h.inHand
  run := by simpa [appoint] using h.run
  panics := by simpa [appoint] using h.panics
  deliveries := by simpa [appoint, carried] using h.deliveries

theorem record (h : l.Agrees r) : (l.record s).Agrees (r.record s) := by
  have hw := h.waiting s
  have hb := h.bounded s
  refine ⟨fun u => ?_, fun u => ?_, fun u => ?_, ?_, ?_, ?_, ?_, ?_⟩
  · simp only [Ledger.record, Registry.record_slots]
    split
    · exact h.tenures u
    · exact h.tenures u
  · simp only [Ledger.record, Registry.record_slots, Signal.Table.get_set]
    by_cases hu : u = s
    · subst hu
      simp only [if_true, Slot.record, UInt32.size, List.length_append, List.length_singleton, hw]
      split
      · next hf =>
        simp only [List.length_append, List.length_singleton, hw]
        omega
      · next hf =>
        simp only [List.length_nil]
        omega
    · simp only [hu, if_false]
      exact h.waiting u
  · rw [Registry.record_slots]
    split
    · exact Nat.mod_lt _ (by decide)
    · exact h.bounded u
  · simpa [Ledger.record] using h.queued
  · simpa [Ledger.record, Registry.inHand?] using h.inHand
  · simpa [Ledger.record] using h.run
  · simpa [Ledger.record] using h.panics
  · simpa [Ledger.record, carried] using h.deliveries

theorem discardQueue (h : l.Agrees r) (hd : r.inHand? = none) :
    l.discardQueue.Agrees { r with dispatcher := .ended, retired := [] } := by
  refine { h with queued := .nil, inHand := ?_ }
  show Option.Rel Parcel.Carries l.inHand none
  rw [h.inHand_none hd]
  exact .none

theorem receive (h : l.Agrees r) {b : Batch κ} {rest : List (Batch κ)}
    (hd : r.inHand? = none) (hq : r.retired = b :: rest) :
    l.receive.Agrees
      { (r.countDeliveries b.count).moveTo .receiving (some b) with retired := rest } := by
  have hc := h.queued
  have hs := h.deliveries
  rw [hq] at hc
  rw [carried, h.inHand_none hd] at hs
  unfold Ledger.receive
  cases hl : l.queued with
  | nil => rw [hl] at hc; cases hc
  | cons q tail =>
    rw [hl] at hc
    cases hc with
    | cons hb hrest =>
      refine { h with queued := hrest, inHand := .some hb, deliveries := ?_ }
      simp only [Registry.countDeliveries, Registry.moveTo, carried, Option.elim, hs, hb.count]
      omega

theorem take (h : l.Agrees r) {phase : Phase} (hd : r.inHand? = none) :
    (l.take s).Agrees
      { (r.countDeliveries (r.slots.get s).pending).moveTo phase (r.owed? s) with
        slots := r.slots.set s (r.slots.get s).taken } := by
  refine { h with
    tenures := fun u => ?_, waiting := fun u => ?_, bounded := fun u => ?_, inHand := h.parcel s,
    deliveries := ?_ }
  · simp only [Signal.Table.get_set]
    split
    · next hu => subst hu; exact h.tenures u
    · exact h.tenures u
  · simp only [Ledger.take, Signal.Table.get_set]
    split
    · rfl
    · exact h.waiting u
  · simp only [Signal.Table.get_set]
    split
    · exact Nat.two_pow_pos 32
    · exact h.bounded u
  · have hs := h.deliveries
    have hw := h.waiting s
    rw [carried, h.inHand_none hd] at hs
    simp only [Registry.countDeliveries, Registry.moveTo, Ledger.take, carried, hs, ← hw]
    cases hp : l.parcel? s with
    | none => simp; omega
    | some p => simp [(Ledger.parcel?_eq_some hp).2.2.1]; omega

theorem finish (h : l.Agrees r) {phase : Phase} {b : Batch κ} {panicked : Bool}
    (hd : r.dispatcher = .live ⟨phase, some b⟩) (k : κ) :
    (l.finish k panicked).Agrees
      { r.moveTo phase b.next? with stats := r.stats.ended panicked } := by
  obtain ⟨p, hp, hc⟩ := h.inHand_some (b := b) (Registry.inHand?_of_live hd)
  obtain ⟨s, t, deliveries⟩ := p
  have hs := h.deliveries
  have hcount := hc.count
  unfold Ledger.finish
  rw [carried] at hs
  rw [hp] at hs ⊢
  cases deliveries with
  | nil => have := b.count_pos; simp at hcount; omega
  | cons d rest =>
    simp only [List.length_cons] at hcount
    refine { h with inHand := ?_, run := ?_, panics := ?_, deliveries := ?_ }
    · cases rest with
      | nil =>
        simp only [Registry.inHand?, Registry.moveTo]
        rw [Batch.next?_eq_none.2 (by simpa using hcount.symm)]
        exact .none
      | cons d' rest =>
        cases hn : b.next? with
        | none =>
          have := Batch.next?_eq_none.1 hn
          simp at hcount
          omega
        | some c =>
          obtain ⟨hcn, hsn, hkn⟩ := Batch.count_next? hn
          refine .some ⟨hc.signal.trans hsn.symm, hc.callback.trans hkn.symm, ?_⟩
          simp only [List.length_cons] at hcount ⊢
          omega
    · have := h.run
      cases panicked <;> simp [Stats.ended, this]
    · have := h.panics
      cases panicked <;> simp [Stats.ended, this]
    · simp only [Stats.deliveries_ended, carried, hs, Option.elim, List.length_append, List.length_cons,
        List.length_nil]
      cases rest with
      | nil => simp
      | cons d' rest => simp only [List.isEmpty_cons, Bool.false_eq_true, if_false]; omega

/-- An invocation that ends is one fewer that is owed. -/
theorem carried_finish (h : l.Agrees r) {phase : Phase} {b : Batch κ}
    (hd : r.dispatcher = .live ⟨phase, some b⟩) (k : κ) (panicked : Bool) :
    (l.finish k panicked).carried + 1 = l.carried := by
  obtain ⟨⟨s, t, deliveries⟩, hi, hc⟩ := h.inHand_some (b := b) (Registry.inHand?_of_live hd)
  have := b.count_pos
  have hcount := hc.count
  unfold Ledger.finish Ledger.carried
  rw [hi]
  cases deliveries with
  | nil => simp only [List.length_nil] at hcount; omega
  | cons d rest =>
    cases rest with
    | nil => rfl
    | cons d' rest => rfl

theorem note (h : l.Agrees r) (r₁ r₂ : Registry κ) : (l.note r₁ r₂).Agrees r := { h with }

theorem move {x : Step κ} {l' : Ledger κ} (h : l.Agrees r) (m : Move x r l r' l') :
    l'.Agrees r' := by
  cases m with
  | nothing => exact h
  | start hd => exact h.started hd
  | replace _ ht => exact (h.note _ _).replace ht
  | record => exact (h.note _ _).record
  | overrule => exact { h with }
  | read hd =>
    have hi : r.inHand? = none := Registry.inHand?_of_live hd
    exact { h with inHand := by rw [h.inHand_none hi]; exact .none }
  | close hd => exact h.discardQueue (Registry.inHand?_of_live hd)
  | turn hd =>
    have hi : r.inHand? = none := Registry.inHand?_of_live hd
    exact { h with inHand := by rw [h.inHand_none hi]; exact .none }
  | receive hd hq => exact h.receive (Registry.inHand?_of_live hd) hq
  | take hd => exact h.take (Registry.inHand?_of_live hd)
  | finish hd => exact h.finish hd _

end Agrees

end Ledger

/-- What every allowed move keeps while the ledger agrees is kept by a course, which also keeps the
ledger in agreement. -/
theorem Course.invariant {allowed : Registry κ → Step κ → Prop} {steps : List (Step κ)}
    {r r' : Registry κ} {l l' : Ledger κ} {P : Registry κ → Ledger κ → Prop}
    (install : ∀ {r s a refused}, allowed r (.install s a refused) →
      allowed r.started (.install s a refused))
    (move : ∀ {x r l r' l'}, allowed r x → l.Agrees r → P r l → Move x r l r' l' → P r' l')
    (hc : Course allowed r l steps r' l') (ha : l.Agrees r) (start : P r l) :
    l'.Agrees r' ∧ P r' l' := by
  refine hc.rule (P := fun r l => l.Agrees r ∧ P r l) ?_ (fun hx ih m => ?_) ⟨ha, start⟩
  · exact install
  · exact ⟨ih.1.move m, move hx ih.1 ih.2 m⟩

theorem Ledger.Agrees.course {allowed : Registry κ → Step κ → Prop} {steps : List (Step κ)}
    {r r' : Registry κ} {l l' : Ledger κ} (h : l.Agrees r) (hc : Course allowed r l steps r' l') :
    l'.Agrees r' := by
  have hc : Course (fun _ _ => True) r l steps r' l' := hc.mono fun _ _ _ => trivial
  exact (hc.invariant (P := fun _ _ => True) id (fun _ _ _ _ => trivial) h trivial).1

namespace History

variable {allowed : Registry κ → Step κ → Prop} {steps : List (Step κ)} {r : Registry κ}
  {l : Ledger κ}

/-- The ledger of a run agrees with the registry. -/
theorem agrees (h : History allowed steps r l) : l.Agrees r := by
  obtain ⟨settings, system, pipe, -, hc⟩ := h
  exact (Ledger.agrees_empty settings system pipe).course hc

/-- What holds of an empty registry and is kept by every allowed move while the ledger agrees holds
in every history. -/
theorem invariant {P : Registry κ → Ledger κ → Prop}
    (install : ∀ {r s a refused}, allowed r (.install s a refused) →
      allowed r.started (.install s a refused))
    (start : ∀ (settings : Settings) (system : System) (pipe : Pipe),
      (∀ s, (system.get s).handler ≠ .recorder) → P (.empty settings system pipe) .empty)
    (move : ∀ {x r l r' l'}, allowed r x → l.Agrees r → P r l → Move x r l r' l' → P r' l')
    (h : History allowed steps r l) : P r l := by
  obtain ⟨settings, system, pipe, hs, hc⟩ := h
  refine (hc.invariant ?_ move (Ledger.agrees_empty _ _ _) (start settings system pipe hs)).2
  exact install

end History

end HostServices.Watch
