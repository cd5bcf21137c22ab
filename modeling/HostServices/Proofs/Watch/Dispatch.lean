import HostServices.Proofs.Watch.Attendance

/-!
# Every delivery is dispatched once, to the callback it was recorded for

`Rightful` says of every place in the ledger that the deliveries there belong to the tenure that the
place is about. With a complete ledger, in which a delivery is in one place only, this leaves a
delivery one way to go: to an invocation of the callback that its signal had when it was recorded.
-/

namespace HostServices.Watch

variable {κ : Type}

/-- The parcel is of one signal and of one tenure. -/
def Parcel.IsUniform (p : Parcel κ) : Prop :=
  ∀ d ∈ p.deliveries, d.signal = p.signal ∧ d.tenure = some p.tenure

/-- Every delivery is where its tenure belongs, as long as installs alone put the registry's handler
in place. -/
structure Rightful (r : Registry κ) (l : Ledger κ) : Prop where
  held : ∀ s, (r.system.get s).handler = .recorder → ∃ t, l.tenures.get s = some t
  earlier : ∀ s t, l.tenures.get s = some t → t.number < r.stats.installs
  recorded : ∀ d ∈ l.recorded, ∃ t, d.tenure = some t ∧ t.number < r.stats.installs
  waiting : ∀ s, ∀ d ∈ l.waiting.get s,
    d.signal = s ∧ d.tenure = l.tenures.get s ∧ ∃ t, l.tenures.get s = some t
  queued : ∀ q ∈ l.queued, q.parcel.IsUniform
  inHand : ∀ p, l.inHand = some p → p.IsUniform
  invoked : ∀ v ∈ l.invocations,
    v.delivery.tenure = some v.tenure ∧ v.callback = v.tenure.callback
  dropped : l.dropped = []

namespace Rightful

variable {r r' : Registry κ} {l l' : Ledger κ} {s : Signal}

theorem empty (settings : Settings) (system : System) (pipe : Pipe)
    (h : ∀ s, (system.get s).handler ≠ .recorder) :
    Rightful (κ := κ) (.empty settings system pipe) .empty where
  held s hs := (h s hs).elim
  earlier s t ht := by simp [Ledger.empty] at ht
  recorded := nofun
  waiting s d hd := by simp [Ledger.empty] at hd
  queued := nofun
  inHand := nofun
  invoked := nofun
  dropped := rfl

theorem note (h : Rightful r l) (r₁ r₂ : Registry κ) : Rightful r (l.note r₁ r₂) := { h with }

/-- What is taken out of a counter is of one signal and of one tenure. -/
theorem parcel (h : Rightful r l) {p : Parcel κ} (hp : l.parcel? s = some p) : p.IsUniform := by
  obtain ⟨hs, ht, hw, -⟩ := Ledger.parcel?_eq_some hp
  intro d hd
  rw [← hw] at hd
  obtain ⟨hds, hdt, -⟩ := h.waiting s d hd
  exact ⟨hds.trans hs.symm, hdt.trans ht⟩

/-- Without a callback nothing is counted. -/
theorem waiting_of_parcel?_none (h : Rightful r l) (hp : l.parcel? s = none) :
    l.waiting.get s = [] := by
  rcases Ledger.parcel?_eq_none hp with ht | hw
  · refine List.eq_nil_iff_forall_not_mem.2 fun d hd => ?_
    obtain ⟨-, -, t, ht'⟩ := h.waiting s d hd
    rw [ht] at ht'
    cases ht'
  · exact hw

theorem replace (h : Rightful r l) {a : Action κ} {w : Bool} {t : Option (Tenure κ)}
    (ht : t = a.callback?.map (Tenure.mk r.stats.installs)) :
    Rightful (r.replace s a w) ((l.retire s r.isLive w).appoint s t) where
  held u hu := by
    simp only [Registry.replace_system, Signal.Table.get_set] at hu
    simp only [Ledger.appoint, Ledger.retire_tenures, Signal.Table.get_set]
    split at hu
    · next he =>
      subst ht
      cases a with
      | custom k => exact ⟨⟨r.stats.installs, k⟩, by simp [he, Action.callback?]⟩
      | default => cases hu
      | ignore => cases hu
    · next he =>
      rw [if_neg he]
      exact h.held u hu
  earlier u t' ht' := by
    simp only [Ledger.appoint, Ledger.retire_tenures, Signal.Table.get_set] at ht'
    rw [Registry.replace_installs]
    split at ht'
    · rw [ht, Option.map_eq_some_iff] at ht'
      obtain ⟨k, -, rfl⟩ := ht'
      exact Nat.lt_succ_self _
    · exact Nat.lt_succ_of_lt (h.earlier u t' ht')
  recorded d hd := by
    simp only [Ledger.appoint, Ledger.retire_recorded] at hd
    obtain ⟨t', ht', hn⟩ := h.recorded d hd
    exact ⟨t', ht', by rw [Registry.replace_installs]; exact Nat.lt_succ_of_lt hn⟩
  waiting u d hd := by
    simp only [Ledger.appoint, Ledger.retire_waiting] at hd
    split at hd
    · cases hd
    · next he =>
      obtain ⟨hs, hdt, t', ht'⟩ := h.waiting u d hd
      -- a slot with deliveries counted is one with a callback, so `u` is not the replaced one
      have hu : u ≠ s := by
        rintro rfl
        exact he ⟨rfl, by rw [ht']; rfl⟩
      simp only [Ledger.appoint, Ledger.retire_tenures, Signal.Table.get_set, hu, if_false]
      exact ⟨hs, hdt, t', ht'⟩
  queued q hq := by
    obtain ⟨new, hn, hnew⟩ := l.exists_queued_replace s r.isLive w t
    rw [hn, List.mem_append] at hq
    rcases hq with hq | hq
    · exact h.queued q hq
    · exact h.parcel (hnew q hq).2.2
  inHand := by simpa [Ledger.appoint] using h.inHand
  invoked := by simpa [Ledger.appoint] using h.invoked
  dropped := by simpa [Ledger.appoint] using h.dropped

theorem record (h : Rightful r l) (hs : (r.system.get s).handler = .recorder) :
    Rightful (r.record s) (l.record s) := by
  obtain ⟨t, ht⟩ := h.held s hs
  refine { h with
    held := ?_, earlier := ?_, recorded := fun d hd => ?_, waiting := fun u d hd => ?_ }
  · rw [Registry.record_system]
    exact h.held
  · rw [Registry.record_stats]
    exact h.earlier
  · rw [Registry.record_stats]
    rcases List.mem_append.1 hd with hd | hd
    · exact h.recorded d hd
    · rw [List.mem_singleton.1 hd]
      exact ⟨t, ht, h.earlier s t ht⟩
  · simp only [Ledger.record, Signal.Table.get_set] at hd
    split at hd
    · next hu =>
      subst hu
      split at hd
      · rcases List.mem_append.1 hd with hd | hd
        · exact h.waiting u d hd
        · rw [List.mem_singleton.1 hd]
          exact ⟨rfl, rfl, t, ht⟩
      · cases hd
    · exact h.waiting u d hd

theorem overrule (h : Rightful r l) {handler : Handler} (hx : handler ≠ .recorder) :
    Rightful (r.overrule s handler) l := by
  refine { h with held := fun u hu => ?_ }
  simp only [Registry.overrule, Signal.Table.get_set] at hu
  split at hu
  · exact (hx hu).elim
  · exact h.held u hu

theorem receive (h : Rightful r l) {b : Batch κ} {rest : List (Batch κ)} :
    Rightful { (r.countDeliveries b.count).moveTo .receiving (some b) with retired := rest }
      l.receive where
  held := by rw [Ledger.receive_tenures]; exact h.held
  earlier := by rw [Ledger.receive_tenures]; exact h.earlier
  recorded := by rw [Ledger.receive_recorded]; exact h.recorded
  waiting := by rw [Ledger.receive_tenures, Ledger.receive_waiting]; exact h.waiting
  queued q hq := by
    rw [Ledger.receive_queued] at hq
    exact h.queued q (List.mem_of_mem_tail hq)
  inHand p hp := by
    unfold Ledger.receive at hp
    split at hp
    · exact h.inHand p hp
    · next q rest hq =>
      cases hp
      exact h.queued q (by rw [hq]; exact List.mem_cons_self)
  invoked := by rw [Ledger.receive_invocations]; exact h.invoked
  dropped := by rw [Ledger.receive_dropped]; exact h.dropped

theorem take (h : Rightful r l) {phase : Phase} :
    Rightful { (r.countDeliveries (r.slots.get s).pending).moveTo phase (r.owed? s) with
      slots := r.slots.set s (r.slots.get s).taken } (l.take s) := by
  refine { h with waiting := fun u d hd => ?_, inHand := fun p hp => h.parcel hp, dropped := ?_ }
  · simp only [Ledger.take, Signal.Table.get_set] at hd
    split at hd
    · cases hd
    · exact h.waiting u d hd
  · show l.dropped ++ _ = []
    rw [h.dropped]
    cases hp : l.parcel? s with
    | some p => rfl
    | none => simp [h.waiting_of_parcel?_none hp]

theorem finish (h : Rightful r l) (ha : l.Agrees r) {phase : Phase} {b : Batch κ} {panicked : Bool}
    (hd : r.dispatcher = .live ⟨phase, some b⟩) :
    Rightful { r.moveTo phase b.next? with stats := r.stats.ended panicked }
      (l.finish b.callback panicked) := by
  obtain ⟨⟨s, t, deliveries⟩, hi, hc⟩ := ha.inHand_some (b := b) (Registry.inHand?_of_live hd)
  have hp := h.inHand _ hi
  unfold Ledger.finish
  rw [hi]
  cases deliveries with
  | nil =>
    have := b.count_pos
    have hcount : 0 = b.count := hc.count
    omega
  | cons d rest =>
    refine { h with
      earlier := ?_, recorded := ?_, inHand := fun p hp' => ?_, invoked := fun v hv => ?_ }
    · rw [Stats.installs_ended]
      exact h.earlier
    · rw [Stats.installs_ended]
      exact h.recorded
    · cases rest with
      | nil => cases hp'
      | cons d' rest =>
        cases hp'
        exact fun e he => hp e (List.mem_cons_of_mem _ he)
    · rcases List.mem_append.1 hv with hv | hv
      · exact h.invoked v hv
      · rw [List.mem_singleton.1 hv]
        exact ⟨(hp d List.mem_cons_self).2, hc.callback.symm⟩

theorem move {x : Step κ} (h : Rightful r l) (ha : l.Agrees r) (hx : x.Unforged)
    (m : Move x r l r' l') : Rightful r' l' := by
  cases m with
  | nothing => exact h
  | start => exact { h with }
  | replace _ ht => exact (h.note _ _).replace ht
  | record hs => exact (h.note _ _).record hs
  | overrule => exact h.overrule hx
  | read => exact { h with }
  | close => exact { h with queued := nofun }
  | turn => exact { h with }
  | receive => exact h.receive
  | take => exact h.take
  | finish hd => exact h.finish ha hd

end Rightful

/-- The place is one where a delivery of tenure `t` belongs, and the registry is there for it. -/
def Place.IsRightful (r : Registry κ) (l : Ledger κ) (d : Delivery κ) (t : Tenure κ) :
    Place κ → Prop
  | .waiting s =>
    s = d.signal ∧ l.tenures.get s = some t ∧ (r.slots.get s).callback? = some t.callback
  | .queued q => q.parcel.signal = d.signal ∧ q.parcel.tenure = t
  | .inHand p => p.signal = d.signal ∧ p.tenure = t ∧ r.running? = some t.callback
  | .invoked v => v.tenure = t ∧ v.callback = t.callback
  | .dropped | .discarded | .wrapped => False

namespace History

variable {steps : List (Step κ)} {r : Registry κ} {l : Ledger κ}

theorem rightful {allowed : Registry κ → Step κ → Prop} (hu : ∀ r x, allowed r x → x.Unforged)
    (h : History allowed steps r l) : Rightful r l := by
  have h : History (fun _ x => x.Unforged) steps r l := h.mono hu
  exact h.invariant id (fun _ _ _ hs => .empty _ _ _ hs) fun hx ha ih m => ih.move ha hx m

/-- Every delivery is dispatched once, to the right callback. In a ledger that agrees with the
registry, each recorded delivery belongs to an install of its own number and is in exactly one
place: it is still counted and that install is still in place, or it is in a batch of the callback,
queued or running, or it was one invocation of the callback. -/
theorem dispatched_once
    (h : History (fun r x => r.HasRoom x ∧ x.Unforged) steps r l) (he : r.dispatcher ≠ .ended) :
    l.Agrees r ∧ l.recorded.length = steps.countP Step.isRecord ∧
      ∀ d ∈ l.recorded, ∃ t place, d.tenure = some t ∧ t.number < r.stats.installs ∧
        l.places d = [place] ∧ place.IsRightful r l d t := by
  have ha := h.agrees
  have hr := h.rightful fun _ _ hx => hx.2
  refine ⟨ha, h.length_recorded, fun d hd => ?_⟩
  obtain ⟨t, ht, hn⟩ := hr.recorded d hd
  obtain ⟨place, hp, hh⟩ := h.complete.exists_place hd
  refine ⟨t, place, ht, hn, hp, ?_⟩
  cases place with
  | waiting s =>
    obtain ⟨hs, hdt, -⟩ := hr.waiting s d hh
    rw [ht] at hdt
    refine ⟨hs.symm, hdt.symm, ?_⟩
    rw [← ha.tenures s, ← hdt]
    rfl
  | queued q =>
    obtain ⟨hs, hdt⟩ := hr.queued q hh.1 d hh.2
    rw [ht] at hdt
    exact ⟨hs.symm, (Option.some.inj hdt).symm⟩
  | inHand p =>
    obtain ⟨hs, hdt⟩ := hr.inHand p hh.1 d hh.2
    rw [ht] at hdt
    obtain rfl := Option.some.inj hdt
    have hi := ha.inHand
    rw [hh.1] at hi
    refine ⟨hs.symm, rfl, ?_⟩
    rw [r.running?_eq]
    generalize r.inHand? = b at hi
    cases hi with
    | some hc => exact congrArg some hc.callback.symm
  | invoked v =>
    obtain ⟨hv, rfl⟩ := hh
    obtain ⟨hdt, hk⟩ := hr.invoked v hv
    rw [ht] at hdt
    obtain rfl := Option.some.inj hdt
    exact ⟨rfl, hk⟩
  | dropped => rw [Ledger.Holds, hr.dropped] at hh; cases hh
  | discarded => rw [Ledger.Holds, h.attended.discarded he] at hh; cases hh
  | wrapped => rw [Ledger.Holds, h.wrapped fun _ _ hx => hx.1] at hh; cases hh

/-- A callback replaces itself in the middle of its batch, with deliveries counted before and after
that. -/
theorem exists_delivery_in_every_place :
    ∃ (steps : List (Step Bool)) (r : Registry Bool) (l : Ledger Bool),
      History (fun r x => r.HasRoom x ∧ x.Unforged) steps r l ∧ r.dispatcher ≠ .ended ∧
        l.recorded.length = 4 ∧ r.running? = some true ∧ (r.slots.get .usr1).pending = 1 ∧
        r.retired.map Batch.callback = [true] ∧ r.stats.callbacksRun = 1 ∧
        ∀ d ∈ l.recorded, ∃ t place, d.tenure = some t ∧ t.number < r.stats.installs ∧
          l.places d = [place] ∧ place.IsRightful r l d t := by
  let steps : List (Step Bool) :=
    [.install .usr1 (.custom true) .nothing, .record .usr1, .record .usr1, .read, .receive] ++
      List.replicate (Signal.all.idxOf .usr1 + 1) .check ++
      [.finish false, .record .usr1, .install .usr1 (.custom false) .nothing, .record .usr1]
  have hu : ∀ x ∈ steps, x.Unforged := by decide
  have hr : ∃ r ∈ (Registry.empty .standard .fresh .standard).run? steps,
      r.isLive ∧ r.running? = some true ∧ (r.slots.get .usr1).pending = 1 ∧
        r.retired.map Batch.callback = [true] ∧ r.stats.callbacksRun = 1 := by decide
  obtain ⟨r, hr, hl, hk, hp, hq, hc⟩ := hr
  obtain ⟨l, h⟩ : ∃ l, History (fun _ x => x.Unforged) steps r l :=
    of_run? System.handler_fresh (fun x hx _ => hu x hx) hr
  have h : History (fun r x => r.HasRoom x ∧ x.Unforged) steps r l :=
    (h.hasRoom (by decide)).mono fun _ _ hx => hx.symm
  have he : r.dispatcher ≠ .ended := (Registry.isLive_iff.1 hl).2
  obtain ⟨-, hn, hd⟩ := h.dispatched_once he
  exact ⟨steps, r, l, h, he, hn.trans (by decide), hk, hp, hq, hc, hd⟩

end History

end HostServices.Watch
