import HostServices.Proofs.Watch.Attendance

/-!
# No wake-up is lost

A dispatcher that waits for a wake byte has nothing to do: `Alert` says of every counter and every
posted batch why the dispatcher will still come to it. Batches whose own wake byte was refused are
the exception, until the next byte; `Clearing` counts the dispatcher's steps from that byte to the
last of them.
-/

namespace HostServices.Watch

variable {κ : Type}

/-- The wake byte of the posting was refused, and no other has been written since. -/
def Posting.IsStuck (q : Posting κ) (l : Ledger κ) : Prop :=
  q.wakeRefused = true ∧ q.wakeBytes = l.wakeBytes

/-- The dispatcher waits on an empty pipe. -/
def Registry.IsIdle (r : Registry κ) : Prop :=
  r.dispatcher = .live ⟨.reading, none⟩ ∧ r.pipe.held = 0

instance (r : Registry κ) : Decidable r.IsIdle :=
  decidable_of_iff (r.isReading = true ∧ r.pipe.held = 0) (and_congr_left fun _ => r.isReading_iff)

namespace Step

/-- A step that writes a wake byte is refused only by a full pipe. -/
def Wakes : Step κ → Prop
  | .install _ _ refused => refused.wake = false
  | _ => True

end Step

/-! ### Bytes and postings after a move -/

namespace Registry

variable {r : Registry κ} {s : Signal} {a : Action κ} {w : Bool}

theorem held_le_replace : r.pipe.held ≤ (r.replace s a w).pipe.held := by
  rw [replace_pipe]
  split
  · exact Pipe.held_le_write _
  · exact Nat.le_refl _

theorem held_le_record : r.pipe.held ≤ (r.record s).pipe.held := by
  rw [record_pipe]
  split
  · exact Pipe.held_le_write _
  · exact Nat.le_refl _

theorem unread_live {d : Dispatcher κ} (hd : r.dispatcher = .live d) : r.unread = r.pipe.held := by
  simp [unread, isLive, hd]

theorem isLive_of_live {d : Dispatcher κ} (hd : r.dispatcher = .live d) : r.isLive = true := by
  simp [isLive, hd]

end Registry

namespace Ledger

variable {l : Ledger κ} {r r' : Registry κ}

theorem wakeBytes_le_note : l.wakeBytes ≤ (l.note r r').wakeBytes := Nat.le_add_right _ _

/-- An empty pipe is not empty any more: a byte was written. -/
theorem wakeBytes_lt_note {d d' : Dispatcher κ} (hd : r.dispatcher = .live d)
    (hd' : r'.dispatcher = .live d') (h : r.pipe.held < r'.pipe.held) :
    l.wakeBytes < (l.note r r').wakeBytes := by
  simp only [note, Registry.unread_live hd, Registry.unread_live hd']
  omega

end Ledger

/-! ### Why the dispatcher comes to what is left -/

/-- Before the dispatcher nothing is recorded. After that, it is told of every counter that counts
and every posting, or it will look there before it reads again; only a posting may be stuck. -/
structure Alert (r : Registry κ) (l : Ledger κ) : Prop where
  absent : r.dispatcher = .absent →
    ∀ s, (r.system.get s).handler ≠ .recorder ∧ (r.slots.get s).pending = 0
  unposted : r.dispatcher = .absent → l.queued = []
  counted : ∀ d, r.dispatcher = .live d → ∀ s, 0 < (r.slots.get s).pending →
    0 < r.pipe.held ∨ d.phase.WillCheck s
  queued : ∀ d, r.dispatcher = .live d → ∀ q ∈ l.queued,
    0 < r.pipe.held ∨ d.phase = .receiving ∨ q.IsStuck l

namespace Alert

variable {r r' : Registry κ} {l l' : Ledger κ} {s : Signal} {a : Action κ} {w : Bool}

theorem empty (settings : Settings) (system : System) (pipe : Pipe)
    (h : ∀ s, (system.get s).handler ≠ .recorder) :
    Alert (κ := κ) (.empty settings system pipe) .empty where
  absent _ s := ⟨h s, by simp [Registry.empty, Slot.untouched]⟩
  unposted _ := rfl
  counted _ hd := by cases hd
  queued _ hd := by cases hd

theorem started (h : Alert r l) (hd : r.dispatcher = .absent) : Alert r.started l where
  absent := nofun
  unposted := nofun
  counted d _ s hp := by
    have := (h.absent hd s).2
    rw [Registry.started_slots] at hp
    omega
  queued d _ q hq := by rw [h.unposted hd] at hq; cases hq

/-- A posting that was stuck stays so or the pipe holds a byte. -/
theorem stuck_or_held {q : Posting κ} {d : Dispatcher κ} (hq : q.IsStuck l)
    (hd : r.dispatcher = .live d) (hd' : r'.dispatcher = .live d) :
    0 < r'.pipe.held ∨ q.IsStuck (l.note r r') := by
  rcases Nat.eq_zero_or_pos r'.pipe.held with hz | hp
  · right
    refine ⟨hq.1, ?_⟩
    simp only [Ledger.note, Registry.unread_live hd, Registry.unread_live hd', hz, hq.2]
    omega
  · exact .inl hp

theorem replace (h : Alert r l) (ha : l.Agrees r) {t : Option (Tenure κ)}
    (hc : a.callback?.isSome → r.dispatcher ≠ .absent) :
    Alert (r.replace s a w)
      (((l.note r (r.replace s a w)).retire s r.isLive w).appoint s t) := by
  refine ⟨fun hd u => ?_, fun hd => ?_, fun d hd u hp => ?_, fun d hd q hq => ?_⟩
  · rw [Registry.replace_dispatcher] at hd
    rw [Registry.replace_slots, Registry.replace_system, Signal.Table.get_set]
    obtain ⟨hu, hz⟩ := h.absent hd u
    split
    · next hus =>
      subst hus
      refine ⟨?_, by simp only; split <;> first | rfl | exact hz⟩
      cases a with
      | custom k => exact (hc rfl hd).elim
      | default => exact nofun
      | ignore => exact nofun
    · exact ⟨hu, hz⟩
  · rw [Registry.replace_dispatcher] at hd
    have hl : r.isLive = false := by rw [Registry.isLive, hd]
    simp only [Ledger.appoint, Ledger.retire_queued, hl]
    exact h.unposted hd
  · rw [Registry.replace_dispatcher] at hd
    have hu : 0 < (r.slots.get u).pending := by
      rw [Registry.replace_slots] at hp
      split at hp
      · next hus =>
        subst hus
        simp only at hp
        split at hp
        · omega
        · exact hp
      · exact hp
    have := Registry.held_le_replace (r := r) (s := s) (a := a) (w := w)
    rcases h.counted d hd u hu with hh | hw
    · exact .inl (by omega)
    · exact .inr hw
  · have hd' := hd
    rw [Registry.replace_dispatcher] at hd
    obtain ⟨new, hn, hs⟩ := Ledger.exists_queued_replace (l.note r (r.replace s a w)) s r.isLive w t
    rw [hn, List.mem_append] at hq
    rcases hq with hq | hq
    · have := Registry.held_le_replace (r := r) (s := s) (a := a) (w := w)
      rcases h.queued d hd q hq with hh | hr | hst
      · exact .inl (by omega)
      · exact .inr (.inl hr)
      · rcases stuck_or_held hst hd hd' with hh | hst
        · exact .inl hh
        · exact .inr (.inr ⟨hst.1, by simpa [Ledger.appoint] using hst.2⟩)
    · obtain ⟨hb, hw, hp⟩ := hs q hq
      cases w with
      | true => exact .inr (.inr ⟨hw, by simpa [Ledger.appoint] using hb⟩)
      | false =>
        -- the batch that was posted wrote its byte
        left
        have ho := ha.parcel s
        have hl : l.parcel? s = some q.parcel := hp
        rw [hl] at ho
        rw [Registry.replace_pipe, Registry.isLive_of_live hd]
        cases hb : r.owed? s with
        | none => rw [hb] at ho; cases ho
        | some b => simpa using Pipe.held_write_pos r.pipe

theorem record (h : Alert r l) (hs : (r.system.get s).handler = .recorder) :
    Alert (r.record s) ((l.note r (r.record s)).record s) := by
  refine ⟨fun hd => ?_, fun hd => ?_, fun d hd u _ => .inl ?_, fun d hd q _ => .inl ?_⟩
  · rw [Registry.record_dispatcher] at hd
    exact ((h.absent hd s).1 hs).elim
  · rw [Registry.record_dispatcher] at hd
    exact ((h.absent hd s).1 hs).elim
  · rw [Registry.record_dispatcher] at hd
    rw [Registry.record_pipe, Registry.isLive_of_live hd, if_pos rfl]
    exact Pipe.held_write_pos _
  · rw [Registry.record_dispatcher] at hd
    rw [Registry.record_pipe, Registry.isLive_of_live hd, if_pos rfl]
    exact Pipe.held_write_pos _

theorem take (h : Alert r l) {others : List Signal}
    (hd : r.dispatcher = .live ⟨.scanning s others, none⟩) :
    Alert { (r.countDeliveries (r.slots.get s).pending).moveTo (.scan others) (r.owed? s) with
      slots := r.slots.set s (r.slots.get s).taken } (l.take s) := by
  refine ⟨nofun, nofun, fun d hd' u hp => ?_, fun d hd' q hq => ?_⟩
  · cases hd'
    simp only [Signal.Table.get_set] at hp
    split at hp
    · simp [Slot.taken] at hp
    · next hu =>
      rcases h.counted _ hd u hp with hh | hw
      · exact .inl hh
      · rcases List.mem_cons.1 hw with hus | hm
        · exact (hu hus).elim
        · exact .inr ((Phase.willCheck_scan _ _).2 hm)
  · rcases h.queued _ hd q hq with hh | hr | hst
    · exact .inl hh
    · cases hr
    · exact .inr (.inr hst)

theorem move {x : Step κ} (h : Alert r l) (ha : l.Agrees r) (hx : r.HasShown x)
    (m : Move x r l r' l') : Alert r' l' := by
  cases m with
  | nothing => exact h
  | start hd => exact h.started hd
  | replace hc => exact h.replace ha hc
  | record hs => exact h.record hs
  | @overrule s handler =>
    refine ⟨fun hd u => ?_, h.unposted, h.counted, h.queued⟩
    refine ⟨?_, (h.absent hd u).2⟩
    simp only [Registry.overrule, Signal.Table.get_set]
    split
    · exact fun he => hx he hd
    · exact (h.absent hd u).1
  | read hd =>
    refine ⟨nofun, nofun, fun d hd' u _ => .inr ?_, fun d hd' q _ => .inr (.inl ?_)⟩
    · cases hd'; trivial
    · cases hd'; rfl
  | close =>
    refine ⟨nofun, nofun, fun d hd' => ?_, fun d hd' => ?_⟩
    · cases hd'
    · cases hd'
  | turn hd hq =>
    refine ⟨nofun, nofun, fun d hd' u _ => .inr ?_, fun d hd' q hl => ?_⟩
    · cases hd'; exact (Phase.willCheck_scan _ _).2 u.mem_all
    · have := ha.queued
      rw [hq] at this
      rw [List.forall₂_nil_right_iff.1 this] at hl
      cases hl
  | receive hd =>
    refine ⟨nofun, nofun, fun d hd' u _ => .inr ?_, fun d hd' q _ => .inr (.inl ?_)⟩
    · cases hd'; trivial
    · cases hd'; rfl
  | take hd => exact h.take hd
  | finish hd =>
    refine ⟨nofun, nofun, fun d hd' u hp => ?_, fun d hd' q hq => ?_⟩
    · cases hd'; exact h.counted _ hd u hp
    · cases hd'
      rw [Ledger.finish_queued] at hq
      rcases h.queued _ hd q hq with hh | hr | hst
      · exact .inl hh
      · exact .inr (.inl hr)
      · exact .inr (.inr ⟨hst.1, by simpa using hst.2⟩)

end Alert

namespace History

variable {allowed : Registry κ → Step κ → Prop} {steps : List (Step κ)} {r : Registry κ}
  {l : Ledger κ}

theorem alert (hx : ∀ r x, allowed r x → r.HasShown x) (h : History allowed steps r l) :
    Alert r l := by
  have h : History Registry.HasShown steps r l := h.mono hx
  exact h.invariant id (fun _ _ _ hs => .empty _ _ _ hs) fun hx ha ih m => ih.move ha hx m

/-- While wake bytes are refused only by a full pipe, no posting was refused one. -/
theorem unrefused (hw : ∀ x ∈ steps, x.Wakes) (h : History allowed steps r l) :
    ∀ q ∈ l.queued, q.wakeRefused = false := by
  have h : History (fun _ x => x.Wakes) steps r l := (h.restrict hw).mono fun _ _ ha => ha.2
  refine h.invariant (P := fun _ l => ∀ q ∈ l.queued, q.wakeRefused = false) id
    (fun _ _ _ _ => nofun) fun {x r l r' l'} hx _ ih m => ?_
  cases m with
  | @replace s a refused _ _ t =>
    obtain ⟨new, hn, hs⟩ := Ledger.exists_queued_replace (l.note r (r.replace s a refused.wake)) s
      r.isLive refused.wake t
    intro q hq
    rw [hn, List.mem_append] at hq
    rcases hq with hq | hq
    · exact ih q hq
    · exact (hs q hq).2.1.trans hx
  | close => exact nofun
  | receive =>
    intro q hq
    rw [Ledger.receive_queued] at hq
    exact ih q (List.mem_of_mem_tail hq)
  | finish =>
    intro q hq
    rw [Ledger.finish_queued] at hq
    exact ih q hq
  | _ => exact ih

end History

/-! ### The dispatcher at rest -/

section

variable {steps : List (Step κ)} {r : Registry κ} {l : Ledger κ}

namespace Alert

theorem pending_of_idle (h : Alert r l) (hi : r.IsIdle) (s : Signal) :
    (r.slots.get s).pending = 0 := by
  by_contra hp
  rcases h.counted _ hi.1 s (by omega) with hh | hw
  · have := hi.2
    omega
  · exact hw

theorem sum_pending_of_idle (h : Alert r l) (hi : r.IsIdle) :
    (Signal.all.map fun s => (r.slots.get s).pending).sum = 0 := by
  simp only [h.pending_of_idle hi]
  rfl

theorem stuck_of_idle (h : Alert r l) (hi : r.IsIdle) : ∀ q ∈ l.queued, q.IsStuck l := by
  intro q hq
  rcases h.queued _ hi.1 q hq with hh | hr | hs
  · have := hi.2
    omega
  · cases hr
  · exact hs

end Alert

/-- Whatever was recorded, the dispatcher that is at rest with nothing queued has taken. -/
theorem Ledger.Complete.settled (hc : l.Complete) (ha : l.Agrees r) (ht : Attended r l)
    (hw : ∀ s, (r.slots.get s).pending = 0) (hi : r.IsIdle) (hq : l.queued = []) :
    l.recorded.Perm (l.invocations.map Invocation.delivery ++ l.dropped ++ l.wrapped) := by
  have hwait : Signal.all.flatMap l.waiting.get = [] := by
    refine List.flatMap_eq_nil_iff.2 fun s _ => List.eq_nil_of_length_eq_zero ?_
    rw [ha.waiting s, hw s]
  have hhand : l.inHand = none := ha.inHand_none (Registry.inHand?_of_live hi.1)
  have hheld := hc.held.symm
  rw [Ledger.held_eq, hwait, hq, hhand, ht.discarded_live hi.1] at hheld
  simpa using hheld

end

end HostServices.Watch
