import HostServices.Proofs.Watch.Wake

/-!
# How the dispatcher clears the channel

A wake byte that reaches a dispatcher at rest makes it take every batch that was in the channel.
`Clearing` bounds its own steps until then, `Onward` says where the deliveries of those batches are
meanwhile; neither minds what else happens between the dispatcher's steps.
-/

namespace HostServices.Watch

variable {κ : Type}

namespace Ledger

/-- The dispatcher's steps to take the postings and to run what they owe. -/
def work (postings : List (Posting κ)) : Nat :=
  (postings.map fun q => q.parcel.deliveries.length + 1).sum

@[simp] theorem work_cons (q : Posting κ) (rest : List (Posting κ)) :
    work (q :: rest) = q.parcel.deliveries.length + 1 + work rest := rfl

theorem work_eq_zero {postings : List (Posting κ)} (h : work postings = 0) : postings = [] := by
  cases postings with
  | nil => rfl
  | cons q rest => rw [work_cons] at h; omega

theorem work_eq {postings : List (Posting κ)} {batches : List (Batch κ)}
    (h : List.Forall₂ (fun q b => q.parcel.Carries b) postings batches) :
    work postings = (batches.map fun b => b.count + 1).sum := by
  induction h with
  | nil => rfl
  | cons hc _ ih => rw [work_cons, hc.count, ih, List.map_cons, List.sum_cons]

/-- The channel holds `rest`, and after that only what was posted since the pipe took its `n`-th
wake byte. -/
structure Posted (n : Nat) (rest : List (Posting κ)) (l : Ledger κ) : Prop where
  written : n < l.wakeBytes
  later : ∃ new, l.queued = rest ++ new ∧ ∀ q ∈ new, n < q.wakeBytes

namespace Posted

variable {n : Nat} {rest : List (Posting κ)} {l l' : Ledger κ} {r r' : Registry κ} {s : Signal}

theorem of_eq (h : l.Posted n rest) (hq : l'.queued = l.queued)
    (hb : l.wakeBytes ≤ l'.wakeBytes) : l'.Posted n rest :=
  ⟨Nat.lt_of_lt_of_le h.written hb, by rw [hq]; exact h.later⟩

theorem note (h : l.Posted n rest) : (l.note r r').Posted n rest := h.of_eq rfl wakeBytes_le_note

/-- What is posted when the pipe has taken more than `n` bytes comes after `rest`. -/
theorem replace {live w : Bool} {t : Option (Tenure κ)} (h : l.Posted n rest) :
    ((l.retire s live w).appoint s t).Posted n rest := by
  obtain ⟨hn, new, hq, hnew⟩ := h
  obtain ⟨last, hl, hlast⟩ := l.exists_queued_replace s live w t
  refine ⟨by simpa [appoint] using hn, new ++ last, by rw [hl, hq, List.append_assoc], ?_⟩
  intro q hm
  rcases List.mem_append.1 hm with hm | hm
  · exact hnew q hm
  · rw [(hlast q hm).1]
    exact hn

theorem receive (h : l.Posted n rest) : l.receive.Posted n rest.tail := by
  obtain ⟨hn, new, hq, hnew⟩ := h
  refine ⟨by rwa [receive_wakeBytes], ?_⟩
  rw [receive_queued, hq]
  cases rest with
  | nil => exact ⟨new.tail, rfl, fun q hm => hnew q (List.mem_of_mem_tail hm)⟩
  | cons q rest => exact ⟨new, rfl, hnew⟩

theorem discardQueue (h : l.Posted n rest) : l.discardQueue.Posted n [] :=
  ⟨h.written, [], rfl, nofun⟩

theorem all_later (h : l.Posted n []) : ∀ q ∈ l.queued, n < q.wakeBytes := by
  obtain ⟨new, hq, hnew⟩ := h.later
  rw [hq]
  exact hnew

end Posted

end Ledger

/-- The dispatcher has at most `m` steps to make until the channel is clear of what was posted
before the pipe took its `n`-th wake byte. -/
inductive Clearing (n m : Nat) (r : Registry κ) (l : Ledger κ) : Prop
  | cleared (hp : l.Posted n [])
  | woken {rest : List (Posting κ)} (hp : l.Posted n rest)
      (hd : r.dispatcher = .live ⟨.reading, none⟩) (hh : 0 < r.pipe.held)
      (hm : m = Ledger.work rest + 1)
  | taking {rest : List (Posting κ)} {hand : Option (Batch κ)} (hp : l.Posted n rest)
      (hd : r.dispatcher = .live ⟨.receiving, hand⟩) (hm : m = Ledger.work rest + l.carried)

namespace Clearing

variable {n m : Nat} {r r' : Registry κ} {l l' : Ledger κ} {x : Step κ}

theorem of_cleared (hp : l.Posted n []) (m' : Move x r l r' l') : l'.Posted n [] := by
  cases m' with
  | replace => exact hp.note.replace
  | record => exact hp.note.of_eq rfl (Nat.le_refl _)
  | close => exact hp.discardQueue
  | receive => exact hp.receive
  | take => exact hp.of_eq rfl (Nat.le_refl _)
  | finish => exact hp.of_eq (by simp) (by simp)
  | _ => exact hp

theorem move_woken {rest : List (Posting κ)} (hp : l.Posted n rest)
    (hd : r.dispatcher = .live ⟨.reading, none⟩) (hh : 0 < r.pipe.held)
    (hi : l.inHand = none) (hm : Move x r l r' l') :
    Clearing n (Ledger.work rest + 1 - x.isDispatch.toNat) r' l' := by
  cases hm with
  | nothing hx => rw [hx]; exact .woken hp hd hh rfl
  | replace =>
    refine .woken hp.note.replace ?_ ?_ rfl
    · rw [Registry.replace_dispatcher, hd]
    · exact Nat.lt_of_lt_of_le hh Registry.held_le_replace
  | record =>
    refine .woken (hp.note.of_eq rfl (Nat.le_refl _)) ?_ ?_ rfl
    · rw [Registry.record_dispatcher, hd]
    · exact Nat.lt_of_lt_of_le hh Registry.held_le_record
  | overrule => exact .woken hp hd hh rfl
  | read => exact .taking hp rfl (by simp [Ledger.carried, hi, Step.isDispatch])
  | close => exact .cleared hp.discardQueue
  | start hn => rw [hd] at hn; cases hn
  | turn hn => rw [hd] at hn; cases hn
  | receive hn => rw [hd] at hn; cases hn
  | take hn => rw [hd] at hn; cases hn
  | finish hn => rw [hd] at hn; cases hn

theorem move_taking {rest : List (Posting κ)} {hand : Option (Batch κ)} (hp : l.Posted n rest)
    (hd : r.dispatcher = .live ⟨.receiving, hand⟩) (ha : l.Agrees r) (hm : Move x r l r' l') :
    Clearing n (Ledger.work rest + l.carried - x.isDispatch.toNat) r' l' := by
  cases hm with
  | nothing hx => rw [hx]; exact .taking hp hd rfl
  | replace =>
    refine .taking hp.note.replace (by rw [Registry.replace_dispatcher, hd]) ?_
    simp [Ledger.carried, Ledger.appoint, Ledger.note, Step.isDispatch]
  | record =>
    exact .taking (hp.note.of_eq rfl (Nat.le_refl _)) (by rw [Registry.record_dispatcher, hd]) rfl
  | overrule => exact .taking hp hd rfl
  | turn _ hq =>
    -- the channel is empty, so `rest` is
    obtain ⟨new, he, -⟩ := hp.later
    have hl := ha.queued
    rw [hq, List.forall₂_nil_right_iff, he, List.append_eq_nil_iff] at hl
    obtain ⟨rfl, -⟩ := hl
    exact .cleared hp
  | receive hn hq =>
    have hi : l.inHand = none := ha.inHand_none (Registry.inHand?_of_live hn)
    cases rest with
    | nil => exact .cleared hp.receive
    | cons q rest =>
      refine .taking hp.receive rfl ?_
      obtain ⟨new, he, -⟩ := hp.later
      simp only [Ledger.receive, he, List.cons_append, Ledger.carried, hi, Option.elim,
        Ledger.work_cons, List.tail_cons, Step.isDispatch, Bool.toNat_true]
      omega
  | finish hn =>
    rw [hd] at hn
    cases hn
    refine .taking (hp.of_eq (by simp) (by simp)) rfl ?_
    simp only [Step.isDispatch, Bool.toNat_true]
    rw [← ha.carried_finish hd, ← Nat.add_assoc, Nat.add_sub_cancel]
  | start hn => rw [hd] at hn; cases hn
  | read hn => rw [hd] at hn; cases hn
  | close hn => rw [hd] at hn; cases hn
  | take hn => rw [hd] at hn; cases hn

/-- A step of the dispatcher brings the end nearer, and no other step puts it off. -/
theorem move (h : Clearing n m r l) (ha : l.Agrees r) (hm : Move x r l r' l') :
    Clearing n (m - x.isDispatch.toNat) r' l' := by
  cases h with
  | cleared hp => exact .cleared (of_cleared hp hm)
  | woken hp hd hh he =>
    rw [he]
    exact move_woken hp hd hh (ha.inHand_none (Registry.inHand?_of_live hd)) hm
  | taking hp hd he =>
    rw [he]
    exact move_taking hp hd ha hm

theorem course {allowed : Registry κ → Step κ → Prop} {more : List (Step κ)}
    (h : Clearing n m r l) (ha : l.Agrees r) (hc : Course allowed r l more r' l') :
    l'.Agrees r' ∧ Clearing n (m - more.countP Step.isDispatch) r' l' := by
  induction hc with
  | refl => exact ⟨ha, h⟩
  | @step steps r₁ r₂ l₁ x _ _ hx ih =>
    have hn : m - (steps ++ [x]).countP Step.isDispatch =
        m - steps.countP Step.isDispatch - x.isDispatch.toNat := by
      rw [List.countP_append, List.countP_singleton, Nat.sub_sub]
      cases x.isDispatch <;> rfl
    rw [hn]
    rcases Move.of_step (l := l₁) hx with hm | ⟨s, a, refused, rfl, hd, hm⟩
    · exact ⟨ih.1.move hm, ih.2.move ih.1 hm⟩
    · have hs := ih.1.started hd
      exact ⟨hs.move hm, (ih.2.move ih.1 (x := .install s a refused) (.start hd)).move hs hm⟩

/-- No steps are left when the channel is clear. -/
theorem later_of_zero (h : Clearing n 0 r l) : ∀ q ∈ l.queued, n < q.wakeBytes := by
  cases h with
  | cleared hp => exact hp.all_later
  | woken _ _ _ hm => omega
  | @taking rest hand hp hd hm =>
    have hr : rest = [] := Ledger.work_eq_zero (by omega)
    subst hr
    exact hp.all_later

/-- Until the channel is clear the dispatcher is never held up. -/
theorem exists_step (h : Clearing n m r l) (hq : ∃ q ∈ l.queued, q.wakeBytes ≤ n) :
    ∃ x : Step κ, x.isDispatch ∧ (r.step? x).isSome := by
  cases h with
  | cleared hp =>
    obtain ⟨q, hm, hn⟩ := hq
    have := hp.all_later q hm
    omega
  | woken _ hd hh =>
    refine ⟨.read, rfl, ?_⟩
    have hz : r.pipe.held ≠ 0 := by omega
    simp [Registry.step?, Registry.read?, hd, hz]
  | @taking rest hand _ hd =>
    cases hand with
    | some b => exact ⟨.finish false, rfl, by simp [Registry.step?, Registry.finish?, hd]⟩
    | none =>
      refine ⟨.receive, rfl, ?_⟩
      simp only [Registry.step?, Registry.receive?, hd]
      cases r.retired <;> rfl

/-- The first wake byte after a rest begins the clearing of all that was posted before it. -/
theorem of_idle (hi : r.IsIdle) (hx : r.step? x = some r')
    (hh : 0 < r'.pipe.held) :
    Clearing l.wakeBytes (Ledger.work l.queued + 1) r' (l.next r x r') := by
  obtain ⟨hd, hz⟩ := hi
  rcases Move.of_step (l := l) hx with hm | ⟨s, a, refused, rfl, hn, -⟩
  · have hpost (hd' : r'.dispatcher = r.dispatcher) : (l.note r r').Posted l.wakeBytes l.queued :=
      ⟨Ledger.wakeBytes_lt_note hd (hd'.trans hd) (by omega), [], by simp [Ledger.note], nofun⟩
    generalize l.next r x r' = l' at hm
    cases hm with
    | nothing => omega
    | replace =>
      exact .woken (hpost Registry.replace_dispatcher).replace (by rw [Registry.replace_dispatcher, hd])
        hh rfl
    | record =>
      exact .woken ((hpost Registry.record_dispatcher).of_eq rfl (Nat.le_refl _))
        (by rw [Registry.record_dispatcher, hd]) hh rfl
    | overrule => have : 0 < r.pipe.held := hh; omega
    | read => omega
    | close => have : 0 < r.pipe.held := hh; omega
    | start hn => rw [hd] at hn; cases hn
    | turn hn => rw [hd] at hn; cases hn
    | receive hn => rw [hd] at hn; cases hn
    | take hn => rw [hd] at hn; cases hn
    | finish hn => rw [hd] at hn; cases hn
  · rw [hd] at hn
    cases hn

end Clearing

/-! ### Where the deliveries of a cleared channel are -/

/-- The dispatcher is running the delivery's batch or has run its invocation. -/
def Ledger.HasTaken (l : Ledger κ) (d : Delivery κ) : Prop :=
  (∃ p, l.inHand = some p ∧ d ∈ p.deliveries) ∨ ∃ v ∈ l.invocations, v.delivery = d

/-- The delivery is in a batch that was posted before the pipe took its `n`-th wake byte or the
dispatcher has taken it from there, if it has not ended. -/
def Onward (n : Nat) (d : Delivery κ) (r : Registry κ) (l : Ledger κ) : Prop :=
  r.dispatcher ≠ .ended →
    (∃ q ∈ l.queued, q.wakeBytes ≤ n ∧ d ∈ q.parcel.deliveries) ∨ l.HasTaken d

namespace Onward

variable {n : Nat} {d : Delivery κ} {r r' : Registry κ} {l l' : Ledger κ} {x : Step κ}

theorem of_subset (h : Onward n d r l) (he : r'.dispatcher ≠ .ended → r.dispatcher ≠ .ended)
    (hq : l.queued ⊆ l'.queued) (ht : l.HasTaken d → l'.HasTaken d) : Onward n d r' l' := by
  intro hr
  rcases h (he hr) with ⟨q, hm, hn, hd⟩ | hh
  · exact .inl ⟨q, hq hm, hn, hd⟩
  · exact .inr (ht hh)

theorem receive (h : Onward n d r l) (hr : r.dispatcher = .live ⟨.receiving, none⟩)
    (ha : l.Agrees r) : Onward n d r' l.receive := by
  intro _
  have hi : l.inHand = none := ha.inHand_none (Registry.inHand?_of_live hr)
  have h := h (by rw [hr]; nofun)
  unfold Ledger.receive
  cases hl : l.queued with
  | nil => rw [hl] at h; simpa [hl] using h
  | cons q rest =>
    rw [hl] at h
    rcases h with ⟨q', hm, hn, hd⟩ | ⟨p, hp, -⟩ | hv
    · rcases List.mem_cons.1 hm with rfl | hm
      · exact .inr (.inl ⟨_, rfl, hd⟩)
      · exact .inl ⟨q', hm, hn, hd⟩
    · rw [hi] at hp; cases hp
    · exact .inr (.inr hv)

theorem hasTaken_finish (k : κ) (panicked : Bool) (h : l.HasTaken d) :
    (l.finish k panicked).HasTaken d := by
  unfold Ledger.finish
  split
  · next s t d' rest hi =>
    rcases h with ⟨p, hp, hd⟩ | ⟨v, hv, hd⟩
    · rw [hi] at hp
      cases hp
      rcases List.mem_cons.1 hd with rfl | hd
      · exact .inr ⟨_, List.mem_append_right _ (List.mem_singleton_self _), rfl⟩
      · cases rest with
        | nil => cases hd
        | cons d'' rest => exact .inl ⟨_, rfl, hd⟩
    · exact .inr ⟨v, List.mem_append_left _ hv, hd⟩
  · exact h

theorem move (h : Onward n d r l) (ha : l.Agrees r) (m : Move x r l r' l') : Onward n d r' l' := by
  cases m with
  | nothing => exact h
  | start hr => exact h.of_subset (fun _ => by simp [hr]) (List.Subset.refl _) id
  | @replace s a refused _ _ t =>
    obtain ⟨new, hn, -⟩ := Ledger.exists_queued_replace (l.note r (r.replace s a refused.wake)) s
      r.isLive refused.wake t
    refine h.of_subset (by rw [Registry.replace_dispatcher]; exact id) ?_ fun ht => ?_
    · rw [hn]
      exact List.subset_append_left _ _
    · simpa [Ledger.HasTaken, Ledger.appoint, Ledger.note] using ht
  | record =>
    exact h.of_subset (by rw [Registry.record_dispatcher]; exact id) (List.Subset.refl _) id
  | overrule => exact h
  | read hr => exact h.of_subset (fun _ => by simp [hr]) (List.Subset.refl _) id
  | close => exact fun he => (he rfl).elim
  | turn hr => exact h.of_subset (fun _ => by simp [hr]) (List.Subset.refl _) id
  | receive hr => exact h.receive hr ha
  | take hr =>
    refine h.of_subset (fun _ => by simp [hr]) (List.Subset.refl _) fun ht => ?_
    have hi : l.inHand = none := ha.inHand_none (Registry.inHand?_of_live hr)
    rcases ht with ⟨p, hp, -⟩ | hv
    · rw [hi] at hp; cases hp
    · exact .inr hv
  | finish hr =>
    refine h.of_subset (fun _ => by simp [hr]) ?_ (hasTaken_finish _ _)
    rw [Ledger.finish_queued]
    exact List.Subset.refl _

theorem course {allowed : Registry κ → Step κ → Prop} {more : List (Step κ)}
    (h : Onward n d r l) (ha : l.Agrees r) (hc : Course allowed r l more r' l') :
    Onward n d r' l' := by
  have hc : Course (fun _ _ => True) r l more r' l' := hc.mono fun _ _ _ => trivial
  exact (hc.invariant id (fun _ ha ih m => ih.move ha m) ha h).2

end Onward

/-- No wake-up is lost: a dispatcher that waits on an empty pipe has nothing to look at but batches
whose own wake byte was refused, with none written since. If none is ever refused, everything that
was recorded is dispatched by then, but for what a counter of 32 bits forgot in coming round, which
none does that has room. Otherwise the next byte makes the dispatcher take all of them, in a number
of its own steps that is fixed whatever else happens. -/
theorem History.no_lost_wakeup {steps : List (Step κ)} {r : Registry κ} {l : Ledger κ}
    (h : History Registry.HasShown steps r l) (hi : r.IsIdle) :
    (∀ s, (r.slots.get s).pending = 0) ∧
      List.Forall₂ (fun q b => q.IsStuck l ∧ q.parcel.Carries b) l.queued r.retired ∧
      ((∀ x ∈ steps, x.Wakes) → r.retired = [] ∧
        l.recorded.Perm (l.invocations.map Invocation.delivery ++ l.dropped ++ l.wrapped) ∧
        (History Registry.HasRoom steps r l → l.wrapped = [])) ∧
      ∀ x r₁, r.step? x = some r₁ → 0 < r₁.pipe.held →
        ∀ more r₂ l₂, Course (fun _ _ => True) r₁ (l.next r x r₁) more r₂ l₂ →
          ((∃ q ∈ l.queued, q ∈ l₂.queued) →
            ∃ y : Step κ, y.isDispatch ∧ (r₂.step? y).isSome) ∧
          ((r.retired.map fun b => b.count + 1).sum + 1 ≤ more.countP Step.isDispatch →
            r₂.dispatcher ≠ .ended → ∀ q ∈ l.queued, ∀ d ∈ q.parcel.deliveries, l₂.HasTaken d) := by
  have ha := h.agrees
  have hal := h.alert fun _ _ hx => hx
  have hz := hal.pending_of_idle hi
  have hs := hal.stuck_of_idle hi
  refine ⟨hz, ?_, fun hw => ?_, fun x r₁ hx hh more r₂ l₂ hc => ?_⟩
  · exact (List.forall₂_and_left _ _).2 ⟨hs, ha.queued⟩
  · have hq : l.queued = [] := by
      refine List.eq_nil_iff_forall_not_mem.2 fun q hq => ?_
      have := h.unrefused hw q hq
      rw [(hs q hq).1] at this
      cases this
    have hr := ha.queued
    rw [hq, List.forall₂_nil_left_iff] at hr
    refine ⟨hr, h.complete.settled ha h.attended hz hi hq, fun hroom => ?_⟩
    exact hroom.wrapped fun _ _ hx => hx
  · have hold : ∀ q ∈ l.queued, q.wakeBytes ≤ l.wakeBytes := fun q hq => Nat.le_of_eq (hs q hq).2
    have hx₁ : Course (fun _ _ => True) r l [x] r₁ (l.next r x r₁) := .single hx
    obtain ⟨-, hcl⟩ := (Clearing.of_idle hi hx hh).course (ha.course hx₁) hc
    refine ⟨fun ⟨q, hq, hq'⟩ => hcl.exists_step ⟨q, hq', hold q hq⟩, fun hn he q hq d hd => ?_⟩
    rw [← Ledger.work_eq ha.queued] at hn
    rw [Nat.sub_eq_zero_of_le hn] at hcl
    have hon : Onward l.wakeBytes d r l := fun _ => .inl ⟨q, hq, hold q hq, hd⟩
    rcases hon.course ha (hx₁.trans hc) he with ⟨q', hq', hn', -⟩ | ht
    · have := hcl.later_of_zero q' hq'
      omega
    · exact ht

/-- A callback is replaced between its signal's arrival and the dispatcher's look at it, and the wake
byte of the batch is refused. -/
theorem History.exists_idle_with_stuck :
    ∃ (steps : List (Step Bool)) (r : Registry Bool) (l : Ledger Bool),
      History Registry.HasShown steps r l ∧ r.IsIdle ∧ r.retired.map Batch.count = [1] ∧
        List.Forall₂ (fun q b => q.IsStuck l ∧ q.parcel.Carries b) l.queued r.retired := by
  let steps : List (Step Bool) :=
    [.install .usr1 (.custom true) .nothing, .record .usr1, .read, .receive,
      .install .usr1 .default ⟨none, none, true⟩] ++ List.replicate 31 .check
  have hu : ∀ x ∈ steps, x.Unforged := by decide
  have hr : ∃ r ∈ (Registry.empty .standard .fresh .standard).run? steps,
      r.IsIdle ∧ r.retired.map Batch.count = [1] := by decide
  obtain ⟨r, hr, hi, hc⟩ := hr
  obtain ⟨l, h⟩ := History.of_run? System.handler_fresh (fun x hx => (hu x hx).hasShown) hr
  exact ⟨steps, r, l, h, hi, hc, (h.no_lost_wakeup hi).2.1⟩

end HostServices.Watch
