import HostServices.Proofs.Watch.Dispatch
import HostServices.Proofs.Watch.Sequence
import HostServices.Proofs.Watch.Wake

/-!
# Deliveries that no callback was there for

Other code can put the registry's handler back for a signal whose slot holds no callback. What is
recorded then belongs to no tenure, and the dispatcher drops it when it comes to the counter. An
install empties a counter only for the callback that it replaces, so a delivery that is still
counted when the next callback is installed goes to that callback: the tenure `Adopts` it.
-/

namespace HostServices.Watch

variable {κ : Type}

section

variable {steps : List (Step κ)} {r r' : Registry κ} {l : Ledger κ} {t : Tenure κ} {d : Delivery κ}
  {x : Step κ}

/-- The install that began the tenure found the delivery counted for a slot without a callback. -/
def Adopts (steps : List (Step κ)) (r : Registry κ) (l : Ledger κ) (t : Tenure κ)
    (d : Delivery κ) : Prop :=
  ∃ before refused after answer r₁ l₁,
    steps = before ++ .install d.signal (.custom t.callback) refused :: after ∧
      History (fun _ _ => True) before r₁ l₁ ∧ (r₁.slots.get d.signal).callback? = none ∧
      d ∈ l₁.waiting.get d.signal ∧ t.number = r₁.stats.installs ∧
      (r₁.install d.signal (.custom t.callback) refused).1 = .ok answer ∧
      Course (fun _ _ => True) r₁ l₁ (.install d.signal (.custom t.callback) refused :: after) r l

/-- The delivery was recorded in the tenure, or in none and the tenure adopted it. -/
def Owns (steps : List (Step κ)) (r : Registry κ) (l : Ledger κ) (t : Tenure κ)
    (d : Delivery κ) : Prop :=
  d.tenure = some t ∨ d.tenure = none ∧ Adopts steps r l t d

theorem Adopts.step (h : Adopts steps r l t d) (hx : r.step? x = some r') :
    Adopts (steps ++ [x]) r' (l.next r x r') t d := by
  obtain ⟨before, refused, after, answer, r₁, l₁, rfl, hb, hf, hd, hn, hi, hc⟩ := h
  exact ⟨before, refused, after ++ [x], answer, r₁, l₁, by simp, hb, hf, hd, hn, hi,
    hc.step trivial hx⟩

theorem Owns.step (h : Owns steps r l t d) (hx : r.step? x = some r') :
    Owns (steps ++ [x]) r' (l.next r x r') t d :=
  h.imp_right fun h => ⟨h.1, h.2.step hx⟩

/-- Only an install that succeeds changes whose turn it is. -/
theorem Ledger.tenures_next (l : Ledger κ) (r r' : Registry κ) (x : Step κ) :
    (l.next r x r').tenures = l.tenures ∨
      ∃ s a refused answer, x = .install s a refused ∧ (r.install s a refused).1 = .ok answer ∧
        (l.next r x r').tenures =
          l.tenures.set s (a.callback?.map (Tenure.mk r.stats.installs)) := by
  cases x with
  | install s a refused =>
    cases hi : (r.install s a refused).1 with
    | ok answer =>
      refine .inr ⟨s, a, refused, answer, rfl, hi, ?_⟩
      simp [Ledger.next, hi, Ledger.appoint, Ledger.note]
    | error e =>
      left
      simp only [Ledger.next, hi]
  | failRead interrupted => cases interrupted <;> exact .inl rfl
  | receive =>
    left
    simp only [Ledger.next]
    split
    · rfl
    · exact Ledger.receive_tenures
  | check =>
    left
    simp only [Ledger.next]
    split <;> rfl
  | finish panicked =>
    left
    simp only [Ledger.next]
    split
    · unfold Ledger.finish
      split <;> rfl
    · rfl
  | _ => exact .inl rfl

end

/-! ### Forged handlers -/

section

variable {allowed : Registry κ → Step κ → Prop} {steps : List (Step κ)} {r r' : Registry κ}
  {l l' : Ledger κ} {x : Step κ}

theorem Move.dispatcher_ne_absent (m : Move x r l r' l') (hd : r.dispatcher ≠ .absent) :
    r'.dispatcher ≠ .absent := by
  cases m with
  | replace => rwa [Registry.replace_dispatcher]
  | record => rwa [Registry.record_dispatcher]
  | nothing => exact hd
  | overrule => exact hd
  | _ => nofun

theorem Registry.dispatcher_step_ne_absent (hx : r.step? x = some r')
    (hd : r.dispatcher ≠ .absent) : r'.dispatcher ≠ .absent := by
  rcases Move.of_step (l := .empty) hx with hm | ⟨_, _, _, -, hn, -⟩
  · exact hm.dispatcher_ne_absent hd
  · exact (hd hn).elim

/-- Once the dispatcher was started, the registry's handler has been there for other code to see. -/
theorem Course.hasShown (h : Course allowed r l steps r' l') (hd : r.dispatcher ≠ .absent) :
    Course (fun r x => allowed r x ∧ r.HasShown x) r l steps r' l' ∧
      r'.dispatcher ≠ .absent := by
  induction h with
  | refl => exact ⟨.refl, hd⟩
  | @step steps r₁ r₂ l₁ x _ ha hx ih =>
    obtain ⟨hc, hd₁⟩ := ih
    have hshown : r₁.HasShown x := by
      cases x with
      | overrule => exact fun _ => hd₁
      | _ => trivial
    exact ⟨hc.step ⟨ha, hshown⟩ hx, Registry.dispatcher_step_ne_absent hx hd₁⟩

end

/-! ### Whose a delivery is -/

/-- All in the parcel is of its signal, and its tenure's own. -/
def Parcel.IsOwned (Own : Tenure κ → Delivery κ → Prop) (p : Parcel κ) : Prop :=
  ∀ d ∈ p.deliveries, d.signal = p.signal ∧ Own p.tenure d

namespace Ledger

variable {l l' : Ledger κ} {r r' : Registry κ} {s : Signal} {x : Step κ}
  {Own Own' : Tenure κ → Delivery κ → Prop}

/-- What a callback is run for, or will be, is its tenure's own; the rest was recorded in none. -/
structure Owned (Own : Tenure κ → Delivery κ → Prop) (l : Ledger κ) : Prop where
  waiting : ∀ s t, l.tenures.get s = some t → ∀ d ∈ l.waiting.get s, Own t d
  stray : ∀ s, l.tenures.get s = none → ∀ d ∈ l.waiting.get s, d.tenure = none
  queued : ∀ q ∈ l.queued, q.parcel.IsOwned Own
  inHand : ∀ p, l.inHand = some p → p.IsOwned Own
  invoked : ∀ v ∈ l.invocations, Own v.tenure v.delivery ∧ v.callback = v.tenure.callback
  dropped : ∀ d ∈ l.dropped, d.tenure = none

namespace Owned

theorem empty : (empty : Ledger κ).Owned Own where
  waiting s t ht := by simp [Ledger.empty] at ht
  stray s _ d hd := by simp [Ledger.empty] at hd
  queued := nofun
  inHand := nofun
  invoked := nofun
  dropped := nofun

theorem mono (h : l.Owned Own) (hle : ∀ t d, Own t d → Own' t d) : l.Owned Own' where
  waiting s t ht d hd := hle _ _ (h.waiting s t ht d hd)
  stray := h.stray
  queued q hq d hd := (h.queued q hq d hd).imp_right (hle _ _)
  inHand p hp d hd := (h.inHand p hp d hd).imp_right (hle _ _)
  invoked v hv := (h.invoked v hv).imp_left (hle _ _)
  dropped := h.dropped

theorem note (h : l.Owned Own) (r₁ r₂ : Registry κ) : (l.note r₁ r₂).Owned Own := { h with }

theorem parcel (h : l.Owned Own) (hf : l.Filed) {p : Parcel κ} (hp : l.parcel? s = some p) :
    p.IsOwned Own := by
  obtain ⟨hs, ht, hw, -⟩ := parcel?_eq_some hp
  intro d hd
  rw [← hw] at hd
  exact ⟨(hf.signal s d hd).trans hs.symm, h.waiting s _ ht d hd⟩

theorem replace (h : l.Owned Own) (hf : l.Filed) {live w : Bool} {t : Option (Tenure κ)}
    (hnew : l.tenures.get s = none → ∀ t' ∈ t, ∀ d ∈ l.waiting.get s, Own t' d) :
    ((l.retire s live w).appoint s t).Owned Own where
  waiting u t' ht d hd := by
    obtain ⟨hw, hn⟩ := mem_waiting_retire hd
    simp only [appoint, retire_tenures, Signal.Table.get_set] at ht
    split at ht
    · next hu =>
      subst hu
      have hfree : l.tenures.get u = none := by simpa using hn
      exact hnew hfree t' ht d hw
    · exact h.waiting u t' ht d hw
  stray u ht d hd := by
    obtain ⟨hw, hn⟩ := mem_waiting_retire hd
    simp only [appoint, retire_tenures, Signal.Table.get_set] at ht
    split at ht
    · next hu =>
      subst hu
      have hfree : l.tenures.get u = none := by simpa using hn
      exact h.stray u hfree d hw
    · exact h.stray u ht d hw
  queued q hq := by
    obtain ⟨new, hn, hs⟩ := l.exists_queued_replace s live w t
    rw [hn, List.mem_append] at hq
    rcases hq with hq | hq
    · exact h.queued q hq
    · exact h.parcel hf (hs q hq).2.2
  inHand := by simpa [appoint] using h.inHand
  invoked := by simpa [appoint] using h.invoked
  dropped := by simpa [appoint] using h.dropped

theorem record (h : l.Owned Own) (hown : ∀ t d, d.tenure = some t → Own t d) (s : Signal) :
    (l.record s).Owned Own := by
  have hw : ∀ u, ∀ d ∈ (l.record s).waiting.get u,
      d ∈ l.waiting.get u ∨ d.tenure = l.tenures.get u := by
    intro u d hd
    refine (mem_waiting_record hd).imp_right ?_
    rintro ⟨rfl, rfl⟩
    rfl
  refine { h with waiting := fun u t ht d hd => ?_, stray := fun u ht d hd => ?_ }
  · rcases hw u d hd with hd | hd
    · exact h.waiting u t ht d hd
    · exact hown t d (hd.trans ht)
  · rcases hw u d hd with hd | hd
    · exact h.stray u ht d hd
    · exact hd.trans ht

theorem receive (h : l.Owned Own) : l.receive.Owned Own where
  waiting := by rw [receive_tenures, receive_waiting]; exact h.waiting
  stray := by rw [receive_tenures, receive_waiting]; exact h.stray
  queued q hq := by
    rw [receive_queued] at hq
    exact h.queued q (List.mem_of_mem_tail hq)
  inHand p hp := by
    unfold Ledger.receive at hp
    split at hp
    · exact h.inHand p hp
    · next q rest hq =>
      cases hp
      exact h.queued q (by rw [hq]; exact List.mem_cons_self)
  invoked := by rw [receive_invocations]; exact h.invoked
  dropped := by rw [receive_dropped]; exact h.dropped

theorem take (h : l.Owned Own) (hf : l.Filed) : (l.take s).Owned Own := by
  refine { h with
    waiting := fun u t ht d hd => h.waiting u t ht d (mem_waiting_take hd)
    stray := fun u ht d hd => h.stray u ht d (mem_waiting_take hd)
    inHand := fun p hp => h.parcel hf hp, dropped := fun d hd => ?_ }
  rcases List.mem_append.1 hd with hd | hd
  · exact h.dropped d hd
  · cases hp : l.parcel? s with
    | some p =>
      rw [hp] at hd
      cases hd
    | none =>
      rw [hp] at hd
      rcases parcel?_eq_none hp with ht | hn
      · exact h.stray s ht d hd
      · simp [hn] at hd

theorem finish (h : l.Owned Own) (ha : l.Agrees r) {b : Batch κ} {panicked : Bool}
    (hb : r.inHand? = some b) : (l.finish b.callback panicked).Owned Own := by
  obtain ⟨⟨s, t, deliveries⟩, hi, hc⟩ := ha.inHand_some hb
  have hp := h.inHand _ hi
  unfold Ledger.finish
  rw [hi]
  cases deliveries with
  | nil => exact h
  | cons d rest =>
    refine { h with inHand := fun p hp' => ?_, invoked := fun v hv => ?_ }
    · cases rest with
      | nil => cases hp'
      | cons d' rest =>
        cases hp'
        exact fun e he => hp e (List.mem_cons_of_mem _ he)
    · rcases List.mem_append.1 hv with hv | hv
      · exact h.invoked v hv
      · rw [List.mem_singleton.1 hv]
        exact ⟨(hp d List.mem_cons_self).2, hc.callback.symm⟩

/-- Ownership is kept by every move, if a callback that comes to a slot without one owns what is
counted there. -/
theorem move (h : l.Owned Own) (hf : l.Filed) (ha : l.Agrees r)
    (hown : ∀ t d, d.tenure = some t → Own t d)
    (hnew : ∀ s t, l.tenures.get s = none → l'.tenures.get s = some t →
      ∀ d ∈ l.waiting.get s, Own t d)
    (m : Move x r l r' l') : l'.Owned Own := by
  cases m with
  | @replace s =>
    refine (h.note _ _).replace (hf.note _ _) fun hs t ht => hnew s t hs ?_
    simpa [appoint] using ht
  | record => exact (h.note _ _).record hown _
  | close => exact { h with queued := fun q hq => by cases hq }
  | receive => exact h.receive
  | take => exact h.take hf
  | finish hd => exact h.finish ha (Registry.inHand?_of_live hd)
  | _ => exact h

end Owned

end Ledger

namespace History

variable {allowed : Registry κ → Step κ → Prop} {steps : List (Step κ)} {r r' : Registry κ}
  {l : Ledger κ}

/-- A callback that comes to a slot without one adopts what is counted there. -/
theorem adopts (h : History (fun _ _ => True) steps r l) {x : Step κ} (hx : r.step? x = some r')
    {s : Signal} {t : Tenure κ} (hs : l.tenures.get s = none)
    (ht : (l.next r x r').tenures.get s = some t) {d : Delivery κ} (hd : d ∈ l.waiting.get s) :
    Adopts (steps ++ [x]) r' (l.next r x r') t d := by
  obtain rfl := h.filed.signal s d hd
  rcases l.tenures_next r r' x with hn | ⟨s, a, refused, answer, rfl, hi, hn⟩
  · rw [hn, hs] at ht
    cases ht
  · rw [hn, Signal.Table.get_set] at ht
    split at ht
    · next he =>
      subst he
      cases a with
      | custom k =>
        cases ht
        have hfree := h.agrees.free.1 hs
        exact ⟨steps, refused, [], answer, r, l, rfl, h, hfree, hd, rfl, hi, .single hx⟩
      | default => cases ht
      | ignore => cases ht
    · rw [hs] at ht
      cases ht

theorem owned (h : History allowed steps r l) : l.Owned (Owns steps r l) := by
  obtain ⟨settings, system, pipe, hs, hc⟩ := h
  induction hc with
  | refl => exact .empty
  | @step steps r r' l x hc _ hx ih =>
    have hh : History (fun _ _ => True) steps r l :=
      ⟨settings, system, pipe, hs, hc.mono fun _ _ _ => trivial⟩
    have ih : l.Owned (Owns (steps ++ [x]) r' (l.next r x r')) := ih.mono fun _ _ ho => ho.step hx
    have hnew : ∀ s t, l.tenures.get s = none → (l.next r x r').tenures.get s = some t →
        ∀ d ∈ l.waiting.get s, Owns (steps ++ [x]) r' (l.next r x r') t d :=
      fun s t hs ht d hd => .inr ⟨ih.stray s hs d hd, hh.adopts hx hs ht hd⟩
    rcases Move.of_step (l := l) hx with hm | ⟨_, _, _, -, hd, hm⟩
    · exact ih.move hh.filed hh.agrees (fun _ _ => .inl) hnew hm
    · exact ih.move hh.filed (hh.agrees.started hd) (fun _ _ => .inl) hnew hm

end History

end HostServices.Watch
