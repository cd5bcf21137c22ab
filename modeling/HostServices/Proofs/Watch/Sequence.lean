import HostServices.Proofs.Watch.Attendance
import HostServices.Proofs.Watch.Standing

/-!
# The order of dispatch

Deliveries of a signal leave its counter together and in the order in which they were recorded, and
the dispatcher runs them in the order in which they left it, with one exception: what is replaced in
the middle of a scan waits in the channel until the scan is over, and the scan may still come to
deliveries that were recorded later. `Overtakes` says that this has happened to a delivery.
-/

namespace HostServices.Watch

variable {κ : Type}

/-! ### What has left the counters -/

namespace Ledger

variable {l l' : Ledger κ} {r r' : Registry κ} {s u : Signal} {d e : Delivery κ} {x : Step κ}

def posted (l : Ledger κ) : List (Delivery κ) := l.queued.flatMap fun q => q.parcel.deliveries

/-- What was run, is in hand and is in the channel, in the order of dispatch. -/
def passed (l : Ledger κ) : List (Delivery κ) :=
  l.invocations.map Invocation.delivery ++ l.inHand.elim [] Parcel.deliveries ++ l.posted

/-- Taken out of the counter of `s` for a callback. -/
def parcelled (l : Ledger κ) (s : Signal) : List (Delivery κ) :=
  (l.parcel? s).elim [] Parcel.deliveries

theorem mem_parcelled (hd : d ∈ l.parcelled s) :
    d ∈ l.waiting.get s ∧ (l.tenures.get s).isSome := by
  unfold parcelled at hd
  cases hp : l.parcel? s with
  | none => rw [hp] at hd; cases hd
  | some p =>
    obtain ⟨-, ht, hw, -⟩ := parcel?_eq_some hp
    rw [hp] at hd
    exact ⟨hw ▸ hd, by rw [ht]; rfl⟩

theorem parcelled_sublist (l : Ledger κ) (s : Signal) :
    (l.parcelled s).Sublist (l.waiting.get s) := by
  unfold parcelled
  cases hp : l.parcel? s with
  | none => exact List.nil_sublist _
  | some p => rw [(parcel?_eq_some hp).2.2.1]; exact List.Sublist.refl _

theorem posted_retire {live w : Bool} :
    (l.retire s live w).posted = l.posted ++ if live then l.parcelled s else [] := by
  unfold posted parcelled
  rw [retire_queued]
  cases live with
  | false => simp
  | true => cases l.parcel? s <;> simp

theorem passed_retire {live w : Bool} :
    (l.retire s live w).passed = l.passed ++ if live then l.parcelled s else [] := by
  unfold passed
  rw [retire_invocations, retire_inHand, posted_retire]
  simp only [List.append_assoc]

theorem passed_receive (hi : l.inHand = none) : l.receive.passed = l.passed := by
  unfold receive
  split
  · rfl
  · next q rest hq => simp [passed, posted, hq, hi]

theorem passed_take (hi : l.inHand = none) :
    l.passed = l.invocations.map Invocation.delivery ++ l.posted ∧
      (l.take s).passed =
        l.invocations.map Invocation.delivery ++ l.parcelled s ++ l.posted := by
  simp [passed, hi, take, parcelled, posted]

@[simp] theorem finish_waiting {k : κ} {panicked : Bool} :
    (l.finish k panicked).waiting = l.waiting := by
  unfold finish
  split <;> rfl

theorem passed_finish {k : κ} {panicked : Bool} : (l.finish k panicked).passed = l.passed := by
  unfold finish
  split
  · next s t d rest hi => cases rest <;> simp [passed, posted, hi]
  · rfl

theorem mem_waiting_retire {live w : Bool} (hd : d ∈ (l.retire s live w).waiting.get u) :
    d ∈ l.waiting.get u ∧ ¬ (u = s ∧ (l.tenures.get s).isSome) := by
  rw [retire_waiting] at hd
  split at hd
  · cases hd
  · next hn => exact ⟨hd, hn⟩

theorem mem_waiting_record (hd : d ∈ (l.record s).waiting.get u) :
    d ∈ l.waiting.get u ∨ u = s ∧ d = l.upcoming s := by
  simp only [record, Signal.Table.get_set] at hd
  split at hd
  · next hu =>
    subst hu
    split at hd
    · simpa using hd
    · cases hd
  · exact .inl hd

theorem mem_waiting_take (hd : d ∈ (l.take s).waiting.get u) : d ∈ l.waiting.get u := by
  simp only [take, Signal.Table.get_set] at hd
  split at hd
  · cases hd
  · exact hd

theorem passed_discardQueue_sublist (l : Ledger κ) : l.discardQueue.passed.Sublist l.passed := by
  simp only [passed, posted, discardQueue, List.flatMap_nil, List.append_nil]
  exact List.sublist_append_left _ _

/-- What is counted is filed under its signal in the order of its numbers, and comes after all that
has left the counter. -/
structure Filed (l : Ledger κ) : Prop where
  signal : ∀ s, ∀ d ∈ l.waiting.get s, d.signal = s
  counted : ∀ s, ∀ d ∈ l.waiting.get s, d.number < l.recorded.length
  passed : ∀ d ∈ l.passed, d.number < l.recorded.length
  sorted : ∀ s, (l.waiting.get s).Pairwise fun d e => d.number < e.number
  later : ∀ d ∈ l.passed, ∀ e ∈ l.waiting.get d.signal, d.number < e.number

namespace Filed

theorem empty : (empty : Ledger κ).Filed where
  signal s d hd := by simp [Ledger.empty] at hd
  counted s d hd := by simp [Ledger.empty] at hd
  passed d hd := by cases hd
  sorted s := by simp [Ledger.empty]
  later d hd := by cases hd

/-- Counters may be emptied, if what passes on was counted there. -/
theorem of_passed (h : l.Filed) (hr : l'.recorded = l.recorded)
    (hw : ∀ s, l'.waiting.get s = l.waiting.get s ∨ l'.waiting.get s = [])
    (hp : ∀ d ∈ l'.passed,
      d ∈ l.passed ∨ d ∈ l.waiting.get d.signal ∧ l'.waiting.get d.signal = []) : l'.Filed := by
  have hsub (s : Signal) : (l'.waiting.get s).Sublist (l.waiting.get s) := by
    rcases hw s with hw | hw
    · exact hw ▸ List.Sublist.refl _
    · exact hw ▸ List.nil_sublist _
  refine ⟨fun s d hd => h.signal s d ((hsub s).subset hd), fun s d hd => ?_, fun d hd => ?_,
    fun s => (h.sorted s).sublist (hsub s), fun d hd e he => ?_⟩
  · rw [hr]
    exact h.counted s d ((hsub s).subset hd)
  · rw [hr]
    rcases hp d hd with hd | ⟨hd, -⟩
    · exact h.passed d hd
    · exact h.counted _ d hd
  · rcases hp d hd with hd | ⟨-, hz⟩
    · exact h.later d hd e ((hsub _).subset he)
    · rw [hz] at he
      cases he

theorem parcelled (h : l.Filed) (hd : d ∈ l.parcelled s) :
    d.signal = s ∧ d ∈ l.waiting.get d.signal := by
  have hm := (mem_parcelled hd).1
  obtain rfl := h.signal s d hm
  exact ⟨rfl, hm⟩

theorem note (h : l.Filed) (r₁ r₂ : Registry κ) : (l.note r₁ r₂).Filed := { h with }

theorem retire (h : l.Filed) {live w : Bool} {t : Option (Tenure κ)} :
    ((l.retire s live w).appoint s t).Filed := by
  refine h.of_passed (by simp [appoint]) (fun u => ?_) fun d hd => ?_
  · simp only [appoint, retire_waiting]
    split
    · exact .inr rfl
    · exact .inl rfl
  · have hd : d ∈ (l.retire s live w).passed := hd
    rw [passed_retire, List.mem_append] at hd
    refine hd.imp_right fun hd => ?_
    have hd : d ∈ l.parcelled s := by
      cases live with
      | true => exact hd
      | false => cases hd
    obtain ⟨rfl, hm⟩ := h.parcelled hd
    refine ⟨hm, ?_⟩
    simp [appoint, retire_waiting, (mem_parcelled hd).2]

theorem record (h : l.Filed) : (l.record s).Filed := by
  have hlen : (l.record s).recorded.length = l.recorded.length + 1 := by
    simp [Ledger.record]
  refine ⟨fun u d hd => ?_, fun u d hd => ?_, fun d hd => ?_, fun u => ?_, fun d hd e he => ?_⟩
  · rcases mem_waiting_record hd with hd | ⟨rfl, rfl⟩
    · exact h.signal u d hd
    · rfl
  · rw [hlen]
    rcases mem_waiting_record hd with hd | ⟨rfl, rfl⟩
    · exact Nat.lt_succ_of_lt (h.counted u d hd)
    · exact Nat.lt_succ_self _
  · rw [hlen]
    exact Nat.lt_succ_of_lt (h.passed d hd)
  · simp only [Ledger.record, Signal.Table.get_set]
    split
    · split
      · refine List.pairwise_append.2 ⟨h.sorted s, List.pairwise_singleton _ _, fun d hd e he => ?_⟩
        rw [List.mem_singleton.1 he]
        exact h.counted s d hd
      · exact .nil
    · exact h.sorted u
  · rcases mem_waiting_record he with he | ⟨-, rfl⟩
    · exact h.later d hd e he
    · exact h.passed d hd

theorem take (h : l.Filed) (hi : l.inHand = none) : (l.take s).Filed := by
  refine h.of_passed rfl (fun u => ?_) fun d hd => ?_
  · simp only [Ledger.take, Signal.Table.get_set]
    split
    · exact .inr rfl
    · exact .inl rfl
  · obtain ⟨hpassed, htake⟩ := passed_take (s := s) hi
    rw [htake] at hd
    rw [hpassed]
    simp only [List.mem_append] at hd ⊢
    rcases hd with (hd | hd) | hd
    · exact .inl (.inl hd)
    · obtain ⟨rfl, hm⟩ := h.parcelled hd
      exact .inr ⟨hm, by simp [Ledger.take]⟩
    · exact .inl (.inr hd)

theorem move (h : l.Filed) (ha : l.Agrees r) (m : Move x r l r' l') : l'.Filed := by
  cases m with
  | replace => exact (h.note _ _).retire
  | record => exact (h.note _ _).record
  | close =>
    exact h.of_passed rfl (fun _ => .inl rfl) fun d hd =>
      .inl (l.passed_discardQueue_sublist.subset hd)
  | receive hd =>
    have hi := ha.inHand_none (Registry.inHand?_of_live hd)
    refine h.of_passed (receive_recorded ..) (fun _ => .inl (by rw [receive_waiting]))
      fun d hd => ?_
    rw [passed_receive hi] at hd
    exact .inl hd
  | take hd => exact h.take (ha.inHand_none (Registry.inHand?_of_live hd))
  | finish =>
    refine h.of_passed (finish_recorded ..) (fun _ => .inl (by rw [finish_waiting])) fun d hd => ?_
    rw [passed_finish] at hd
    exact .inl hd
  | _ => exact h

end Filed

end Ledger

theorem History.filed {allowed : Registry κ → Step κ → Prop} {steps : List (Step κ)}
    {r : Registry κ} {l : Ledger κ} (h : History allowed steps r l) : l.Filed := by
  have h : History (fun _ _ => True) steps r l := h.mono fun _ _ _ => trivial
  exact h.invariant (P := fun _ l => l.Filed) id (fun _ _ _ _ => .empty) fun _ ha ih m =>
    ih.move ha m

/-! ### Overtaking -/

/-- The dispatcher is in a scan that has still to come to `s`. -/
def Phase.WillScan : Phase → Signal → Prop
  | .scanning next others, s => s ∈ next :: others
  | _, _ => False

theorem Phase.willScan_of_scan {todo : List Signal} {s : Signal} (h : (scan todo).WillScan s) :
    s ∈ todo := by
  cases todo with
  | nil => cases h
  | cons next others => exact h

def Registry.WillScan (r : Registry κ) (s : Signal) : Prop :=
  ∃ d, r.dispatcher = .live d ∧ d.phase.WillScan s

theorem Registry.willScan_of_upNext? {r : Registry κ} {s : Signal} (h : r.upNext? = some s) :
    r.WillScan s := by
  unfold upNext? at h
  split at h
  · next u others hd =>
    cases h
    exact ⟨_, hd, List.mem_cons_self⟩
  · cases h

section

variable {steps : List (Step κ)} {r r' : Registry κ} {l l' : Ledger κ} {d e : Delivery κ}
  {x : Step κ}

/-- The step replaces the callback that `d` is counted for, in a scan that has still to come to the
signal. -/
def SetsAside (r : Registry κ) (l : Ledger κ) (x : Step κ) (d : Delivery κ) : Prop :=
  r.WillScan d.signal ∧ d ∈ l.parcelled d.signal ∧
    ∃ a refused answer, x = .install d.signal a refused ∧
      (r.install d.signal a refused).1 = .ok answer

/-- The history has come by a step that set `d` aside, and the channel was not looked at since. All
that is counted for the signal was recorded after that step. -/
def Aside (steps : List (Step κ)) (r : Registry κ) (l : Ledger κ) (d : Delivery κ) : Prop :=
  ∃ before x since r₁ l₁, steps = before ++ x :: since ∧
    History (fun _ _ => True) before r₁ l₁ ∧ SetsAside r₁ l₁ x d ∧
    Course (fun _ _ => True) r₁ l₁ (x :: since) r l ∧ .receive ∉ since ∧
    ∀ e ∈ l.waiting.get d.signal, l₁.recorded.length ≤ e.number

/-- `e` overtakes `d` in the history: the callback of `d` was replaced in a scan that had still to
come to their signal, `e` was recorded after that, and the same scan came to it. -/
def Overtakes (steps : List (Step κ)) (r : Registry κ) (l : Ledger κ) (e d : Delivery κ) : Prop :=
  ∃ before after r₁ l₁, steps = before ++ .check :: after ∧ Aside before r₁ l₁ d ∧
    r₁.upNext? = some d.signal ∧ e ∈ l₁.waiting.get d.signal ∧
    Course (fun _ _ => True) r₁ l₁ (.check :: after) r l

theorem Overtakes.step (h : Overtakes steps r l e d) (hx : r.step? x = some r') :
    Overtakes (steps ++ [x]) r' (l.next r x r') e d := by
  obtain ⟨before, after, r₁, l₁, rfl, ha, hu, he, hc⟩ := h
  exact ⟨before, after ++ [x], r₁, l₁, by simp, ha, hu, he, hc.step trivial hx⟩

theorem Move.waiting_or_later (m : Move x r l r' l') {s : Signal} (he : e ∈ l'.waiting.get s) :
    e ∈ l.waiting.get s ∨ l.recorded.length ≤ e.number := by
  cases m with
  | replace => exact .inl (Ledger.mem_waiting_retire he).1
  | record =>
    rcases Ledger.mem_waiting_record he with he | ⟨-, rfl⟩
    · exact .inl he
    · exact .inr (Nat.le_refl _)
  | receive => rw [Ledger.receive_waiting] at he; exact .inl he
  | take => exact .inl (Ledger.mem_waiting_take he)
  | finish => rw [Ledger.finish_waiting] at he; exact .inl he
  | _ => exact .inl he

theorem Course.length_recorded_le {allowed : Registry κ → Step κ → Prop}
    (h : Course allowed r l steps r' l') : l.recorded.length ≤ l'.recorded.length := by
  induction h with
  | refl => exact Nat.le_refl _
  | step _ _ _ ih => rw [Ledger.length_recorded_next]; omega

/-- What was set aside stays so while the scan goes on. -/
theorem Aside.step (h : Aside steps r l d) (hx : r.step? x = some r') (hn : x ≠ .receive) :
    Aside (steps ++ [x]) r' (l.next r x r') d := by
  obtain ⟨before, y, since, r₁, l₁, rfl, hb, hy, hc, hs, hlater⟩ := h
  refine ⟨before, y, since ++ [x], r₁, l₁, by simp, hb, hy, hc.step trivial hx, ?_,
    fun e he => ?_⟩
  · simpa [hs] using hn.symm
  · have hw : e ∈ l.waiting.get d.signal ∨ l.recorded.length ≤ e.number := by
      rcases Move.of_step (l := l) hx with hm | ⟨_, _, _, rfl, -, hm⟩
      · exact hm.waiting_or_later he
      · exact hm.waiting_or_later he
    rcases hw with he | he
    · exact hlater e he
    · exact Nat.le_trans hc.length_recorded_le he

end

namespace Ledger

variable {l l' : Ledger κ} {r r' : Registry κ} {s : Signal} {x : Step κ}
  {Over : Delivery κ → Delivery κ → Prop}

/-- The first of two deliveries of a signal has the smaller number, unless it overtook the other. -/
def InTurn (Over : Delivery κ → Delivery κ → Prop) (deliveries : List (Delivery κ)) : Prop :=
  deliveries.Pairwise fun d e => d.signal = e.signal → d.number < e.number ∨ Over d e

theorem InTurn.mono {Over' : Delivery κ → Delivery κ → Prop} {deliveries : List (Delivery κ)}
    (h : InTurn Over deliveries) (hle : ∀ d e, Over d e → Over' d e) : InTurn Over' deliveries :=
  List.Pairwise.imp (fun h hs => (h hs).imp_right (hle _ _)) h

namespace Filed

theorem inTurn_parcelled (h : l.Filed) (s : Signal) : InTurn Over (l.parcelled s) :=
  List.Pairwise.imp (fun h _ => .inl h) ((h.sorted s).sublist (l.parcelled_sublist s))

theorem lt_of_parcelled (h : l.Filed) {d e : Delivery κ} (hd : d ∈ l.passed)
    (he : e ∈ l.parcelled s) (hs : d.signal = e.signal) : d.number < e.number :=
  h.later d hd e (hs ▸ (h.parcelled he).2)

/-- What is taken out of a counter comes last. -/
theorem inTurn_append (h : l.Filed) (ho : InTurn Over l.passed) (s : Signal) :
    InTurn Over (l.passed ++ l.parcelled s) :=
  List.pairwise_append.2
    ⟨ho, h.inTurn_parcelled s, fun _ hd _ he hs => .inl (h.lt_of_parcelled hd he hs)⟩

/-- What the dispatcher takes out of a counter itself overtakes the channel. -/
theorem inTurn_take (h : l.Filed) (hi : l.inHand = none)
    (hov : ∀ e ∈ l.waiting.get s, ∀ d ∈ l.posted, d.signal = s → Over e d)
    (ho : InTurn Over l.passed) : InTurn Over (l.take s).passed := by
  obtain ⟨hpassed, htake⟩ := passed_take (s := s) hi
  rw [htake]
  rw [hpassed] at ho
  obtain ⟨hran, hposted, hcross⟩ := List.pairwise_append.1 ho
  -- what is taken goes between what was run and the channel
  refine List.pairwise_append.2
    ⟨List.pairwise_append.2 ⟨hran, h.inTurn_parcelled s, ?_⟩, hposted, ?_⟩
  · intro d hd e he hs
    exact .inl (h.lt_of_parcelled (hpassed ▸ List.mem_append_left _ hd) he hs)
  · intro d hd e he hs
    rcases List.mem_append.1 hd with hd | hd
    · exact hcross d hd e he hs
    · exact .inr (hov d (mem_parcelled hd).1 e he (hs.symm.trans (h.parcelled hd).1))

theorem inTurn_move (h : l.Filed) (ha : l.Agrees r) (m : Move x r l r' l')
    (hov : x = .check → ∀ s, r.upNext? = some s →
      ∀ e ∈ l.waiting.get s, ∀ d ∈ l.posted, d.signal = s → Over e d)
    (ho : InTurn Over l.passed) : InTurn Over l'.passed := by
  cases m with
  | @replace s a refused _ _ t _ _ =>
    show InTurn Over ((l.note r (r.replace s a refused.wake)).retire s r.isLive refused.wake).passed
    rw [passed_retire]
    split
    · exact h.inTurn_append ho s
    · rw [List.append_nil]
      exact ho
  | close => exact List.Pairwise.sublist l.passed_discardQueue_sublist ho
  | receive hd =>
    rw [passed_receive (ha.inHand_none (Registry.inHand?_of_live hd))]
    exact ho
  | take hd =>
    refine h.inTurn_take (ha.inHand_none (Registry.inHand?_of_live hd)) ?_ ho
    exact hov rfl _ (by rw [Registry.upNext?, hd])
  | finish => rw [passed_finish]; exact ho
  | _ => exact ho

end Filed

end Ledger

/-- All that has left the counters is in turn, and in a scan that has still to come to a signal all
that the channel holds for the signal was set aside. -/
structure Sequenced (steps : List (Step κ)) (r : Registry κ) (l : Ledger κ) : Prop where
  order : Ledger.InTurn (Overtakes steps r l) l.passed
  aside : ∀ d ∈ l.posted, r.WillScan d.signal → Aside steps r l d

namespace Sequenced

variable {allowed : Registry κ → Step κ → Prop} {steps : List (Step κ)} {r r' : Registry κ}
  {l l' : Ledger κ} {d : Delivery κ} {x : Step κ}

theorem order_step (h : Sequenced steps r l) (hh : History (fun _ _ => True) steps r l)
    (hx : r.step? x = some r') :
    Ledger.InTurn (Overtakes (steps ++ [x]) r' (l.next r x r')) (l.next r x r').passed := by
  have ho := h.order.mono fun d e hd => hd.step hx
  have hf := hh.filed
  have ha := hh.agrees
  rcases Move.of_step (l := l) hx with hm | ⟨s, a, refused, rfl, hd, hm⟩
  · refine hf.inTurn_move ha hm (fun hc s hs e he d hd hsd => ?_) ho
    subst hc hsd
    exact ⟨steps, [], r, l, rfl, h.aside d hd (Registry.willScan_of_upNext? hs), hs, he, .single hx⟩
  · exact hf.inTurn_move (ha.started hd) hm nofun ho

/-- Only installs and the dispatcher's look at the channel change what it holds in a scan. -/
theorem posted_of_move (m : Move x r l r' l') (hn : x ≠ .receive)
    (hi : ∀ s a refused, x ≠ .install s a refused) (s : Signal) (hw : r'.WillScan s) :
    r.WillScan s ∧ l'.posted = l.posted := by
  cases m with
  | nothing => exact ⟨hw, rfl⟩
  | start => exact (hi _ _ _ rfl).elim
  | replace => exact (hi _ _ _ rfl).elim
  | record => exact ⟨by simpa only [Registry.WillScan, Registry.record_dispatcher] using hw, rfl⟩
  | overrule => exact ⟨hw, rfl⟩
  | read => obtain ⟨d, hd, hp⟩ := hw; cases hd; cases hp
  | close => obtain ⟨d, hd, hp⟩ := hw; cases hd
  | turn => exact (hn rfl).elim
  | receive => exact (hn rfl).elim
  | take hd =>
    obtain ⟨d, hd', hp⟩ := hw
    cases hd'
    exact ⟨⟨_, hd, List.mem_cons_of_mem _ (Phase.willScan_of_scan hp)⟩, rfl⟩
  | finish hd =>
    obtain ⟨d, hd', hp⟩ := hw
    cases hd'
    exact ⟨⟨_, hd, hp⟩, by simp only [Ledger.posted, Ledger.finish_queued]⟩

theorem aside_receive (hh : History (fun _ _ => True) steps r l) (hx : r.step? .receive = some r')
    (hd : d ∈ (l.next r .receive r').posted) (hw : r'.WillScan d.signal) : False := by
  obtain ⟨-, ⟨hq, rfl⟩ | ⟨b, rest, -, rfl⟩⟩ := Registry.receive?_eq_some hx
  · have hnil := hh.agrees.queued
    rw [hq, List.forall₂_nil_right_iff] at hnil
    simp [Ledger.next, hq, Ledger.posted, hnil] at hd
  · obtain ⟨d, hd, hp⟩ := hw
    cases hd
    cases hp

theorem not_willScan_started {s : Signal} : ¬ r.started.WillScan s := by
  rintro ⟨d, hd, hp⟩
  cases hd
  cases hp

theorem willScan_replace {s u : Signal} {a : Action κ} {w : Bool} :
    (r.replace s a w).WillScan u ↔ r.WillScan u := by
  simp only [Registry.WillScan, Registry.replace_dispatcher]

theorem aside_install {s : Signal} {a : Action κ} {refused : Refusals}
    (h : Sequenced steps r l) (hh : History (fun _ _ => True) steps r l)
    (hd : d ∈ (l.next r (.install s a refused) (r.install s a refused).2).posted)
    (hw : (r.install s a refused).2.WillScan d.signal) :
    Aside (steps ++ [.install s a refused]) (r.install s a refused).2
      (l.next r (.install s a refused) (r.install s a refused).2) d := by
  cases hi : (r.install s a refused).1 with
  | error e =>
    rcases Registry.install_eq_error hi with hr | ⟨-, hr⟩
    · have hpost : d ∈ l.posted := by simpa only [Ledger.next, hi] using hd
      exact (h.aside d hpost (hr ▸ hw)).step rfl (by simp)
    · exact (not_willScan_started (hr ▸ hw)).elim
  | ok answer =>
    have hwr : r.WillScan d.signal := by
      rcases (Registry.install_eq_ok hi).2 with hr | ⟨-, hr⟩
      · exact willScan_replace.1 (hr ▸ hw)
      · exact (not_willScan_started (willScan_replace.1 (hr ▸ hw))).elim
    have hnext : l.next r (.install s a refused) (r.install s a refused).2 =
        ((l.note r (r.install s a refused).2).retire s (r.install s a refused).2.isLive
          refused.wake).appoint s (a.callback?.map fun k => ⟨r.stats.installs, k⟩) := by
      simp only [Ledger.next, hi]
    have hpost : d ∈ l.posted ∨ d ∈ l.parcelled s := by
      have hd : d ∈ ((l.note r (r.install s a refused).2).retire s
          (r.install s a refused).2.isLive refused.wake).posted := by rwa [hnext] at hd
      rw [Ledger.posted_retire, List.mem_append] at hd
      refine hd.imp_right fun hd => ?_
      split at hd
      · exact hd
      · cases hd
    -- what the channel held is aside as before, and what this install posted is aside from here on
    rcases hpost with hd | hd
    · exact (h.aside d hd hwr).step rfl (by simp)
    · obtain ⟨rfl, -⟩ := hh.filed.parcelled hd
      refine ⟨steps, _, [], r, l, rfl, hh, ⟨hwr, hd, a, refused, answer, rfl, hi⟩, .single rfl,
        List.not_mem_nil, fun e he => ?_⟩
      have ht : ((l.note r (r.install d.signal a refused).2).tenures.get d.signal).isSome :=
        (Ledger.mem_parcelled hd).2
      rw [hnext] at he
      simp [Ledger.appoint, Ledger.retire_waiting, ht] at he

theorem step (h : Sequenced steps r l) (hh : History (fun _ _ => True) steps r l)
    (hx : r.step? x = some r') : Sequenced (steps ++ [x]) r' (l.next r x r') where
  order := h.order_step hh hx
  aside d hd hw := by
    by_cases hn : x = .receive
    · subst hn
      exact (aside_receive hh hx hd hw).elim
    by_cases hi : ∃ s a refused, x = .install s a refused
    · obtain ⟨s, a, refused, rfl⟩ := hi
      cases hx
      exact h.aside_install hh hd hw
    · simp only [not_exists] at hi
      rcases Move.of_step (l := l) hx with hm | ⟨s, a, refused, hxi, -⟩
      · obtain ⟨hwr, hp⟩ := posted_of_move hm hn hi _ hw
        exact (h.aside d (hp ▸ hd) hwr).step hx hn
      · exact (hi _ _ _ hxi).elim

end Sequenced

namespace History

variable {allowed : Registry κ → Step κ → Prop} {steps : List (Step κ)} {r : Registry κ}
  {l : Ledger κ}

theorem sequenced (h : History allowed steps r l) : Sequenced steps r l := by
  obtain ⟨settings, system, pipe, hs, hc⟩ := h
  induction hc with
  | refl => exact ⟨.nil, nofun⟩
  | step hc _ hx ih =>
    exact ih.step ⟨settings, system, pipe, hs, hc.mono fun _ _ _ => trivial⟩ hx

/-- The callbacks of a signal run in the order in which their deliveries were recorded, unless a
delivery was overtaken. -/
theorem invoked_in_turn (h : History allowed steps r l) :
    l.Agrees r ∧ l.recorded.map Delivery.number = List.range (steps.countP Step.isRecord) ∧
      l.invocations.Pairwise fun v w => v.delivery.signal = w.delivery.signal →
        v.delivery.number < w.delivery.number ∨
          Overtakes steps r l v.delivery w.delivery := by
  refine ⟨h.agrees, ?_, ?_⟩
  · rw [h.complete.numbered, h.length_recorded]
  · have ho := h.sequenced.order
    rw [Ledger.passed, List.append_assoc] at ho
    exact List.pairwise_map.1 (List.pairwise_append.1 ho).1

/-- The scan stands at the callback of the first signal while the one of another is replaced, with a
delivery recorded before that and one after. -/
def overtaking : List (Step Nat) := List.flatten
  [[.install .hup (.custom 0) .nothing, .install .usr1 (.custom 1) .nothing, .record .hup,
      .read, .receive, .check, .record .usr1, .install .usr1 (.custom 2) .nothing, .record .usr1,
      .finish false],
    .replicate (Signal.all.idxOf .usr1) .check,
    [.finish false],
    .replicate (Signal.all.length - Signal.all.idxOf .usr1 - 1) .check,
    [.read, .receive, .finish false]]

theorem exists_history_overtaking :
    ∃ (r : Registry Nat) (l : Ledger Nat),
      History (fun r x => x.Unforged ∧ r.HasRoom x) overtaking r l ∧
        l.invocations.map (fun v => (v.delivery.number, v.delivery.signal, v.callback)) =
          [(0, .hup, 0), (2, .usr1, 2), (1, .usr1, 1)] := by
  have hu : ∀ x ∈ overtaking, x.Unforged := by decide
  have hl : ∃ rl ∈ (Registry.empty .standard .fresh .standard).follow? .empty overtaking,
      rl.2.invocations.map (fun v => (v.delivery.number, v.delivery.signal, v.callback)) =
        [(0, .hup, 0), (2, .usr1, 2), (1, .usr1, 1)] := by decide +kernel
  obtain ⟨⟨r, l⟩, hrl, hl⟩ := hl
  have h : History (fun _ x => x.Unforged) overtaking r l :=
    of_follow? System.handler_fresh (fun x hx _ => hu x hx) hrl
  exact ⟨r, l, h.hasRoom (by decide), hl⟩

/-- The callback of a later delivery has run before the one of an earlier delivery. -/
theorem exists_out_of_turn :
    ∃ (r : Registry Nat) (l : Ledger Nat),
      History (fun r x => x.Unforged ∧ r.HasRoom x) overtaking r l ∧
        ¬ l.invocations.Pairwise fun v w => v.delivery.signal = w.delivery.signal →
          v.delivery.number < w.delivery.number := by
  obtain ⟨r, l, h, hl⟩ := exists_history_overtaking
  refine ⟨r, l, h, fun hp => ?_⟩
  have hp : (l.invocations.map fun v =>
      (v.delivery.number, v.delivery.signal, v.callback)).Pairwise
        fun v w => v.2.1 = w.2.1 → v.1 < w.1 := List.pairwise_map.2 hp
  rw [hl] at hp
  exact absurd hp (by decide)

/-- The first of them has overtaken the second. -/
theorem exists_overtakes :
    ∃ (r : Registry Nat) (l : Ledger Nat) (e d : Delivery Nat),
      History (fun r x => x.Unforged ∧ r.HasRoom x) overtaking r l ∧
        e.number = 2 ∧ d.number = 1 ∧ Overtakes overtaking r l e d := by
  obtain ⟨r, l, h, hl⟩ := exists_history_overtaking
  obtain ⟨-, -, hp⟩ := h.invoked_in_turn
  have hn : l.invocations.length = 3 := by simpa using congrArg List.length hl
  obtain ⟨v₀, v, w, hv⟩ := List.length_eq_three.1 hn
  rw [hv] at hl hp
  simp only [List.map_cons, List.map_nil, List.cons.injEq, Prod.mk.injEq] at hl
  obtain ⟨-, ⟨hvn, hvs, -⟩, ⟨hwn, hws, -⟩, -⟩ := hl
  have hvw := (List.pairwise_cons.1 (List.pairwise_cons.1 hp).2).1 w (by simp) (hvs.trans hws.symm)
  refine ⟨r, l, v.delivery, w.delivery, h, hvn, hwn, hvw.resolve_left ?_⟩
  omega

end History

end HostServices.Watch
