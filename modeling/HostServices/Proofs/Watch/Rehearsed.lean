import HostServices.Proofs.Watch.Adoption
import HostServices.Proofs.Watch.Balance
import HostServices.Watch.Rehearsal

/-!
# Rehearsals are histories

Whatever is asked of a rehearsal, its registry comes about in steps (`Rehearsal.rehearsed_after`),
so all that is said of histories is said of what a rehearsal answers from. `Follows` is kept by
every operation, from the single raise up to the request.

A rehearsal waits until as many callbacks have ended as deliveries found one installed. A dispatcher
that has come to rest has done so unless a batch is stuck in the channel or a callback was run for a
delivery that none was installed for (`Rehearsal.Follows.isSettled_iff`).
-/

namespace HostServices.Watch

section

variable {κ : Type} {s : Signal} {r : Registry κ} {x : Step κ}

/-- Batches are not empty. -/
theorem Batch.sum_count_eq_zero {batches : List (Batch κ)} :
    (batches.map Batch.count).sum = 0 ↔ batches = [] := by
  cases batches with
  | nil => simp
  | cons b rest =>
    have := b.count_pos
    simp
    omega

theorem System.raised_eq_recorded {t : System} (h : t.raised s = .recorded) :
    (t.get s).handler = .recorder := by
  unfold System.raised at h
  split at h
  · cases h
  · cases hh : (t.get s).handler with
    | recorder => rfl
    | default =>
      rw [hh] at h
      simp only at h
      split at h <;> cases h
    | ignore => rw [hh] at h; cases h
    | outside => rw [hh] at h; cases h
    | guard => rw [hh] at h; cases h

/-- What the dispatcher does by itself is none of the steps that ask for more. -/
theorem Registry.hasShown_move (hm : r.move? = some x) : r.HasShown x ∧ x.isRecord = false := by
  unfold Registry.move? at hm
  split at hm
  · split at hm
    · cases hm
    · cases hm
      exact ⟨trivial, rfl⟩
  · cases hm
    exact ⟨trivial, rfl⟩
  · cases hm
    exact ⟨trivial, rfl⟩
  · cases hm

end

namespace Rehearsal

variable {settings : Settings} {t t' : Rehearsal} {steps : List (Step Cue)} {l : Ledger Cue}
  {r : Registry Cue} {x : Step Cue} {s : Signal}

/-- The steps lead to the registry of the rehearsal, and what it remembers beside it is what the
ledger knows. -/
structure Follows (settings : Settings) (t : Rehearsal) (steps : List (Step Cue)) (l : Ledger Cue) :
    Prop where
  course : Course Registry.HasShown (.fresh settings) .empty steps t.registry l
  seen : t.recorderSeen = true → t.registry.dispatcher ≠ .absent
  raised : t.raised = l.recorded.length
  owed : t.owed = l.recorded.countP fun d => d.tenure.isSome

/-- Some steps lead to the rehearsal. -/
def IsRehearsed (settings : Settings) (t : Rehearsal) : Prop :=
  ∃ steps l, t.Follows settings steps l

theorem Follows.history (h : t.Follows settings steps l) :
    History Registry.HasShown steps t.registry l :=
  ⟨settings, .fresh, .standard, System.handler_fresh, h.course⟩

theorem rehearsed_start (settings : Settings) : (start settings).IsRehearsed settings :=
  ⟨[], .empty, .refl, nofun, rfl, rfl⟩

/-- The rest of a rehearsal has no part in it. -/
theorem IsRehearsed.congr (h : t.IsRehearsed settings) (he : t'.registry = t.registry ∧
    t'.recorderSeen = t.recorderSeen ∧ t'.raised = t.raised ∧ t'.owed = t.owed) :
    t'.IsRehearsed settings := by
  obtain ⟨steps, l, h⟩ := h
  obtain ⟨hr, hs, hn, ho⟩ := he
  exact ⟨steps, l, hr ▸ h.course, hr ▸ hs ▸ h.seen, hn.trans h.raised, ho.trans h.owed⟩

/-! ### One step of the registry -/

theorem Follows.step (h : t.Follows settings steps l) (hx : t.registry.step? x = some r)
    (hs : t.registry.HasShown x) (hn : x.isRecord = false) :
    ({ t with registry := r } : Rehearsal).Follows settings (steps ++ [x])
      (l.next t.registry x r) where
  course := h.course.step hs hx
  seen hr := Registry.dispatcher_step_ne_absent hx (h.seen hr)
  raised := by rw [Ledger.recorded_next hn]; exact h.raised
  owed := by rw [Ledger.recorded_next hn]; exact h.owed

theorem IsRehearsed.step (h : t.IsRehearsed settings) (hx : t.registry.step? x = some r)
    (hs : t.registry.HasShown x) (hn : x.isRecord = false) :
    ({ t with registry := r } : Rehearsal).IsRehearsed settings := by
  obtain ⟨steps, l, h⟩ := h
  exact ⟨_, _, h.step hx hs hn⟩

/-- A callback has been in a slot only since the dispatcher was started. -/
theorem Follows.ne_absent (h : t.Follows settings steps l)
    (hi : t.registry.installed s = some .custom) :
    t.registry.dispatcher ≠ .absent := by
  intro hd
  have hk := h.history.attended.callback hd s
  rw [Slot.callback?] at hk
  rw [Registry.installed] at hi
  cases ha : (t.registry.slots.get s).action with
  | none => rw [ha] at hi; cases hi
  | some a =>
    rw [ha] at hi hk
    cases a with
    | custom k => cases hk
    | default => cases hi
    | ignore => cases hi

/-! ### The dispatcher and installs -/

theorem IsRehearsed.beginRead (h : t.IsRehearsed settings) : t.beginRead.IsRehearsed settings := by
  unfold Rehearsal.beginRead
  split
  · exact h
  · next number _ =>
    split
    · exact h
    · next r hr =>
      have h := h.step (x := .failRead (number = Errno.interrupted.code)) hr trivial rfl
      exact h.congr ⟨rfl, rfl, rfl, rfl⟩

theorem IsRehearsed.moved (h : t.IsRehearsed settings) (hx : t.registry.step? x = some r)
    (hs : t.registry.HasShown x) (hn : x.isRecord = false) : (t.moved r).IsRehearsed settings := by
  unfold Rehearsal.moved
  simp only
  split
  · exact (h.step hx hs hn).beginRead
  · exact h.step hx hs hn

theorem IsRehearsed.install (h : t.IsRehearsed settings) (s : Signal) (a : Action Cue) :
    (t.install s a).2.IsRehearsed settings := by
  have h := h.moved (x := .install s a t.refusals) rfl trivial rfl
  exact h.congr ⟨rfl, rfl, rfl, rfl⟩

theorem IsRehearsed.installNamed (h : t.IsRehearsed settings) (name : String) (plan : Plan) :
    (t.installNamed name plan).2.IsRehearsed settings := by
  unfold Rehearsal.installNamed
  split
  · exact h
  · split
    · exact h
    · exact h.install _ _

theorem IsRehearsed.watchNamed (h : t.IsRehearsed settings) (name : String) (plan : Plan) :
    (t.watchNamed name plan).2.IsRehearsed settings := by
  unfold Rehearsal.watchNamed
  split
  · exact h
  · split
    · exact h
    · exact h.install _ _

/-! ### Raising -/

theorem IsRehearsed.wroteWakeByte (h : t.IsRehearsed settings) :
    t.wroteWakeByte.IsRehearsed settings := by
  unfold Rehearsal.wroteWakeByte
  split
  · exact h.congr ⟨rfl, rfl, rfl, rfl⟩
  · exact h

/-- A delivery is owed an invocation if its slot has a callback, which is when it has a tenure. -/
theorem IsRehearsed.record (h : t.IsRehearsed settings)
    (hs : (t.registry.system.get s).handler = .recorder) :
    ({ t with
      registry := t.registry.record s
      raised := t.raised + 1
      owed := t.owed + (t.registry.slots.get s).callback?.isSome.toNat } :
        Rehearsal).IsRehearsed settings := by
  obtain ⟨steps, l, h⟩ := h
  have hx : t.registry.step? (.record s) = some (t.registry.record s) := by
    rw [Registry.step?, if_pos hs]
  have hshown : t.registry.HasShown (.record s) := trivial
  refine ⟨_, _, h.course.step hshown hx, fun hr => ?_, ?_, ?_⟩
  · exact Registry.dispatcher_step_ne_absent hx (h.seen hr)
  · simp [Ledger.next, Ledger.record, Ledger.note, h.raised]
  · have hk : (l.upcoming s).tenure.isSome = (t.registry.slots.get s).callback?.isSome := by
      rw [← h.history.agrees.tenures s, Option.isSome_map]
      rfl
    show _ = (l.recorded ++ [l.upcoming s]).countP _
    rw [List.countP_append, List.countP_singleton, hk, h.owed]
    cases (t.registry.slots.get s).callback?.isSome <;> rfl

theorem IsRehearsed.raiseOnce (h : t.IsRehearsed settings) (s : Signal) :
    (t.raiseOnce s).IsRehearsed settings := by
  unfold Rehearsal.raiseOnce
  split
  · next hs => exact (h.record (System.raised_eq_recorded hs)).wroteWakeByte
  · exact h.congr ⟨rfl, rfl, rfl, rfl⟩
  · exact h
  · exact h

theorem IsRehearsed.raise (h : t.IsRehearsed settings) (s : Signal) (times : Nat) :
    (t.raise s times).2.IsRehearsed settings := by
  unfold Rehearsal.raise
  split
  · exact h
  · show (times.repeat (fun t => t.raiseOnce s) t).IsRehearsed settings
    induction times with
    | zero => exact h
    | succ n ih => exact ih.raiseOnce s

/-! ### Callbacks -/

theorem IsRehearsed.cueInstalls (h : t.IsRehearsed settings) (cue : Cue) :
    (t.cueInstalls cue).IsRehearsed settings := by
  unfold Rehearsal.cueInstalls
  split
  · exact h
  · next name plan _ => exact (h.installNamed name plan).congr ⟨rfl, rfl, rfl, rfl⟩

theorem IsRehearsed.cueRaises (h : t.IsRehearsed settings) (cue : Cue) :
    (t.cueRaises cue).IsRehearsed settings := by
  unfold Rehearsal.cueRaises
  split
  · exact h
  · split
    · exact h.congr ⟨rfl, rfl, rfl, rfl⟩
    · next s _ => exact (h.raise s 1).congr ⟨rfl, rfl, rfl, rfl⟩

theorem IsRehearsed.endCue (h : t.IsRehearsed settings) (cue : Cue) :
    (t.endCue cue).IsRehearsed settings := by
  have h := (h.cueInstalls cue).cueRaises cue
  unfold Rehearsal.endCue
  simp only
  split
  · exact h
  · next r hr =>
    have h := h.moved (x := .finish cue.panics) hr trivial rfl
    exact h.congr ⟨rfl, rfl, rfl, rfl⟩

theorem IsRehearsed.advance (h : t.IsRehearsed settings) (ha : t.advance? = some t') :
    t'.IsRehearsed settings := by
  unfold Rehearsal.advance? at ha
  split at ha
  · next cue _ =>
    split at ha
    · cases ha
      exact h.congr ⟨rfl, rfl, rfl, rfl⟩
    · split at ha
      · cases ha
      · cases ha
        exact h.endCue cue
  · obtain ⟨r, hr, rfl⟩ := Option.map_eq_some_iff.1 ha
    obtain ⟨x, hm, hx⟩ := Option.bind_eq_some_iff.1 hr
    obtain ⟨hs, hn⟩ := Registry.hasShown_move hm
    exact h.moved hx hs hn

theorem IsRehearsed.settleWithin (h : t.IsRehearsed settings) (n : Nat) :
    (settleWithin n t).IsRehearsed settings := by
  induction n generalizing t with
  | zero => exact h
  | succ n ih =>
    unfold Rehearsal.settleWithin
    split
    · exact h
    · next t' ha => exact ih (h.advance ha)

/-! ### Requests -/

theorem IsRehearsed.await (h : t.IsRehearsed settings) (hasCome : Rehearsal → Bool)
    (answer : Rehearsal → Answer) : (t.await hasCome answer).2.IsRehearsed settings :=
  h.settleWithin _

theorem IsRehearsed.withSignal (h : t.IsRehearsed settings) {f : Signal → Answer × Rehearsal}
    (hf : ∀ s, (f s).2.IsRehearsed settings) (name : String) :
    (t.withSignal name f).2.IsRehearsed settings := by
  unfold Rehearsal.withSignal
  split
  · exact h
  · exact hf _

/-- Other code puts the registry's handler in place only when it has seen it. -/
theorem IsRehearsed.overrule (h : t.IsRehearsed settings) (s : Signal) {handler : Handler}
    (hs : handler = .recorder → t.recorderSeen = true) :
    ({ t with registry := t.registry.overrule s handler } : Rehearsal).IsRehearsed settings := by
  have hshown : t.registry.HasShown (.overrule s handler) := by
    obtain ⟨steps, l, h⟩ := h
    exact fun hh => h.seen (hs hh)
  exact h.step (x := .overrule s handler) rfl hshown rfl

theorem IsRehearsed.answer (h : t.IsRehearsed settings) (request : Request) :
    (t.answer request).2.IsRehearsed settings := by
  cases request with
  | watch name plan =>
    have h := h.watchNamed name plan
    simp only [Rehearsal.answer]
    split
    · next hw => rwa [hw] at h
    · next hw => rwa [hw] at h
  | install name plan => exact h.installNamed name plan
  | installed name => exact h.withSignal (fun _ => h) name
  | raise name times waits =>
    refine h.withSignal (fun s => ?_) name
    have h := h.raise s times
    split
    · next hr =>
      rw [hr] at h
      exact h.await _ _
    · next hr _ =>
      rw [hr] at h
      exact h
  | settle => exact h.await _ _
  | held => exact h.await _ _
  | system name => exact h.withSignal (fun _ => h) name
  | overrule name handler =>
    refine h.withSignal (fun s => ?_) name
    split
    · exact h
    · next hs =>
      refine h.overrule s fun hh => ?_
      simpa [hh] using hs
  | stats => exact h.await _ _
  | readFailed => exact h.await _ _
  | release => exact h.congr ⟨rfl, rfl, rfl, rfl⟩
  | inner => exact h.congr ⟨rfl, rfl, rfl, rfl⟩
  | threads => exact h
  | outside => exact h
  | settings => exact h
  | refuseHandler number => exact h.congr ⟨rfl, rfl, rfl, rfl⟩
  | refuseWakePipe number => exact h.congr ⟨rfl, rfl, rfl, rfl⟩
  | refuseWake => exact h.congr ⟨rfl, rfl, rfl, rfl⟩
  | failRead number => exact h.congr ⟨rfl, rfl, rfl, rfl⟩

theorem IsRehearsed.see (h : t.IsRehearsed settings) (request : Request) :
    (t.see request).IsRehearsed settings := by
  unfold Rehearsal.see
  split
  · exact h
  · next s _ =>
    obtain ⟨steps, l, h⟩ := h
    refine ⟨steps, l, h.course, fun hs => ?_, h.raised, h.owed⟩
    rcases Bool.or_eq_true_iff.1 hs with hs | hs
    · exact h.seen hs
    · exact h.ne_absent (eq_of_beq hs)

def after (t : Rehearsal) (requests : List Request) : Rehearsal :=
  requests.foldl (fun t request => (t.perform request).2) t

/-- Requests are answered from what the requests before them led to. -/
theorem performAll_append (t : Rehearsal) (xs ys : List Request) :
    t.performAll (xs ++ ys) = t.performAll xs ++ (t.after xs).performAll ys := by
  induction xs generalizing t with
  | nil => rfl
  | cons x xs ih =>
    simp only [List.cons_append, performAll]
    exact congrArg _ (ih _)

theorem IsRehearsed.after (h : t.IsRehearsed settings) (requests : List Request) :
    (t.after requests).IsRehearsed settings := by
  induction requests generalizing t with
  | nil => exact h
  | cons request rest ih => exact ih ((h.answer request).see request)

/-- A rehearsal's registry has a history, whatever was asked. -/
theorem rehearsed_after (settings : Settings) (requests : List Request) :
    ((start settings).after requests).IsRehearsed settings :=
  (rehearsed_start settings).after requests

/-- What a rehearsal does to its registry is a run. -/
theorem exists_run?_after (settings : Settings) (requests : List Request) :
    ∃ steps, (Registry.fresh settings).run? steps =
      some ((start settings).after requests).registry := by
  obtain ⟨steps, l, h⟩ := rehearsed_after settings requests
  exact ⟨steps, h.course.run?⟩

/-! ### What a wait waits for -/

/-- At rest only those deliveries are left to count that are in a stuck batch. -/
theorem Follows.deliveries_eq_raised_iff (h : t.Follows settings steps l)
    (hr : History Registry.HasRoom steps t.registry l) (hi : t.registry.IsIdle) :
    t.registry.stats.deliveries = t.raised ↔ t.registry.retired = [] := by
  have he : t.registry.dispatcher ≠ .ended := by
    rw [hi.1]
    nofun
  obtain ⟨hrec, -, -, -⟩ := hr.books_balance he
  have hz := (h.history.alert fun _ _ hx => hx).sum_pending_of_idle hi
  rw [← hr.length_recorded, ← h.raised, hz] at hrec
  rw [← Batch.sum_count_eq_zero]
  omega

/-- At rest, with nothing stuck, deliveries that found a callback were all run, so any other that
was run makes the numbers differ. -/
theorem Follows.ended_eq_owed_iff (h : t.Follows settings steps l)
    (hr : History Registry.HasRoom steps t.registry l) (hi : t.registry.IsIdle)
    (hn : t.registry.retired = []) :
    t.registry.stats.callbacksRun + t.registry.stats.callbackPanics = t.owed ↔
      ∀ v ∈ l.invocations, v.delivery.tenure.isSome = true := by
  have ha := hr.agrees
  have hp := (h.history.alert fun _ _ hx => hx).pending_of_idle hi
  have hposted : l.queued = [] := by
    have := ha.queued
    rw [hn] at this
    exact List.forall₂_nil_right_iff.1 this
  have hperm := hr.complete.settled ha hr.attended hp hi hposted
  rw [hr.wrapped fun _ _ hx => hx, List.append_nil] at hperm
  have hdropped : l.dropped.countP (fun d => d.tenure.isSome) = 0 := by
    refine List.countP_eq_zero.2 fun d hd => ?_
    simp [hr.owned.dropped d hd]
  have howed := hperm.countP_eq fun d => d.tenure.isSome
  rw [List.countP_append, hdropped, Nat.add_zero, List.countP_map, ← h.owed] at howed
  rw [← ha.length_invocations, howed, eq_comm, List.countP_eq_length]
  rfl

/-- A dispatcher that rests is done with all deliveries, as those who raised them count, unless a
batch is stuck or a callback was run for a delivery that found none. -/
theorem Follows.isSettled_iff (h : t.Follows settings steps l)
    (hr : History Registry.HasRoom steps t.registry l) (hi : t.registry.IsIdle) :
    t.isSettled = true ↔
      t.registry.retired = [] ∧ ∀ v ∈ l.invocations, v.delivery.tenure.isSome = true := by
  have hs : t.isSettled = true ↔ t.registry.stats.deliveries = t.raised ∧
      t.registry.stats.callbacksRun + t.registry.stats.callbackPanics = t.owed := by
    simp [isSettled, hi.1]
  rw [hs, h.deliveries_eq_raised_iff hr hi]
  exact and_congr_right fun hn => h.ended_eq_owed_iff hr hi hn

end Rehearsal

end HostServices.Watch
