import HostServices.Proofs.Watch.Bookkeeping
import Mathlib.Data.List.Nodup
import Mathlib.Data.List.Perm.Basic

/-!
# No delivery is lost from the ledger

Moving deliveries between places neither loses one nor doubles one: what the ledger holds is, up to
order, what was recorded (`History.complete`), and each delivery has a number of its own.
-/

namespace HostServices

/-- Putting a list in place of another exchanges their elements. -/
theorem Signal.Table.flatMap_set {α : Type} (t : Signal.Table (List α)) (s : Signal) (v : List α) :
    (Signal.all.flatMap (t.set s v).get ++ t.get s).Perm (Signal.all.flatMap t.get ++ v) := by
  have hs : Signal.all.Perm (s :: Signal.all.erase s) := List.perm_cons_erase s.mem_all
  have hrest : (Signal.all.erase s).flatMap (t.set s v).get = (Signal.all.erase s).flatMap t.get := by
    refine List.flatMap_congr fun u hu => get_set_of_ne t ?_ v
    rintro rfl
    exact List.Nodup.not_mem_erase (by decide) hu
  have h₁ := hs.flatMap_right (t.set s v).get
  have h₂ := hs.flatMap_right t.get
  rw [List.flatMap_cons, get_set_self, hrest] at h₁
  rw [List.flatMap_cons] at h₂
  generalize (Signal.all.erase s).flatMap t.get = rest at h₁ h₂
  classical
  rw [List.perm_iff_count]
  intro a
  have := h₁.count_eq a
  have := h₂.count_eq a
  simp only [List.count_append] at *
  omega

namespace Watch

variable {κ : Type}

namespace Ledger

variable {l l' : Ledger κ} {r r' : Registry κ} {s : Signal} {d : Delivery κ}

/-- The deliveries that the ledger holds. -/
def held (l : Ledger κ) : List (Delivery κ) := l.holdings.map Prod.snd

theorem held_eq (l : Ledger κ) : l.held =
    Signal.all.flatMap l.waiting.get ++ (l.queued.flatMap fun q => q.parcel.deliveries) ++
      l.inHand.elim [] Parcel.deliveries ++ l.invocations.map Invocation.delivery ++ l.dropped ++
      l.discarded ++ l.wrapped := by
  have hi : l.inHand.toList.flatMap Parcel.deliveries = l.inHand.elim [] Parcel.deliveries := by
    cases l.inHand <;> simp
  simp only [held, holdings, List.map_append, List.map_flatMap, List.map_map, Function.comp_def,
    List.map_id', hi]

/-- What is held is what was recorded, and the records are numbered from zero. -/
structure Complete (l : Ledger κ) : Prop where
  held : l.held.Perm l.recorded
  numbered : l.recorded.map Delivery.number = List.range l.recorded.length

theorem complete_empty : (empty : Ledger κ).Complete := by
  refine ⟨?_, rfl⟩
  rw [held_eq]
  simp [empty]

/-- How often a delivery is held. -/
theorem count_held [DecidableEq (Delivery κ)] (l : Ledger κ) (d : Delivery κ) :
    l.held.count d =
      (Signal.all.flatMap l.waiting.get).count d +
        (l.queued.flatMap fun q => q.parcel.deliveries).count d +
        (l.inHand.elim [] Parcel.deliveries).count d +
        (l.invocations.map Invocation.delivery).count d + l.dropped.count d +
        l.discarded.count d + l.wrapped.count d := by
  rw [held_eq]
  simp only [List.count_append]

/-- The number of deliveries that the ledger holds, place by place. -/
theorem length_held (h : l.Agrees r) :
    l.held.length = (Signal.all.map fun s => (r.slots.get s).pending).sum +
      (r.retired.map Batch.count).sum + l.carried + l.invocations.length + l.dropped.length +
      l.discarded.length + l.wrapped.length := by
  have hw : (Signal.all.map fun s => (l.waiting.get s).length) =
      Signal.all.map fun s => (r.slots.get s).pending := List.map_congr_left fun s _ => h.waiting s
  have hq : (l.queued.map fun q => q.parcel.deliveries.length) = r.retired.map Batch.count := by
    have hq := h.queued
    generalize l.queued = postings at hq
    generalize r.retired = batches at hq
    induction hq with
    | nil => rfl
    | cons hc _ ih => rw [List.map_cons, List.map_cons, hc.count, ih]
  have hc : (l.inHand.elim [] Parcel.deliveries).length = l.carried := by
    unfold carried
    cases l.inHand <;> rfl
  rw [held_eq]
  simp only [List.length_append, List.length_flatMap, List.length_map, hw, hq, hc]

section

open Classical

/-- The books stay complete if every delivery is held as often as before. -/
theorem Complete.of_held (h : l.Complete) (hr : l'.recorded = l.recorded)
    (hc : ∀ d, l'.held.count d = l.held.count d) : l'.Complete where
  held := by
    rw [hr]
    exact (List.perm_iff_count.2 hc).trans h.held
  numbered := by rw [hr]; exact h.numbered

namespace Complete

theorem note (h : l.Complete) (r₁ r₂ : Registry κ) : (l.note r₁ r₂).Complete :=
  h.of_held rfl fun d => by simp only [count_held]; rfl

theorem retire (h : l.Complete) (live w : Bool) (t : Option (Tenure κ)) :
    ((l.retire s live w).appoint s t).Complete := by
  refine h.of_held (by simp [appoint]) fun d => ?_
  cases hp : l.parcel? s with
  | none =>
    have : l.retire s live w = l := by simp only [Ledger.retire, hp]
    simp only [count_held, appoint, this]
  | some p =>
    have hx := (l.waiting.flatMap_set s []).count_eq d
    rw [(parcel?_eq_some hp).2.2.1] at hx
    simp only [List.count_append, List.count_nil] at hx
    cases live with
    | true =>
      simp only [count_held, appoint, Ledger.retire, hp, if_true, List.flatMap_append,
        List.flatMap_singleton, List.count_append]
      omega
    | false =>
      simp only [count_held, appoint, Ledger.retire, hp, Bool.false_eq_true, if_false,
        List.count_append]
      omega

theorem record (h : l.Complete) (s : Signal) : (l.record s).Complete where
  held := by
    rw [List.perm_iff_count]
    intro d
    have hd := h.held.count_eq d
    have hx (v : List (Delivery κ)) := (l.waiting.flatMap_set s v).count_eq d
    simp only [List.count_append] at hx
    simp only [count_held] at hd
    simp only [count_held, Ledger.record, List.count_append]
    split
    · have := hx (l.waiting.get s ++ [l.upcoming s])
      simp only [List.count_append, List.count_nil] at *
      omega
    · have := hx []
      simp only [List.count_append, List.count_nil] at *
      omega
  numbered := by
    simp [Ledger.record, upcoming, h.numbered, List.range_succ]

theorem discardQueue (h : l.Complete) : l.discardQueue.Complete := by
  refine h.of_held rfl fun d => ?_
  simp only [count_held, Ledger.discardQueue, List.count_append, List.flatMap_nil, List.count_nil]
  omega

theorem receive (h : l.Complete) (hi : l.inHand = none) : l.receive.Complete := by
  unfold Ledger.receive
  cases hq : l.queued with
  | nil => exact h
  | cons q rest =>
    refine h.of_held rfl fun d => ?_
    simp only [count_held, hq, hi, Option.elim, List.flatMap_cons, List.count_append,
      List.count_nil]
    omega

theorem take (h : l.Complete) (hi : l.inHand = none) (s : Signal) : (l.take s).Complete := by
  refine h.of_held rfl fun d => ?_
  have hx := (l.waiting.flatMap_set s []).count_eq d
  simp only [List.count_append, List.count_nil] at hx
  cases hp : l.parcel? s with
  | none =>
    simp only [count_held, Ledger.take, hp, hi, Option.elim, Option.isSome_none,
      Bool.false_eq_true, if_false, List.count_append, List.count_nil]
    omega
  | some p =>
    have hw := (parcel?_eq_some hp).2.2.1
    simp only [count_held, Ledger.take, hp, hi, Option.elim, Option.isSome_some, if_true,
      List.append_nil, List.count_nil, ← hw]
    omega

theorem finish (h : l.Complete) (k : κ) (panicked : Bool) : (l.finish k panicked).Complete := by
  unfold Ledger.finish
  split
  · next s t d rest hi =>
    refine h.of_held rfl fun d' => ?_
    simp only [count_held, hi, Option.elim, List.map_append, List.map_cons, List.map_nil,
      List.count_append, List.count_cons, List.count_nil]
    cases rest with
    | nil => simp; omega
    | cons d'' rest => simp [List.count_cons]; omega
  · exact h

theorem move {x : Step κ} (h : l.Complete) (ha : l.Agrees r) (m : Move x r l r' l') :
    l'.Complete := by
  cases m with
  | nothing => exact h
  | start => exact h
  | replace => exact (h.note _ _).retire _ _ _
  | record => exact (h.note _ _).record _
  | overrule => exact h
  | read => exact h
  | close => exact h.discardQueue
  | turn => exact h
  | receive hd => exact h.receive (ha.inHand_none (Registry.inHand?_of_live hd))
  | take hd => exact h.take (ha.inHand_none (Registry.inHand?_of_live hd)) _
  | finish => exact h.finish _ _

/-- Numbers tell deliveries apart. -/
theorem eq_of_number (h : l.Complete) {d' : Delivery κ} (hd : d ∈ l.recorded)
    (hd' : d' ∈ l.recorded) (hn : d'.number = d.number) : d' = d := by
  have hnodup : (l.recorded.map Delivery.number).Nodup := by
    rw [h.numbered]
    exact List.nodup_range
  exact List.inj_on_of_nodup_map hnodup hd' hd hn

/-- A delivery that was recorded is in one place, and in that place once. -/
theorem exists_place (h : l.Complete) (hd : d ∈ l.recorded) :
    ∃ place, l.places d = [place] ∧ l.Holds d place := by
  have hone : (l.holdings.filter fun h => h.2.number == d.number).length = 1 := by
    have hheld : l.holdings.countP (fun h => h.2.number == d.number) =
        l.held.countP fun d' => d'.number == d.number := by rw [Ledger.held, List.countP_map]; rfl
    have hcount : l.recorded.countP (fun d' => d'.number == d.number) =
        (l.recorded.map Delivery.number).count d.number := by rw [List.count, List.countP_map]; rfl
    rw [← List.countP_eq_length_filter, hheld, h.held.countP_eq, hcount]
    refine List.count_eq_one_of_mem ?_ (List.mem_map_of_mem hd)
    rw [h.numbered]
    exact List.nodup_range
  obtain ⟨⟨place, d'⟩, hx⟩ := List.length_eq_one_iff.1 hone
  obtain ⟨hm, hn⟩ : (place, d') ∈ l.holdings ∧ d'.number == d.number :=
    List.mem_filter.1 (by rw [hx]; exact List.mem_singleton_self _)
  have hrec : d' ∈ l.recorded := h.held.subset (List.mem_map_of_mem hm)
  obtain rfl := h.eq_of_number hd hrec (by simpa using hn)
  exact ⟨place, by rw [places, hx]; rfl, mem_holdings.1 hm⟩

end Complete

end

end Ledger

namespace History

variable {allowed : Registry κ → Step κ → Prop} {steps : List (Step κ)} {r : Registry κ}
  {l : Ledger κ}

theorem complete (h : History allowed steps r l) : l.Complete := by
  have h : History (fun _ _ => True) steps r l := h.mono fun _ _ _ => trivial
  exact h.invariant (P := fun _ l => l.Complete) id (fun _ _ _ _ => Ledger.complete_empty)
    fun _ ha ih m => ih.move ha m

end History

end Watch

end HostServices
