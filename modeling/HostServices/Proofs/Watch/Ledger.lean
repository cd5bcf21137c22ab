import HostServices.Proofs.Watch.Transition
import Mathlib.Algebra.Order.Ring.Nat
import Mathlib.Tactic.Simproc.ExistsAndEq

/-!
# The ledger of deliveries

The registry only counts deliveries. The ledger beside it names them: every run of the handler in
the system gets a number, and the ledger follows it from the counter into a batch, into the
dispatcher's hand and to the invocation that it ends in. `Ledger.places` lists where a delivery
is; the list says so twice if it is in two places.
-/

namespace HostServices.Watch

/-- A callback's time in a slot: which of the successful installs began it, and the callback. -/
structure Tenure (κ : Type) where
  number : Nat
  callback : κ

/-- One run of the handler in the system. -/
structure Delivery (κ : Type) where
  /-- How many deliveries there were before. -/
  number : Nat
  signal : Signal
  /-- Whose turn it was in the slot of the signal, if the slot held a callback. -/
  tenure : Option (Tenure κ)

/-- Deliveries that were taken out of a counter together, for the callback of a tenure. -/
structure Parcel (κ : Type) where
  signal : Signal
  tenure : Tenure κ
  deliveries : List (Delivery κ)

/-- A parcel in the retirement channel. -/
structure Posting (κ : Type) where
  parcel : Parcel κ
  /-- Its wake byte was refused, and not because the pipe was full. -/
  wakeRefused : Bool
  /-- The wake bytes that the pipe had taken when the parcel was posted, its own included. -/
  wakeBytes : Nat

/-- A run of a callback that has returned or panicked. -/
structure Invocation (κ : Type) where
  delivery : Delivery κ
  tenure : Tenure κ
  /-- What the dispatcher ran. -/
  callback : κ
  panicked : Bool

/-- Where every delivery is. -/
structure Ledger (κ : Type) where
  recorded : List (Delivery κ)
  /-- Whose turn it is in each slot. -/
  tenures : Signal.Table (Option (Tenure κ))
  /-- What the counters count. -/
  waiting : Signal.Table (List (Delivery κ))
  queued : List (Posting κ)
  inHand : Option (Parcel κ)
  invocations : List (Invocation κ)
  /-- Taken when the slot held no callback. -/
  dropped : List (Delivery κ)
  /-- Retired when there was no dispatcher to take them. -/
  discarded : List (Delivery κ)
  /-- Forgotten by a counter that came round to zero. -/
  wrapped : List (Delivery κ)
  /-- The wake bytes that the pipe has taken. -/
  wakeBytes : Nat

namespace Ledger

variable {κ : Type}

/-- The ledger of a registry that has done nothing. -/
def empty : Ledger κ := ⟨[], .all none, .all [], [], none, [], [], [], [], 0⟩

/-- What the counter of `s` holds for the callback in its slot. -/
def parcel? (l : Ledger κ) (s : Signal) : Option (Parcel κ) :=
  match l.tenures.get s, l.waiting.get s with
  | some t, d :: rest => some ⟨s, t, d :: rest⟩
  | _, _ => none

/-- The delivery that is recorded next for `s`. -/
def upcoming (l : Ledger κ) (s : Signal) : Delivery κ := ⟨l.recorded.length, s, l.tenures.get s⟩

/-- A delivery is counted for `s`; a counter that has no room forgets all it counted. -/
def record (l : Ledger κ) (s : Signal) : Ledger κ :=
  let counted := l.waiting.get s ++ [l.upcoming s]
  let fits := counted.length < 2 ^ 32
  { l with
    recorded := l.recorded ++ [l.upcoming s]
    waiting := l.waiting.set s (if fits then counted else [])
    wrapped := l.wrapped ++ if fits then [] else counted }

/-- The callback of `s` is replaced; what was counted for it is posted if a dispatcher is there. -/
def retire (l : Ledger κ) (s : Signal) (live wakeRefused : Bool) : Ledger κ :=
  match l.parcel? s with
  | none => l
  | some p =>
    if live then
      { l with
        waiting := l.waiting.set s []
        queued := l.queued ++ [⟨p, wakeRefused, l.wakeBytes⟩] }
    else
      { l with waiting := l.waiting.set s [], discarded := l.discarded ++ p.deliveries }

/-- The slot of `s` passes to another tenure, or to none. -/
def appoint (l : Ledger κ) (s : Signal) (t : Option (Tenure κ)) : Ledger κ :=
  { l with tenures := l.tenures.set s t }

def discardQueue (l : Ledger κ) : Ledger κ :=
  { l with
    queued := []
    discarded := l.discarded ++ l.queued.flatMap fun q => q.parcel.deliveries }

def receive (l : Ledger κ) : Ledger κ :=
  match l.queued with
  | [] => l
  | q :: rest => { l with queued := rest, inHand := some q.parcel }

/-- The dispatcher takes what is counted for `s`; without a callback it is dropped. -/
def take (l : Ledger κ) (s : Signal) : Ledger κ :=
  { l with
    waiting := l.waiting.set s []
    inHand := l.parcel? s
    dropped := l.dropped ++ if (l.parcel? s).isSome then [] else l.waiting.get s }

/-- An invocation of `k` ends, for the first delivery in hand. -/
def finish (l : Ledger κ) (k : κ) (panicked : Bool) : Ledger κ :=
  match l.inHand with
  | some ⟨s, t, d :: rest⟩ =>
    { l with
      inHand := if rest.isEmpty then none else some ⟨s, t, rest⟩
      invocations := l.invocations ++ [⟨d, t, k, panicked⟩] }
  | _ => l

/-- The invocations that are owed for what is in hand. -/
def carried (l : Ledger κ) : Nat := l.inHand.elim 0 fun p => p.deliveries.length

end Ledger

/-! ### Fields after a move -/

namespace Ledger

variable {κ : Type} {l : Ledger κ} {s u : Signal} {live w panicked : Bool} {k : κ} {p : Parcel κ}

theorem parcel?_eq_some (h : l.parcel? s = some p) :
    p.signal = s ∧ l.tenures.get s = some p.tenure ∧ l.waiting.get s = p.deliveries ∧
      p.deliveries ≠ [] := by
  unfold parcel? at h
  split at h
  · next t d rest ht hw => cases h; exact ⟨rfl, ht, hw, nofun⟩
  · cases h

theorem parcel?_eq_none (h : l.parcel? s = none) :
    l.tenures.get s = none ∨ l.waiting.get s = [] := by
  unfold parcel? at h
  split at h
  · cases h
  · next hn =>
    cases ht : l.tenures.get s with
    | none => exact .inl rfl
    | some t =>
      cases hw : l.waiting.get s with
      | nil => exact .inr rfl
      | cons d rest => exact (hn t d rest ht hw).elim

theorem retire_waiting : (l.retire s live w).waiting.get u =
    if u = s ∧ (l.tenures.get s).isSome then [] else l.waiting.get u := by
  unfold retire
  split
  · next hp =>
    split
    · next h =>
      obtain ⟨rfl, ht⟩ := h
      rcases parcel?_eq_none hp with hn | hw
      · rw [hn] at ht; cases ht
      · exact hw
    · rfl
  · next p hp =>
    have ht := (parcel?_eq_some hp).2.1
    cases live <;> by_cases hu : u = s <;> simp [Signal.Table.get_set, hu, ht]

theorem retire_queued : (l.retire s live w).queued =
    if live then l.queued ++ ((l.parcel? s).map fun p => ⟨p, w, l.wakeBytes⟩).toList
    else l.queued := by
  unfold retire
  split
  · next hp => cases live <;> simp [hp]
  · next p hp => cases live <;> simp [hp]

theorem retire_discarded : (l.retire s live w).discarded =
    if live then l.discarded
    else l.discarded ++ (l.parcel? s).elim [] Parcel.deliveries := by
  unfold retire
  split
  · next hp => cases live <;> simp [hp]
  · next p hp => cases live <;> simp [hp]

@[simp] theorem retire_recorded : (l.retire s live w).recorded = l.recorded := by
  unfold retire; split; · rfl
  split <;> rfl

@[simp] theorem retire_tenures : (l.retire s live w).tenures = l.tenures := by
  unfold retire; split; · rfl
  split <;> rfl

@[simp] theorem retire_inHand : (l.retire s live w).inHand = l.inHand := by
  unfold retire; split; · rfl
  split <;> rfl

@[simp] theorem retire_invocations : (l.retire s live w).invocations = l.invocations := by
  unfold retire; split; · rfl
  split <;> rfl

@[simp] theorem retire_dropped : (l.retire s live w).dropped = l.dropped := by
  unfold retire; split; · rfl
  split <;> rfl

@[simp] theorem retire_wrapped : (l.retire s live w).wrapped = l.wrapped := by
  unfold retire; split; · rfl
  split <;> rfl

@[simp] theorem retire_wakeBytes : (l.retire s live w).wakeBytes = l.wakeBytes := by
  unfold retire; split; · rfl
  split <;> rfl

/-- What a replacement posts, it posts after everything else, under the number of bytes so far. -/
theorem exists_queued_replace (l : Ledger κ) (s : Signal) (live w : Bool) (t : Option (Tenure κ)) :
    ∃ new, ((l.retire s live w).appoint s t).queued = l.queued ++ new ∧
      ∀ q ∈ new, q.wakeBytes = l.wakeBytes ∧ q.wakeRefused = w ∧ l.parcel? s = some q.parcel := by
  simp only [appoint, retire_queued]
  cases live with
  | false => exact ⟨[], by simp, nofun⟩
  | true =>
    refine ⟨_, rfl, fun q hq => ?_⟩
    simp only [Option.mem_toList, Option.map_eq_some_iff] at hq
    obtain ⟨p, hp, rfl⟩ := hq
    exact ⟨rfl, rfl, hp⟩

theorem receive_queued : l.receive.queued = l.queued.tail := by
  unfold receive
  split
  · next hq => simp [hq]
  · next q rest hq => simp [hq]

@[simp] theorem receive_recorded : l.receive.recorded = l.recorded := by
  unfold receive
  split <;> rfl

@[simp] theorem receive_tenures : l.receive.tenures = l.tenures := by
  unfold receive
  split <;> rfl

@[simp] theorem receive_waiting : l.receive.waiting = l.waiting := by
  unfold receive
  split <;> rfl

@[simp] theorem receive_invocations : l.receive.invocations = l.invocations := by
  unfold receive
  split <;> rfl

@[simp] theorem receive_dropped : l.receive.dropped = l.dropped := by
  unfold receive
  split <;> rfl

@[simp] theorem receive_discarded : l.receive.discarded = l.discarded := by
  unfold receive
  split <;> rfl

@[simp] theorem receive_wrapped : l.receive.wrapped = l.wrapped := by
  unfold receive
  split <;> rfl

@[simp] theorem receive_wakeBytes : l.receive.wakeBytes = l.wakeBytes := by
  unfold receive
  split <;> rfl

@[simp] theorem finish_recorded : (l.finish k panicked).recorded = l.recorded := by
  unfold finish
  split <;> rfl

@[simp] theorem finish_queued : (l.finish k panicked).queued = l.queued := by
  unfold finish
  split <;> rfl

@[simp] theorem finish_dropped : (l.finish k panicked).dropped = l.dropped := by
  unfold finish
  split <;> rfl

@[simp] theorem finish_discarded : (l.finish k panicked).discarded = l.discarded := by
  unfold finish
  split <;> rfl

@[simp] theorem finish_wrapped : (l.finish k panicked).wrapped = l.wrapped := by
  unfold finish
  split <;> rfl

@[simp] theorem finish_wakeBytes : (l.finish k panicked).wakeBytes = l.wakeBytes := by
  unfold finish
  split <;> rfl

end Ledger

/-! ### Places -/

inductive Place (κ : Type)
  | waiting (s : Signal)
  | queued (q : Posting κ)
  | inHand (p : Parcel κ)
  | invoked (v : Invocation κ)
  | dropped
  | discarded
  | wrapped

namespace Ledger

variable {κ : Type} {l : Ledger κ} {d : Delivery κ}

def holdings (l : Ledger κ) : List (Place κ × Delivery κ) :=
  (Signal.all.flatMap fun s => (l.waiting.get s).map fun d => (.waiting s, d)) ++
  (l.queued.flatMap fun q => q.parcel.deliveries.map fun d => (.queued q, d)) ++
  (l.inHand.toList.flatMap fun p => p.deliveries.map fun d => (.inHand p, d)) ++
  (l.invocations.map fun v => (.invoked v, v.delivery)) ++
  (l.dropped.map fun d => (.dropped, d)) ++
  (l.discarded.map fun d => (.discarded, d)) ++
  l.wrapped.map fun d => (.wrapped, d)

/-- The places of a delivery; one that is in a place twice has that place twice. -/
def places (l : Ledger κ) (d : Delivery κ) : List (Place κ) :=
  (l.holdings.filter fun h => h.2.number == d.number).map Prod.fst

/-- The delivery is in the place. -/
def Holds (l : Ledger κ) (d : Delivery κ) : Place κ → Prop
  | .waiting s => d ∈ l.waiting.get s
  | .queued q => q ∈ l.queued ∧ d ∈ q.parcel.deliveries
  | .inHand p => l.inHand = some p ∧ d ∈ p.deliveries
  | .invoked v => v ∈ l.invocations ∧ v.delivery = d
  | .dropped => d ∈ l.dropped
  | .discarded => d ∈ l.discarded
  | .wrapped => d ∈ l.wrapped

theorem mem_holdings {place : Place κ} : (place, d) ∈ l.holdings ↔ l.Holds d place := by
  cases place <;> simp [holdings, Holds, Signal.mem_all]

end Ledger

end HostServices.Watch
