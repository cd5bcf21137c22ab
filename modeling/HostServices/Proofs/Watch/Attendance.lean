import HostServices.Proofs.Watch.Conservation
import Mathlib.Algebra.Order.BigOperators.Group.List
import Mathlib.Algebra.Order.Ring.Nat

/-!
# Who looks after the deliveries

A history allows what its surroundings may do. The conditions here are on single steps and combine:
a counter has room, and other code has the registry's handler from nowhere or only from the system's
table. A slot with a callback always has had a dispatcher (`History.attended`), so nothing that is
retired is discarded before the dispatcher ends.
-/

namespace HostServices.Watch

variable {κ : Type}

/-- Only installs put the registry's handler in place. -/
def Step.Unforged : Step κ → Prop
  | .overrule _ h => h ≠ .recorder
  | _ => True

instance (x : Step κ) : Decidable x.Unforged :=
  match x with
  | .overrule _ h => inferInstanceAs (Decidable (h ≠ .recorder))
  | .install .. | .record _ | .read | .failRead _ | .receive | .check | .finish _ => .isTrue trivial

namespace Registry

/-- A delivery finds its counter short of the last value of 32 bits. -/
def HasRoom (r : Registry κ) : Step κ → Prop
  | .record s => (r.slots.get s).pending + 1 < 2 ^ 32
  | _ => True

/-- Other code puts the registry's handler in place only once it can have seen it in the system's
table, where it never stands before the dispatcher is started. -/
def HasShown (r : Registry κ) : Step κ → Prop
  | .overrule _ h => h = .recorder → r.dispatcher ≠ .absent
  | _ => True

variable {r : Registry κ}

theorem isLive_iff : r.isLive = true ↔ r.dispatcher ≠ .absent ∧ r.dispatcher ≠ .ended := by
  unfold isLive
  cases r.dispatcher <;> simp

end Registry

theorem Step.Unforged.hasShown {x : Step κ} (h : x.Unforged) (r : Registry κ) : r.HasShown x := by
  cases x with
  | overrule s handler => exact fun e => (h e).elim
  | _ => trivial

/-- A slot with a callback has had a dispatcher, and nothing was discarded unless that ended. -/
structure Attended (r : Registry κ) (l : Ledger κ) : Prop where
  callback : r.dispatcher = .absent → ∀ s, (r.slots.get s).callback? = none
  discarded : r.dispatcher ≠ .ended → l.discarded = []

namespace Attended

variable {r r' : Registry κ} {l l' : Ledger κ}

theorem empty (settings : Settings) (system : System) (pipe : Pipe) :
    Attended (κ := κ) (.empty settings system pipe) .empty :=
  ⟨fun _ s => by simp [Registry.empty], fun _ => rfl⟩

theorem note (h : Attended r l) (r₁ r₂ : Registry κ) : Attended r (l.note r₁ r₂) :=
  ⟨h.callback, h.discarded⟩

theorem discarded_live (h : Attended r l) {d : Dispatcher κ} (hd : r.dispatcher = .live d) :
    l.discarded = [] := h.discarded (by rw [hd]; nofun)

theorem replace (h : Attended r l) (ha : l.Agrees r) {s : Signal} {a : Action κ} {w : Bool}
    {t : Option (Tenure κ)} (hc : a.callback?.isSome → r.dispatcher ≠ .absent) :
    Attended (r.replace s a w) ((l.retire s r.isLive w).appoint s t) := by
  refine ⟨fun hd u => ?_, fun he => ?_⟩
  · rw [Registry.replace_dispatcher] at hd
    rw [Registry.replace_slots]
    split
    · cases hk : a.callback? with
      | none => exact hk
      | some k => exact (hc (by rw [hk]; rfl) hd).elim
    · exact h.callback hd u
  · rw [Registry.replace_dispatcher] at he
    simp only [Ledger.appoint, Ledger.retire_discarded]
    split
    · exact h.discarded he
    · next hl =>
      -- without a dispatcher there is no callback whose deliveries could be retired
      have hd : r.dispatcher = .absent := by
        by_contra hd
        exact hl (Registry.isLive_iff.2 ⟨hd, he⟩)
      rw [ha.parcel?_of_free (h.callback hd s), h.discarded he]
      rfl

theorem move {x : Step κ} (h : Attended r l) (ha : l.Agrees r) (m : Move x r l r' l') :
    Attended r' l' := by
  cases m with
  | nothing => exact h
  | start hd => exact ⟨nofun, fun _ => h.discarded (by rw [hd]; nofun)⟩
  | replace hc => exact (h.note _ _).replace (ha.note _ _) hc
  | record =>
    refine ⟨fun hd u => ?_, fun he => h.discarded (by simpa using he)⟩
    rw [Registry.record_dispatcher] at hd
    rw [Registry.record_slots]
    split
    · exact h.callback hd u
    · exact h.callback hd u
  | overrule => exact ⟨h.callback, h.discarded⟩
  | read hd => exact ⟨nofun, fun _ => h.discarded_live hd⟩
  | close => exact ⟨nofun, fun he => (he rfl).elim⟩
  | turn hd => exact ⟨nofun, fun _ => h.discarded_live hd⟩
  | receive hd => exact ⟨nofun, fun _ => by rw [Ledger.receive_discarded, h.discarded_live hd]⟩
  | take hd => exact ⟨nofun, fun _ => h.discarded_live hd⟩
  | finish hd => exact ⟨nofun, fun _ => by rw [Ledger.finish_discarded, h.discarded_live hd]⟩

end Attended

namespace History

variable {allowed : Registry κ → Step κ → Prop} {steps : List (Step κ)} {r : Registry κ}
  {l : Ledger κ}

theorem attended (h : History allowed steps r l) : Attended r l := by
  have h : History (fun _ _ => True) steps r l := h.mono fun _ _ _ => trivial
  exact h.invariant id (fun _ _ _ _ => .empty _ _ _) fun _ ha ih m => ih.move ha m

/-- While counters have room, none of them forgets what it counted. -/
theorem wrapped (hr : ∀ r x, allowed r x → r.HasRoom x) (h : History allowed steps r l) :
    l.wrapped = [] := by
  have h : History Registry.HasRoom steps r l := h.mono hr
  refine h.invariant (P := fun _ l => l.wrapped = []) id (fun _ _ _ _ => rfl) fun hx ha hw m => ?_
  cases m with
  | replace => simpa [Ledger.appoint, Ledger.note] using hw
  | @record s =>
    have hx : (Registry.slots _ |>.get s).pending + 1 < 2 ^ 32 := hx
    have := ha.waiting s
    simp only [Ledger.record, Ledger.note, List.length_append, List.length_singleton, this, hx]
    simpa using hw
  | receive => rw [Ledger.receive_wrapped, hw]
  | finish => rw [Ledger.finish_wrapped, hw]
  | _ => exact hw

/-- A counter counts at most all steps, so a run that is not too long always has room. -/
theorem hasRoom (h : History allowed steps r l) (hn : steps.length < 2 ^ 32) :
    History (fun r x => allowed r x ∧ r.HasRoom x) steps r l := by
  obtain ⟨settings, system, pipe, hs, hc⟩ := h
  refine ⟨settings, system, pipe, hs, ?_⟩
  induction hc with
  | refl => exact .refl
  | @step steps r r' l x hc ha hx ih =>
    rw [List.length_append, List.length_singleton] at hn
    refine .step (ih (by omega)) ⟨ha, ?_⟩ hx
    cases x with
    | record s =>
      have h : History allowed steps r l := ⟨settings, system, pipe, hs, hc⟩
      have hheld := h.complete.held.length_eq
      rw [Ledger.length_held h.agrees, h.length_recorded] at hheld
      have hpend : (r.slots.get s).pending ≤
          (Signal.all.map fun s => (r.slots.get s).pending).sum :=
        List.single_le_sum (fun _ _ => Nat.zero_le _) _ (List.mem_map_of_mem s.mem_all)
      have hcount := List.countP_le_length (p := Step.isRecord) (l := steps)
      show (r.slots.get s).pending + 1 < 2 ^ 32
      omega
    | _ => trivial

end History

end HostServices.Watch
