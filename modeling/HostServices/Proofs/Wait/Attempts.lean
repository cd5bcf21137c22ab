import HostServices.Wait.Waiter

/-!
# How a wait goes

Call `i` of a wait gets entry `i` of the script, and once the script is over every call gets the
same failure.  The wait ends at the first call that is not repeated (`Waiter.EndsAt`), and there is
one: it is the last entry at the latest.  From where a wait ends follows all the rest: how many
calls were made, what the script and the flags are then, and that its answer is that call's
(`waitOn_of_endsAt`).
-/

namespace HostServices.Wait

/-! ### Calls and flags -/

def entryAt (script : List Entry) (i : Nat) : Entry := script[i]?.getD .last

/-- The flags when `n` calls have returned. -/
def flagsAfter (script : List Entry) (flags : FlagCells) : Nat → FlagCells
  | 0 => flags
  | n + 1 => (entryAt script n).act (flagsAfter script flags n)

theorem flagsAfter_cons (e : Entry) (script : List Entry) (flags : FlagCells) (n : Nat) :
    flagsAfter (e :: script) flags (n + 1) = flagsAfter script (e.act flags) n := by
  induction n with
  | zero => rfl
  | succ n ih =>
    rw [flagsAfter, ih]
    rfl

/-- One bit for each option, and no others. -/
theorem Request.options_bits (r : Request) :
    r.options.testBit 0 = r.nonBlocking ∧ r.options.testBit 1 = r.reportStopped ∧
      r.options < 4 := by
  unfold options
  cases r.nonBlocking <;> cases r.reportStopped <;> decide

/-! ### The call at which a wait ends -/

namespace Waiter

/-- Call `i` is cut short, and the flag is not raised when it has returned. -/
def Repeats (w : Waiter) (script : List Entry) (flags : FlagCells) (i : Nat) : Prop :=
  (entryAt script i).reply = .failed .interrupted ∧
    (flagsAfter script flags (i + 1)).isRaised w.flag = false

/-- Call `k` is the first that is not repeated. -/
structure EndsAt (w : Waiter) (script : List Entry) (flags : FlagCells) (k : Nat) : Prop where
  repeated : ∀ i < k, w.Repeats script flags i
  last : ¬ w.Repeats script flags k

variable {w : Waiter} {script : List Entry} {flags : FlagCells} {e : Entry} {k : Nat}

theorem EndsAt.unique {l : Nat} (hk : w.EndsAt script flags k) (hl : w.EndsAt script flags l) :
    k = l := by
  rcases Nat.lt_trichotomy k l with h | h | h
  · exact (hk.last (hl.repeated k h)).elim
  · exact h
  · exact (hl.last (hk.repeated l h)).elim

theorem repeats_cons_zero :
    w.Repeats (e :: script) flags 0 ↔
      (e.reply.isInterrupted && !(e.act flags).isRaised w.flag) = true := by
  unfold Repeats Reply.isInterrupted
  rw [Bool.and_eq_true, decide_eq_true_iff, Bool.not_eq_true']
  rfl

theorem repeats_cons_succ {i : Nat} :
    w.Repeats (e :: script) flags (i + 1) ↔ w.Repeats script (e.act flags) i := by
  unfold Repeats
  rw [flagsAfter_cons]
  rfl

theorem endsAt_nil : w.EndsAt [] flags 0 :=
  ⟨nofun, fun h => by cases h.1⟩

theorem endsAt_cons_zero (h : ¬ w.Repeats (e :: script) flags 0) :
    w.EndsAt (e :: script) flags 0 :=
  ⟨nofun, h⟩

theorem endsAt_cons_succ (h : w.Repeats (e :: script) flags 0) :
    w.EndsAt (e :: script) flags (k + 1) ↔ w.EndsAt script (e.act flags) k := by
  constructor
  · intro hk
    refine ⟨fun i hi => ?_, fun hn => hk.last (repeats_cons_succ.mpr hn)⟩
    exact repeats_cons_succ.mp (hk.repeated (i + 1) (by omega))
  · intro hk
    refine ⟨fun i hi => ?_, fun hn => hk.last (repeats_cons_succ.mp hn)⟩
    cases i with
    | zero => exact h
    | succ i => exact repeats_cons_succ.mpr (hk.repeated i (by omega))

/-- Every wait ends, at the latest with the failure behind the script. -/
theorem exists_endsAt (w : Waiter) (script : List Entry) (flags : FlagCells) :
    ∃ k ≤ script.length, w.EndsAt script flags k := by
  induction script generalizing flags with
  | nil => exact ⟨0, Nat.le_refl _, endsAt_nil⟩
  | cons e script ih =>
    by_cases h : w.Repeats (e :: script) flags 0
    · obtain ⟨k, hk, hends⟩ := ih (e.act flags)
      exact ⟨k + 1, Nat.succ_le_succ hk, (endsAt_cons_succ h).mpr hends⟩
    · exact ⟨0, Nat.zero_le _, endsAt_cons_zero h⟩

/-! ### What a wait does -/

variable {request : Request} {calls : List (Int × Nat)} {retries : UInt32}

theorem waitOn_cons_of_repeats (h : w.Repeats (e :: script) flags 0) :
    w.waitOn request flags calls retries (e :: script) =
      w.waitOn request (e.act flags) ((request.pid, request.options) :: calls) (retries + 1)
        script := by
  rw [waitOn]
  exact if_pos (repeats_cons_zero.mp h)

theorem waitOn_cons_of_not_repeats (h : ¬ w.Repeats (e :: script) flags 0) :
    w.waitOn request flags calls retries (e :: script) =
      ⟨e.reply, ⟨script, e.act flags, (request.pid, request.options) :: calls⟩, retries⟩ := by
  rw [waitOn]
  exact if_neg fun hn => h (repeats_cons_zero.mpr hn)

theorem replicate_append_cons (n : Nat) (c : Int × Nat) (calls : List (Int × Nat)) :
    List.replicate n c ++ c :: calls = List.replicate (n + 1) c ++ calls := by
  rw [List.replicate_succ', List.append_assoc, List.singleton_append]

theorem add_one_ofNat (retries : UInt32) (n : Nat) :
    retries + 1 + UInt32.ofNat n = retries + UInt32.ofNat (n + 1) := by
  rw [UInt32.ofNat_add, UInt32.add_assoc, UInt32.add_comm 1]
  rfl

/-- A wait makes the calls up to the one at which it ends, and leaves the scene as they did. -/
theorem waitOn_of_endsAt (h : w.EndsAt script flags k) :
    w.waitOn request flags calls retries script =
      ⟨(entryAt script k).reply,
        ⟨script.drop (k + 1), flagsAfter script flags (k + 1),
          List.replicate (k + 1) (request.pid, request.options) ++ calls⟩,
        retries + UInt32.ofNat k⟩ := by
  induction script generalizing flags calls retries k with
  | nil =>
    cases h.unique endsAt_nil
    show _ = Waited.mk _ _ (retries + 0)
    rw [UInt32.add_zero]
    rfl
  | cons e script ih =>
    by_cases hr : w.Repeats (e :: script) flags 0
    · cases k with
      | zero => exact (h.last hr).elim
      | succ k =>
        rw [waitOn_cons_of_repeats hr, ih ((endsAt_cons_succ hr).mp h), flagsAfter_cons]
        rw [replicate_append_cons, add_one_ofNat]
        rfl
    · cases h.unique (endsAt_cons_zero hr)
      rw [waitOn_cons_of_not_repeats hr]
      show _ = Waited.mk _ _ (retries + 0)
      rw [UInt32.add_zero]
      rfl

/-- Calls that are cut short while the flag is down do not show in what a wait comes to. -/
theorem waitOn_replicate (h : flags.isRaised w.flag = false) (n : Nat) :
    w.waitOn request flags calls retries (List.replicate n ⟨.failed .interrupted, none⟩ ++ script) =
      w.waitOn request flags (List.replicate n (request.pid, request.options) ++ calls)
        (retries + UInt32.ofNat n) script := by
  induction n generalizing calls retries with
  | zero =>
    show _ = w.waitOn request flags calls (retries + 0) script
    rw [UInt32.add_zero]
    rfl
  | succ n ih =>
    have hr : w.Repeats (⟨.failed .interrupted, none⟩ ::
        (List.replicate n ⟨.failed .interrupted, none⟩ ++ script)) flags 0 := ⟨rfl, h⟩
    rw [List.replicate_succ, List.cons_append, waitOn_cons_of_repeats hr, ← add_one_ofNat,
      ← replicate_append_cons]
    exact ih

end Waiter

/-! ### What the last call means -/

/-- The answer of a wait that ends with a reply. -/
structure Reply.Means (reply : Reply) (result : Result) : Prop where
  interrupted : result = .failed .interrupted ↔ reply = .failed .interrupted
  changed : ∀ pid s, result = .returned (.ofStatus pid s) ↔
    ∃ status, reply = .changed pid status ∧ ChildStatus.decode? status = some s
  unsupported : ∀ what, result = .failed (.unsupported what) ↔
    ∃ pid status, reply = .changed pid status ∧ ChildStatus.decode? status = none ∧
      undecodable pid status = .unsupported what
  notReady : result = .returned .noStateChange ↔ reply = .notReady
  noChild : result = .returned .noChildAvailable ↔ reply = .failed .noChild
  other : ∀ errno, result = .returned (.otherError errno) ↔
    reply = .failed errno ∧ errno ≠ .noChild ∧ errno ≠ .interrupted
  panicked : result = .panicked ↔ reply = .panicked

namespace Outcome

variable {pid pid' : Int} {s s' : ChildStatus}

theorem ofStatus_eq_ofStatus : ofStatus pid s = ofStatus pid' s' ↔ pid = pid' ∧ s = s' := by
  cases s <;> cases s' <;> simp [ofStatus]

/-- The outcome of a child that changed tells of the child. -/
theorem ofStatus_ne {o : Outcome} (h : o.pid? = none) : ofStatus pid s ≠ o := by
  rintro rfl
  cases s <;> cases h

end Outcome

namespace Reply

variable {pid status : Int}

theorem means_undecodable (h : ChildStatus.decode? status = none) :
    (changed pid status).Means (.failed (undecodable pid status)) where
  interrupted := ⟨nofun, nofun⟩
  changed pid' s := by
    refine ⟨nofun, ?_⟩
    rintro ⟨status', hc, hs⟩
    cases hc
    rw [h] at hs
    cases hs
  unsupported what := by
    constructor
    · intro hw
      exact ⟨pid, status, rfl, h, Result.failed.inj hw⟩
    · rintro ⟨pid', status', hc, -, hw⟩
      cases hc
      rw [hw]
  notReady := ⟨nofun, nofun⟩
  noChild := ⟨nofun, nofun⟩
  other errno := ⟨nofun, nofun⟩
  panicked := ⟨nofun, nofun⟩

theorem means_decoded {s : ChildStatus} (h : ChildStatus.decode? status = some s) :
    (changed pid status).Means (.returned (.ofStatus pid s)) where
  interrupted := ⟨nofun, nofun⟩
  changed pid' s' := by
    constructor
    · intro hr
      obtain ⟨rfl, rfl⟩ := Outcome.ofStatus_eq_ofStatus.mp (Result.returned.inj hr)
      exact ⟨status, rfl, h⟩
    · rintro ⟨status', hc, hs⟩
      cases hc
      rw [h] at hs
      cases hs
      rfl
  unsupported what := by
    refine ⟨nofun, ?_⟩
    rintro ⟨pid', status', hc, hs, -⟩
    cases hc
    rw [h] at hs
    cases hs
  notReady := ⟨fun hr => (Outcome.ofStatus_ne rfl (Result.returned.inj hr)).elim, nofun⟩
  noChild := ⟨fun hr => (Outcome.ofStatus_ne rfl (Result.returned.inj hr)).elim, nofun⟩
  other errno := ⟨fun hr => (Outcome.ofStatus_ne rfl (Result.returned.inj hr)).elim, nofun⟩
  panicked := ⟨nofun, nofun⟩

/-- A reply that tells of no child means an outcome that tells of none. -/
theorem not_returned_ofStatus {o : Outcome} (h : o.pid? = none) {s : ChildStatus} :
    Result.returned o ≠ .returned (.ofStatus pid s) :=
  fun hr => Outcome.ofStatus_ne h (Result.returned.inj hr).symm

theorem noChild_ne_interrupted : Errno.noChild ≠ .interrupted := by decide

theorem means_noChild : (failed .noChild).Means (.returned .noChildAvailable) := by
  constructor
  case changed => exact fun _ _ => ⟨fun hr => (not_returned_ofStatus rfl hr).elim, nofun⟩
  all_goals simp +contextual [noChild_ne_interrupted]

theorem means_interrupted : (failed .interrupted).Means (.failed .interrupted) := by
  constructor
  all_goals simp +contextual [noChild_ne_interrupted.symm]

theorem means_other {errno : Errno} (hc : errno ≠ .noChild) (hi : errno ≠ .interrupted) :
    (failed errno).Means (.returned (.otherError errno)) := by
  constructor
  case changed => exact fun _ _ => ⟨fun hr => (not_returned_ofStatus rfl hr).elim, nofun⟩
  case other =>
    intro errno'
    constructor
    · rintro ⟨⟩
      exact ⟨rfl, hc, hi⟩
    · rintro ⟨⟨⟩, -⟩
      rfl
  all_goals simp [hc, hi]

theorem means_result (reply : Reply) : reply.Means reply.result := by
  cases reply with
  | changed pid status =>
    cases hs : ChildStatus.decode? status with
    | none =>
      have hr : (Reply.changed pid status).result = .failed (undecodable pid status) := by
        simp only [result, hs]
      exact hr ▸ means_undecodable hs
    | some s =>
      have hr : (Reply.changed pid status).result = .returned (.ofStatus pid s) := by
        simp only [result, hs]
      exact hr ▸ means_decoded hs
  | notReady =>
    constructor
    case changed => exact fun _ _ => ⟨fun hr => (not_returned_ofStatus rfl hr).elim, nofun⟩
    all_goals simp [result]
  | failed errno =>
    unfold result
    by_cases hc : errno = .noChild
    · subst hc
      exact means_noChild
    · by_cases hi : errno = .interrupted
      · subst hi
        exact means_interrupted
      · simp only [if_neg hc, if_neg hi]
        exact means_other hc hi
  | panicked =>
    constructor
    all_goals simp [result]

end Reply

/-! ### Waits -/

/-- A wait goes up to the first call that is not repeated, and its answer is what that call's reply
means; a count of the repeated calls, wherever it starts, changes nothing, and calls that are cut
short while the flag is down could as well not be made. -/
theorem Waiter.wait_ends (w : Waiter) (request : Request) (scene : Scene) :
    let call := (request.pid, request.options)
    (∃ k ≤ scene.script.length, w.EndsAt scene.script scene.flags k ∧
      (∀ retries, w.waitOn request scene.flags scene.calls retries scene.script =
        ⟨(entryAt scene.script k).reply, (w.wait request scene).2, retries + UInt32.ofNat k⟩) ∧
      (entryAt scene.script k).reply.Means (w.wait request scene).1 ∧
      (w.wait request scene).2 =
        ⟨scene.script.drop (k + 1), flagsAfter scene.script scene.flags (k + 1),
          List.replicate (k + 1) call ++ scene.calls⟩) ∧
    (request.options.testBit 0 = request.nonBlocking ∧
      request.options.testBit 1 = request.reportStopped ∧ request.options < 4) ∧
    (scene.flags.isRaised w.flag = false → ∀ n,
      (w.wait request { scene with
          script := List.replicate n ⟨.failed .interrupted, none⟩ ++ scene.script }) =
        w.wait request { scene with calls := List.replicate n call ++ scene.calls }) := by
  intro call
  obtain ⟨k, hk, hends⟩ := w.exists_endsAt scene.script scene.flags
  have hw : w.wait request scene = ((entryAt scene.script k).reply.result,
      ⟨scene.script.drop (k + 1), flagsAfter scene.script scene.flags (k + 1),
        List.replicate (k + 1) call ++ scene.calls⟩) := by
    unfold wait waited
    rw [waitOn_of_endsAt hends]
    rfl
  refine ⟨⟨k, hk, hends, fun retries => ?_, ?_, ?_⟩, request.options_bits, fun h n => ?_⟩
  · rw [waitOn_of_endsAt hends, hw]
  · rw [hw]
    exact Reply.means_result _
  · rw [hw]
  · unfold wait waited
    rw [waitOn_replicate h, waitOn_of_endsAt hends, waitOn_of_endsAt hends]
    rfl

/-- A wait is cut short, is cut short again in a call that raises the flag and withdraws from it,
and once more in a call that raises the flag: there it ends, with a reply left over. -/
theorem Waiter.exists_wait_interrupted :
    let w : Waiter := ⟨⟨0⟩⟩
    let cut (effect : Option (Flag × Bool)) : Entry := ⟨.failed .interrupted, effect⟩
    let left : List Entry := [⟨.changed 7 0, none⟩]
    let scene : Scene :=
      .new (cut none :: cut (some (⟨0⟩, false)) :: cut (some (⟨0⟩, true)) :: left) .empty
    let request : Request := ⟨7, true, true⟩
    scene.flags.isRaised w.flag = false ∧ w.EndsAt scene.script scene.flags 2 ∧
      (w.wait request { scene with
          script := List.replicate 5 ⟨.failed .interrupted, none⟩ ++ scene.script }) =
        w.wait request { scene with calls := List.replicate 5 (7, 3) ++ scene.calls } ∧
      w.wait request scene =
        (.failed .interrupted, ⟨left, ⟨[⟨0⟩], 0⟩, [(7, 3), (7, 3), (7, 3)]⟩) := by
  intro w cut left scene request
  obtain ⟨⟨k, -, hends, hcount, hmeans, hscene⟩, -, hsilent⟩ := w.wait_ends request scene
  have hraised : scene.flags.isRaised w.flag = false := rfl
  have h2 : w.EndsAt scene.script scene.flags 2 := by
    refine (endsAt_cons_succ ⟨rfl, rfl⟩).mpr ((endsAt_cons_succ ⟨rfl, rfl⟩).mpr ?_)
    exact endsAt_cons_zero fun h => nomatch h.2
  cases hends.unique h2
  refine ⟨hraised, h2, hsilent hraised 5, ?_⟩
  exact Prod.ext (hmeans.interrupted.mpr rfl) hscene

end HostServices.Wait
