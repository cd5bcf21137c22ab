import HostServices.Wait.Waiter

/-!
# All ways of waiting agree

A waiter is raised, cleared and waited on, step after step, and each wait is made in a way of its
own.  `Sight` is what there is to see of a step: what the wait came to, the calls it made, the flag
and the replies that are left.  A wait that runs shows the same in every way (`waitBy_of_serves`),
so a run does (`run_straight`), also where a call panics after others were cut short.  A wait whose
task a pool never ran leaves nothing behind (`run_left_out`), and a pool allows of no third outcome
(`Pool.spawn_once`).
-/

namespace HostServices.Wait

/-! ### Results through a pool -/

/-- What a task came to is what the one who waited for it gets. -/
@[simp] theorem Joined.result_ofResult (r : Result) : (Joined.ofResult r).result = r := by
  cases r <;> rfl

namespace Pool

def Runs (pool : Pool) (task : Scene → Result × Scene) (scene : Scene) : Prop :=
  pool.spawn task scene = (.ofResult (task scene).1, (task scene).2)

/-- The pool never runs the task. -/
def Cancels (pool : Pool) (task : Scene → Result × Scene) (scene : Scene) : Prop :=
  pool.spawn task scene = (.cancelled, scene)

/-- The pool runs every task. -/
def IsLive (pool : Pool) : Prop := ∀ task scene, pool.Runs task scene

theorem isLive_live : live.IsLive := fun _ _ => rfl

theorem cancels_closed (task : Scene → Result × Scene) (scene : Scene) :
    closed.Cancels task scene := rfl

end Pool

/-- A wait in this way is sure to run. -/
def Way.Serves : Way → Prop
  | .onPool pool => pool.IsLive
  | _ => True

namespace Waiter

variable {w : Waiter} {way : Way} {pool : Pool} {request : Request} {scene : Scene}

theorem waitOnPool_of_runs (h : pool.Runs (w.clone.wait request) scene) :
    w.waitOnPool pool request scene = w.wait request scene := by
  unfold Pool.Runs at h
  unfold waitOnPool
  rw [h]
  show ((Joined.ofResult (w.wait request scene).1).result, _) = _
  rw [Joined.result_ofResult]
  rfl

theorem waitOnPool_of_cancels (h : pool.Cancels (w.clone.wait request) scene) :
    w.waitOnPool pool request scene = (.failed .interrupted, scene) := by
  unfold Pool.Cancels at h
  unfold waitOnPool
  rw [h]
  rfl

theorem waitBy_of_serves (h : way.Serves) :
    w.waitBy way request scene = w.wait request scene := by
  cases way with
  | direct => rfl
  | clone => rfl
  | onPool pool => exact waitOnPool_of_runs (h _ scene)

end Waiter

/-! ### Runs -/

inductive Step
  | raise
  | clear
  | wait (way : Way) (request : Request)

namespace Step

/-- The step, and a wait made directly. -/
def straight : Step → Step
  | .wait _ request => .wait .direct request
  | s => s

def Serves : Step → Prop
  | .wait way _ => way.Serves
  | _ => True

end Step

structure Sight where
  result : Option Result
  /-- The calls that were made, in order. -/
  calls : List (Int × Nat)
  /-- The flag is raised afterwards. -/
  raised : Bool
  /-- The replies to come. -/
  script : List Entry

namespace Waiter

def act (w : Waiter) (scene : Scene) : Step → Option Result × Scene
  | .raise => (none, scene.setFlag w.flag true)
  | .clear => (none, scene.setFlag w.flag false)
  | .wait way request =>
    let (result, scene) := w.waitBy way request scene
    (some result, scene)

/-- What is to be seen between two scenes. -/
def sight (w : Waiter) (before : Scene) (result : Option Result) (after : Scene) : Sight :=
  ⟨result, after.callsSince before.calls.length, after.flags.isRaised w.flag, after.script⟩

/-- Takes steps in turn: what is to be seen of each, and the scene at the end. -/
def run (w : Waiter) : List Step → Scene → List Sight × Scene
  | [], scene => ([], scene)
  | s :: rest, scene =>
    let (result, after) := w.act scene s
    let (sights, last) := w.run rest after
    (w.sight scene result after :: sights, last)

/-- What there is to see of a wait that never ran: it was interrupted. -/
def sightOfCancelled (w : Waiter) (scene : Scene) : Sight :=
  ⟨some (.failed .interrupted), [], scene.flags.isRaised w.flag, scene.script⟩

variable {w : Waiter} {s : Step} {scene : Scene}

theorem run_cons (w : Waiter) (s : Step) (rest : List Step) (scene : Scene) :
    w.run (s :: rest) scene =
      (w.sight scene (w.act scene s).1 (w.act scene s).2 :: (w.run rest (w.act scene s).2).1,
        (w.run rest (w.act scene s).2).2) := rfl

theorem run_append (w : Waiter) (before after : List Step) (scene : Scene) :
    w.run (before ++ after) scene =
      ((w.run before scene).1 ++ (w.run after (w.run before scene).2).1,
        (w.run after (w.run before scene).2).2) := by
  induction before generalizing scene with
  | nil => rfl
  | cons s rest ih => rw [List.cons_append, run_cons, run_cons, ih]; rfl

theorem act_straight (h : s.Serves) : w.act scene s.straight = w.act scene s := by
  cases s with
  | raise => rfl
  | clear => rfl
  | wait way request =>
    show (some (w.wait request scene).1, (w.wait request scene).2) =
      (some (w.waitBy way request scene).1, (w.waitBy way request scene).2)
    rw [waitBy_of_serves h]

/-- The ways in which waits run do not matter. -/
theorem run_straight {steps : List Step} (h : ∀ s ∈ steps, s.Serves) :
    w.run (steps.map Step.straight) scene = w.run steps scene := by
  induction steps generalizing scene with
  | nil => rfl
  | cons s rest ih =>
    obtain ⟨hs, hr⟩ := List.forall_mem_cons.mp h
    rw [List.map_cons, run_cons, run_cons, act_straight hs, ih hr]

/-- Between a scene and itself no calls are made. -/
theorem sight_self (result : Option Result) :
    w.sight scene result scene = ⟨result, [], scene.flags.isRaised w.flag, scene.script⟩ := by
  unfold sight Scene.callsSince
  rw [Nat.sub_self]
  rfl

/-- A wait that never ran leaves the scene as it was. -/
theorem run_cancelled {pool : Pool} {request : Request} (rest : List Step)
    (h : pool.Cancels (w.clone.wait request) scene) :
    w.run (.wait (.onPool pool) request :: rest) scene =
      (w.sightOfCancelled scene :: (w.run rest scene).1, (w.run rest scene).2) := by
  have ha : w.act scene (.wait (.onPool pool) request) = (some (.failed .interrupted), scene) := by
    show (some (w.waitOnPool pool request scene).1, (w.waitOnPool pool request scene).2) = _
    rw [waitOnPool_of_cancels h]
  rw [run_cons, ha, sight_self]
  rfl

/-- A wait that never ran can be left out of a run. -/
theorem run_left_out {pool : Pool} {request : Request} (before after : List Step)
    (h : pool.Cancels (w.clone.wait request) (w.run before scene).2) :
    ∃ sights last, w.run (before ++ after) scene = ((w.run before scene).1 ++ sights, last) ∧
      w.run (before ++ .wait (.onPool pool) request :: after) scene =
        ((w.run before scene).1 ++ w.sightOfCancelled (w.run before scene).2 :: sights, last) := by
  refine ⟨_, _, run_append w before after scene, ?_⟩
  rw [run_append, run_cancelled after h]

/-- However the waits of a run are made, as long as they run it shows what direct waits show.  A
wait on a pool may also never run: then it comes out as interrupted, makes no call and leaves the
flag and the replies as they were, and all else is as if the wait had been left out.  A pool does
one or the other. -/
theorem ways_agree (w : Waiter) (scene : Scene) :
    (∀ steps : List Step, (∀ s ∈ steps, s.Serves) →
      w.run steps scene = w.run (steps.map Step.straight) scene) ∧
    (∀ (before after : List Step) (pool : Pool) (request : Request),
      pool.Cancels (w.clone.wait request) (w.run before scene).2 →
      ∃ sights last, w.run (before ++ after) scene = ((w.run before scene).1 ++ sights, last) ∧
        w.run (before ++ .wait (.onPool pool) request :: after) scene =
          ((w.run before scene).1 ++ w.sightOfCancelled (w.run before scene).2 :: sights, last)) ∧
    ∀ (pool : Pool) (request : Request),
      w.waitOnPool pool request scene = w.wait request scene ∨
        pool.Cancels (w.clone.wait request) scene := by
  refine ⟨fun steps h => (run_straight h).symm, ?_, fun pool request => ?_⟩
  · intro before after pool request h
    exact run_left_out before after h
  · rcases pool.spawn_once (w.clone.wait request) scene with h | h
    · exact .inl (waitOnPool_of_runs h)
    · exact .inr h

/-- A wait on a pool is cut short and then panics in a call that raises the flag, and a wait on a
clone goes on from there; a wait that is given to a closed pool in between does not show. -/
theorem exists_panic_on_pool :
    let w : Waiter := ⟨⟨0⟩⟩
    let request : Request := .new 7 false
    let later : List Entry := [⟨.failed .interrupted, none⟩, ⟨.changed 7 0, none⟩]
    let scene : Scene :=
      .new (⟨.failed .interrupted, none⟩ :: ⟨.panicked, some (⟨0⟩, true)⟩ :: later) .empty
    let before : List Step := [.wait .pooled request]
    let after : List Step := [.wait .clone request, .clear]
    (∀ s ∈ before ++ after, s.Serves) ∧
      Pool.closed.Cancels (w.clone.wait request) (w.run before scene).2 ∧
      w.run (before ++ after) scene = w.run ((before ++ after).map Step.straight) scene ∧
      (w.run before scene).1 = [⟨some .panicked, [(7, 0), (7, 0)], true, later⟩] ∧
      (w.run (before ++ .wait .shutDown request :: after) scene).1 =
        [⟨some .panicked, [(7, 0), (7, 0)], true, later⟩,
          ⟨some (.failed .interrupted), [], true, later⟩,
          ⟨some (.failed .interrupted), [(7, 0)], true, [⟨.changed 7 0, none⟩]⟩,
          ⟨none, [], false, [⟨.changed 7 0, none⟩]⟩] ∧
      (w.run (before ++ .wait .shutDown request :: after) scene).2 =
        (w.run (before ++ after) scene).2 := by
  intro w request later scene before after
  obtain ⟨hstraight, hleft, -⟩ := ways_agree w scene
  have hserves : ∀ s ∈ before ++ after, s.Serves := by
    simp only [before, after, List.cons_append, List.nil_append, List.forall_mem_cons]
    exact ⟨Pool.isLive_live, trivial, trivial, nofun⟩
  have hcancels := Pool.cancels_closed (w.clone.wait request) (w.run before scene).2
  obtain ⟨sights, last, hwithout, hwith⟩ := hleft before after .closed request hcancels
  refine ⟨hserves, hcancels, hstraight _ hserves, rfl, rfl, ?_⟩
  have hlast := congrArg Prod.snd hwith
  rw [hwithout]
  exact hlast

end Waiter

end HostServices.Wait
