import HostServices.Launch.Forwarder
import Mathlib.Data.List.Nodup

/-!
# Forwarding while the child starts

Two threads share the cells of a forwarder: one makes the child known in one call, the other makes
a call for every signal, one after the other. A `Handover` is how far both have come, and a schedule
says whose turn it is, at every single access to a cell. Equal signals are told apart by numbers,
which the calls hand on with them (`run_map`: the numbers change nothing).

`Turn` is the list of what a turn can do; `placed`, the signals that have been returned, are held or
are still to be looked after, loses a signal only where `overwrites` says so. Once all calls have
returned, every signal has been returned once, or overwritten before the child was seen
(`Handover.forwarded_once`).
-/

namespace HostServices.Launch

variable {σ τ : Type}

inductive Thread
  /-- Makes the child known. -/
  | starter
  | handler
  deriving DecidableEq

namespace Call

/-- How many steps a call still takes at most. -/
def left : Call σ → Nat
  | .arrived _ => 4
  | .holding _ => 3
  | .rechecking | .starting _ => 2
  | .taking _ => 1
  | .returned _ => 0

/-- The call has a signal of its own that it has not held yet. -/
def isFresh : Call σ → Bool
  | .arrived _ | .holding _ => true
  | _ => false

def map (g : σ → τ) : Call σ → Call τ
  | .arrived a => .arrived (g a)
  | .holding a => .holding (g a)
  | .rechecking => .rechecking
  | .starting pid => .starting pid
  | .taking pid => .taking pid
  | .returned t => .returned (t.map fun t => ⟨t.pid, g t.signal⟩)

theorem step_map (g : σ → τ) (c : Call σ) (f : Forwarder σ) :
    (c.map g).step ⟨f.child, f.held.map g⟩ =
      ((c.step f).1.map g, ⟨(c.step f).2.child, (c.step f).2.held.map g⟩) := by
  cases c with
  | arrived a => by_cases h : 0 < f.child <;> simp [step, h, map]
  | rechecking => by_cases h : 0 < f.child <;> simp [step, h, map]
  | taking pid => simp [step, map, Function.comp_def]
  | _ => simp [step, map]

end Call

/-- Two threads over the cells of a forwarder. -/
structure Handover (σ : Type) where
  cells : Forwarder σ
  /-- The call that makes the child known. -/
  starter : Call σ
  /-- The signals whose calls have returned, each with what its call returned. -/
  handled : List (σ × Option (Target σ))
  /-- The signal whose call is in progress. -/
  current : Option (σ × Call σ)
  /-- The signals that have not come yet. -/
  coming : List σ

namespace Handover

/-! ### Turns and schedules -/

def begin (pid : Int) (signals : List σ) : Handover σ := ⟨.new, .starting pid, [], none, signals⟩

def proceed (s : Handover σ) (a : σ) : Call σ × Forwarder σ → Handover σ
  | (.returned t, f) =>
    { s with cells := f, handled := s.handled ++ [(a, t)], current := none }
  | (c, f) => { s with cells := f, current := some (a, c) }

/-- A turn of a thread: one step of its call, or the beginning of its next call. -/
def step (s : Handover σ) : Thread → Handover σ
  | .starter => { s with starter := (s.starter.step s.cells).1, cells := (s.starter.step s.cells).2 }
  | .handler =>
    match s.current, s.coming with
    | some (a, c), _ => s.proceed a (c.step s.cells)
    | none, a :: rest => { s with current := some (a, .arrived a), coming := rest }
    | none, [] => s

def run (s : Handover σ) (schedule : List Thread) : Handover σ := schedule.foldl step s

/-- All calls have returned. -/
def IsOver (s : Handover σ) : Prop :=
  (∃ t, s.starter = .returned t) ∧ s.current = none ∧ s.coming = []

/-- What the calls have returned. -/
def targets (s : Handover σ) : List (Target σ) :=
  s.starter.answer?.toList ++ s.handled.filterMap Prod.snd

def delivered (s : Handover σ) : List σ := s.targets.map Target.signal

/-- The held signal that the next turn overwrites, and the one that takes its place. -/
def overwrites (s : Handover σ) : Thread → Option (σ × σ)
  | .handler =>
    match s.current, s.cells.held with
    | some (_, .holding b), some a => some (a, b)
    | _, _ => none
  | .starter => none

/-- The signal whose call looks for the child in the next turn and sees none. -/
def misses (s : Handover σ) : Thread → Option σ
  | .handler =>
    match s.current with
    | some (_, .arrived a) => if 0 < s.cells.child then none else some a
    | _ => none
  | .starter => none

/-- What can be seen before the turns of a schedule. -/
def collect {β : Type} (view : Handover σ → Thread → Option β) (s : Handover σ) :
    List Thread → List β
  | [] => []
  | t :: rest => (view s t).toList ++ collect view (s.step t) rest

/-- How many turns a thread still has to make at most. -/
def left (s : Handover σ) : Thread → Nat
  | .starter => s.starter.left
  | .handler => s.current.elim 0 (fun p => p.2.left) + 5 * s.coming.length

def map (g : σ → τ) (s : Handover σ) : Handover τ where
  cells := ⟨s.cells.child, s.cells.held.map g⟩
  starter := s.starter.map g
  handled := s.handled.map fun p => (g p.1, p.2.map fun t => ⟨t.pid, g t.signal⟩)
  current := s.current.map fun p => (g p.1, p.2.map g)
  coming := s.coming.map g

variable {s s' : Handover σ} {t : Thread} {a b : σ} {pid : Int} {signals : List σ}

theorem run_append (before after : List Thread) :
    s.run (before ++ after) = (s.run before).run after := List.foldl_append

/-! ### What a turn can do -/

/-- Where a call for `a` can be. -/
inductive Stage (pid child : Int) (a : σ) : Call σ → Prop
  | arrived : Stage pid child a (.arrived a)
  | holding : Stage pid child a (.holding a)
  | rechecking : Stage pid child a .rechecking
  | taking : child = pid → Stage pid child a (.taking pid)

inductive Start (pid child : Int) : Call σ → Prop
  | starting : child = 0 → Start pid child (.starting pid)
  | taking : child = pid → Start pid child (.taking pid)
  | returned (t : Option (Target σ)) : child = pid → Start pid child (.returned t)

/-- Both calls are where calls can be. -/
structure Staged (pid : Int) (s : Handover σ) : Prop where
  start : Start pid s.cells.child s.starter
  stage : ∀ a c, s.current = some (a, c) → Stage pid s.cells.child a c

inductive Turn (pid : Int) (s : Handover σ) : Thread → Handover σ → Prop
  | known : s.starter = .starting pid → s.cells.child = 0 →
      Turn pid s .starter { s with starter := .taking pid, cells.child := pid }
  | released : s.starter = .taking pid → s.cells.child = pid →
      Turn pid s .starter
        { s with starter := .returned (s.cells.held.map (⟨pid, ·⟩)), cells.held := none }
  | rested {t : Option (Target σ)} : s.starter = .returned t → s.cells.child = pid →
      Turn pid s .starter s
  | begun {a : σ} {rest : List σ} : s.current = none → s.coming = a :: rest →
      Turn pid s .handler { s with current := some (a, .arrived a), coming := rest }
  | idle : s.current = none → s.coming = [] → Turn pid s .handler s
  | forwarded {a : σ} : s.current = some (a, .arrived a) → s.cells.child = pid →
      s.starter ≠ .starting pid →
      Turn pid s .handler
        { s with handled := s.handled ++ [(a, some ⟨pid, a⟩)], current := none }
  | missed {a : σ} : s.current = some (a, .arrived a) → s.starter = .starting pid →
      s.cells.child = 0 → Turn pid s .handler { s with current := some (a, .holding a) }
  | stored {a : σ} : s.current = some (a, .holding a) →
      Turn pid s .handler { s with current := some (a, .rechecking), cells.held := some a }
  | found {a : σ} : s.current = some (a, .rechecking) → s.cells.child = pid →
      Turn pid s .handler { s with current := some (a, .taking pid) }
  | kept {a : σ} : s.current = some (a, .rechecking) → s.starter = .starting pid →
      Turn pid s .handler { s with handled := s.handled ++ [(a, none)], current := none }
  | taken {a : σ} : s.current = some (a, .taking pid) → s.cells.child = pid →
      Turn pid s .handler
        { s with
          handled := s.handled ++ [(a, s.cells.held.map (⟨pid, ·⟩))], current := none,
          cells.held := none }

theorem Start.cases {child : Int} {c : Call σ} (h : Start pid child c) :
    c = .starting pid ∧ child = 0 ∨ c ≠ .starting pid ∧ child = pid := by
  cases h with
  | starting h => exact .inl ⟨rfl, h⟩
  | taking h => exact .inr ⟨by simp, h⟩
  | returned t h => exact .inr ⟨by simp, h⟩

theorem Staged.turn (h : s.Staged pid) (hp : 0 < pid) (t : Thread) : Turn pid s t (s.step t) := by
  obtain ⟨hs, hst⟩ := h
  cases t with
  | starter =>
    generalize hc : s.starter = c at hs
    rw [step, hc]
    cases hs with
    | starting h => exact .known hc h
    | taking h => exact .released hc h
    | returned t h =>
      have : s = { s with starter := .returned t } := by rw [← hc]
      rw [Call.step, ← this]
      exact .rested hc h
  | handler =>
    rw [step]
    split
    · next a c hc =>
      have hs' := hs.cases
      cases hst a c hc with
      | arrived =>
        rcases hs' with ⟨h, h0⟩ | ⟨h, h0⟩
        · rw [Call.step, if_neg (by omega)]
          exact .missed hc h h0
        · rw [Call.step, if_pos (by omega), h0]
          exact .forwarded hc h0 h
      | holding => exact .stored hc
      | rechecking =>
        rcases hs' with ⟨h, h0⟩ | ⟨h, h0⟩
        · rw [Call.step, if_neg (by omega)]
          exact .kept hc h
        · rw [Call.step, if_pos (by omega), h0]
          exact .found hc h0
      | taking h => exact .taken hc h
    · next a rest hc hr => exact .begun hc hr
    · next hc hr => exact .idle hc hr

theorem staged_begin : (begin pid signals).Staged pid :=
  ⟨.starting rfl, by rintro a c h; cases h⟩

theorem Turn.staged (h : Turn pid s t s') (hs : s.Staged pid) : s'.Staged pid := by
  obtain ⟨hs, hst⟩ := hs
  cases h with
  | known hc h0 =>
    refine ⟨.taking rfl, fun a c h => ?_⟩
    cases hst a c h with
    | arrived => exact .arrived
    | holding => exact .holding
    | rechecking => exact .rechecking
    | taking => exact .taking rfl
  | released hc h0 => exact ⟨.returned _ h0, hst⟩
  | rested => exact ⟨hs, hst⟩
  | idle => exact ⟨hs, hst⟩
  | begun =>
    refine ⟨hs, ?_⟩
    rintro a c ⟨⟩
    exact .arrived
  | forwarded => exact ⟨hs, by rintro a c ⟨⟩⟩
  | missed =>
    refine ⟨hs, ?_⟩
    rintro a c ⟨⟩
    exact .holding
  | stored =>
    refine ⟨hs, ?_⟩
    rintro a c ⟨⟩
    exact .rechecking
  | found hc h0 =>
    refine ⟨hs, ?_⟩
    rintro a c ⟨⟩
    exact .taking h0
  | kept => exact ⟨hs, by rintro a c ⟨⟩⟩
  | taken => exact ⟨hs, by rintro a c ⟨⟩⟩

/-! ### Where signals are -/

/-- The call for `a` has held it and has not returned. -/
def Rechecks (s : Handover σ) (a : σ) : Prop :=
  ∃ c : Call σ, s.current = some (a, c) ∧ c.isFresh = false

/-- The signals that are to come, and the one whose call has not come to hold it. -/
def fresh (s : Handover σ) : List σ :=
  (s.current.toList.filter fun p => p.2.isFresh).map Prod.fst ++ s.coming

/-- The signals that have been returned, are held or are still fresh. -/
def placed (s : Handover σ) : List σ := s.delivered ++ s.cells.held.toList ++ s.fresh

/-- Between two turns nothing is held that nobody will look at. -/
structure Sound (pid : Int) (signals : List σ) (s : Handover σ) : Prop extends s.Staged pid where
  order : s.handled.map Prod.fst ++ s.current.toList.map Prod.fst ++ s.coming = signals
  source : ∀ a, s.cells.held = some a → a ∈ s.handled.map Prod.fst ∨ s.Rechecks a
  attended : s.cells.held ≠ none → (∃ t, s.starter = .returned t) → ∃ a, s.Rechecks a
  pids : ∀ t ∈ s.targets, t.pid = pid

theorem sound_begin : (begin pid signals).Sound pid signals where
  toStaged := staged_begin
  order := rfl
  source := by rintro a ⟨⟩
  attended := fun h => absurd rfl h
  pids := by rintro t ⟨⟩

theorem Turn.order (h : Turn pid s t s') :
    s'.handled.map Prod.fst ++ s'.current.toList.map Prod.fst ++ s'.coming =
      s.handled.map Prod.fst ++ s.current.toList.map Prod.fst ++ s.coming := by
  cases h <;> simp_all

theorem Turn.source (h : Turn pid s t s')
    (hs : ∀ a, s.cells.held = some a → a ∈ s.handled.map Prod.fst ∨ s.Rechecks a) :
    ∀ a, s'.cells.held = some a → a ∈ s'.handled.map Prod.fst ∨ s'.Rechecks a := by
  intro a ha
  cases h with
  | known => exact hs a ha
  | released => cases ha
  | rested => exact hs a ha
  | idle => exact hs a ha
  | stored hc =>
    cases ha
    exact .inr ⟨_, rfl, rfl⟩
  | taken => cases ha
  | _ =>
    rcases hs a ha with h | ⟨c, h, hf⟩
    · simp_all
    · simp_all [Rechecks, Call.isFresh]

/-- Once the child is known, a signal that is held is looked at again by its own call. -/
theorem Turn.attended (h : Turn pid s t s')
    (hs : s.cells.held ≠ none → (∃ t, s.starter = .returned t) → ∃ a, s.Rechecks a) :
    s'.cells.held ≠ none → (∃ t, s'.starter = .returned t) → ∃ a, s'.Rechecks a := by
  intro hh hr
  cases h with
  | known => obtain ⟨t, ⟨⟩⟩ := hr
  | released => exact absurd rfl hh
  | rested => exact hs hh hr
  | idle => exact hs hh hr
  | @stored a hc => exact ⟨a, _, rfl, rfl⟩
  | @found a hc => exact ⟨a, _, rfl, rfl⟩
  | @kept a hc h0 =>
    obtain ⟨t, ht⟩ := hr
    rw [h0] at ht
    cases ht
  | taken => exact absurd rfl hh
  | _ =>
    obtain ⟨a, c, h, hf⟩ := hs hh hr
    simp_all [Call.isFresh]

theorem mem_targets {u : Target σ} :
    u ∈ s.targets ↔ s.starter = .returned (some u) ∨ ∃ a, (a, some u) ∈ s.handled := by
  unfold targets
  cases s.starter <;> simp [Call.answer?]

theorem Turn.pids (h : Turn pid s t s') (hs : ∀ u ∈ s.targets, u.pid = pid) :
    ∀ u ∈ s'.targets, u.pid = pid := by
  intro u hu
  rw [mem_targets] at hu
  have old : s.starter = .returned (some u) ∨ (∃ a, (a, some u) ∈ s.handled) → u.pid = pid :=
    fun h => hs u (mem_targets.2 h)
  have took : s.cells.held.map (⟨pid, ·⟩) = some u → u.pid = pid := by
    intro h
    obtain ⟨a, -, rfl⟩ := Option.map_eq_some_iff.1 h
    rfl
  cases h with
  | known =>
    obtain ⟨⟨⟩⟩ | hu := hu
    exact old (.inr hu)
  | released =>
    rcases hu with hu | hu
    · exact took (Call.returned.inj hu)
    · exact old (.inr hu)
  | forwarded =>
    rcases hu with hu | ⟨a, hu⟩
    · exact old (.inl hu)
    · rcases List.mem_append.1 hu with hu | hu
      · exact old (.inr ⟨a, hu⟩)
      · cases List.mem_singleton.1 hu
        rfl
  | kept =>
    rcases hu with hu | ⟨a, hu⟩
    · exact old (.inl hu)
    · rcases List.mem_append.1 hu with hu | hu
      · exact old (.inr ⟨a, hu⟩)
      · cases List.mem_singleton.1 hu
  | taken =>
    rcases hu with hu | ⟨a, hu⟩
    · exact old (.inl hu)
    · rcases List.mem_append.1 hu with hu | hu
      · exact old (.inr ⟨a, hu⟩)
      · exact took (Prod.mk.inj (List.mem_singleton.1 hu)).2.symm
  | _ => exact old hu

theorem Sound.step (h : s.Sound pid signals) (hp : 0 < pid) (t : Thread) :
    (s.step t).Sound pid signals :=
  have ht := h.turn hp t
  { toStaged := ht.staged h.toStaged
    order := ht.order.trans h.order
    source := ht.source h.source
    attended := ht.attended h.attended
    pids := ht.pids h.pids }

theorem Sound.run (h : s.Sound pid signals) (hp : 0 < pid) (schedule : List Thread) :
    (s.run schedule).Sound pid signals := by
  induction schedule generalizing s with
  | nil => exact h
  | cons t rest ih => exact ih (h.step hp t)

/-! ### What is overwritten -/

/-- A signal leaves the places only when it is overwritten. -/
theorem Turn.perm_placed (h : Turn pid s t s') :
    s.placed.Perm ((s.overwrites t).toList.map Prod.fst ++ s'.placed) := by
  -- A turn moves at most one signal from its place to another, so counting it is enough.
  classical
  rw [List.perm_iff_count]
  intro x
  cases h with
  | known hc => simp [placed, delivered, targets, overwrites, fresh, hc, Call.answer?]
  | released hc =>
    cases hh : s.cells.held with
    | none => simp [placed, delivered, targets, overwrites, fresh, hc, hh, Call.answer?]
    | some a =>
      simp [placed, delivered, targets, overwrites, fresh, hc, hh, Call.answer?, List.count_cons]
      omega
  | rested => simp [overwrites]
  | begun hc hr => simp [placed, delivered, targets, overwrites, fresh, hc, hr, Call.isFresh]
  | idle hc hr => simp [overwrites, hc]
  | forwarded hc =>
    simp [placed, delivered, targets, overwrites, fresh, hc, Call.isFresh, List.count_cons]
    omega
  | missed hc => simp [placed, delivered, targets, overwrites, fresh, hc, Call.isFresh]
  | stored hc =>
    cases hh : s.cells.held with
    | none => simp [placed, delivered, targets, overwrites, fresh, hc, hh, Call.isFresh]
    | some a =>
      simp [placed, delivered, targets, overwrites, fresh, hc, hh, Call.isFresh, List.count_cons]
      omega
  | found hc => simp [placed, delivered, targets, overwrites, fresh, hc, Call.isFresh]
  | kept hc => simp [placed, delivered, targets, overwrites, fresh, hc, Call.isFresh]
  | taken hc =>
    cases hh : s.cells.held <;>
      simp [placed, delivered, targets, overwrites, fresh, hc, hh, Call.isFresh]

/-- Every signal is in a place, or has been overwritten. -/
theorem Sound.perm_placed (h : s.Sound pid signals) (hp : 0 < pid) (schedule : List Thread) :
    s.placed.Perm
      ((s.collect overwrites schedule).map Prod.fst ++ (s.run schedule).placed) := by
  induction schedule generalizing s with
  | nil => exact List.Perm.refl _
  | cons t rest ih =>
    have ht := (h.turn hp t).perm_placed
    have hr := ih (h.step hp t)
    rw [collect, List.map_append, List.append_assoc]
    exact ht.trans (hr.append_left _)

theorem overwrites_eq_some (h : s.overwrites t = some (a, b)) :
    t = .handler ∧ (∃ x, s.current = some (x, .holding b)) ∧ s.cells.held = some a := by
  unfold overwrites at h
  split at h
  · split at h
    · next hc hh =>
      cases h
      exact ⟨rfl, ⟨_, hc⟩, hh⟩
    · cases h
  · cases h

theorem misses_eq_some (h : s.current = some (b, .arrived b)) (h0 : ¬ 0 < s.cells.child) :
    s.misses .handler = some b := by
  simp [misses, h, h0]

/-- What is overwritten came before what overwrites it. -/
theorem Sound.sublist_of_overwrites (h : s.Sound pid signals) (ho : s.overwrites t = some (a, b)) :
    [a, b].Sublist signals := by
  obtain ⟨-, ⟨x, hx⟩, hh⟩ := overwrites_eq_some ho
  have hst := h.stage x _ hx
  cases hst with
  | holding =>
    have ha : a ∈ s.handled.map Prod.fst := by
      rcases h.source a hh with ha | ⟨c, hc, hf⟩
      · exact ha
      · rw [hx] at hc
        cases hc
        cases hf
    have hb : ([a] ++ [b] ++ []).Sublist signals := by
      rw [← h.order, hx]
      exact ((List.singleton_sublist.2 ha).append (List.Sublist.refl _)).append (List.nil_sublist _)
    exact hb

theorem Sound.sublist_of_overwritten (h : s.Sound pid signals) (hp : 0 < pid)
    {schedule : List Thread} (ho : (a, b) ∈ s.collect overwrites schedule) :
    [a, b].Sublist signals := by
  induction schedule generalizing s with
  | nil => cases ho
  | cons t rest ih =>
    rw [collect, List.mem_append, Option.mem_toList] at ho
    rcases ho with ho | ho
    · exact h.sublist_of_overwrites ho
    · exact ih (h.step hp t) ho

/-- A call that overwrites saw no child, or is past its first look. -/
theorem Sound.missed_of_overwritten (h : s.Sound pid signals) (hp : 0 < pid)
    {schedule : List Thread} (ho : (a, b) ∈ s.collect overwrites schedule) :
    b ∈ s.collect misses schedule ∨ s.current = some (b, .holding b) := by
  induction schedule generalizing s with
  | nil => cases ho
  | cons t rest ih =>
    rw [collect, List.mem_append, Option.mem_toList] at ho
    rw [collect, List.mem_append, Option.mem_toList]
    rcases ho with ho | ho
    · obtain ⟨-, ⟨x, hx⟩, -⟩ := overwrites_eq_some ho
      cases h.stage x _ hx with
      | holding => exact .inr hx
    · rcases ih (h.step hp t) ho with hm | hc
      · exact .inl (.inr hm)
      · have ht := h.turn hp t
        generalize s.step t = s' at ht hc
        cases ht with
        | @missed x hx _ h0 =>
          cases hc
          exact .inl (.inl (misses_eq_some hx (by omega)))
        | known => exact .inr hc
        | released => exact .inr hc
        | rested => exact .inr hc
        | idle => exact .inr hc
        | _ => cases hc

/-! ### Calls that begin when the child is known -/

/-- The child is known, and the call for `a` has not looked for it yet or has returned `a`. -/
structure Assured (pid : Int) (a : σ) (s : Handover σ) : Prop where
  started : s.starter ≠ .starting pid
  place : a ∈ s.coming ∨ s.current = some (a, .arrived a) ∨ (a, some ⟨pid, a⟩) ∈ s.handled

theorem Turn.assured (h : Turn pid s t s') (ha : s.Assured pid a) : s'.Assured pid a := by
  obtain ⟨hs, hp⟩ := ha
  cases h with
  | known h0 => exact absurd h0 hs
  | released => exact ⟨by simp, hp⟩
  | missed _ h0 => exact absurd h0 hs
  | kept _ h0 => exact absurd h0 hs
  | rested => exact ⟨hs, hp⟩
  | idle => exact ⟨hs, hp⟩
  | @begun b rest hc hr =>
    refine ⟨hs, ?_⟩
    rw [hr, List.mem_cons] at hp
    rcases hp with (rfl | hp) | hp | hp
    · exact .inr (.inl rfl)
    · exact .inl hp
    · rw [hc] at hp
      cases hp
    · exact .inr (.inr hp)
  | @forwarded b hc h0 =>
    refine ⟨hs, ?_⟩
    rcases hp with hp | hp | hp
    · exact .inl hp
    · rw [hc] at hp
      cases hp
      exact .inr (.inr (by simp))
    · exact .inr (.inr (List.mem_append_left _ hp))
  | @stored b hc | @found b hc =>
    refine ⟨hs, ?_⟩
    rcases hp with hp | hp | hp
    · exact .inl hp
    · rw [hc] at hp
      cases hp
    · exact .inr (.inr hp)
  | @taken b hc =>
    refine ⟨hs, ?_⟩
    rcases hp with hp | hp | hp
    · exact .inl hp
    · rw [hc] at hp
      cases hp
    · exact .inr (.inr (List.mem_append_left _ hp))

/-- The call for a signal that comes when the child is known returns that signal. -/
theorem Sound.mem_handled (h : s.Sound pid signals) (hp : 0 < pid) (ha : s.Assured pid a)
    {schedule : List Thread} (ho : (s.run schedule).IsOver) :
    (a, some ⟨pid, a⟩) ∈ (s.run schedule).handled := by
  induction schedule generalizing s with
  | nil =>
    obtain ⟨-, hc, hr⟩ := ho
    rcases ha.place with hp | hp | hp
    · rw [show s.coming = [] from hr] at hp
      cases hp
    · rw [show s.current = none from hc] at hp
      cases hp
    · exact hp
  | cons t rest ih => exact ih (h.step hp t) ((h.turn hp t).assured ha) ho

/-! ### Calls return -/

/-- Every turn brings its thread closer to the end and leaves the other where it is. -/
theorem Turn.left_le (h : Turn pid s t s') (u : Thread) :
    s'.left u ≤ s.left u - [t].count u := by
  cases h with
  | known hc => cases u <;> simp [left, hc, Call.left]
  | released hc => cases u <;> simp [left, hc, Call.left]
  | rested hc => cases u <;> simp [left, hc, Call.left]
  | begun hc hr =>
    cases u with
    | starter => simp [left]
    | handler =>
      simp [left, hc, hr, Call.left]
      omega
  | idle hc hr => cases u <;> simp [left, hc, hr]
  | forwarded hc | missed hc | stored hc | found hc | kept hc | taken hc =>
    cases u with
    | starter => simp [left]
    | handler =>
      simp only [left, hc, Call.left, Option.elim_some, Option.elim_none, List.count_singleton_self]
      omega

theorem Sound.left_le (h : s.Sound pid signals) (hp : 0 < pid) (schedule : List Thread)
    (u : Thread) : (s.run schedule).left u ≤ s.left u - schedule.count u := by
  induction schedule generalizing s with
  | nil => exact Nat.le_refl _
  | cons t rest ih =>
    have hr := ih (h.step hp t)
    have ht := (h.turn hp t).left_le u
    have hc : ([t] ++ rest).count u = [t].count u + rest.count u := List.count_append
    rw [List.singleton_append] at hc
    rw [hc]
    exact Nat.le_trans hr (by omega)

theorem Staged.isOver (h : s.Staged pid) (hl : ∀ u, s.left u = 0) : s.IsOver := by
  have hs := hl .starter
  have hh := hl .handler
  simp only [left] at hs hh
  refine ⟨?_, ?_, ?_⟩
  · have hst := h.start
    generalize s.starter = c at hs hst
    cases hst with
    | starting => cases hs
    | taking => cases hs
    | returned t => exact ⟨t, rfl⟩
  · cases hc : s.current with
    | none => rfl
    | some p =>
      have hst := h.stage p.1 p.2 hc
      rw [hc] at hh
      simp only [Option.elim_some] at hh
      generalize p.2 = c at hh hst
      cases hst <;> simp [Call.left] at hh
  · exact List.length_eq_zero_iff.1 (by omega)

/-! ### Calls that nothing comes between -/

theorem run_childStarted (hs : s.starter = .starting pid) :
    s.run [.starter, .starter] =
      { s with
        starter := .returned (s.cells.childStarted pid).1
        cells := (s.cells.childStarted pid).2 } := by
  simp only [run, List.foldl, step, hs]
  rfl

theorem exists_run_onSignal {rest : List σ} (hc : s.current = none) (hr : s.coming = a :: rest) :
    ∃ n, s.run (List.replicate n .handler) =
      { s with
        cells := (s.cells.onSignal a).2
        handled := s.handled ++ [(a, (s.cells.onSignal a).1)]
        coming := rest } := by
  obtain ⟨f, starter, handled, current, coming⟩ := s
  cases hc
  cases hr
  by_cases hp : 0 < f.child
  · refine ⟨2, ?_⟩
    simp [run, List.replicate, step, proceed, Forwarder.onSignal, Call.run, Call.runSteps,
      Call.step, Call.answer?, hp]
  · refine ⟨4, ?_⟩
    simp [run, List.replicate, step, proceed, Forwarder.onSignal, Call.run, Call.runSteps,
      Call.step, Call.answer?, hp]

/-! ### Other signals -/

theorem begin_map (g : σ → τ) : (begin pid signals).map g = begin pid (signals.map g) := rfl

theorem step_map (g : σ → τ) (s : Handover σ) (t : Thread) : (s.map g).step t = (s.step t).map g := by
  cases t with
  | starter =>
    have hs := s.starter.step_map g s.cells
    simp only [step, map, hs]
  | handler =>
    obtain ⟨f, starter, handled, current, coming⟩ := s
    cases current with
    | none => cases coming <;> rfl
    | some p =>
      obtain ⟨a, c⟩ := p
      have hs := c.step_map g f
      simp only [step, map, Option.map_some, hs]
      generalize c.step f = r
      obtain ⟨c', f'⟩ := r
      cases c' <;> simp [proceed, Call.map]

/-- What the calls do does not depend on what they forward. -/
theorem run_map (g : σ → τ) (s : Handover σ) (schedule : List Thread) :
    (s.map g).run schedule = (s.run schedule).map g := by
  induction schedule generalizing s with
  | nil => rfl
  | cons t rest ih =>
    have hs : (s.map g).run (t :: rest) = ((s.map g).step t).run rest := rfl
    rw [hs, step_map, ih]
    rfl

/-! ### The end -/

theorem Sound.held_eq_none (h : s.Sound pid signals) (ho : s.IsOver) : s.cells.held = none := by
  obtain ⟨hr, hc, -⟩ := ho
  by_contra hh
  obtain ⟨a, c, ha, -⟩ := h.attended hh hr
  rw [hc] at ha
  cases ha

theorem placed_of_isOver (h : s.Sound pid signals) (ho : s.IsOver) : s.placed = s.delivered := by
  have hh := h.held_eq_none ho
  obtain ⟨-, hc, hr⟩ := ho
  simp [placed, fresh, hh, hc, hr]

/-- Once all calls have returned, the signals are those returned and those overwritten. -/
theorem perm_delivered (hp : 0 < pid) {schedule : List Thread}
    (ho : ((begin pid signals).run schedule).IsOver) :
    signals.Perm (((begin pid signals).collect overwrites schedule).map Prod.fst ++
      ((begin pid signals).run schedule).delivered) := by
  have hb : (begin pid signals).Sound pid signals := sound_begin
  have h := hb.perm_placed hp schedule
  rw [placed_of_isOver (hb.run hp schedule) ho] at h
  have hs : (begin pid signals).placed = signals := rfl
  rwa [hs] at h

theorem not_mem_delivered_iff (hp : 0 < pid) (hn : signals.Nodup) {schedule : List Thread}
    (ho : ((begin pid signals).run schedule).IsOver) (ha : a ∈ signals) :
    a ∉ ((begin pid signals).run schedule).delivered ↔
      ∃ b, (a, b) ∈ (begin pid signals).collect overwrites schedule := by
  have h := perm_delivered hp ho
  have hd := List.nodup_append'.1 (h.nodup_iff.1 hn)
  have hm := List.mem_append.1 (h.mem_iff.1 ha)
  constructor
  · intro hnot
    obtain ⟨⟨x, b⟩, hb, rfl⟩ := List.mem_map.1 (hm.resolve_right hnot)
    exact ⟨b, hb⟩
  · rintro ⟨b, hb⟩ hmem
    exact hd.2.2 (List.mem_map.2 ⟨_, hb, rfl⟩) hmem

theorem nodup_zipIdx (l : List σ) : l.zipIdx.Nodup := by
  apply List.Nodup.of_map Prod.snd
  rw [List.zipIdx_map_snd]
  exact List.nodup_range'

theorem snd_lt_snd_of_sublist {l : List σ} {a b : σ × Nat} (h : [a, b].Sublist l.zipIdx) :
    a.2 < b.2 := by
  have hs := h.map Prod.snd
  rw [List.zipIdx_map_snd] at hs
  have hp := List.Pairwise.sublist hs List.pairwise_lt_range'
  simpa using hp

theorem snd_lt_length {l : List σ} {a : σ × Nat} (h : a ∈ l.zipIdx) : a.2 < l.length := by
  have hm := List.mem_map_of_mem (f := Prod.snd) h
  rw [List.zipIdx_map_snd, List.mem_range'_1] at hm
  omega

/-- With enough turns both threads come to their ends. Then nothing is held; what has been returned
is for the child and came as a signal; no signal has been returned twice; those never returned are
those overwritten by a later one whose call saw no child; the last one has been returned; and a call
that began when the child was known has returned its own signal. -/
theorem forwarded_once {pid : Int} (hp : 0 < pid) (signals : List Signal)
    (schedule : List Thread) :
    let first := begin pid signals.zipIdx
    let last := first.run schedule
    (begin pid signals).run schedule = last.map Prod.fst ∧
    (2 ≤ schedule.count .starter → 5 * signals.length ≤ schedule.count .handler → last.IsOver) ∧
    (last.IsOver →
      last.cells.held = none ∧
      (∀ u ∈ last.targets, u.pid = pid ∧ u.signal ∈ signals.zipIdx) ∧
      last.delivered.Nodup ∧
      (∀ a ∈ signals.zipIdx,
        a ∉ last.delivered ↔ ∃ b, (a, b) ∈ first.collect overwrites schedule) ∧
      (∀ a b, (a, b) ∈ first.collect overwrites schedule →
        a.2 < b.2 ∧ b ∈ first.collect misses schedule) ∧
      (∀ a, signals.zipIdx.getLast? = some a → last.delivered.count a = 1) ∧
      (∀ before after, schedule = before ++ after →
        (first.run before).starter ≠ .starting pid →
        ∀ a ∈ (first.run before).coming, (a, some ⟨pid, a⟩) ∈ last.handled)) := by
  intro first last
  have hfirst : first.Sound pid signals.zipIdx := sound_begin
  have hlast : last.Sound pid signals.zipIdx := hfirst.run hp schedule
  refine ⟨?_, fun h2 h5 => hlast.isOver fun u => ?_, fun ho => ?_⟩
  · have hm := run_map Prod.fst first schedule
    rw [begin_map, List.zipIdx_map_fst] at hm
    exact hm
  · have hl := hfirst.left_le hp schedule u
    have hs : first.left .starter = 2 := rfl
    have hh : first.left .handler = 0 + 5 * signals.zipIdx.length := rfl
    rw [List.length_zipIdx] at hh
    cases u with
    | starter => exact Nat.le_zero.1 (Nat.le_trans hl (by omega))
    | handler => exact Nat.le_zero.1 (Nat.le_trans hl (by omega))
  have hperm := perm_delivered hp ho
  have hnodup := nodup_zipIdx signals
  have hlost := fun a => not_mem_delivered_iff (a := a) hp hnodup ho
  have hover : ∀ a b, (a, b) ∈ first.collect overwrites schedule →
      a.2 < b.2 ∧ b ∈ first.collect misses schedule := by
    intro a b hab
    refine ⟨snd_lt_snd_of_sublist (hfirst.sublist_of_overwritten hp hab), ?_⟩
    rcases hfirst.missed_of_overwritten hp hab with hm | hc
    · exact hm
    · cases hc
  refine ⟨hlast.held_eq_none ho, fun u hu => ⟨hlast.pids u hu, ?_⟩, ?_, hlost, hover, ?_, ?_⟩
  · exact hperm.mem_iff.2 (List.mem_append_right _ (List.mem_map_of_mem hu))
  · exact (List.nodup_append'.1 (hperm.nodup_iff.1 hnodup)).2.1
  · intro a ha
    have hmem : a ∈ signals.zipIdx := List.mem_of_getLast? ha
    -- What overwrites a signal comes later, and nothing comes later than the last one.
    have hd : a ∈ last.delivered := by
      by_contra hnot
      obtain ⟨b, hb⟩ := (hlost a hmem).1 hnot
      have hlt := (hover a b hb).1
      have hsub := hfirst.sublist_of_overwritten hp hb
      have hbl := snd_lt_length (hsub.subset (List.mem_cons_of_mem _ List.mem_cons_self))
      rw [List.getLast?_zipIdx, Option.map_eq_some_iff] at ha
      obtain ⟨x, -, rfl⟩ := ha
      simp only at hlt
      omega
    exact List.count_eq_one_of_mem (List.nodup_append'.1 (hperm.nodup_iff.1 hnodup)).2.1 hd
  · rintro before after rfl hs a ha
    have hb := hfirst.run hp before
    have hl : last = (first.run before).run after := run_append before after
    rw [hl] at ho ⊢
    exact hb.mem_handled hp ⟨hs, .inl ha⟩ ho

/-- The second of three signals overwrites the first between the two steps that make the child
known, and is taken before its own call comes to take it. -/
theorem exists_overwritten_signal :
    let signals : List Signal := [.int, .int, .term]
    let schedule : List Thread :=
      [.handler, .handler, .handler, .handler, .handler, .handler, .starter, .handler, .starter,
        .handler, .handler, .handler, .handler]
    let first := begin 77 signals.zipIdx
    let last := first.run schedule
    (0 : Int) < 77 ∧ last.IsOver ∧
      first.collect overwrites schedule = [((.int, 0), (.int, 1))] ∧
      last.delivered = [(.int, 1), (.term, 2)] ∧ (Signal.int, 0) ∉ last.delivered := by
  intro signals schedule first last
  have ho : last.IsOver := ⟨⟨some ⟨77, .int, 1⟩, by decide⟩, by decide, by decide⟩
  have hover : first.collect overwrites schedule = [((.int, 0), (.int, 1))] := by decide
  obtain ⟨-, -, h⟩ := forwarded_once (show (0 : Int) < 77 by decide) signals schedule
  obtain ⟨-, -, -, hlost, -⟩ := h ho
  refine ⟨by decide, ho, hover, by decide, ?_⟩
  rw [hlost (.int, 0) (by decide)]
  exact ⟨(.int, 1), by rw [hover]; decide⟩

end Handover

end HostServices.Launch
