import HostServices.Proofs.Watch.Transition

/-!
# What stands for a signal

The registry's table and the system's are changed by installs that succeed and by other code, and by
nothing else. `Registry.changes` reads these changes of one signal off a run; `Shows` says that the
entries of the signal after the run are what the changes leave there.
-/

namespace HostServices.Watch

variable {κ : Type}

inductive Change (κ : Type)
  | installed (a : Action κ)
  | overruled (h : Handler)

namespace Change

def action? : Change κ → Option (Action κ)
  | installed a => some a
  | overruled _ => none

def entry (restart : Bool) : Change κ → Entry
  | installed a => ⟨.ofAction a, restart⟩
  | overruled h => ⟨h, false⟩

end Change

namespace Registry

variable {r r' r'' : Registry κ} {s u : Signal} {a : Action κ} {w : Bool} {x : Step κ}

/-! ### What an install answers -/

theorem install_eq_ok {refused : Refusals} {d : Disposition}
    (h : (r.install s a refused).1 = .ok d) :
    d = r.current s ∧ ((r.install s a refused).2 = r.replace s a refused.wake ∨
      r.dispatcher = .absent ∧ (r.install s a refused).2 = r.started.replace s a refused.wake) := by
  rcases r.install_cases s a refused with ⟨e, hi⟩ | ⟨e, -, hi⟩ | ⟨-, hi⟩ | ⟨hd, hi⟩ <;>
    rw [hi] at h ⊢ <;> cases h
  · exact ⟨rfl, .inl rfl⟩
  · exact ⟨rfl, .inr ⟨hd, rfl⟩⟩

theorem install_eq_error {refused : Refusals} {e : InstallError}
    (h : (r.install s a refused).1 = .error e) :
    (r.install s a refused).2 = r ∨
      r.dispatcher = .absent ∧ (r.install s a refused).2 = r.started := by
  rcases r.install_cases s a refused with ⟨e, hi⟩ | ⟨e, hd, hi⟩ | ⟨-, hi⟩ | ⟨-, hi⟩ <;>
    rw [hi] at h ⊢ <;> cases h
  · exact .inl rfl
  · exact .inr ⟨hd, rfl⟩

def CanDispatch (r : Registry κ) (refused : Refusals) : Prop :=
  r.dispatcher = .absent → refused.wakePipe = none ∧ r.settings.canNameThread = true

theorem start_isOk_iff (r : Registry κ) (refused : Refusals) :
    (∃ r₁, r.start refused.wakePipe = .ok r₁) ↔ r.CanDispatch refused := by
  unfold start CanDispatch
  cases hd : r.dispatcher with
  | absent =>
    cases refused.wakePipe with
    | some number => simp
    | none => cases r.settings.canNameThread <;> simp
  | live d => simp
  | ended => simp

theorem prepare_isOk_iff (r : Registry κ) (a : Action κ) (refused : Refusals) :
    (∃ r₁, r.prepare a refused.wakePipe = .ok r₁) ↔
      (a.callback?.isSome → r.CanDispatch refused) := by
  cases a with
  | custom k => exact (r.start_isOk_iff refused).trans ⟨fun h _ => h, fun h => h rfl⟩
  | default => exact ⟨fun _ => nofun, fun _ => ⟨r, rfl⟩⟩
  | ignore => exact ⟨fun _ => nofun, fun _ => ⟨r, rfl⟩⟩

/-- An install succeeds unless its signal is kept from the registry or the system refuses. -/
theorem install_isOk_iff (r : Registry κ) (s : Signal) (a : Action κ) (refused : Refusals) :
    (∃ d, (r.install s a refused).1 = .ok d) ↔
      s.isUncatchable = false ∧ s.isReserved = false ∧
        (a.callback?.isSome → r.CanDispatch refused) ∧ refused.handler = none := by
  rw [← r.prepare_isOk_iff a refused]
  unfold install
  cases s.isUncatchable with
  | true => simp
  | false =>
    cases s.isReserved with
    | true => simp
    | false =>
      cases r.prepare a refused.wakePipe with
      | error e => simp
      | ok r₁ => cases refused.handler <;> simp

/-- A watch is an install on the signal that its name resolves to, or it is nothing. -/
theorem watch_cases (r : Registry κ) (name : String) (a : Action κ) (refused : Refusals) :
    (∃ e, Signal.resolve name = .error e ∧
      r.watch name a refused = (.error (.failure (.ofName e)), r)) ∨
    ∃ s, Signal.resolve name = .ok s ∧
      (r.watch name a refused).2 = (r.install s a refused).2 ∧
      ((∃ d, (r.install s a refused).1 = .ok d ∧ (r.watch name a refused).1 = .ok ()) ∨
        ∃ e, (r.install s a refused).1 = .error e ∧
          (r.watch name a refused).1 = .error e.toFault) := by
  unfold watch
  cases Signal.resolve name with
  | error e => exact .inl ⟨e, rfl, rfl⟩
  | ok s =>
    refine .inr ⟨s, rfl, ?_⟩
    dsimp only
    cases hi : r.install s a refused with
    | mk result r₁ =>
      cases result with
      | ok d => exact ⟨rfl, .inl ⟨d, rfl, rfl⟩⟩
      | error e => exact ⟨rfl, .inr ⟨e, rfl, rfl⟩⟩

/-! ### Changes along a run -/

/-- What the steps of a run tell in turn. -/
def collect {β : Type} (tell : Registry κ → Step κ → Option β) (r : Registry κ) :
    List (Step κ) → List β
  | [] => []
  | x :: rest => (tell r x).toList ++ (r.step? x).elim [] fun r => r.collect tell rest

/-- What a step changes for `s`. -/
def change? (s : Signal) (r : Registry κ) : Step κ → Option (Change κ)
  | .install u a refused =>
    match (r.install u a refused).1 with
    | .ok _ => if u = s then some (.installed a) else none
    | .error _ => none
  | .overrule u h => if u = s then some (.overruled h) else none
  | _ => none

/-- What a run changes for `s`, the first change first. -/
def changes (r : Registry κ) (s : Signal) : List (Step κ) → List (Change κ) :=
  r.collect (change? s)

/-- The action of the last install on `s` in a run that succeeded. -/
def lastInstalled? (r : Registry κ) (s : Signal) (steps : List (Step κ)) : Option (Action κ) :=
  ((r.changes s steps).filterMap Change.action?).getLast?

/-- The entries of `s` in `r'` are those of `r` after the changes. -/
structure Shows (r : Registry κ) (s : Signal) (changes : List (Change κ)) (r' : Registry κ) :
    Prop where
  settings : r'.settings = r.settings
  action : (r'.slots.get s).action =
    (changes.filterMap Change.action?).getLast?.or (r.slots.get s).action
  entry : r'.system.get s =
    changes.getLast?.elim (r.system.get s) (Change.entry r.settings.restart)

namespace Shows

variable {c c' : List (Change κ)}

theorem refl (r : Registry κ) (s : Signal) : Shows r s [] r := ⟨rfl, rfl, rfl⟩

theorem trans (h : Shows r s c r') (h' : Shows r' s c' r'') : Shows r s (c ++ c') r'' where
  settings := h'.settings.trans h.settings
  action := by
    rw [h'.action, h.action, List.filterMap_append, List.getLast?_append, Option.or_assoc]
  entry := by
    rw [h'.entry, h.entry, h.settings, List.getLast?_append]
    cases c'.getLast? <;> rfl

theorem started (r : Registry κ) (s : Signal) : Shows r s [] r.started := ⟨rfl, rfl, rfl⟩

theorem replace : Shows r s (if u = s then [.installed a] else []) (r.replace u a w) where
  settings := by simp [Registry.replace, retire_eq]
  action := by
    rw [replace_slots]
    by_cases hu : s = u
    · simp [hu, Change.action?]
    · simp [hu, Ne.symm hu]
  entry := by
    rw [replace_system, Signal.Table.get_set]
    by_cases hu : s = u
    · simp [hu, Change.entry]
    · simp [hu, Ne.symm hu]

theorem install (refused : Refusals) :
    Shows r s (change? s r (.install u a refused)).toList (r.install u a refused).2 := by
  simp only [change?]
  cases hi : (r.install u a refused).1 with
  | error e =>
    rcases install_eq_error hi with h | ⟨-, h⟩ <;> rw [h]
    · exact refl r s
    · exact started r s
  | ok d =>
    have hc : (if u = s then some (Change.installed a) else none).toList =
        if u = s then [.installed a] else [] := by split <;> rfl
    simp only [hc]
    rcases (install_eq_ok hi).2 with h | ⟨-, h⟩ <;> rw [h]
    · exact replace
    · exact (started r s).trans replace

theorem record : Shows r s [] (r.record u) where
  settings := by unfold Registry.record wake; split <;> rfl
  action := by
    rw [record_slots]
    split <;> rfl
  entry := by rw [record_system]; rfl

theorem overrule {h : Handler} :
    Shows r s (change? s r (.overrule u h)).toList (r.overrule u h) where
  settings := rfl
  action := by
    simp only [change?]
    split <;> rfl
  entry := by
    simp only [change?, Registry.overrule, Signal.Table.get_set]
    by_cases hu : s = u
    · simp [hu, Change.entry]
    · simp [hu, Ne.symm hu]

theorem step (hx : r.step? x = some r') : Shows r s (change? s r x).toList r' := by
  cases x with
  | install u a refused => cases hx; exact install refused
  | record u =>
    simp only [step?] at hx
    split at hx
    · cases hx; exact record
    · cases hx
  | overrule u h => cases hx; exact overrule
  | read => obtain ⟨-, -, rfl⟩ := read?_eq_some hx; exact ⟨rfl, rfl, rfl⟩
  | failRead interrupted =>
    obtain ⟨-, rfl⟩ := failRead?_eq_some hx
    cases interrupted <;> exact ⟨rfl, rfl, rfl⟩
  | receive =>
    obtain ⟨-, ⟨-, rfl⟩ | ⟨b, rest, -, rfl⟩⟩ := receive?_eq_some hx
    · exact ⟨rfl, rfl, rfl⟩
    · exact ⟨rfl, rfl, rfl⟩
  | check =>
    obtain ⟨u, others, -, rfl⟩ := check?_eq_some hx
    refine ⟨rfl, ?_, rfl⟩
    simp only [Signal.Table.get_set]
    split
    · next hu => rw [hu]; rfl
    · rfl
  | finish panicked => obtain ⟨phase, b, -, rfl⟩ := finish?_eq_some hx; exact ⟨rfl, rfl, rfl⟩

theorem run {steps : List (Step κ)} (hr : r.run? steps = some r') :
    Shows r s (r.changes s steps) r' := by
  induction steps generalizing r with
  | nil => cases hr; exact refl _ s
  | cons x steps ih =>
    simp only [run?, Option.bind_eq_some_iff] at hr
    obtain ⟨r₁, hx, hr⟩ := hr
    simp only [changes, collect, hx, Option.elim]
    exact (step hx).trans (ih hr)

end Shows

/-- An install on another signal changes nothing for `s`. -/
theorem install_of_ne (hu : u ≠ s) (r : Registry κ) (a : Action κ) (refused : Refusals) :
    (r.install u a refused).2.installed s = r.installed s ∧
      (r.install u a refused).2.system.get s = r.system.get s ∧
      (r.install u a refused).2.current s = r.current s := by
  have hc : change? s r (.install u a refused) = none := by
    simp only [change?, hu, if_false]
    split <;> rfl
  have h : Shows r s (change? s r (.install u a refused)).toList (r.install u a refused).2 :=
    .install refused
  rw [hc] at h
  have ha := h.action
  have he := h.entry
  simp only [Option.toList_none, List.filterMap_nil, List.getLast?_nil, Option.none_or,
    Option.elim] at ha he
  simp only [installed, current, ha, he, and_self]

end Registry

/-- Slot, system and report agree after every run: what is reported for a signal is the action of
the last install that succeeded, the system's entry is what that install or other code after it put
there, and the next install that succeeds answers with the former, or with the system's entry if it
is the first. Other signals take no part in it, and a watch is an install or does nothing. -/
theorem Registry.run_stands {settings : Settings} {system : System} {pipe : Pipe}
    {steps : List (Step κ)} {r₀ r : Registry κ} (h₀ : r₀ = .empty settings system pipe)
    (hr : r₀.run? steps = some r) (s : Signal) :
    r.installed s = (r₀.lastInstalled? s steps).map Action.disposition ∧
      r.system.get s = (r₀.changes s steps).getLast?.elim (system.get s)
        (Change.entry settings.restart) ∧
      (∀ a refused d, (r.install s a refused).1 = .ok d →
        d = (r₀.lastInstalled? s steps).elim (r.system.get s).handler.disposition
          Action.disposition) ∧
      (∀ a refused, (∃ d, (r.install s a refused).1 = .ok d) ↔
        s.isUncatchable = false ∧ s.isReserved = false ∧
          (a.callback?.isSome → r.CanDispatch refused) ∧ refused.handler = none) ∧
      (∀ u a refused, u ≠ s → (r.install u a refused).2.installed s = r.installed s ∧
        (r.install u a refused).2.system.get s = r.system.get s ∧
        (r.install u a refused).2.current s = r.current s) ∧
      ∀ name a refused, (∃ f, r.watch name a refused = (.error f, r)) ∨
        ∃ u, Signal.resolve name = .ok u ∧
          (r.watch name a refused).2 = (r.install u a refused).2 ∧
          ((r.watch name a refused).1 = .ok () ↔ ∃ d, (r.install u a refused).1 = .ok d) := by
  have h : r₀.Shows s (r₀.changes s steps) r := .run hr
  have ha : (r.slots.get s).action = r₀.lastInstalled? s steps := by
    rw [h.action, lastInstalled?, h₀, empty]
    simp [Slot.untouched]
  refine ⟨by rw [installed, ha], ?_, fun a refused d hd => ?_, r.install_isOk_iff s,
    fun u a refused hu => install_of_ne hu r a refused, fun name a refused => ?_⟩
  · rw [h.entry, h₀]
    rfl
  · rw [(install_eq_ok hd).1, current, ha]
    cases r₀.lastInstalled? s steps <;> rfl
  · rcases r.watch_cases name a refused with ⟨e, -, hw⟩ | ⟨u, hu, hw, hw'⟩
    · exact .inl ⟨_, hw⟩
    · refine .inr ⟨u, hu, hw, ?_⟩
      rcases hw' with ⟨d, hi, hr⟩ | ⟨e, hi, hr⟩ <;> simp [hi, hr]

/-- A first install fails, and other code comes before the second and after the last. -/
theorem Registry.exists_overruled_install :
    ∃ (steps : List (Step Bool)) (r : Registry Bool),
      (Registry.empty .restarting .fresh .standard).run? steps = some r ∧
        ((Registry.empty .restarting .fresh .standard).changes .usr1 steps).length = 4 ∧
        r.installed .usr1 = some .custom ∧ r.system.get .usr1 = ⟨.default, false⟩ ∧
        r.system.get .usr2 = ⟨.recorder, true⟩ ∧
        ∀ a refused d, (r.install .usr1 a refused).1 = .ok d → d = .custom := by
  let steps : List (Step Bool) :=
    [.install .usr1 (.custom true) ⟨none, some (.ofNumber 22), false⟩, .overrule .usr1 .outside,
      .install .usr1 .ignore .nothing, .install .usr1 (.custom true) .nothing, .record .usr1,
      .install .usr2 (.custom false) .nothing, .overrule .usr1 .default]
  have hr : ∃ r, (Registry.empty .restarting .fresh .standard).run? steps = some r :=
    Option.isSome_iff_exists.1 (by decide)
  obtain ⟨r, hr⟩ := hr
  have h₁ := Registry.run_stands rfl hr .usr1
  have h₂ := Registry.run_stands rfl hr .usr2
  have hl : (Registry.lastInstalled? (.empty .restarting .fresh .standard) .usr1 steps).map
      Action.disposition = some .custom := by decide
  refine ⟨steps, r, hr, by decide, h₁.1.trans hl, h₁.2.1.trans (by decide),
    h₂.2.1.trans (by decide), fun a refused d hd => ?_⟩
  obtain ⟨b, hb, hbd⟩ := Option.map_eq_some_iff.1 hl
  rw [h₁.2.2.1 a refused d hd, hb]
  exact hbd

end HostServices.Watch
