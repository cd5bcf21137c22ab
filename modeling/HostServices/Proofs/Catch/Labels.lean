import HostServices.Catch.Eval

/-!
# Labels and contents do not steer control

A program is made bare by leaving out what is there for readers only: the labels of its tags and
what its shared objects hold.  Evaluation and `bare` commute (`eval_bare`), tag by tag and binding
by binding: minting, cloning, shadowing, comparing and catching ask for the origin of a tag and for
nothing else.  So two programs that are the same when bare do the same, escapes in flight included.
The one form that is left out is `direct`, whose value is the wording of an escape.
-/

namespace HostServices.Catch

/-! ### Bindings -/

namespace Bindings

variable {α β : Type} (f : α → β) (b : Bindings α) (name : String)

def mapValues : Bindings β := b.map fun p => (p.1, f p.2)

theorem find?_mapValues : (b.mapValues f).find? name = (b.find? name).map f := by
  unfold find? mapValues
  induction b with
  | nil => rfl
  | cons p rest ih =>
    rw [List.map_cons, List.lookup_cons, List.lookup_cons, ih]
    cases name == p.1 <;> rfl

theorem drop_mapValues : (b.mapValues f).drop name = (b.drop name).mapValues f := by
  unfold drop mapValues
  rw [List.filter_map]
  rfl

theorem bind_mapValues (a : α) :
    (b.mapValues f).bind name (f a) = (b.bind name a).mapValues f := by
  show (name, f a) :: (b.mapValues f).drop name = (name, f a) :: (b.drop name).mapValues f
  rw [drop_mapValues]

end Bindings

/-! ### Without labels and contents -/

/-- Every content is as good as any other. -/
def Content.bare (_ : Content) : Content := .flag false

def Shared.bare (o : Shared) : Shared := { o with content := o.content.bare }

/-- A tag apart from its label and its content. -/
def Tag.bare (t : Tag) : Tag := ⟨t.origin, t.content.map Content.bare, none⟩

def TagSource.bare : TagSource → TagSource
  | .labeled _ => .fresh
  | source => source

/-- A program apart from labels and contents. -/
def Expr.bare : Expr → Expr
  | .value v => .value v
  | .log e => .log e.bare
  | .andThen a b => .andThen a.bare b.bare
  | .add a b => .add a.bare b.bare
  | .same t u => .same t u
  | .bindTag name source body => .bindTag name source.bare body.bare
  | .object name content body => .object name content.bare body.bare
  | .catching tag body => .catching tag body.bare
  | .catchFresh name body => .catchFresh name body.bare
  | .nest depth body => .nest depth body.bare
  | .throwing tag e => .throwing tag e.bare
  | .raise f => .raise f
  | .rescue body => .rescue body.bare
  | .ensure body cleanup => .ensure body.bare cleanup.bare
  | .rewrap body e => .rewrap body.bare e.bare
  | .direct tag e => .direct tag e.bare

/-- The wording of no escape is asked for. -/
def Expr.IsWordless : Expr → Prop
  | .value _ | .same _ _ | .raise _ => True
  | .log e | .bindTag _ _ e | .object _ _ e | .catching _ e | .catchFresh _ e | .nest _ e
  | .throwing _ e | .rescue e => e.IsWordless
  | .andThen a b | .add a b | .ensure a b | .rewrap a b => a.IsWordless ∧ b.IsWordless
  | .direct _ _ => False

def Env.bare (env : Env) : Env := Bindings.mapValues Tag.bare env

def Store.bare (st : Store) : Store :=
  { st with objects := Bindings.mapValues Shared.bare st.objects }

def Unwind.bare : Unwind → Unwind
  | .thrown e => .thrown { e with tag := e.tag.bare }
  | .raised f => .raised f

/-- What evaluation comes to, apart from the label and the content of an escape's tag. -/
def Outcome.bare : Outcome → Outcome
  | .ok v => .ok v
  | .error u => .error u.bare

def bareFound : Except Unwind Tag → Except Unwind Tag
  | .ok t => .ok t.bare
  | .error u => .error u.bare

theorem Tag.is_bare (t u : Tag) : t.bare.is u.bare = t.is u := rfl

theorem Env.bind_bare (env : Env) (name : String) (t : Tag) :
    Bindings.bind env.bare name t.bare = Env.bare (Bindings.bind env name t) :=
  Bindings.bind_mapValues Tag.bare env name t

theorem Env.tag_bare (env : Env) (name : String) :
    env.bare.tag name = bareFound (env.tag name) := by
  unfold Env.tag Env.bare
  rw [Bindings.find?_mapValues]
  cases Bindings.find? env name <;> rfl

namespace Store

variable (st : Store)

theorem find?_bare (name : String) :
    Bindings.find? st.bare.objects name = (Bindings.find? st.objects name).map Shared.bare :=
  Bindings.find?_mapValues Shared.bare st.objects name

theorem mint_bare (label : Option String) :
    st.bare.mint none = ((st.mint label).1.bare, (st.mint label).2.bare) := rfl

theorem share_bare (name : String) (content : Content) :
    st.bare.share name content.bare = (st.share name content).bare := by
  unfold share bare
  rw [← Bindings.bind_mapValues]
  rfl

theorem record_bare (v : Value) : st.bare.record v = (st.record v).bare := rfl

end Store

theorem TagSource.tag_bare (env : Env) (st : Store) (source : TagSource) :
    source.bare.tag env.bare st.bare =
      (bareFound (source.tag env st).1, (source.tag env st).2.bare) := by
  cases source with
  | fresh => rfl
  | labeled label => rfl
  | shared object =>
    simp only [bare, tag]
    rw [st.find?_bare]
    cases Bindings.find? st.objects object <;> rfl
  | clone name => exact Prod.ext (env.tag_bare name) rfl

/-! ### Evaluation without labels and contents -/

namespace Outcome

theorem bare_ok (v : Value) : Outcome.bare (.ok v) = .ok v := rfl

theorem bare_thrown (t : Tag) (v : Value) :
    Outcome.bare (.error (.thrown ⟨t, v⟩)) = .error (.thrown ⟨t.bare, v⟩) := rfl

theorem caughtBy_bare (t : Tag) (r : Outcome) :
    Outcome.caughtBy t.bare r.bare = (r.caughtBy t).bare := by
  rcases r with (e | f) | v
  · show (if e.tag.bare.is t.bare then _ else _) = Outcome.bare (if e.tag.is t then _ else _)
    rw [Tag.is_bare]
    cases e.tag.is t <;> rfl
  · rfl
  · rfl

theorem rescued_bare (r : Outcome) : r.bare.rescued = r.rescued.bare := by
  rcases r with (e | f) | v <;> rfl

theorem sum_bare (a b : Value) : (Outcome.sum a b).bare = Outcome.sum a b := by
  unfold Outcome.sum
  cases Value.add? a b <;> rfl

end Outcome

/-- What evaluation comes to and leaves behind, apart from labels and contents. -/
def bareResult (r : Outcome × Store) : Outcome × Store := (r.1.bare, r.2.bare)

theorem bareResult_mk (r : Outcome) (st : Store) : bareResult (r, st) = (r.bare, st.bare) := rfl

theorem insideFresh_bare {run run' : Store → Outcome × Store}
    (h : ∀ st : Store, run' st.bare = bareResult (run st)) (depth : Nat) (st : Store) :
    insideFresh run' depth st.bare = bareResult (insideFresh run depth st) := by
  induction depth generalizing st with
  | zero => exact h st
  | succ n ih =>
    simp only [insideFresh, st.mint_bare none]
    rw [ih]
    exact Prod.ext (Outcome.caughtBy_bare ..) rfl

/-- Evaluating a bare program is evaluating the program and making bare what it comes to. -/
theorem eval_bare {e : Expr} (he : e.IsWordless) (env : Env) (st : Store) :
    eval env.bare st.bare e.bare = bareResult (eval env st e) := by
  -- Binders and earlier parts change what later parts see, so both vary in the induction.
  induction e generalizing env st with
  | value v => rfl
  | log e ih =>
    simp only [Expr.bare, eval]
    rw [ih he]
    rcases eval env st e with ⟨_ | _, st⟩ <;> rfl
  | andThen a b iha ihb =>
    simp only [Expr.bare, eval]
    rw [iha he.1]
    rcases eval env st a with ⟨u | v, st⟩
    · rfl
    · exact ihb he.2 env st
  | add a b iha ihb =>
    simp only [Expr.bare, eval]
    rw [iha he.1]
    rcases eval env st a with ⟨u | x, st⟩
    · rfl
    · simp only [bareResult_mk, Outcome.bare_ok]
      rw [ihb he.2]
      rcases eval env st b with ⟨u | y, st⟩
      · rfl
      · exact Prod.ext (Outcome.sum_bare x y).symm rfl
  | same t u =>
    simp only [Expr.bare, eval]
    rw [env.tag_bare, env.tag_bare]
    cases env.tag t <;> cases env.tag u <;> rfl
  | bindTag name source body ih =>
    simp only [Expr.bare, eval]
    rw [TagSource.tag_bare]
    rcases source.tag env st with ⟨u | t, st⟩
    · rfl
    · show eval (Bindings.bind env.bare name t.bare) st.bare body.bare = _
      rw [env.bind_bare]
      exact ih he _ st
  | object name content body ih =>
    simp only [Expr.bare, eval]
    rw [st.share_bare]
    exact ih he env _
  | catching name body ih =>
    simp only [Expr.bare, eval]
    rw [env.tag_bare]
    rcases env.tag name with u | t
    · rfl
    · -- An escape in flight meets the catch: both tags are bare now, and have their origins.
      simp only [bareFound]
      rw [env.bind_bare, ih he]
      exact Prod.ext (Outcome.caughtBy_bare ..) rfl
  | catchFresh name body ih =>
    simp only [Expr.bare, eval, st.mint_bare none]
    rw [env.bind_bare, ih he]
    exact Prod.ext (Outcome.caughtBy_bare ..) rfl
  | nest depth body ih =>
    simp only [Expr.bare, eval]
    exact insideFresh_bare (ih he env) depth st
  | throwing name e ih =>
    simp only [Expr.bare, eval]
    rw [env.tag_bare]
    rcases env.tag name with u | t
    · rfl
    · simp only [bareFound]
      rw [ih he]
      rcases eval env st e with ⟨_ | _, st⟩ <;> rfl
  | raise f => rfl
  | rescue body ih =>
    simp only [Expr.bare, eval]
    rw [ih he]
    exact Prod.ext (Outcome.rescued_bare _) rfl
  | ensure body cleanup ihb ihc =>
    simp only [Expr.bare, eval]
    rw [ihb he.1]
    rcases eval env st body with ⟨r, st⟩
    simp only [bareResult_mk]
    rw [ihc he.2]
    rcases eval env st cleanup with ⟨_ | _, st⟩ <;> rfl
  | rewrap body e ihb ihe =>
    simp only [Expr.bare, eval]
    rw [ihb he.1]
    rcases eval env st body with ⟨(⟨t, payload⟩ | f) | v, st⟩
    · simp only [bareResult_mk, Outcome.bare_thrown, st.record_bare]
      rw [ihe he.2]
      rcases eval env (st.record payload) e with ⟨_ | _, st⟩ <;> rfl
    · rfl
    · rfl
  | direct name e ih => exact he.elim

/-! ### Two runs -/

/-- The same value, or throws of one payload to tags that are the same, or the same failure. -/
inductive Outcome.Alike : Outcome → Outcome → Prop
  | value (v : Value) : Alike (.ok v) (.ok v)
  | thrown {t u : Tag} (h : t.is u = true) (payload : Value) :
    Alike (.error (.thrown ⟨t, payload⟩)) (.error (.thrown ⟨u, payload⟩))
  | raised (f : Failure) : Alike (.error (.raised f)) (.error (.raised f))

theorem Tag.is_of_bare_eq {t u : Tag} (h : t.bare = u.bare) : t.is u = true := by
  rw [← Tag.is_bare, h]
  exact Tag.is_iff.2 rfl

theorem Outcome.alike_of_bare_eq {r r' : Outcome} (h : r.bare = r'.bare) : r.Alike r' := by
  rcases r with (⟨t, payload⟩ | f) | v
  · rcases r' with (⟨u, payload'⟩ | g) | w
    · rw [bare_thrown, bare_thrown] at h
      obtain ⟨ht, rfl⟩ := Escape.mk.inj (Unwind.thrown.inj (Except.error.inj h))
      exact .thrown (Tag.is_of_bare_eq ht) payload
    · cases h
    · cases h
  · rcases r' with (e | g) | w
    · cases h
    · cases h
      exact .raised f
    · cases h
  · rcases r' with (e | g) | w
    · cases h
    · cases h
    · cases h
      exact .value v

namespace Expr

theorem run_bare {e : Expr} (he : e.IsWordless) :
    e.bare.run = (Outcome.bare e.run.1, e.run.2) := by
  have h := eval_bare he [] .empty
  unfold run
  rw [show eval [] .empty e.bare = _ from h]
  rfl

/-- Programs that differ only in labels and contents come to the same value, throw the same payload
to the same tag or raise the same failure, and log the same. -/
theorem run_alike {e e' : Expr} (he : e.IsWordless) (he' : e'.IsWordless) (h : e.bare = e'.bare) :
    Outcome.Alike e.run.1 e'.run.1 ∧ e.run.2 = e'.run.2 := by
  have hr : (Outcome.bare e.run.1, e.run.2) = (Outcome.bare e'.run.1, e'.run.2) := by
    rw [← run_bare he, ← run_bare he', h]
  obtain ⟨ho, hl⟩ := Prod.mk.inj hr
  exact ⟨Outcome.alike_of_bare_eq ho, hl⟩

/-- Two tags are given one label and two others one content: still the throw to `b` passes the catch
for `a`, and the throw to `d` that for `c`. -/
theorem exists_throw_past_equal :
    let program (label : String) (content : Content) : Expr :=
      .bindTag "a" (.labeled "here") <| .bindTag "b" (.labeled label) <|
      .object "x" (.int 1) <| .object "y" content <|
      .bindTag "c" (.shared "x") <| .bindTag "d" (.shared "y") <|
      .andThen
        (.log (.catching "b" (.andThen (.catching "a" (.throwing "b" (.value (.int 7))))
          (.value .null))))
        (.catching "c" (.throwing "d" (.value .null)))
    let e := program "there" (.text "z")
    let e' := program "here" (.int 1)
    e.IsWordless ∧ e'.IsWordless ∧ e.bare = e'.bare ∧
      (Outcome.Alike e.run.1 e'.run.1 ∧ e.run.2 = e'.run.2) ∧
      e'.run = (.error (.thrown ⟨⟨3, some (.int 1), none⟩, .null⟩), [.int 7]) := by
  intro program e e'
  have he : e.IsWordless := ⟨⟨trivial, trivial⟩, trivial⟩
  have he' : e'.IsWordless := ⟨⟨trivial, trivial⟩, trivial⟩
  exact ⟨he, he', rfl, run_alike he he' rfl, rfl⟩

end Expr

end HostServices.Catch
