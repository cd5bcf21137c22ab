import HostServices.Proofs.Catch.Labels

/-!
# Catches for new tags

Evaluation makes tags and objects with the next origin and takes the others from its environment
and its store, so what comes out of it is traced to one of the two (`eval_traced`).  It asks of
origins only whether they are equal, so renaming them commutes with it (`eval_renamed`).  Catches
for tags that the body does not know therefore do nothing but take up some origins
(`insideFresh_eq_renamed`), and a catch for a new tag stops the throws to that tag and no others.
-/

namespace HostServices.Catch

/-! ### Bindings -/

namespace Bindings

variable {α : Type} {b : Bindings α} {name : String} {a : α}

theorem mem_of_find? (h : b.find? name = some a) : (name, a) ∈ b := by
  obtain ⟨front, rest, rfl, -⟩ := List.lookup_eq_some_iff.mp h
  exact List.mem_append_cons_self

theorem mem_bind {p : String × α} (h : p ∈ b.bind name a) : p = (name, a) ∨ p ∈ b :=
  (List.mem_cons.mp h).imp_right fun hp => (List.mem_filter.mp hp).1

theorem mapValues_eq_self {f : α → α} (h : ∀ p ∈ b, f p.2 = p.2) : b.mapValues f = b := by
  have hmap : b.mapValues f = b.map id :=
    List.map_congr_left fun p hp => Prod.ext rfl (h p hp)
  rw [hmap, List.map_id]

theorem mapValues_mapValues (f g : α → α) :
    (b.mapValues f).mapValues g = b.mapValues (g ∘ f) :=
  List.map_map

end Bindings

/-! ### Where origins come from -/

/-- A bound tag has the origin. -/
def Env.Bound (env : Env) (o : Nat) : Prop := ∃ p ∈ env, p.2.origin = o

namespace Env

variable {env : Env} {name : String} {t : Tag} {o : Nat}

/-- A name has a tag that is bound, or looking it up raises a failure. -/
theorem tag_cases (env : Env) (name : String) :
    (∃ f, env.tag name = .error (.raised f)) ∨ ∃ t, env.tag name = .ok t ∧ env.Bound t.origin := by
  unfold tag
  split
  · next t ht =>
    exact .inr ⟨t, rfl, (name, t), Bindings.mem_of_find? ht, rfl⟩
  · exact .inl ⟨_, rfl⟩

theorem bound_bind (h : Bound (Bindings.bind env name t) o) : o = t.origin ∨ env.Bound o := by
  obtain ⟨p, hp, rfl⟩ := h
  rcases Bindings.mem_bind hp with rfl | hp
  · exact .inl rfl
  · exact .inr ⟨p, hp, rfl⟩

end Env

namespace Store

/-- A named object has the origin. -/
def Holds (st : Store) (o : Nat) : Prop := ∃ p ∈ st.objects, p.2.origin = o

/-- The origin is that of an object of the first store, or was given out up to the second. -/
def Since (st st' : Store) (o : Nat) : Prop := st.Holds o ∨ st.next ≤ o ∧ o < st'.next

/-- The second store comes from the first by giving out origins. -/
structure Grows (st st' : Store) : Prop where
  next_le : st.next ≤ st'.next
  holds : ∀ o, st'.Holds o → st.Since st' o

variable {st st₁ st₂ : Store} {o : Nat}

theorem holds_of_find? {name : String} {x : Shared} (h : Bindings.find? st.objects name = some x) :
    st.Holds x.origin :=
  ⟨(name, x), Bindings.mem_of_find? h, rfl⟩

theorem Since.mono (hle : st₁.next ≤ st₂.next) (ho : st.Since st₁ o) : st.Since st₂ o :=
  ho.imp_right fun ⟨hlo, hhi⟩ => ⟨hlo, Nat.lt_of_lt_of_le hhi hle⟩

theorem Since.trans (h : st.Grows st₁) (hle : st₁.next ≤ st₂.next) (ho : st₁.Since st₂ o) :
    st.Since st₂ o := by
  rcases ho with ho | ⟨hlo, hhi⟩
  · exact (h.holds o ho).mono hle
  · exact .inr ⟨Nat.le_trans h.next_le hlo, hhi⟩

theorem Since.mint (st : Store) (label : Option String) :
    st.Since (st.mint label).2 (st.mint label).1.origin :=
  .inr ⟨Nat.le_refl _, Nat.lt_succ_self _⟩

namespace Grows

theorem refl (st : Store) : st.Grows st := ⟨Nat.le_refl _, fun _ h => .inl h⟩

theorem trans (h : st.Grows st₁) (h' : st₁.Grows st₂) : st.Grows st₂ where
  next_le := Nat.le_trans h.next_le h'.next_le
  holds o ho := (h'.holds o ho).trans h h'.next_le

theorem mint (st : Store) (label : Option String) : st.Grows (st.mint label).2 :=
  ⟨Nat.le_succ _, fun _ h => .inl h⟩

theorem share (st : Store) (name : String) (content : Content) :
    st.Grows (st.share name content) where
  next_le := Nat.le_succ _
  holds o := by
    rintro ⟨p, hp, rfl⟩
    rcases Bindings.mem_bind hp with rfl | hp
    · exact .inr ⟨Nat.le_refl _, Nat.lt_succ_self _⟩
    · exact .inl ⟨p, hp, rfl⟩

theorem record (h : st.Grows st₁) (v : Value) : st.Grows (st₁.record v) := ⟨h.next_le, h.holds⟩

end Grows

end Store

/-- The store has grown, and the tag of a throw was bound, is that of an object, or is new. -/
structure Traced (env : Env) (st : Store) (r : Outcome × Store) : Prop where
  grows : st.Grows r.2
  thrown : ∀ e, r.1 = .error (.thrown e) → env.Bound e.tag.origin ∨ st.Since r.2 e.tag.origin

namespace Traced

variable {env : Env} {st st₁ : Store} {r : Outcome × Store} {x : Outcome}

theorem of_grows (h : st.Grows st₁) (hx : ∀ e, x ≠ .error (.thrown e)) : Traced env st (x, st₁) :=
  ⟨h, fun e he => absurd he (hx e)⟩

theorem trans (h : st.Grows st₁) (hr : Traced env st₁ r) : Traced env st r where
  grows := h.trans hr.grows
  thrown e he := (hr.thrown e he).imp_right fun ho => ho.trans h hr.grows.next_le

/-- An environment with one more tag, whose origin is accounted for. -/
theorem of_bind {name : String} {t : Tag} (h : st.Grows st₁)
    (ht : env.Bound t.origin ∨ st.Since st₁ t.origin)
    (hr : Traced (Bindings.bind env name t) st₁ r) : Traced env st r where
  grows := h.trans hr.grows
  thrown e he := by
    rcases hr.thrown e he with ho | ho
    · rcases Env.bound_bind ho with ho | ho
      · rw [ho]
        exact ht.imp_right fun hs => hs.mono hr.grows.next_le
      · exact .inl ho
    · exact .inr (ho.trans h hr.grows.next_le)

theorem caughtBy (t : Tag) (hr : Traced env st r) : Traced env st (r.1.caughtBy t, r.2) where
  grows := hr.grows
  thrown e he := by
    refine hr.thrown e ?_
    rcases r with ⟨(e' | f) | v, st'⟩
    · dsimp only [Outcome.caughtBy] at he
      split at he
      · cases he
      · exact he
    · exact he
    · exact he

end Traced

/-- A source gives a tag that is bound, that of an object or a new one, or it raises a failure. -/
theorem TagSource.tag_cases (env : Env) (st : Store) (source : TagSource) :
    (∃ f, source.tag env st = (.error (.raised f), st)) ∨
      ∃ t st₁, source.tag env st = (.ok t, st₁) ∧ st.Grows st₁ ∧
        (env.Bound t.origin ∨ st.Since st₁ t.origin) := by
  cases source with
  | fresh => exact .inr ⟨_, _, rfl, .mint st none, .inr (.mint st none)⟩
  | labeled label => exact .inr ⟨_, _, rfl, .mint st (some label), .inr (.mint st (some label))⟩
  | shared object =>
    simp only [tag]
    split
    · next o ho => exact .inr ⟨_, _, rfl, .refl st, .inr (.inl (Store.holds_of_find? ho))⟩
    · exact .inl ⟨_, rfl⟩
  | clone name =>
    simp only [tag]
    rcases env.tag_cases name with ⟨f, hf⟩ | ⟨t, ht, hb⟩
    · exact .inl ⟨f, by rw [hf]⟩
    · exact .inr ⟨t, st, by rw [ht], .refl st, .inl hb⟩

theorem insideFresh_traced {env : Env} {run : Store → Outcome × Store}
    (h : ∀ st, Traced env st (run st)) (depth : Nat) (st : Store) :
    Traced env st (insideFresh run depth st) := by
  induction depth generalizing st with
  | zero => exact h st
  | succ n ih => exact ((ih _).trans (.mint st none)).caughtBy _

theorem eval_traced (env : Env) (st : Store) (e : Expr) : Traced env st (eval env st e) := by
  -- A part may start from a larger environment and a store that has grown: `of_bind` and `trans`
  -- bring what is known of it back to where the whole started.
  induction e generalizing env st with
  | value v => exact .of_grows (.refl st) (by simp)
  | log e ih =>
    have h := ih env st
    simp only [eval]
    generalize eval env st e = r at h ⊢
    rcases r with ⟨u | v, st₁⟩
    · exact h
    · exact .of_grows (h.grows.record v) (by simp)
  | andThen a b iha ihb =>
    have h := iha env st
    simp only [eval]
    generalize eval env st a = r at h ⊢
    rcases r with ⟨u | v, st₁⟩
    · exact h
    · exact (ihb env st₁).trans h.grows
  | add a b iha ihb =>
    have h := iha env st
    simp only [eval]
    generalize eval env st a = r at h ⊢
    rcases r with ⟨u | x, st₁⟩
    · exact h
    · have h' := (ihb env st₁).trans h.grows
      simp only
      generalize eval env st₁ b = r at h' ⊢
      rcases r with ⟨u | y, st₂⟩
      · exact h'
      · refine .of_grows h'.grows fun e => ?_
        unfold Outcome.sum
        cases Value.add? x y <;> simp
  | same t u =>
    simp only [eval]
    rcases env.tag_cases t with ⟨f, hf⟩ | ⟨x, hx, -⟩
    · exact .of_grows (.refl st) (by simp [hf, bind, Except.bind])
    · rcases env.tag_cases u with ⟨f, hf⟩ | ⟨y, hy, -⟩
      · exact .of_grows (.refl st) (by simp [hx, hf, bind, Except.bind])
      · exact .of_grows (.refl st) (by simp [hx, hy, bind, Except.bind, pure, Except.pure])
  | bindTag name source body ih =>
    simp only [eval]
    rcases source.tag_cases env st with ⟨f, hf⟩ | ⟨t, st₁, ht, hst, hb⟩
    · rw [hf]
      exact .of_grows (.refl st) (by simp)
    · rw [ht]
      exact .of_bind hst hb (ih _ st₁)
  | object name content body ih => exact (ih env _).trans (.share st name content)
  | catching name body ih =>
    simp only [eval]
    rcases env.tag_cases name with ⟨f, hf⟩ | ⟨t, ht, hb⟩
    · rw [hf]
      exact .of_grows (.refl st) (by simp)
    · rw [ht]
      exact .caughtBy t (.of_bind (.refl st) (.inl hb) (ih _ st))
  | catchFresh name body ih =>
    exact .caughtBy _ (.of_bind (.mint st none) (.inr (.mint st none)) (ih _ _))
  | nest depth body ih => exact insideFresh_traced (ih env) depth st
  | throwing name e ih =>
    have h := ih env st
    simp only [eval]
    rcases env.tag_cases name with ⟨f, hf⟩ | ⟨t, ht, hb⟩
    · rw [hf]
      exact .of_grows (.refl st) (by simp)
    · rw [ht]
      simp only
      generalize eval env st e = r at h ⊢
      rcases r with ⟨u | v, st₁⟩
      · exact h
      · refine ⟨h.grows, fun e' he => ?_⟩
        cases he
        exact .inl hb
  | raise f => exact .of_grows (.refl st) (by simp)
  | rescue body ih =>
    have h := ih env st
    simp only [eval]
    generalize eval env st body = r at h ⊢
    rcases r with ⟨(e | f) | v, st₁⟩
    · exact h
    · exact .of_grows h.grows (by simp [Outcome.rescued])
    · exact h
  | ensure body cleanup ihb ihc =>
    have h := ihb env st
    simp only [eval]
    generalize eval env st body = r at h ⊢
    rcases r with ⟨r, st₁⟩
    have h' := ihc env st₁
    simp only
    generalize eval env st₁ cleanup = r at h' ⊢
    rcases r with ⟨u | v, st₂⟩
    · exact h'.trans h.grows
    · exact ⟨h.grows.trans h'.grows, fun e he =>
        (h.thrown e he).imp_right fun ho => ho.mono h'.grows.next_le⟩
  | rewrap body e ihb ihe =>
    have h := ihb env st
    simp only [eval]
    generalize eval env st body = r at h ⊢
    rcases r with ⟨(⟨t, payload⟩ | f) | v, st₁⟩
    · have h' := ihe env (st₁.record payload)
      simp only
      generalize eval env (st₁.record payload) e = r at h' ⊢
      rcases r with ⟨u | v, st₂⟩
      · exact h'.trans (h.grows.record payload)
      · refine ⟨(h.grows.record payload).trans h'.grows, fun e he => ?_⟩
        cases he
        exact (h.thrown _ rfl).imp_right fun ho => ho.mono h'.grows.next_le
    · exact h
    · exact h
  | direct name e ih =>
    have h := ih env st
    simp only [eval]
    rcases env.tag_cases name with ⟨f, hf⟩ | ⟨t, ht, hb⟩
    · rw [hf]
      exact .of_grows (.refl st) (by simp)
    · rw [ht]
      simp only
      generalize eval env st e = r at h ⊢
      rcases r with ⟨u | v, st₁⟩
      · exact h
      · exact .of_grows h.grows (by simp)

/-! ### Other origins -/

section Renaming

variable (ρ : Nat → Nat)

def Tag.renamed (t : Tag) : Tag := { t with origin := ρ t.origin }

def Shared.renamed (o : Shared) : Shared := { o with origin := ρ o.origin }

def Env.renamed (env : Env) : Env := Bindings.mapValues (Tag.renamed ρ) env

def Store.renamed (st : Store) : Store :=
  { st with
    objects := Bindings.mapValues (Shared.renamed ρ) st.objects
    next := ρ st.next }

def Unwind.renamed : Unwind → Unwind
  | .thrown e => .thrown { e with tag := e.tag.renamed ρ }
  | .raised f => .raised f

/-- The same value, the same payload thrown to the tag with the other origin, or the same failure. -/
def Outcome.renamed : Outcome → Outcome
  | .ok v => .ok v
  | .error u => .error (u.renamed ρ)

/-- What evaluation comes to and leaves behind under other origins: what was logged is the same. -/
def renamedResult (r : Outcome × Store) : Outcome × Store := (r.1.renamed ρ, r.2.renamed ρ)

def renamedFound : Except Unwind Tag → Except Unwind Tag
  | .ok t => .ok (t.renamed ρ)
  | .error u => .error (u.renamed ρ)

/-- Origins that differ go to origins that differ, and those to come follow on one another. -/
structure KeepsApart (next : Nat) : Prop where
  injective : Function.Injective ρ
  succ : ∀ o, next ≤ o → ρ (o + 1) = ρ o + 1

variable {ρ}

theorem KeepsApart.mono {next later : Nat} (h : KeepsApart ρ next) (hle : next ≤ later) :
    KeepsApart ρ later :=
  ⟨h.injective, fun o ho => h.succ o (Nat.le_trans hle ho)⟩

theorem Tag.is_renamed (h : Function.Injective ρ) (t u : Tag) :
    (t.renamed ρ).is (u.renamed ρ) = t.is u := by
  rw [Bool.eq_iff_iff, is_iff, is_iff]
  exact h.eq_iff

theorem Env.bind_renamed (env : Env) (name : String) (t : Tag) :
    Bindings.bind (env.renamed ρ) name (t.renamed ρ) =
      Env.renamed ρ (Bindings.bind env name t) :=
  Bindings.bind_mapValues (Tag.renamed ρ) env name t

theorem Env.tag_renamed (env : Env) (name : String) :
    (env.renamed ρ).tag name = renamedFound ρ (env.tag name) := by
  unfold Env.tag Env.renamed
  rw [Bindings.find?_mapValues]
  cases Bindings.find? env name <;> rfl

namespace Store

variable {st : Store}

theorem mint_renamed (h : KeepsApart ρ st.next) (label : Option String) :
    (st.renamed ρ).mint label = ((st.mint label).1.renamed ρ, (st.mint label).2.renamed ρ) := by
  unfold mint renamed
  rw [h.succ st.next (Nat.le_refl _)]
  rfl

theorem share_renamed (h : KeepsApart ρ st.next) (name : String) (content : Content) :
    (st.renamed ρ).share name content = (st.share name content).renamed ρ := by
  unfold share renamed
  rw [h.succ st.next (Nat.le_refl _), ← Bindings.bind_mapValues]
  rfl

theorem record_renamed (v : Value) : (st.renamed ρ).record v = (st.record v).renamed ρ := rfl

end Store

theorem TagSource.tag_renamed (env : Env) {st : Store} (h : KeepsApart ρ st.next)
    (source : TagSource) :
    source.tag (env.renamed ρ) (st.renamed ρ) =
      (renamedFound ρ (source.tag env st).1, (source.tag env st).2.renamed ρ) := by
  cases source with
  | fresh =>
    simp only [tag]
    rw [Store.mint_renamed h]
    rfl
  | labeled label =>
    simp only [tag]
    rw [Store.mint_renamed h]
    rfl
  | shared object =>
    have hf : Bindings.find? (st.renamed ρ).objects object =
        (Bindings.find? st.objects object).map (Shared.renamed ρ) :=
      Bindings.find?_mapValues (Shared.renamed ρ) st.objects object
    simp only [tag]
    rw [hf]
    cases Bindings.find? st.objects object <;> rfl
  | clone name => exact Prod.ext (env.tag_renamed name) rfl

namespace Outcome

theorem renamed_ok (v : Value) : Outcome.renamed ρ (.ok v) = .ok v := rfl

theorem renamed_thrown (t : Tag) (v : Value) :
    Outcome.renamed ρ (.error (.thrown ⟨t, v⟩)) = .error (.thrown ⟨t.renamed ρ, v⟩) := rfl

theorem caughtBy_renamed (h : Function.Injective ρ) (t : Tag) (r : Outcome) :
    Outcome.caughtBy (t.renamed ρ) (r.renamed ρ) = (r.caughtBy t).renamed ρ := by
  rcases r with (e | f) | v
  · show (if (e.tag.renamed ρ).is (t.renamed ρ) then _ else _) =
      Outcome.renamed ρ (if e.tag.is t then _ else _)
    rw [Tag.is_renamed h]
    cases e.tag.is t <;> rfl
  · rfl
  · rfl

theorem rescued_renamed (r : Outcome) : (r.renamed ρ).rescued = r.rescued.renamed ρ := by
  rcases r with (e | f) | v <;> rfl

theorem sum_renamed (a b : Value) : (Outcome.sum a b).renamed ρ = Outcome.sum a b := by
  unfold Outcome.sum
  cases Value.add? a b <;> rfl

end Outcome

theorem renamedResult_mk (r : Outcome) (st : Store) :
    renamedResult ρ (r, st) = (r.renamed ρ, st.renamed ρ) := rfl

theorem insideFresh_renamed {run run' : Store → Outcome × Store}
    (h : ∀ st, KeepsApart ρ st.next → run' (st.renamed ρ) = renamedResult ρ (run st))
    (depth : Nat) {st : Store} (hρ : KeepsApart ρ st.next) :
    insideFresh run' depth (st.renamed ρ) = renamedResult ρ (insideFresh run depth st) := by
  induction depth generalizing st with
  | zero => exact h st hρ
  | succ n ih =>
    simp only [insideFresh, Store.mint_renamed hρ none]
    rw [ih (hρ.mono (Nat.le_succ _))]
    exact Prod.ext (Outcome.caughtBy_renamed hρ.injective _ _) rfl

/-- Evaluating under other origins is evaluating and taking the other origins afterwards. -/
theorem eval_renamed (env : Env) {st : Store} (h : KeepsApart ρ st.next) (e : Expr) :
    eval (env.renamed ρ) (st.renamed ρ) e = renamedResult ρ (eval env st e) := by
  -- Stores only grow, so `ρ` keeps apart what is minted from every later store too.
  induction e generalizing env st with
  | value v => rfl
  | log e ih =>
    simp only [eval]
    rw [ih env h]
    rcases eval env st e with ⟨_ | _, st₁⟩ <;> rfl
  | andThen a b iha ihb =>
    have hle := (eval_traced env st a).grows.next_le
    simp only [eval]
    rw [iha env h]
    generalize eval env st a = r at hle ⊢
    rcases r with ⟨u | v, st₁⟩
    · rfl
    · exact ihb env (h.mono hle)
  | add a b iha ihb =>
    have hle := (eval_traced env st a).grows.next_le
    simp only [eval]
    rw [iha env h]
    generalize eval env st a = r at hle ⊢
    rcases r with ⟨u | x, st₁⟩
    · rfl
    · simp only [renamedResult_mk, Outcome.renamed_ok]
      rw [ihb env (h.mono hle)]
      rcases eval env st₁ b with ⟨u | y, st₂⟩
      · rfl
      · exact Prod.ext (Outcome.sum_renamed x y).symm rfl
  | same t u =>
    simp only [eval]
    rw [env.tag_renamed, env.tag_renamed]
    cases env.tag t with
    | error f => rfl
    | ok x =>
      cases env.tag u with
      | error f => rfl
      | ok y =>
        simp only [renamedFound, bind, Except.bind, pure, Except.pure]
        rw [Tag.is_renamed h.injective]
        rfl
  | bindTag name source body ih =>
    simp only [eval]
    rw [TagSource.tag_renamed env h]
    rcases source.tag_cases env st with ⟨f, hf⟩ | ⟨t, st₁, ht, hst, -⟩
    · rw [hf]
      rfl
    · rw [ht]
      simp only [renamedFound]
      rw [env.bind_renamed]
      exact ih _ (h.mono hst.next_le)
  | object name content body ih =>
    simp only [eval]
    rw [Store.share_renamed h]
    exact ih env (h.mono (Nat.le_succ _))
  | catching name body ih =>
    simp only [eval]
    rw [env.tag_renamed]
    rcases env.tag name with u | t
    · rfl
    · simp only [renamedFound]
      rw [env.bind_renamed, ih _ h]
      exact Prod.ext (Outcome.caughtBy_renamed h.injective _ _) rfl
  | catchFresh name body ih =>
    simp only [eval, Store.mint_renamed h none]
    rw [env.bind_renamed, ih _ (h.mono (Nat.le_succ _))]
    exact Prod.ext (Outcome.caughtBy_renamed h.injective _ _) rfl
  | nest depth body ih =>
    simp only [eval]
    exact insideFresh_renamed (fun _ h' => ih env h') depth h
  | throwing name e ih =>
    simp only [eval]
    rw [env.tag_renamed]
    rcases env.tag name with u | t
    · rfl
    · simp only [renamedFound]
      rw [ih env h]
      rcases eval env st e with ⟨_ | _, st₁⟩ <;> rfl
  | raise f => rfl
  | rescue body ih =>
    simp only [eval]
    rw [ih env h]
    exact Prod.ext (Outcome.rescued_renamed _) rfl
  | ensure body cleanup ihb ihc =>
    have hle := (eval_traced env st body).grows.next_le
    simp only [eval]
    rw [ihb env h]
    generalize eval env st body = r at hle ⊢
    rcases r with ⟨r, st₁⟩
    simp only [renamedResult_mk]
    rw [ihc env (h.mono hle)]
    rcases eval env st₁ cleanup with ⟨_ | _, st₂⟩ <;> rfl
  | rewrap body e ihb ihe =>
    have hle := (eval_traced env st body).grows.next_le
    simp only [eval]
    rw [ihb env h]
    generalize eval env st body = r at hle ⊢
    rcases r with ⟨(⟨t, payload⟩ | f) | v, st₁⟩
    · simp only [renamedResult_mk, Outcome.renamed_thrown, Store.record_renamed]
      have h₁ : KeepsApart ρ (st₁.record payload).next := h.mono hle
      rw [ihe env h₁]
      rcases eval env (st₁.record payload) e with ⟨_ | _, st₂⟩ <;> rfl
    · rfl
    · rfl
  | direct name e ih =>
    simp only [eval]
    rw [env.tag_renamed]
    rcases env.tag name with u | t
    · rfl
    · -- The wording of an escape masks the origin of its tag.
      simp only [renamedFound]
      rw [ih env h]
      rcases eval env st e with ⟨_ | _, st₁⟩ <;> rfl

end Renaming

/-! ### Nothing that is there has an origin to come -/

/-- The tags that are bound and the objects have origins that were given out. -/
structure Settled (env : Env) (st : Store) : Prop where
  bound : ∀ o, env.Bound o → o < st.next
  holds : ∀ o, st.Holds o → o < st.next

namespace Settled

variable {env : Env} {st st' : Store}

theorem empty : Settled [] .empty := by
  constructor <;> rintro o ⟨p, hp, -⟩ <;> cases hp

theorem lt_of_since (h : Settled env st) (hle : st.next ≤ st'.next) {o : Nat}
    (ho : st.Since st' o) : o < st'.next := by
  rcases ho with ho | ⟨-, ho⟩
  · exact Nat.lt_of_lt_of_le (h.holds o ho) hle
  · exact ho

theorem grows (h : Settled env st) (hst : st.Grows st') : Settled env st' where
  bound o ho := Nat.lt_of_lt_of_le (h.bound o ho) hst.next_le
  holds o ho := h.lt_of_since hst.next_le (hst.holds o ho)

theorem bind (h : Settled env st) (name : String) {t : Tag} (ht : t.origin < st.next) :
    Settled (Bindings.bind env name t) st where
  bound o ho := by
    rcases Env.bound_bind ho with rfl | ho
    · exact ht
    · exact h.bound o ho
  holds := h.holds

/-- An escape in flight has an origin that was given out. -/
theorem lt_of_thrown (h : Settled env st) {r : Outcome × Store} (hr : Traced env st r) {e : Escape}
    (he : r.1 = .error (.thrown e)) : e.tag.origin < r.2.next := by
  rcases hr.thrown e he with ho | ho
  · exact Nat.lt_of_lt_of_le (h.bound _ ho) hr.grows.next_le
  · exact h.lt_of_since hr.grows.next_le ho

end Settled

/-! ### Catches that keep their tags to themselves -/

section Room

variable {ρ : Nat → Nat} {env : Env} {st : Store}

theorem Env.renamed_eq_self (h : ∀ o, env.Bound o → ρ o = o) : env.renamed ρ = env :=
  Bindings.mapValues_eq_self fun p hp => by
    unfold Tag.renamed
    rw [h p.2.origin ⟨p, hp, rfl⟩]

theorem Store.renamed_eq (h : ∀ o, st.Holds o → ρ o = o) :
    st.renamed ρ = { st with next := ρ st.next } := by
  unfold renamed
  rw [Bindings.mapValues_eq_self fun p hp => ?_]
  unfold Shared.renamed
  rw [h p.2.origin ⟨p, hp, rfl⟩]

theorem renamedResult_renamedResult (ρ ρ' : Nat → Nat) (r : Outcome × Store) :
    renamedResult ρ' (renamedResult ρ r) = renamedResult (ρ' ∘ ρ) r := by
  refine Prod.ext ?_ ?_
  · rcases r with ⟨(e | f) | v, st⟩ <;> rfl
  · show Store.mk _ _ _ = Store.mk _ _ _
    rw [Store.mk.injEq]
    exact ⟨Bindings.mapValues_mapValues _ _, rfl, rfl⟩

/-- The origins from `m` on move up by `n`. -/
def makeRoom (m n o : Nat) : Nat := if o < m then o else o + n

variable {m n o : Nat}

theorem makeRoom_of_lt (h : o < m) : makeRoom m n o = o := if_pos h

theorem makeRoom_of_le (h : m ≤ o) : makeRoom m n o = o + n := if_neg (Nat.not_lt.mpr h)

theorem keepsApart_makeRoom (m n : Nat) : KeepsApart (makeRoom m n) m where
  injective a b h := by
    unfold makeRoom at h
    split at h <;> split at h <;> omega
  succ o ho := by
    rw [makeRoom_of_le ho, makeRoom_of_le (Nat.le_succ_of_le ho)]
    omega

theorem makeRoom_zero (m : Nat) : makeRoom m 0 = id := by
  funext o
  unfold makeRoom
  split <;> rfl

theorem makeRoom_comp_makeRoom (m n : Nat) :
    makeRoom (m + 1) n ∘ makeRoom m 1 = makeRoom m (n + 1) := by
  funext o
  show makeRoom (m + 1) n (makeRoom m 1 o) = makeRoom m (n + 1) o
  unfold makeRoom
  split <;> split <;> omega

theorem renamedResult_id (r : Outcome × Store) : renamedResult id r = r := by
  refine Prod.ext ?_ ?_
  · rcases r with ⟨(e | f) | v, st⟩ <;> rfl
  · exact Store.renamed_eq fun _ _ => rfl

/-- No tag has an origin that room was made for. -/
theorem caughtBy_makeRoom {t : Tag} (ht : m ≤ t.origin) (ht' : t.origin < m + n) (r : Outcome) :
    Outcome.caughtBy t (r.renamed (makeRoom m n)) = r.renamed (makeRoom m n) := by
  rcases r with (e | f) | v
  · refine if_neg fun h => ?_
    have ho : makeRoom m n e.tag.origin = t.origin := Tag.is_iff.mp h
    unfold makeRoom at ho
    split at ho <;> omega
  · rfl
  · rfl

theorem insideFresh_eq_renamed (h : Settled env st) (depth : Nat) (body : Expr) :
    insideFresh (fun st => eval env st body) depth st =
      renamedResult (makeRoom st.next depth) (eval env st body) := by
  induction depth generalizing st with
  | zero => rw [makeRoom_zero, renamedResult_id]; rfl
  | succ n ih =>
    have henv : env.renamed (makeRoom st.next 1) = env :=
      Env.renamed_eq_self fun o ho => makeRoom_of_lt (h.bound o ho)
    have hst : st.renamed (makeRoom st.next 1) = (st.mint none).2 := by
      rw [Store.renamed_eq fun o ho => makeRoom_of_lt (h.holds o ho), makeRoom_of_le (Nat.le_refl _)]
      rfl
    -- The minting of the outermost catch is a renaming of what the body starts from.
    have hbody : eval env (st.mint none).2 body =
        renamedResult (makeRoom st.next 1) (eval env st body) := by
      have := eval_renamed env (keepsApart_makeRoom st.next 1) body
      rwa [henv, hst] at this
    have hinner := ih (h.grows (.mint st none))
    rw [hbody, renamedResult_renamedResult, show (st.mint none).2.next = st.next + 1 from rfl,
      makeRoom_comp_makeRoom] at hinner
    simp only [insideFresh]
    rw [hinner]
    have hcatch := caughtBy_makeRoom (t := (st.mint none).1) (Nat.le_refl st.next)
      (Nat.lt_add_of_pos_right (Nat.succ_pos n))
    exact Prod.ext (hcatch _) rfl

end Room

/-! ### Catches that hand out their tags -/

namespace Outcome

variable {t : Tag} {r : Outcome}

theorem caughtBy_eq_ok_iff {v : Value} :
    r.caughtBy t = .ok v ↔
      r = .ok v ∨ ∃ e, r = .error (.thrown e) ∧ e.tag.is t = true ∧ e.payload = v := by
  rcases r with (e | f) | w
  · cases h : e.tag.is t <;> simp [caughtBy, h]
  · simp [caughtBy]
  · simp [caughtBy]

theorem caughtBy_eq_raised_iff {f : Failure} :
    r.caughtBy t = .error (.raised f) ↔ r = .error (.raised f) := by
  rcases r with (e | g) | w
  · cases h : e.tag.is t <;> simp [caughtBy, h]
  · rfl
  · rfl

theorem caughtBy_eq_thrown_iff {e : Escape} :
    r.caughtBy t = .error (.thrown e) ↔ r = .error (.thrown e) ∧ e.tag.is t = false := by
  rcases r with (e' | g) | w
  · cases h : e'.tag.is t <;> simp [caughtBy, h]
    · rintro rfl
      exact h
    · rintro rfl
      exact h
  · simp [caughtBy]
  · simp [caughtBy]

end Outcome

/-- Nothing has the origin any more, and it will not be given out again. -/
structure Gone (o : Nat) (env : Env) (st : Store) : Prop where
  lt : o < st.next
  bound : ¬ env.Bound o
  holds : ¬ st.Holds o

namespace Gone

variable {o : Nat} {env : Env} {st st' : Store}

theorem not_since (h : Gone o env st) : ¬ st.Since st' o := by
  rintro (ho | ⟨ho, -⟩)
  · exact h.holds ho
  · exact Nat.not_le.mpr h.lt ho

theorem grows (h : Gone o env st) (hst : st.Grows st') : Gone o env st' :=
  ⟨Nat.lt_of_lt_of_le h.lt hst.next_le, h.bound, fun ho => h.not_since (hst.holds o ho)⟩

theorem ne_thrown (h : Gone o env st) {r : Outcome × Store} (hr : Traced env st r) {e : Escape}
    (he : r.1 = .error (.thrown e)) : e.tag.origin ≠ o := by
  rintro rfl
  rcases hr.thrown e he with ho | ho
  · exact h.bound ho
  · exact h.not_since ho

end Gone

/-- What comes out of a catch for a new tag `t`, given what comes out of its body. -/
structure CatchesOwn (env : Env) (st : Store) (t : Tag) (inner outer : Outcome × Store) : Prop where
  store : outer.2 = inner.2
  value : ∀ v, outer.1 = .ok v ↔
    inner.1 = .ok v ∨ ∃ e, inner.1 = .error (.thrown e) ∧ e.tag.is t = true ∧ e.payload = v
  raised : ∀ f, outer.1 = .error (.raised f) ↔ inner.1 = .error (.raised f)
  thrown : ∀ e, outer.1 = .error (.thrown e) ↔
    inner.1 = .error (.thrown e) ∧ e.tag.is t = false
  /-- What comes out is thrown to a tag from outside or to one that was made inside. -/
  origin : ∀ e, outer.1 = .error (.thrown e) → env.Bound e.tag.origin ∨ st.Holds e.tag.origin ∨
    t.origin < e.tag.origin ∧ e.tag.origin < outer.2.next
  /-- The tag is none of those that are there. -/
  new : ∀ o, env.Bound o ∨ st.Holds o → o < t.origin
  gone : Gone t.origin env outer.2
  /-- Nothing that is evaluated afterwards throws to it. -/
  later : ∀ e escape, (eval env outer.2 e).1 = .error (.thrown escape) → escape.tag.is t = false

theorem Settled.gone_mint {env : Env} {st : Store} (h : Settled env st) :
    Gone st.next env (st.mint none).2 where
  lt := Nat.lt_succ_self _
  bound ho := Nat.lt_irrefl _ (h.bound _ ho)
  holds ho := Nat.lt_irrefl _ (h.holds _ ho)

theorem catchFresh_catchesOwn {env : Env} {st : Store} (h : Settled env st) (name : String)
    (body : Expr) :
    CatchesOwn env st (st.mint none).1
      (eval (Bindings.bind env name (st.mint none).1) (st.mint none).2 body)
      (eval env st (.catchFresh name body)) := by
  -- The body knows the tag, but binds no name outside to it and leaves no object with its origin.
  have hgone : Gone st.next env (eval env st (.catchFresh name body)).2 :=
    h.gone_mint.grows (eval_traced _ _ body).grows
  exact {
    store := rfl
    value _ := Outcome.caughtBy_eq_ok_iff
    raised _ := Outcome.caughtBy_eq_raised_iff
    thrown _ := Outcome.caughtBy_eq_thrown_iff
    origin e he := by
      rcases (eval_traced env st (.catchFresh name body)).thrown e he with ho | ho | ⟨hlo, hhi⟩
      · exact .inl ho
      · exact .inr (.inl ho)
      · have hother : e.tag.origin ≠ st.next := fun hs =>
          absurd (Tag.is_iff.mpr hs) (Bool.eq_false_iff.mp (Outcome.caughtBy_eq_thrown_iff.mp he).2)
        exact .inr (.inr ⟨Nat.lt_of_le_of_ne hlo hother.symm, hhi⟩)
    new o ho := ho.elim (h.bound o) (h.holds o)
    gone := hgone
    later e escape he := by
      have hne := hgone.ne_thrown (eval_traced env _ e) he
      exact Bool.eq_false_iff.mpr fun hs => hne (Tag.is_iff.mp hs) }

/-- Catches for new tags that the body does not know change nothing but the origins given out later,
neither in the body nor in what is evaluated after it.  A catch for a new tag that the body knows
lets no throw to that tag out and stops no other throw.  Evaluation keeps it so that nothing has an
origin still to come, not even an escape in flight. -/
theorem fresh_catches_transparent {env : Env} {st : Store} (h : Settled env st) (body : Expr) :
    (∀ depth, ∃ ρ : Nat → Nat, Function.Injective ρ ∧ (∀ o < st.next, ρ o = o) ∧
      eval env st (.nest depth body) = renamedResult ρ (eval env st body) ∧
      ∀ e, eval env (eval env st (.nest depth body)).2 e =
        renamedResult ρ (eval env (eval env st body).2 e)) ∧
    (∀ name, CatchesOwn env st (st.mint none).1
      (eval (Bindings.bind env name (st.mint none).1) (st.mint none).2 body)
      (eval env st (.catchFresh name body))) ∧
    Settled env (eval env st body).2 ∧
    ∀ e, (eval env st body).1 = .error (.thrown e) → e.tag.origin < (eval env st body).2.next := by
  have htraced := eval_traced env st body
  refine ⟨fun depth => ?_, fun name => catchFresh_catchesOwn h name body, h.grows htraced.grows,
    fun e he => h.lt_of_thrown htraced he⟩
  have hkeeps := keepsApart_makeRoom st.next depth
  have hnest := insideFresh_eq_renamed h depth body
  have henv : env.renamed (makeRoom st.next depth) = env :=
    Env.renamed_eq_self fun o ho => makeRoom_of_lt (h.bound o ho)
  refine ⟨makeRoom st.next depth, hkeeps.injective, fun o ho => makeRoom_of_lt ho, hnest,
    fun e => ?_⟩
  have hafter := eval_renamed env (hkeeps.mono htraced.grows.next_le) e
  rw [henv] at hafter
  rw [← hafter]
  exact congrArg (fun r : Outcome × Store => eval env r.2 e) hnest

/-- The name of a tag outside is used again for that of the catch.  With it the throw is caught, on
its way through another catch, a cleanup and a change of its payload; without it, the tag outside is
thrown to, through five catches. -/
theorem exists_catch_under_a_name_in_use :
    let a := Store.empty.mint none
    let f := a.2.mint (some "f")
    let env : Env := Bindings.bind (Bindings.bind [] "a" a.1) "f" f.1
    let body : Expr := .rewrap
      (.ensure (.catching "a" (.catchFresh "g" (.throwing "f" (.value (.int 7)))))
        (.log (.value (.text "cleanup"))))
      (.value (.int 8))
    Settled env f.2 ∧
      (∃ ρ : Nat → Nat, Function.Injective ρ ∧ (∀ o < f.2.next, ρ o = o) ∧
        eval env f.2 (.nest 5 body) = renamedResult ρ (eval env f.2 body)) ∧
      (eval env f.2 (.nest 5 body)).1 = .error (.thrown ⟨f.1, .int 8⟩) ∧
      CatchesOwn env f.2 (f.2.mint none).1
        (eval (Bindings.bind env "f" (f.2.mint none).1) (f.2.mint none).2 body)
        (eval env f.2 (.catchFresh "f" body)) ∧
      (eval env f.2 (.catchFresh "f" body)).1 = .ok (.int 8) ∧
      (eval env f.2 (.catchFresh "f" body)).2.log = [.int 7, .text "cleanup"] := by
  intro a f env body
  have h : Settled env f.2 := by
    refine .bind (.bind (.grows (.grows .empty (.mint _ none)) (.mint _ _)) "a" ?_) "f" ?_
    · decide
    · decide
  obtain ⟨hnest, hown, -⟩ := fresh_catches_transparent h body
  obtain ⟨ρ, hinj, hfix, heq, -⟩ := hnest 5
  exact ⟨h, ⟨ρ, hinj, hfix, heq⟩, rfl, hown "f", rfl, rfl⟩

end HostServices.Catch
