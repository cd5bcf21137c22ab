import HostServices.Catch.TagBook
import Mathlib.Data.Set.Card

/-!
# Where tags come from

A history is what was done with a book, the latest operation first, and an operation's number is
that of the operations before it.  `birth` reads off a history which operation a name's tag descends
from: a minting, or the making of a shared object.  It knows names and numbers only.  The tags of
the book are those of their births (`bears_tag`), and different births have different origins
(`tagOf?_origin_inj`); so sameness, labels, contents and reference counts are told by the history.
-/

namespace HostServices.Catch

/-! ### Bindings -/

namespace Bindings

variable {α : Type}

theorem find?_cons (name other : String) (a : α) (b : Bindings α) :
    find? ((name, a) :: b) other = if other = name then some a else b.find? other := by
  unfold find?
  rw [List.lookup_cons]
  by_cases h : other = name
  · rw [if_pos h, beq_iff_eq.mpr h]
  · rw [if_neg h, beq_eq_false_iff_ne.mpr h]

theorem find?_drop (b : Bindings α) (name other : String) :
    (b.drop name).find? other = if other = name then none else b.find? other := by
  induction b with
  | nil => exact (ite_self none).symm
  | cons p rest ih =>
    obtain ⟨n, a⟩ := p
    by_cases hn : n = name
    · have hd : drop ((n, a) :: rest) name = drop rest name :=
        List.filter_cons_of_neg (by simp [hn])
      rw [hd, ih, find?_cons, hn]
      by_cases ho : other = name
      · rw [if_pos ho, if_pos ho]
      · rw [if_neg ho, if_neg ho, if_neg ho]
    · have hd : drop ((n, a) :: rest) name = (n, a) :: drop rest name :=
        List.filter_cons_of_pos (by simp [hn])
      rw [hd, find?_cons, find?_cons, ih]
      by_cases ho : other = n
      · rw [if_pos ho, if_neg (ho ▸ hn), if_pos ho]
      · rw [if_neg ho, if_neg ho]

theorem find?_bind (b : Bindings α) (name other : String) (a : α) :
    (b.bind name a).find? other = if other = name then some a else b.find? other := by
  unfold bind
  rw [find?_cons, find?_drop]
  by_cases h : other = name
  · rw [if_pos h, if_pos h]
  · rw [if_neg h, if_neg h, if_neg h]

/-- No name is bound twice. -/
def Flat (b : Bindings α) : Prop := (b.map Prod.fst).Nodup

namespace Flat

variable {b : Bindings α}

theorem drop (h : b.Flat) (name : String) : (b.drop name).Flat :=
  h.sublist (List.filter_sublist.map Prod.fst)

theorem bind (h : b.Flat) (name : String) (a : α) : (b.bind name a).Flat := by
  refine List.nodup_cons.mpr ⟨fun hm => ?_, h.drop name⟩
  obtain ⟨p, hp, hn⟩ := List.mem_map.mp hm
  have hne := (List.mem_filter.mp hp).2
  rw [hn, bne_self_eq_false] at hne
  cases hne

theorem mem_iff (h : b.Flat) {name : String} {a : α} : (name, a) ∈ b ↔ b.find? name = some a := by
  induction b with
  | nil => exact ⟨nofun, nofun⟩
  | cons p rest ih =>
    obtain ⟨n, a'⟩ := p
    obtain ⟨hn, hr⟩ := List.nodup_cons.mp h
    rw [find?_cons, List.mem_cons, ih hr]
    by_cases ho : name = n
    · subst ho
      rw [if_pos rfl]
      constructor
      · rintro (he | hf)
        · cases he
          rfl
        · exact (hn (List.mem_map.mpr ⟨_, (ih hr).mpr hf, rfl⟩)).elim
      · rintro ⟨⟩
        exact .inl rfl
    · rw [if_neg ho]
      exact ⟨fun he => he.resolve_left fun he => ho (Prod.mk.inj he).1, .inr⟩

/-- Counting bindings is counting names. -/
theorem countP_eq_ncard (h : b.Flat) (q : α → Bool) :
    b.countP (fun p => q p.2) = {name | ∃ a, b.find? name = some a ∧ q a = true}.ncard := by
  have hn : ((b.filter fun p => q p.2).map Prod.fst).Nodup :=
    h.sublist (List.filter_sublist.map Prod.fst)
  have hs : {name | ∃ a, b.find? name = some a ∧ q a = true} =
      (((b.filter fun p => q p.2).map Prod.fst).toFinset : Set String) := by
    ext name
    rw [List.coe_toFinset, Set.mem_ofPred_eq, Set.mem_ofPred_eq, List.mem_map]
    constructor
    · rintro ⟨a, ha, hq⟩
      exact ⟨(name, a), List.mem_filter.mpr ⟨h.mem_iff.mpr ha, hq⟩, rfl⟩
    · rintro ⟨⟨n, a⟩, hp, rfl⟩
      obtain ⟨hp, hq⟩ := List.mem_filter.mp hp
      exact ⟨a, h.mem_iff.mp hp, hq⟩
  rw [hs, Set.ncard_coe_finset, List.toFinset_card_of_nodup hn, List.length_map,
    List.countP_eq_length_filter]

end Flat

end Bindings

namespace TagBook

/-! ### Histories -/

inductive Op
  | mint (name : String) (label : Option String)
  | share (name : String) (content : Content)
  | tagObject (name object : String)
  | clone (name source : String)
  | drop (name : String)

def apply (b : TagBook) : Op → TagBook
  | .mint name label => b.mint name label
  | .share name content => b.share name content
  | .tagObject name object => b.tagObject name object
  | .clone name source => b.clone name source
  | .drop name => b.drop name

def after : List Op → TagBook
  | [] => .empty
  | op :: before => (after before).apply op

/-- The number of the operation that made the object of a name. -/
def objectBirth : List Op → String → Option Nat
  | [], _ => none
  | .share name _ :: before, x => if x = name then some before.length else objectBirth before x
  | _ :: before, x => objectBirth before x

/-- The number of the operation that the tag of a name descends from: that which minted it, or that
which made the object it is the tag of.  What asks for a name that is not bound does nothing. -/
def birth : List Op → String → Option Nat
  | [], _ => none
  | .mint name _ :: before, x => if x = name then some before.length else birth before x
  | .share .. :: before, x => birth before x
  | .tagObject name object :: before, x =>
    if x = name then (objectBirth before object).or (birth before x) else birth before x
  | .clone name source :: before, x =>
    if x = name then (birth before source).or (birth before x) else birth before x
  | .drop name :: before, x => if x = name then none else birth before x

/-! ### The tag of a birth -/

/-- The tag of what an operation makes of a new origin, if it makes anything. -/
def Op.makes? (origin : Nat) : Op → Option Tag
  | .mint _ label => some (.mint origin label)
  | .share _ content => some (.ofShared ⟨origin, content⟩)
  | .tagObject .. | .clone .. | .drop _ => none

/-- The tag of what the operation with a number made. -/
def tagOf? : List Op → Nat → Option Tag
  | [], _ => none
  | op :: before, place =>
    if place = before.length then op.makes? (after before).next else tagOf? before place

theorem lt_of_tagOf? {history : List Op} {place : Nat} {t : Tag}
    (h : tagOf? history place = some t) : place < history.length := by
  induction history with
  | nil => cases h
  | cons op before ih =>
    rw [List.length_cons]
    rw [tagOf?] at h
    split at h
    · omega
    · have := ih h
      omega

theorem tagOf?_cons (op : Op) {before : List Op} {place : Nat} {t : Tag}
    (h : tagOf? before place = some t) : tagOf? (op :: before) place = some t := by
  have := lt_of_tagOf? h
  rw [tagOf?, if_neg (by omega), h]

theorem tagOf?_cons_length (op : Op) (before : List Op) :
    tagOf? (op :: before) before.length = op.makes? (after before).next := if_pos rfl

/-- A name is not bound and has no birth, or it is bound to the tag of its birth. -/
inductive Bears (history : List Op) : Option Nat → Option Tag → Prop
  | unbound : Bears history none none
  | bound {place : Nat} {t : Tag} (h : tagOf? history place = some t) :
    Bears history (some place) (some t)

namespace Bears

variable {history : List Op} {place place' : Option Nat} {t t' : Option Tag}

theorem of_place {p : Nat} (h : Bears history (some p) t) :
    ∃ u, t = some u ∧ tagOf? history p = some u := by
  cases h with
  | bound h => exact ⟨_, rfl, h⟩

theorem of_tag {u : Tag} (h : Bears history place (some u)) :
    ∃ p, place = some p ∧ tagOf? history p = some u := by
  cases h with
  | bound h => exact ⟨_, rfl, h⟩

theorem cons (op : Op) (h : Bears history place t) : Bears (op :: history) place t := by
  cases h with
  | unbound => exact .unbound
  | bound h => exact .bound (tagOf?_cons op h)

theorem or (h : Bears history place t) (h' : Bears history place' t') :
    Bears history (place.or place') (t.or t') := by
  cases h with
  | unbound => exact h'
  | bound h => exact .bound h

theorem ite {c : Prop} [Decidable c] (h : Bears history place t) (h' : Bears history place' t') :
    Bears history (if c then place else place') (if c then t else t') := by
  split
  · exact h
  · exact h'

end Bears

section Apply

variable (b : TagBook) (name other x : String)

theorem tag?_mint (label : Option String) :
    (b.mint name label).tag? x = if x = name then some (.mint b.next label) else b.tag? x :=
  Bindings.find?_bind ..

theorem tag?_tagObject :
    (b.tagObject name other).tag? x =
      if x = name then ((Bindings.find? b.objects other).map Tag.ofShared).or (b.tag? x)
      else b.tag? x := by
  unfold tagObject
  cases Bindings.find? b.objects other with
  | none => exact (ite_self _).symm
  | some o => exact Bindings.find?_bind ..

theorem tag?_clone :
    (b.clone name other).tag? x = if x = name then (b.tag? other).or (b.tag? x) else b.tag? x := by
  unfold clone tag?
  cases Bindings.find? b.tags other with
  | none => exact (ite_self _).symm
  | some t => exact Bindings.find?_bind ..

theorem tag?_drop : (b.drop name).tag? x = if x = name then none else b.tag? x :=
  Bindings.find?_drop ..

theorem objects_tagObject : (b.tagObject name other).objects = b.objects := by
  unfold tagObject
  cases Bindings.find? b.objects other <;> rfl

theorem objects_clone : (b.clone name other).objects = b.objects := by
  unfold clone
  cases Bindings.find? b.tags other <;> rfl

end Apply

theorem bears_object (history : List Op) (x : String) :
    Bears history (objectBirth history x)
      ((Bindings.find? (after history).objects x).map Tag.ofShared) := by
  induction history with
  | nil => exact .unbound
  | cons op before ih =>
    cases op with
    | share name content =>
      rw [objectBirth, after, apply, share, Bindings.find?_bind, apply_ite (Option.map Tag.ofShared)]
      exact .ite (.bound (tagOf?_cons_length ..)) (ih.cons _)
    | mint name label => exact ih.cons _
    | tagObject name object =>
      rw [objectBirth, after, apply, objects_tagObject]
      · exact ih.cons _
      · exact nofun
    | clone name source =>
      rw [objectBirth, after, apply, objects_clone]
      · exact ih.cons _
      · exact nofun
    | drop name => exact ih.cons _

/-- What a name is bound to is the tag of its birth. -/
theorem bears_tag (history : List Op) (x : String) :
    Bears history (birth history x) ((after history).tag? x) := by
  induction history generalizing x with
  | nil => exact .unbound
  | cons op before ih =>
    have keep (x : String) := (ih x).cons op
    cases op with
    | mint name label =>
      rw [birth, after, apply, tag?_mint]
      exact .ite (.bound (tagOf?_cons_length ..)) (keep x)
    | share name content => exact keep x
    | tagObject name object =>
      rw [birth, after, apply, tag?_tagObject]
      exact .ite (.or ((bears_object before object).cons _) (keep x)) (keep x)
    | clone name source =>
      rw [birth, after, apply, tag?_clone]
      exact .ite (.or (keep source) (keep x)) (keep x)
    | drop name =>
      rw [birth, after, apply, tag?_drop]
      exact .ite .unbound (keep x)

/-! ### Different births have different origins -/

theorem next_le_apply (b : TagBook) (op : Op) : b.next ≤ (b.apply op).next := by
  cases op with
  | mint | share => exact Nat.le_succ _
  | tagObject name object =>
    rw [apply, tagObject]
    cases Bindings.find? b.objects object <;> exact Nat.le_refl _
  | clone name source =>
    rw [apply, clone]
    cases Bindings.find? b.tags source <;> exact Nat.le_refl _
  | drop => exact Nat.le_refl _

/-- What is made gets the next origin, and no other gets it again. -/
theorem next_apply_of_makes? {op : Op} {b : TagBook} {t : Tag} (h : op.makes? b.next = some t) :
    t.origin = b.next ∧ (b.apply op).next = b.next + 1 := by
  cases op with
  | mint | share =>
    cases h
    exact ⟨rfl, rfl⟩
  | tagObject | clone | drop => cases h

theorem origin_lt_next {history : List Op} {place : Nat} {t : Tag}
    (h : tagOf? history place = some t) : t.origin < (after history).next := by
  induction history with
  | nil => cases h
  | cons op before ih =>
    rw [tagOf?] at h
    rw [after]
    split at h
    · obtain ⟨ho, hn⟩ := next_apply_of_makes? h
      omega
    · have := ih h
      have := next_le_apply (after before) op
      omega

theorem tagOf?_origin_inj {history : List Op} {p q : Nat} {t u : Tag}
    (hp : tagOf? history p = some t) (hq : tagOf? history q = some u) :
    t.origin = u.origin ↔ p = q := by
  constructor
  · intro h
    induction history with
    | nil => cases hp
    | cons op before ih =>
      rw [tagOf?] at hp hq
      -- What was made before has an origin below the one that is given now.
      split at hp
      · next hpl =>
        split at hq
        · next hql => rw [hpl, hql]
        · have := (next_apply_of_makes? hp).1
          have := origin_lt_next hq
          omega
      · split at hq
        · have := (next_apply_of_makes? hq).1
          have := origin_lt_next hp
          omega
        · exact ih hp hq
  · rintro rfl
    rw [Option.some.inj (hp.symm.trans hq)]

theorem exists_op_of_tagOf? {history : List Op} {place : Nat} {t : Tag}
    (h : tagOf? history place = some t) :
    ∃ op, history.reverse[place]? = some op ∧ op.makes? t.origin = some t := by
  induction history with
  | nil => cases h
  | cons op before ih =>
    rw [List.reverse_cons]
    rw [tagOf?] at h
    split at h
    · next hp =>
      refine ⟨op, ?_, (next_apply_of_makes? h).1 ▸ h⟩
      rw [hp, ← List.length_reverse, List.getElem?_concat_length]
    · obtain ⟨op', ho, hm⟩ := ih h
      have := lt_of_tagOf? h
      refine ⟨op', ?_, hm⟩
      rw [List.getElem?_append_left (by rw [List.length_reverse]; omega), ho]

/-- A tag has the label that it was minted with. -/
theorem label_eq_some_iff {op : Op} {t : Tag} (h : op.makes? t.origin = some t) {label : String} :
    t.label = some label ↔ ∃ name, op = .mint name (some label) := by
  cases op with
  | mint name l =>
    have ht : t.label = l := by rw [← Option.some.inj h]; rfl
    rw [ht]
    constructor
    · rintro rfl
      exact ⟨name, rfl⟩
    · rintro ⟨name', hn⟩
      cases hn
      rfl
  | share name content =>
    have ht : t.label = none := by rw [← Option.some.inj h]; rfl
    rw [ht]
    exact ⟨nofun, nofun⟩
  | tagObject | clone | drop => cases h

/-- A tag gives out what the object holds that it was made for, to who asks for its type. -/
theorem downcast?_eq_some_iff {op : Op} {t : Tag} (h : op.makes? t.origin = some t)
    {type : ContentType} {c : Content} :
    t.downcast? type = some c ↔ c.type = type ∧ ∃ name, op = .share name c := by
  unfold Tag.downcast?
  cases op with
  | mint name l =>
    have ht : t.content = none := by rw [← Option.some.inj h]; rfl
    rw [ht]
    exact ⟨nofun, fun ⟨_, _, hn⟩ => nomatch hn⟩
  | share name content =>
    have ht : t.content = some content := by rw [← Option.some.inj h]; rfl
    rw [ht, Option.filter_eq_some_iff, decide_eq_true_iff]
    constructor
    · rintro ⟨hc, htype⟩
      cases hc
      exact ⟨htype, name, rfl⟩
    · rintro ⟨htype, name', hn⟩
      cases hn
      exact ⟨rfl, htype⟩
  | tagObject | clone | drop => cases h

/-! ### Counting -/

theorem flat_tags (history : List Op) : Bindings.Flat (after history).tags := by
  induction history with
  | nil => exact List.nodup_nil
  | cons op before ih =>
    cases op with
    | mint name label => exact ih.bind _ _
    | share name content => exact ih
    | tagObject name object =>
      rw [after, apply, tagObject]
      cases Bindings.find? (after before).objects object with
      | none => exact ih
      | some o => exact ih.bind _ _
    | clone name source =>
      rw [after, apply, clone]
      cases Bindings.find? (after before).tags source with
      | none => exact ih
      | some t => exact ih.bind _ _
    | drop name => exact ih.drop _

/-- Keeping one of those that are the same leaves one for each origin. -/
theorem length_eraseDups (ts : List Tag) :
    ts.eraseDups.length = (ts.map Tag.origin).toFinset.card := by
  induction hn : ts.length using Nat.strongRecOn generalizing ts with
  | _ n ih =>
    cases ts with
    | nil => rfl
    | cons t rest =>
      have hlt : (rest.filter fun u => !u == t).length < n := by
        have := List.length_filter_le (fun u => !u == t) rest
        rw [List.length_cons] at hn
        omega
      have hs : ((rest.filter fun u => !u == t).map Tag.origin).toFinset =
          ((t :: rest).map Tag.origin).toFinset.erase t.origin := by
        ext o
        simp only [List.mem_toFinset, List.mem_map, List.mem_filter, Finset.mem_erase,
          List.map_cons, List.mem_cons, Bool.not_eq_true', Tag.beq_eq_is, ← Bool.not_eq_true,
          Tag.is_iff]
        constructor
        · rintro ⟨u, ⟨hu, hne⟩, rfl⟩
          exact ⟨hne, .inr ⟨u, hu, rfl⟩⟩
        · rintro ⟨hne, rfl | ⟨u, hu, rfl⟩⟩
          · exact (hne rfl).elim
          · exact ⟨u, ⟨hu, hne⟩, rfl⟩
      have hm : t.origin ∈ ((t :: rest).map Tag.origin).toFinset :=
        List.mem_toFinset.mpr List.mem_cons_self
      rw [List.eraseDups_cons, List.length_cons, ih _ hlt _ rfl, hs, Finset.card_erase_add_one hm]

theorem exists_birth {history : List Op} {x : String} {t : Tag}
    (h : (after history).tag? x = some t) :
    ∃ place, birth history x = some place ∧ tagOf? history place = some t :=
  (h ▸ bears_tag history x).of_tag

theorem exists_tag {history : List Op} {x : String} {place : Nat}
    (h : birth history x = some place) :
    ∃ t, (after history).tag? x = some t ∧ tagOf? history place = some t :=
  (h ▸ bears_tag history x).of_place

theorem exists_object {history : List Op} {x : String} {place : Nat}
    (h : objectBirth history x = some place) :
    ∃ o, Bindings.find? (after history).objects x = some o ∧
      tagOf? history place = some (.ofShared o) := by
  obtain ⟨t, ht, hp⟩ := (h ▸ bears_object history x).of_place
  obtain ⟨o, ho, rfl⟩ := Option.map_eq_some_iff.mp ht
  exact ⟨o, ho, hp⟩

/-- As many tags are different as there are operations that tags descend from. -/
theorem distinct_after (history : List Op) :
    (after history).distinct = {place | ∃ x, birth history x = some place}.ncard := by
  let origin (place : Nat) : Nat := ((tagOf? history place).map Tag.origin).getD 0
  have horigin {place : Nat} {t : Tag} (h : tagOf? history place = some t) :
      origin place = t.origin := by
    show ((tagOf? history place).map Tag.origin).getD 0 = t.origin
    rw [h]
    rfl
  have hinj : Set.InjOn origin {place | ∃ x, birth history x = some place} := by
    rintro p ⟨x, hx⟩ q ⟨y, hy⟩ hpq
    obtain ⟨t, -, ht⟩ := exists_tag hx
    obtain ⟨u, -, hu⟩ := exists_tag hy
    rw [horigin ht, horigin hu] at hpq
    exact (tagOf?_origin_inj ht hu).mp hpq
  have himage : origin '' {place | ∃ x, birth history x = some place} =
      ((((after history).tags.map Prod.snd).map Tag.origin).toFinset : Set Nat) := by
    ext o
    simp only [Set.mem_image, Set.mem_ofPred_eq, List.coe_toFinset, List.mem_map]
    constructor
    · rintro ⟨place, ⟨x, hx⟩, rfl⟩
      obtain ⟨t, hf, ht⟩ := exists_tag hx
      exact ⟨t, ⟨(x, t), (flat_tags history).mem_iff.mpr hf, rfl⟩, (horigin ht).symm⟩
    · rintro ⟨-, ⟨⟨x, t⟩, hm, rfl⟩, rfl⟩
      obtain ⟨place, hx, ht⟩ := exists_birth ((flat_tags history).mem_iff.mp hm)
      exact ⟨place, ⟨x, hx⟩, horigin ht⟩
  rw [distinct, length_eraseDups, ← Set.ncard_coe_finset, ← himage, hinj.ncard_image]

/-- An object is held by its name and by each name whose tag descends from its making. -/
theorem references?_after (history : List Op) (x : String) :
    (after history).references? x =
      (objectBirth history x).map fun place => 1 + {y | birth history y = some place}.ncard := by
  cases hp : objectBirth history x with
  | none =>
    have hb := hp ▸ bears_object history x
    cases ho : Bindings.find? (after history).objects x with
    | none => rw [references?, ho, Option.map_none, Option.map_none]
    | some o =>
      rw [ho] at hb
      cases hb
  | some place =>
    obtain ⟨o, ho, hm⟩ := exists_object hp
    have hset : {y | ∃ t, Bindings.find? (after history).tags y = some t ∧
        (t.origin == o.origin) = true} = {y | birth history y = some place} := by
      ext y
      rw [Set.mem_ofPred_eq, Set.mem_ofPred_eq]
      constructor
      · rintro ⟨t, hf, ht⟩
        obtain ⟨q, hq, hqt⟩ := exists_birth hf
        rw [hq, (tagOf?_origin_inj hqt hm).mp (beq_iff_eq.mp ht)]
      · intro hy
        obtain ⟨t, hf, ht⟩ := exists_tag hy
        exact ⟨t, hf, beq_iff_eq.mpr ((tagOf?_origin_inj ht hm).mpr rfl)⟩
    rw [references?, ho, Option.map_some, Option.map_some,
      (flat_tags history).countP_eq_ncard fun t => t.origin == o.origin, hset]

/-! ### What a history tells -/

/-- What is to be found out about the tags of a book is what the history tells about births. -/
structure ToldBy (history : List Op) (b : TagBook) : Prop where
  bound : ∀ x, (b.tag? x).isSome = (birth history x).isSome
  same : ∀ x y, b.related Tag.is x y = true ↔
    ∃ place, birth history x = some place ∧ birth history y = some place
  equal : ∀ x y, b.related (· == ·) x y = b.related Tag.is x y
  hash : ∀ x y, b.related Tag.is x y = true → b.related (fun t u => hash t == hash u) x y = true
  distinct : b.distinct = {place | ∃ x, birth history x = some place}.ncard
  label : ∀ x label, (b.tag? x).bind Tag.label = some label ↔
    ∃ place name, birth history x = some place ∧
      history.reverse[place]? = some (.mint name (some label))
  content : ∀ x type c, (b.tag? x).bind (Tag.downcast? · type) = some c ↔
    c.type = type ∧ ∃ place name, birth history x = some place ∧
      history.reverse[place]? = some (.share name c)
  references : ∀ x, b.references? x =
    (objectBirth history x).map fun place => 1 + {y | birth history y = some place}.ncard

theorem related_is_iff (history : List Op) (x y : String) :
    (after history).related Tag.is x y = true ↔
      ∃ place, birth history x = some place ∧ birth history y = some place := by
  unfold related
  constructor
  · intro h
    split at h
    · next t u hx hy =>
      obtain ⟨p, hp, hpt⟩ := exists_birth hx
      obtain ⟨q, hq, hqu⟩ := exists_birth hy
      have hpq : p = q := (tagOf?_origin_inj hpt hqu).mp (Tag.is_iff.mp h)
      exact ⟨p, hp, hpq ▸ hq⟩
    · cases h
  · rintro ⟨place, hx, hy⟩
    obtain ⟨t, hxt, ht⟩ := exists_tag hx
    obtain ⟨u, hyu, hu⟩ := exists_tag hy
    rw [hxt, hyu]
    exact Tag.is_iff.mpr ((tagOf?_origin_inj ht hu).mpr rfl)

/-- What a tag shows of itself was said when it was made. -/
theorem exists_op_iff {history : List Op} {x : String} {P : Tag → Prop} {Q : Op → Prop}
    (h : ∀ {op t}, Op.makes? t.origin op = some t → (P t ↔ Q op)) :
    (∃ t, (after history).tag? x = some t ∧ P t) ↔
      ∃ place op, birth history x = some place ∧ history.reverse[place]? = some op ∧ Q op := by
  constructor
  · rintro ⟨t, hx, ht⟩
    obtain ⟨place, hb, hp⟩ := exists_birth hx
    obtain ⟨op, ho, hm⟩ := exists_op_of_tagOf? hp
    exact ⟨place, op, hb, ho, (h hm).mp ht⟩
  · rintro ⟨place, op, hb, ho, hq⟩
    obtain ⟨t, hx, hp⟩ := exists_tag hb
    obtain ⟨op', ho', hm⟩ := exists_op_of_tagOf? hp
    cases ho.symm.trans ho'
    exact ⟨t, hx, (h hm).mpr hq⟩

theorem toldBy_after (history : List Op) : ToldBy history (after history) where
  bound x := by
    have hb := bears_tag history x
    generalize birth history x = place at hb ⊢
    generalize (after history).tag? x = t at hb ⊢
    cases hb <;> rfl
  same := related_is_iff history
  equal x y := rfl
  hash x y h := by
    unfold related at h ⊢
    split at h
    · exact beq_iff_eq.mpr (Tag.hash_eq_of_is h)
    · cases h
  distinct := distinct_after history
  label x label := by
    rw [Option.bind_eq_some_iff, exists_op_iff fun h => label_eq_some_iff h]
    constructor
    · rintro ⟨place, op, hb, ho, name, rfl⟩
      exact ⟨place, name, hb, ho⟩
    · rintro ⟨place, name, hb, ho⟩
      exact ⟨place, _, hb, ho, name, rfl⟩
  content x type c := by
    rw [Option.bind_eq_some_iff, exists_op_iff fun h => downcast?_eq_some_iff h]
    constructor
    · rintro ⟨place, op, hb, ho, htype, name, rfl⟩
      exact ⟨htype, place, name, hb, ho⟩
    · rintro ⟨htype, place, name, hb, ho⟩
      exact ⟨place, _, hb, ho, htype, name, rfl⟩
  references := references?_after history

/-- Something still holds what the operation made: a name has its tag, or it has the object. -/
def Alive (history : List Op) (place : Nat) : Prop :=
  (∃ x, birth history x = some place) ∨ ∃ x, objectBirth history x = some place

/-- Tags are the same exactly when they have one birth, and so is all that a book tells of its tags
told by the history: labels, contents, the number of different tags, the references to objects.  A
clone is what it was cloned from, label included.  And it is enough to compare addresses, as long as
what is alive at a time has addresses of its own: they may be used again for what is made later. -/
theorem identity_is_origin (history : List Op) :
    ToldBy history (after history) ∧
    (∀ name source t, (after history).tag? source = some t →
      (after (.clone name source :: history)).tag? name = some t) ∧
    ∀ address : Nat → Nat, Set.InjOn address {place | Alive history place} →
      ∀ x y p q, birth history x = some p → birth history y = some q →
        (address p = address q ↔ (after history).related Tag.is x y = true) := by
  refine ⟨toldBy_after history, fun name source t h => ?_, fun address hinj x y p q hx hy => ?_⟩
  · rw [after, apply, tag?_clone, if_pos rfl, h]
    rfl
  · rw [related_is_iff, hx, hy]
    constructor
    · intro h
      have hpq : p = q := hinj (.inl ⟨x, hx⟩) (.inl ⟨y, hy⟩) h
      exact ⟨p, rfl, hpq ▸ rfl⟩
    · rintro ⟨place, hp, hq⟩
      cases hp
      cases hq
      rfl

/-- An object is made anew under its old name while a clone of a tag for the old one lives on, and
it gets the address of a minting that nothing holds any more. -/
theorem exists_object_made_anew :
    let history : List Op :=
      [.drop "a", .clone "d" "a", .tagObject "b" "k", .share "k" (.text "z"), .tagObject "a" "k",
        .share "k" (.text "z"), .drop "m", .mint "m" none]
    let address (place : Nat) : Nat := if place = 4 then 0 else place
    Set.InjOn address {place | Alive history place} ∧
      birth history "d" = some 2 ∧ birth history "b" = some 4 ∧
      (address 2 = address 4 ↔ (after history).related Tag.is "d" "b" = true) ∧
      (after history).related Tag.is "d" "b" = false ∧ address 4 = address 0 ∧
      (after history).references? "k" = some (1 + {y | birth history y = some 4}.ncard) := by
  intro history address
  have hd : birth history "d" = some 2 := by decide
  have hb : birth history "b" = some 4 := by decide
  have halive : ∀ place, Alive history place → place = 2 ∨ place = 4 := by
    rintro place (⟨x, hx⟩ | ⟨x, hx⟩)
    · simp only [birth, String.reduceEq, ↓reduceIte, objectBirth, List.length_cons, List.length_nil,
        zero_add, Nat.reduceAdd, Option.or_none, Option.some_or, Option.ite_none_left_eq_some,
        history] at hx
      grind
    · simp only [objectBirth, List.length_cons, List.length_nil, zero_add, Nat.reduceAdd,
        history] at hx
      grind
  have hinj : Set.InjOn address {place | Alive history place} := by
    intro p hp q hq hpq
    rcases halive p hp with rfl | rfl <;> rcases halive q hq with rfl | rfl
    all_goals first | rfl | cases hpq
  obtain ⟨htold, -, haddress⟩ := identity_is_origin history
  refine ⟨hinj, hd, hb, haddress address hinj _ _ _ _ hd hb, by decide, rfl, ?_⟩
  rw [htold.references]
  rfl

end TagBook

end HostServices.Catch
