import HostServices.Proofs.Json.Value

/-!
# Records taken apart

What was put under the keys of a record is found under them, as long as no key occurs twice: the
fields by name (`asNamedFields?_record`), the two parts of a tagged value (`asTagged?_holding`), and
the fields behind a tag that stands among them (`asInlineTagged?_record`).
-/

namespace HostServices.JsonValue

/-! ### What is built is well formed -/

theorem wellFormed_ofText (s : String) : (ofText s).WellFormed := trivial

theorem wellFormed_ofInt (n : Int) : (ofInt n).WellFormed := NumberLiteral.wellFormed_ofInt n

theorem wellFormed_record {fields : List (String × JsonValue)}
    (h : ∀ p ∈ fields, p.2.WellFormed) : (record fields).WellFormed := by
  show FieldsWellFormed (fields.map fun p => (some p.1.toList, p.2))
  induction fields with
  | nil => trivial
  | cons p rest ih =>
    obtain ⟨hp, hr⟩ := List.forall_mem_cons.mp h
    exact ⟨hp, ih hr⟩

@[simp] theorem asText?_ofText (s : String) : (ofText s).asText? = some s :=
  congrArg some String.ofList_toList

@[simp] theorem asName?_ofText (s : String) : (ofText s).asName? = some s := asText?_ofText s

@[simp] theorem asInt?_ofInt (n : Int) : (ofInt n).asInt? = some n := NumberLiteral.toInt?_ofInt n

theorem asInt32?_ofInt {n : Int} (h : Text.isInt32 n = true) : (ofInt n).asInt32? = some n := by
  unfold asInt32?
  rw [asInt?_ofInt, Option.filter_some, if_pos h]

theorem isInt32_of_asInt32? {v : JsonValue} {n : Int} (h : v.asInt32? = some n) :
    Text.isInt32 n = true := (Option.filter_eq_some_iff.mp h).2

theorem pow_two_64 : Int.pow 2 64 = UInt64.size := rfl

theorem asNat64?_ofInt {n : Nat} (h : n < UInt64.size) : (ofInt n).asNat64? = some n := by
  unfold asNat64?
  rw [asInt?_ofInt, Option.filter_some, if_pos]
  · rfl
  · rw [pow_two_64, Bool.and_eq_true, decide_eq_true_iff, decide_eq_true_iff]
    omega

theorem lt_of_asNat64? {v : JsonValue} {n : Nat} (h : v.asNat64? = some n) : n < UInt64.size := by
  obtain ⟨k, hk, rfl⟩ := Option.map_eq_some_iff.mp h
  obtain ⟨-, hk⟩ := Option.filter_eq_some_iff.mp hk
  rw [pow_two_64, Bool.and_eq_true, decide_eq_true_iff, decide_eq_true_iff] at hk
  omega

/-! ### Fields by name -/

/-- The fields of a record under the letters of their keys. -/
def named (fields : List (String × JsonValue)) : List (List Char × JsonValue) :=
  fields.map fun p => (p.1.toList, p.2)

variable {fields : List (String × JsonValue)} {key : String} {v : JsonValue}

theorem asRecord?_record (fields : List (String × JsonValue)) :
    (record fields).asRecord? = some (named fields) := by
  simp only [record, asRecord?]
  induction fields with
  | nil => rfl
  | cons p rest ih =>
    rw [List.map_cons, List.mapM_cons, ih]
    rfl

theorem valuesOf_named_cons (p : String × JsonValue) (rest : List (String × JsonValue))
    (key : String) :
    valuesOf (named (p :: rest)) key =
      if p.1 = key then p.2 :: valuesOf (named rest) key else valuesOf (named rest) key := by
  unfold valuesOf named
  rw [List.map_cons, List.filter_cons]
  by_cases h : p.1 = key
  · rw [if_pos h, if_pos (by simp [h])]
    rfl
  · rw [if_neg h, if_neg (by simpa [String.toList_inj] using h)]

theorem valuesOf_named_of_not_mem (h : key ∉ fields.map Prod.fst) :
    valuesOf (named fields) key = [] := by
  induction fields with
  | nil => rfl
  | cons p rest ih =>
    obtain ⟨hp, hr⟩ := not_or.mp (List.mem_cons.not.mp h)
    rw [valuesOf_named_cons, if_neg (Ne.symm hp), ih hr]

theorem valuesOf_named_of_mem (hn : (fields.map Prod.fst).Nodup) (hm : (key, v) ∈ fields) :
    valuesOf (named fields) key = [v] := by
  induction fields with
  | nil => cases hm
  | cons p rest ih =>
    obtain ⟨hp, hr⟩ := List.nodup_cons.mp hn
    rw [valuesOf_named_cons]
    rcases List.mem_cons.mp hm with rfl | hm
    · rw [if_pos rfl, valuesOf_named_of_not_mem hp]
    · have hk : p.1 ≠ key := by
        rintro rfl
        exact hp (List.mem_map.mpr ⟨_, hm, rfl⟩)
      rw [if_neg hk, ih hr hm]

theorem only?_named (hn : (fields.map Prod.fst).Nodup) (hm : (key, v) ∈ fields) :
    only? (named fields) key = some v := by
  unfold only?
  rw [valuesOf_named_of_mem hn hm]

theorem mapM_only?_named {part : List (String × JsonValue)} (hn : (fields.map Prod.fst).Nodup)
    (hm : ∀ p ∈ part, p ∈ fields) :
    (part.map Prod.fst).mapM (only? (named fields)) = some (part.map Prod.snd) := by
  induction part with
  | nil => rfl
  | cons p rest ih =>
    obtain ⟨hp, hr⟩ := List.forall_mem_cons.mp hm
    rw [List.map_cons, List.mapM_cons, only?_named hn hp, ih hr]
    rfl

/-- The values under the keys of a record are those that were put there. -/
theorem asNamedFields?_record (keys : List String) (values : List JsonValue) (hn : keys.Nodup)
    (hl : keys.length = values.length) :
    (record (keys.zip values)).asNamedFields? keys = some values := by
  have hk : (keys.zip values).map Prod.fst = keys := List.map_fst_zip (Nat.le_of_eq hl)
  have hv : (keys.zip values).map Prod.snd = values := List.map_snd_zip (Nat.le_of_eq hl.symm)
  have h : (keys.zip values |>.map Prod.fst).mapM (only? (named (keys.zip values))) =
      some ((keys.zip values).map Prod.snd) := mapM_only?_named (hk.symm ▸ hn) fun _ hp => hp
  rw [hk, hv] at h
  unfold asNamedFields?
  rw [asRecord?_record]
  exact h

theorem asFields?_record (keys : List String) (values : List JsonValue) (hn : keys.Nodup)
    (hl : keys.length = values.length) :
    (record (keys.zip values)).asFields? keys = some values := by
  have h : (record (keys.zip values)).asFields? keys =
      (record (keys.zip values)).asNamedFields? keys := rfl
  rw [h, asNamedFields?_record keys values hn hl]

/-! ### Tagged data -/

theorem asTagged?_bare {tagKey contentKey : String} (h : tagKey ≠ contentKey) (tag : String) :
    (record [(tagKey, .ofText tag)]).asTagged? tagKey contentKey = some (.bare tag) := by
  have hn : ([(tagKey, JsonValue.ofText tag)].map Prod.fst).Nodup := List.nodup_singleton tagKey
  have hc : contentKey ∉ [(tagKey, JsonValue.ofText tag)].map Prod.fst := by
    rw [List.map_singleton, List.mem_singleton]
    exact h.symm
  have ht := only?_named hn List.mem_cons_self
  have hv := valuesOf_named_of_not_mem hc
  show ((record [(tagKey, .ofText tag)]).asRecord? >>= _) = _
  simp only [asRecord?_record, Option.bind_eq_bind, Option.bind_some, ht, asName?_ofText, hv]

theorem comesFirst_named (tagKey contentKey : String) (rest : List (String × JsonValue)) :
    comesFirst tagKey contentKey (named ((tagKey, v) :: rest)) = true := by
  unfold comesFirst named
  rw [List.map_cons, List.find?_cons_of_pos (by simp)]
  simp

theorem asTagged?_holding {tagKey contentKey : String} (h : tagKey ≠ contentKey) (tag : String)
    (content : JsonValue) :
    (record [(tagKey, .ofText tag), (contentKey, content)]).asTagged? tagKey contentKey =
      some (.holding tag content) := by
  have hn : ([(tagKey, JsonValue.ofText tag), (contentKey, content)].map Prod.fst).Nodup := by
    simpa using h
  have ht := only?_named hn List.mem_cons_self
  have hv := valuesOf_named_of_mem hn (List.mem_cons_of_mem _ List.mem_cons_self)
  show ((record [(tagKey, .ofText tag), (contentKey, content)]).asRecord? >>= _) = _
  simp only [asRecord?_record, Option.bind_eq_bind, Option.bind_some, ht, asName?_ofText, hv,
    comesFirst_named, Bool.true_or, if_true]

/-- An integer of 64 bits can be kept. -/
theorem isKeepable_ofInt {n : Int} (h : NumberLiteral.isWord n = true) :
    (ofInt n).isKeepable = true := by
  show ((NumberLiteral.ofInt n).hasValue && decide (0 ≤ 126)) = true
  rw [NumberLiteral.hasValue_ofInt h]
  rfl

/-- The fields behind a tag that stands among them make a record without it. -/
theorem asInlineTagged?_record {tagKey : String} (tag : String)
    (hn : (tagKey :: fields.map Prod.fst).Nodup) (hk : ∀ p ∈ fields, p.2.isKeepable = true) :
    (record ((tagKey, .ofText tag) :: fields)).asInlineTagged? tagKey =
      some (tag, record fields) := by
  have hothers : (((tagKey, ofText tag) :: fields).map fun p => (some p.1.toList, p.2)).filter
      (fun p => p.1 != some tagKey.toList) = fields.map fun p => (some p.1.toList, p.2) := by
    rw [List.map_cons, List.filter_cons_of_neg (by simp), List.filter_eq_self]
    intro p hp
    obtain ⟨q, hq, rfl⟩ := List.mem_map.mp hp
    have hne : q.1 ≠ tagKey := fun he => (List.nodup_cons.mp hn).1 (List.mem_map.mpr ⟨q, hq, he⟩)
    simpa [String.toList_inj] using hne
  have hkeep : (fields.map fun p => (some p.1.toList, p.2)).all (fun p => p.2.isKeepable) =
      true := by
    rw [List.all_map, List.all_eq_true]
    exact hk
  have ht : only? (named ((tagKey, ofText tag) :: fields)) tagKey = some (ofText tag) :=
    only?_named hn List.mem_cons_self
  show ((record ((tagKey, .ofText tag) :: fields)).asRecord? >>= _) = _
  simp only [asRecord?_record, Option.bind_eq_bind, Option.bind_some, ht, asText?_ofText]
  show (if (List.all (List.filter _ (((tagKey, ofText tag) :: fields).map
    fun p => (some p.1.toList, p.2))) _) = true then _ else _) = _
  rw [hothers, if_pos hkeep]
  rfl

end HostServices.JsonValue
