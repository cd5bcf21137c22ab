import HostServices.Failure.Json
import HostServices.Wait.Json
import HostServices.Watch.Json
import HostServices.Proofs.Json.Record

/-!
# Failures, outcomes, statuses, dispositions and counters read back

Five types are written as data.  What a value of one of them is written as reads back as the value,
so no two values are written alike, and what was read from any text reads back from what it is
written as (`DataForm.RoundTrips`).  For each type this rests on three facts: the data holds
well-formed numbers only, taking it apart gives the value, and only numbers of the right width are
taken.
-/

namespace HostServices

open JsonValue

/-- How the values of a type are written as data and read from it. -/
structure DataForm (α : Type) where
  toJson : α → JsonValue
  ofJson? : JsonValue → Option α
  /-- The numbers of the value have their width. -/
  Fits : α → Prop

namespace DataForm

variable {α : Type}

def write (f : DataForm α) (a : α) : String := (f.toJson a).render

def read? (f : DataForm α) (s : String) : Option α := (parse? s).bind f.ofJson?

/-- What is written reads back, and what was read from a text is such a value. -/
structure RoundTrips (f : DataForm α) : Prop where
  read?_write : ∀ a, f.Fits a → f.read? (f.write a) = some a
  write_injective : ∀ a b, f.Fits a → f.Fits b → f.write a = f.write b → a = b
  read?_again : ∀ s a, f.read? s = some a → f.Fits a ∧ f.read? (f.write a) = some a

theorem roundTrips {f : DataForm α} (hw : ∀ a, (f.toJson a).WellFormed)
    (ho : ∀ a, f.Fits a → f.ofJson? (f.toJson a) = some a)
    (hf : ∀ v a, f.ofJson? v = some a → f.Fits a) : f.RoundTrips := by
  have hr : ∀ a, f.Fits a → f.read? (f.write a) = some a := by
    intro a ha
    unfold read? write
    rw [parse?_render (hw a)]
    exact ho a ha
  refine ⟨hr, ?_, ?_⟩
  · intro a b ha hb h
    exact Option.some.inj ((hr a ha).symm.trans ((congrArg f.read? h).trans (hr b hb)))
  · intro s a h
    obtain ⟨v, -, hv⟩ := Option.bind_eq_some_iff.mp h
    exact ⟨hf v a hv, hr a (hf v a hv)⟩

end DataForm

/-! ### Failures -/

namespace Failure

def form : DataForm Failure := ⟨toJson, ofJson?, fun _ => True⟩

theorem wellFormed_details (f : Failure) : ∀ v ∈ f.details?, v.WellFormed := by
  intro v hv
  cases f with
  | argument text | invalidSignal text | unsupported text => exact Option.some.inj hv ▸ trivial
  | interrupted => cases hv
  | os operation reason =>
    obtain rfl := Option.some.inj hv
    apply wellFormed_record
    simp [wellFormed_ofText]

theorem wellFormed_toJson (f : Failure) : f.toJson.WellFormed := by
  apply wellFormed_record
  refine List.forall_mem_cons.mpr ⟨wellFormed_ofText _, ?_⟩
  intro p hp
  obtain ⟨v, hv, rfl⟩ := Option.map_eq_some_iff.mp (Option.mem_toList.mp hp)
  exact wellFormed_details f v hv

/-- A case that holds a text. -/
theorem ofJson?_text (tag text : String) (hi : tag ≠ "interrupted") (ho : tag ≠ "os") :
    ofJson? (record [("error_type", .ofText tag), ("details", .ofText text)]) =
      ofText? tag text := by
  unfold ofJson?
  rw [asTagged?_holding (by decide)]
  show (if tag = "interrupted" then _ else if tag = "os" then _ else
    (ofText text).asText?.bind (ofText? tag)) = _
  rw [if_neg hi, if_neg ho, asText?_ofText]
  rfl

theorem ofOsDetails?_record (operation reason : String) :
    ofOsDetails? (record [("op", .ofText operation), ("errno", .ofText reason)]) =
      some (.os operation reason) := by
  have h : (record [("op", .ofText operation), ("errno", .ofText reason)]).asNamedFields?
      ["op", "errno"] = some [.ofText operation, .ofText reason] :=
    asNamedFields?_record ["op", "errno"] [.ofText operation, .ofText reason] (by decide) rfl
  unfold ofOsDetails?
  rw [h]
  show ((ofText operation).asText? >>= fun x => (ofText reason).asText? >>= fun y =>
    some (Failure.os x y)) = _
  rw [asText?_ofText, asText?_ofText]
  rfl

theorem ofJson?_toJson (f : Failure) : ofJson? f.toJson = some f := by
  cases f with
  | argument text => exact ofJson?_text "argument" text (by decide) (by decide)
  | invalidSignal text => exact ofJson?_text "invalid_signal" text (by decide) (by decide)
  | unsupported text => exact ofJson?_text "unsupported" text (by decide) (by decide)
  | interrupted =>
    show ofJson? (record [("error_type", .ofText "interrupted")]) = _
    unfold ofJson?
    rw [asTagged?_bare (by decide)]
    rfl
  | os operation reason =>
    show ofJson? (record [("error_type", .ofText "os"),
      ("details", record [("op", .ofText operation), ("errno", .ofText reason)])]) = _
    unfold ofJson?
    rw [asTagged?_holding (by decide)]
    exact ofOsDetails?_record operation reason

theorem form_roundTrips : form.RoundTrips :=
  DataForm.roundTrips wellFormed_toJson (fun f _ => ofJson?_toJson f) fun _ _ _ => trivial

end Failure

/-! ### Statuses and outcomes -/

namespace Wait

namespace ChildStatus

/-- Statuses as data; a code or signal has 32 bits. -/
def form : DataForm ChildStatus := ⟨toJson, ofJson?, fun s => Text.isInt32 s.value = true⟩

theorem ofTag?_tag_value (s : ChildStatus) : ofTag? s.tag s.value = some s := by
  cases s <;> rfl

theorem value_of_ofTag? {tag : String} {n : Int} {s : ChildStatus} (h : ofTag? tag n = some s) :
    s.value = n := by
  unfold ofTag? at h
  split_ifs at h <;> exact Option.some.inj h ▸ rfl

theorem form_roundTrips : form.RoundTrips := by
  refine DataForm.roundTrips ?_ ?_ ?_
  · intro s
    apply wellFormed_record
    simp [wellFormed_ofText, wellFormed_ofInt]
  · intro s h
    show ofJson? (toJson s) = _
    unfold ofJson? toJson
    rw [asTagged?_holding (by decide)]
    show (ofInt s.value).asInt32?.bind (ofTag? s.tag) = _
    rw [asInt32?_ofInt h]
    exact ofTag?_tag_value s
  · intro v s h
    change ofJson? v = some s at h
    unfold ofJson? at h
    split at h
    · obtain ⟨n, hn, ht⟩ := Option.bind_eq_some_iff.mp h
      show Text.isInt32 s.value = true
      rw [value_of_ofTag? ht]
      exact isInt32_of_asInt32? hn
    · cases h

end ChildStatus

namespace Outcome

/-- Process numbers, codes and signals have 32 bits. -/
def Fits : Outcome → Prop
  | .exited pid n | .signaled pid n | .stopped pid n =>
    Text.isInt32 pid = true ∧ Text.isInt32 n = true
  | _ => True

def form : DataForm Outcome := ⟨toJson, ofJson?, Fits⟩

theorem isWord_of_isInt32 {n : Int} (h : Text.isInt32 n = true) :
    NumberLiteral.isWord n = true := by
  have hs : (UInt64.size : Int) = 18446744073709551616 := rfl
  unfold Text.isInt32 at h
  unfold NumberLiteral.isWord
  rw [Bool.and_eq_true, decide_eq_true_iff, decide_eq_true_iff] at h ⊢
  omega

theorem isInt32_code (e : Errno) : Text.isInt32 e.code = true := by
  have h := e.code_listed
  unfold isErrnoCode at h
  unfold Text.isInt32
  simp only [Bool.and_eq_true, decide_eq_true_iff] at h ⊢
  omega

/-- The fields of an outcome behind its tag. -/
theorem asInlineTagged?_outcome (tag : String) (keys : List String) (numbers : List Int)
    (hn : ("outcome" :: keys).Nodup) (hl : keys.length = numbers.length)
    (hf : ∀ n ∈ numbers, Text.isInt32 n = true) :
    (record (("outcome", .ofText tag) :: keys.zip (numbers.map .ofInt))).asInlineTagged?
      "outcome" = some (tag, record (keys.zip (numbers.map .ofInt))) := by
  apply asInlineTagged?_record
  · rw [List.map_fst_zip (by rw [List.length_map, hl])]
    exact hn
  · intro p hp
    obtain ⟨n, hn, hv⟩ := List.mem_map.mp (List.of_mem_zip hp).2
    rw [← hv]
    exact isKeepable_ofInt (isWord_of_isInt32 (hf n hn))

/-- A case of two numbers. -/
theorem asInlineTagged?_pair (tag : String) {first second : String}
    (hn : ["outcome", first, second].Nodup) {a b : Int}
    (h : Text.isInt32 a = true ∧ Text.isInt32 b = true) :
    (record [("outcome", .ofText tag), (first, .ofInt a), (second, .ofInt b)]).asInlineTagged?
      "outcome" = some (tag, record [(first, .ofInt a), (second, .ofInt b)]) :=
  asInlineTagged?_outcome tag [first, second] [a, b] hn rfl (by simpa using h)

theorem pair?_record (first second : String) (hn : [first, second].Nodup) {a b : Int}
    (h : Text.isInt32 a = true ∧ Text.isInt32 b = true) (make : Int → Int → Outcome) :
    pair? first second make (record [(first, .ofInt a), (second, .ofInt b)]) =
      some (make a b) := by
  have hr : (record [(first, .ofInt a), (second, .ofInt b)]).asFields? [first, second] =
      some [.ofInt a, .ofInt b] :=
    asFields?_record [first, second] [.ofInt a, .ofInt b] hn rfl
  unfold pair?
  rw [hr]
  show ((ofInt a).asInt32? >>= fun x => (ofInt b).asInt32? >>= fun y => some (make x y)) = _
  rw [asInt32?_ofInt h.1, asInt32?_ofInt h.2]
  rfl

/-- An error by its number; one that is not in the table is unknown. -/
theorem ofJson?_otherError {n : Int} (h : Text.isInt32 n = true) :
    ofJson? (record [("outcome", .ofText "other_error"), ("errno", .ofInt n)]) =
      some (.otherError (.ofNumber n)) := by
  have ht : (record [("outcome", .ofText "other_error"), ("errno", .ofInt n)]).asInlineTagged?
      "outcome" = some ("other_error", record [("errno", .ofInt n)]) :=
    asInlineTagged?_outcome "other_error" ["errno"] [n] (by decide) rfl
      (List.forall_mem_singleton.mpr h)
  have hr : (record [("errno", .ofInt n)]).asFields? ["errno"] = some [.ofInt n] :=
    asFields?_record ["errno"] [.ofInt n] (by decide) rfl
  unfold ofJson?
  rw [ht]
  show error? (record [("errno", .ofInt n)]) = _
  unfold error?
  rw [hr]
  show (ofInt n).asInt32?.map _ = _
  rw [asInt32?_ofInt h]
  rfl

theorem wellFormed_toJson (o : Outcome) : o.toJson.WellFormed := by
  cases o <;> exact wellFormed_record (by simp [wellFormed_ofText, wellFormed_ofInt])

theorem ofJson?_toJson {o : Outcome} (h : o.Fits) : ofJson? o.toJson = some o := by
  cases o with
  | exited pid code =>
    unfold ofJson? toJson
    rw [asInlineTagged?_pair "exited" (by decide) h]
    exact pair?_record "pid" "code" (by decide) h .exited
  | signaled pid signal =>
    unfold ofJson? toJson
    rw [asInlineTagged?_pair "signaled" (by decide) h]
    exact pair?_record "pid" "signal" (by decide) h .signaled
  | stopped pid signal =>
    unfold ofJson? toJson
    rw [asInlineTagged?_pair "stopped" (by decide) h]
    exact pair?_record "pid" "signal" (by decide) h .stopped
  | noChildAvailable =>
    unfold ofJson? toJson
    rw [asInlineTagged?_record "no_child_available" (List.nodup_singleton _)
      (List.forall_mem_nil _)]
    rfl
  | noStateChange =>
    unfold ofJson? toJson
    rw [asInlineTagged?_record "no_state_change" (List.nodup_singleton _) (List.forall_mem_nil _)]
    rfl
  | otherError errno =>
    have he := ofJson?_otherError (isInt32_code errno)
    rw [Errno.ofNumber_code] at he
    exact he

theorem exists_of_pair? {first second : String} {make : Int → Int → Outcome} {v : JsonValue}
    {o : Outcome} (h : pair? first second make v = some o) :
    ∃ a b, (Text.isInt32 a = true ∧ Text.isInt32 b = true) ∧ make a b = o := by
  unfold pair? at h
  split at h
  · obtain ⟨a, ha, h⟩ := Option.bind_eq_some_iff.mp h
    obtain ⟨b, hb, h⟩ := Option.bind_eq_some_iff.mp h
    exact ⟨a, b, ⟨isInt32_of_asInt32? ha, isInt32_of_asInt32? hb⟩, Option.some.inj h⟩
  · cases h

theorem bare?_eq_some {o o' : Outcome} {v : JsonValue} (h : bare? o v = some o') : o' = o := by
  unfold bare? at h
  split at h
  · cases h
  · exact (Option.some.inj h).symm

theorem exists_of_error? {v : JsonValue} {o : Outcome} (h : error? v = some o) :
    ∃ errno, .otherError errno = o := by
  unfold error? at h
  split at h
  · obtain ⟨n, -, h⟩ := Option.map_eq_some_iff.mp h
    exact ⟨_, h⟩
  · cases h

theorem fits_of_ofJson? {v : JsonValue} {o : Outcome} (h : ofJson? v = some o) : o.Fits := by
  unfold ofJson? at h
  split at h
  · cases h
  · split_ifs at h
    · obtain ⟨pid, code, hf, rfl⟩ := exists_of_pair? h
      exact hf
    · obtain ⟨pid, signal, hf, rfl⟩ := exists_of_pair? h
      exact hf
    · obtain ⟨pid, signal, hf, rfl⟩ := exists_of_pair? h
      exact hf
    · exact bare?_eq_some h ▸ trivial
    · exact bare?_eq_some h ▸ trivial
    · obtain ⟨errno, rfl⟩ := exists_of_error? h
      trivial

theorem form_roundTrips : form.RoundTrips :=
  DataForm.roundTrips wellFormed_toJson (fun _ h => ofJson?_toJson h) fun _ _ h => fits_of_ofJson? h

end Outcome

end Wait

/-! ### Dispositions and counters -/

namespace Disposition

def form : DataForm Disposition := ⟨toJson, ofJson?, fun _ => True⟩

theorem form_roundTrips : form.RoundTrips := by
  refine DataForm.roundTrips (fun d => wellFormed_ofText d.tag) ?_ fun _ _ _ => trivial
  intro d _
  show (ofText d.tag).asName?.bind ofTag? = _
  rw [asName?_ofText]
  exact ofTag?_tag d

end Disposition

namespace Watch.Stats

def form : DataForm Stats := ⟨toJson, ofJson?, fun s => ∀ n ∈ s.toList, n < UInt64.size⟩

theorem mapM_asNat64?_ofInt {ns : List Nat} (h : ∀ n ∈ ns, n < UInt64.size) :
    (ns.map fun (n : Nat) => ofInt n).mapM asNat64? = some ns := by
  induction ns with
  | nil => rfl
  | cons n rest ih =>
    obtain ⟨hn, hr⟩ := List.forall_mem_cons.mp h
    rw [List.map_cons, List.mapM_cons, asNat64?_ofInt hn, ih hr]
    rfl

theorem lt_of_mapM_asNat64? {vs : List JsonValue} {ns : List Nat}
    (h : vs.mapM asNat64? = some ns) : ∀ n ∈ ns, n < UInt64.size := by
  induction vs generalizing ns with
  | nil => exact Option.some.inj h ▸ nofun
  | cons v rest ih =>
    rw [List.mapM_cons] at h
    obtain ⟨n, hn, h⟩ := Option.bind_eq_some_iff.mp h
    obtain ⟨left, hl, h⟩ := Option.bind_eq_some_iff.mp h
    obtain rfl := Option.some.inj h
    exact List.forall_mem_cons.mpr ⟨lt_of_asNat64? hn, ih hl⟩

theorem toList_of_ofList? {ns : List Nat} {s : Stats} (h : ofList? ns = some s) :
    s.toList = ns := by
  unfold ofList? at h
  split at h
  · exact Option.some.inj h ▸ rfl
  · cases h

theorem wellFormed_toJson (s : Stats) : s.toJson.WellFormed := by
  apply wellFormed_record
  intro p hp
  obtain ⟨n, -, hv⟩ := List.mem_map.mp (List.of_mem_zip hp).2
  exact hv ▸ wellFormed_ofInt n

theorem ofJson?_toJson {s : Stats} (h : ∀ n ∈ s.toList, n < UInt64.size) :
    ofJson? s.toJson = some s := by
  have hr := asFields?_record keys (s.toList.map fun (n : Nat) => ofInt n) (by decide) rfl
  unfold ofJson? toJson
  rw [hr, Option.bind_eq_bind, Option.bind_some, mapM_asNat64?_ofInt h]
  rfl

theorem lt_of_ofJson? {v : JsonValue} {s : Stats} (h : ofJson? v = some s) :
    ∀ n ∈ s.toList, n < UInt64.size := by
  unfold ofJson? at h
  obtain ⟨vs, -, h⟩ := Option.bind_eq_some_iff.mp h
  obtain ⟨ns, hn, h⟩ := Option.bind_eq_some_iff.mp h
  rw [toList_of_ofList? h]
  exact lt_of_mapM_asNat64? hn

theorem form_roundTrips : form.RoundTrips :=
  DataForm.roundTrips wellFormed_toJson (fun _ h => ofJson?_toJson h) fun _ _ h => lt_of_ofJson? h

end Watch.Stats

/-! ### All five -/

/-- A number that no error of the table has is that of the unknown error. -/
theorem Errno.ofNumber_eq_unknown {n : Int} (h : ∀ e : Errno, (e.code : Int) ≠ n) :
    Errno.ofNumber n = .unknown := by
  unfold Errno.ofNumber
  split
  · next hl => exact absurd (Int.toNat_of_nonneg hl.1) (h ⟨n.toNat, hl.2⟩)
  · rfl

/-- What is written for a failure, an outcome, a status, a disposition or counters reads back, no
two of them are written alike, and what was read from any text reads back.  An error by its number
is read as the error of the table, or as the unknown one. -/
theorem data_reads_back :
    Failure.form.RoundTrips ∧ Wait.Outcome.form.RoundTrips ∧ Wait.ChildStatus.form.RoundTrips ∧
      Disposition.form.RoundTrips ∧ Watch.Stats.form.RoundTrips ∧
      ∀ n : Int, Text.isInt32 n = true →
        Wait.Outcome.form.read?
            (record [("outcome", .ofText "other_error"), ("errno", .ofInt n)]).render =
          some (.otherError (.ofNumber n)) ∧
        ((∀ e : Errno, (e.code : Int) ≠ n) → Errno.ofNumber n = .unknown) := by
  refine ⟨Failure.form_roundTrips, Wait.Outcome.form_roundTrips, Wait.ChildStatus.form_roundTrips,
    Disposition.form_roundTrips, Watch.Stats.form_roundTrips, ?_⟩
  intro n hn
  refine ⟨?_, Errno.ofNumber_eq_unknown⟩
  have hw : (record [("outcome", .ofText "other_error"), ("errno", .ofInt n)]).WellFormed :=
    wellFormed_record (by simp [wellFormed_ofText, wellFormed_ofInt])
  unfold DataForm.read?
  rw [parse?_render hw]
  exact Wait.Outcome.ofJson?_otherError hn

/-- A text of a quote, a backslash, two controls and letters beyond ASCII, the least process number,
the greatest counter, and an error number outside the table. -/
theorem exists_data_read_back :
    let failure : Failure := .os "\"\\\u0001\n" "é😀"
    let outcome : Wait.Outcome := .exited (-2147483648) 2147483647
    let stats : Watch.Stats := ⟨18446744073709551615, 0, 7, 0, 1⟩
    Failure.form.read? (Failure.form.write failure) = some failure ∧
      outcome.Fits ∧ Wait.Outcome.form.read? (Wait.Outcome.form.write outcome) = some outcome ∧
      (∀ n ∈ stats.toList, n < UInt64.size) ∧
      Watch.Stats.form.read? (Watch.Stats.form.write stats) = some stats ∧
      Wait.Outcome.form.read?
          (record [("outcome", .ofText "other_error"), ("errno", .ofInt (-41))]).render =
        some (.otherError .unknown) := by
  intro failure outcome stats
  obtain ⟨hf, ho, -, -, hs, he⟩ := data_reads_back
  have hfits : outcome.Fits := ⟨by decide, by decide⟩
  have hlt : ∀ n ∈ stats.toList, n < UInt64.size := by decide
  obtain ⟨hread, hunknown⟩ := he (-41) (by decide)
  rw [hunknown (by intro e; omega)] at hread
  exact ⟨hf.read?_write failure trivial, hfits, ho.read?_write outcome hfits, hlt,
    hs.read?_write stats hlt, hread⟩

example : Failure.form.write (.unsupported "a\"\u0001é") =
    "\x7b\"error_type\":\"unsupported\",\"details\":\"a\\\"\\u0001é\"\x7d" := by
  decide +kernel

end HostServices
