import HostServices.Failure
import HostServices.Proofs.Json.Number
import Mathlib.Data.List.TakeWhile

/-!
# The grammar of signal names

Which texts name which signal.  Blanks around a text do not count (`Text.Trims`).  What is left is
a decimal literal of 32 bits, and then the number alone decides, or it is a short name or an older
one, with the letters SIG in front or without (`resolve_eq_ok_iff`).  The two never meet: a literal
begins with a sign or a digit, and no short name does, nor does one begin with SIG.
-/

namespace HostServices

/-! ### Blanks around a text -/

namespace Text

/-- `t` is what is left of `s` without the blanks around it. -/
structure Trims (s t : List Char) : Prop where
  around : ∃ before after, s = before ++ t ++ after ∧
    (∀ c ∈ before, isBlank c = true) ∧ ∀ c ∈ after, isBlank c = true
  first : ∀ c ∈ t.head?, isBlank c = false
  last : ∀ c ∈ t.getLast?, isBlank c = false

theorem trimStart_blanks {before s : List Char} (h : ∀ c ∈ before, isBlank c = true) :
    trimStart (before ++ s) = trimStart s := by
  unfold trimStart
  rw [List.dropWhile_append, List.dropWhile_eq_nil_iff.mpr h]
  rfl

theorem trimStart_eq_self {s : List Char} (h : ∀ c ∈ s.head?, isBlank c = false) :
    trimStart s = s := by
  cases s with
  | nil => rfl
  | cons c s => exact List.dropWhile_cons_of_neg (by simp [h c rfl])

theorem exists_blanks_trimStart (s : List Char) :
    ∃ before, s = before ++ trimStart s ∧ ∀ c ∈ before, isBlank c = true :=
  ⟨s.takeWhile isBlank, List.takeWhile_append_dropWhile.symm, fun _ h => List.mem_takeWhile_imp h⟩

theorem head?_trimStart (s : List Char) : ∀ c ∈ (trimStart s).head?, isBlank c = false := by
  intro c hc
  have h := List.head?_dropWhile_not isBlank s
  unfold trimStart at hc
  rw [Option.mem_def] at hc
  rw [hc] at h
  exact h

theorem trims_trim (s : List Char) : Trims s (trim s) := by
  obtain ⟨before, hs, hb⟩ := exists_blanks_trimStart s
  obtain ⟨after, ht, ha⟩ := exists_blanks_trimStart (trimStart s).reverse
  have ht' : trimStart s = trim s ++ after.reverse := by
    have h := congrArg List.reverse ht
    rw [List.reverse_reverse, List.reverse_append] at h
    exact h
  refine ⟨⟨before, after.reverse, ?_, hb, fun c hc => ha c (List.mem_reverse.mp hc)⟩, ?_, ?_⟩
  · rw [List.append_assoc, ← ht']
    exact hs
  · intro c hc
    refine head?_trimStart s c ?_
    rw [ht', List.head?_append, Option.mem_def.mp hc]
    rfl
  · intro c hc
    unfold trim trimEnd at hc
    rw [List.getLast?_reverse] at hc
    exact head?_trimStart _ c hc

theorem Trims.eq_trim {s t : List Char} (h : Trims s t) : t = trim s := by
  obtain ⟨⟨before, after, rfl, hb, ha⟩, hf, hl⟩ := h
  have hr : trimEnd (t ++ after) = t := by
    unfold trimEnd
    rw [List.reverse_append, trimStart_blanks fun c hc => ha c (List.mem_reverse.mp hc),
      trimStart_eq_self, List.reverse_reverse]
    rwa [List.head?_reverse]
  cases t with
  | nil =>
    have hn : trimStart (before ++ [] ++ after) = [] := by
      rw [List.append_nil, trimStart_blanks hb]
      exact List.dropWhile_eq_nil_iff.mpr ha
    unfold trim
    rw [hn]
    rfl
  | cons c t =>
    unfold trim
    have hs : trimStart (c :: t ++ after) = c :: t ++ after := trimStart_eq_self fun d hd => hf d hd
    rw [List.append_assoc, trimStart_blanks hb, hs, hr]

theorem trims_of_unblank (before t after : List Char) (hb : ∀ c ∈ before, isBlank c = true)
    (ha : ∀ c ∈ after, isBlank c = true) (ht : ∀ c ∈ t, isBlank c = false) :
    Trims (before ++ t ++ after) t where
  around := ⟨before, after, rfl, hb, ha⟩
  first c hc := ht c (List.mem_of_mem_head? hc)
  last c hc := ht c (List.mem_of_getLast? hc)

theorem unblank_of_all {t : List Char} (h : (t.all fun c => !isBlank c) = true) :
    ∀ c ∈ t, isBlank c = false := by
  simpa using h

/-! ### Decimal literals -/

def spellDigits (ds : List Nat) : List Char := ds.map digit

/-- A decimal literal of a number: digits, zeros in front included, behind at most one sign. -/
inductive IsDecimal : List Char → Int → Prop
  | unsigned {ds : List Nat} (h : NumberLiteral.AreDigits ds) :
    IsDecimal (spellDigits ds) (Nat.ofDigits 10 ds.reverse : Nat)
  | plus {ds : List Nat} (h : NumberLiteral.AreDigits ds) :
    IsDecimal ('+' :: spellDigits ds) (Nat.ofDigits 10 ds.reverse : Nat)
  | minus {ds : List Nat} (h : NumberLiteral.AreDigits ds) :
    IsDecimal ('-' :: spellDigits ds) (-(Nat.ofDigits 10 ds.reverse : Nat))

theorem digitValue?_eq_some_iff {c : Char} {d : Nat} :
    digitValue? c = some d ↔ d < 10 ∧ c = digit d := by
  constructor
  · intro h
    unfold digitValue? at h
    split at h
    · next hc =>
      have hd := Option.some.inj h
      refine ⟨by omega, ?_⟩
      unfold digit
      rw [if_pos (by omega), show 48 + d = c.toNat by omega, Char.ofNat_toNat]
    · cases h
  · rintro ⟨hd, rfl⟩
    exact digitValue?_digit hd

theorem readDigits?_eq_some_iff {s : List Char} {acc n : Nat} :
    readDigits? acc s = some n ↔
      ∃ ds, (∀ d ∈ ds, d < 10) ∧ s = spellDigits ds ∧ n = ds.foldl (fun n d => n * 10 + d) acc := by
  induction s generalizing acc with
  | nil =>
    constructor
    · intro h
      exact ⟨[], nofun, rfl, (Option.some.inj h).symm⟩
    · rintro ⟨ds, -, hs, rfl⟩
      cases List.map_eq_nil_iff.mp hs.symm
      rfl
  | cons c s ih =>
    rw [readDigits?, Option.bind_eq_some_iff]
    constructor
    · rintro ⟨d, hd, h⟩
      obtain ⟨hlt, rfl⟩ := digitValue?_eq_some_iff.mp hd
      obtain ⟨ds, hds, rfl, rfl⟩ := ih.mp h
      exact ⟨d :: ds, List.forall_mem_cons.mpr ⟨hlt, hds⟩, rfl, rfl⟩
    · rintro ⟨ds, hds, hs, rfl⟩
      cases ds with
      | nil => cases hs
      | cons d ds =>
        obtain ⟨hd, hds⟩ := List.forall_mem_cons.mp hds
        cases hs
        exact ⟨d, digitValue?_digit hd, ih.mpr ⟨ds, hds, rfl, rfl⟩⟩

theorem readNatural?_eq_some_iff {s : List Char} {n : Nat} :
    readNatural? s = some n ↔
      ∃ ds, NumberLiteral.AreDigits ds ∧ s = spellDigits ds ∧ n = Nat.ofDigits 10 ds.reverse := by
  have hv (ds : List Nat) : ds.foldl (fun n d => n * 10 + d) 0 = Nat.ofDigits 10 ds.reverse := by
    rw [← NumberLiteral.digitsValue_reverse, List.reverse_reverse]
    rfl
  cases s with
  | nil =>
    refine ⟨nofun, ?_⟩
    rintro ⟨ds, h, hs, -⟩
    exact (h.ne_nil (List.map_eq_nil_iff.mp hs.symm)).elim
  | cons c s =>
    rw [readNatural?, readDigits?_eq_some_iff]
    constructor
    · rintro ⟨ds, hds, hs, rfl⟩
      refine ⟨ds, ⟨?_, hds⟩, hs, hv ds⟩
      rintro rfl
      cases hs
    · rintro ⟨ds, h, hs, rfl⟩
      exact ⟨ds, h.lt_ten, hs, (hv ds).symm⟩

theorem head_spellDigits {ds : List Nat} (h : NumberLiteral.AreDigits ds) :
    ∃ d rest, d < 10 ∧ spellDigits ds = digit d :: rest := by
  cases ds with
  | nil => exact (h.ne_nil rfl).elim
  | cons d ds => exact ⟨d, _, h.lt_ten d List.mem_cons_self, rfl⟩

theorem readInteger?_eq_some_iff {t : List Char} {n : Int} :
    readInteger? t = some n ↔ IsDecimal t n := by
  constructor
  · intro h
    unfold readInteger? at h
    split at h
    · obtain ⟨m, hm, rfl⟩ := Option.map_eq_some_iff.mp h
      obtain ⟨ds, hds, rfl, rfl⟩ := readNatural?_eq_some_iff.mp hm
      exact .plus hds
    · obtain ⟨m, hm, rfl⟩ := Option.map_eq_some_iff.mp h
      obtain ⟨ds, hds, rfl, rfl⟩ := readNatural?_eq_some_iff.mp hm
      exact .minus hds
    · obtain ⟨m, hm, rfl⟩ := Option.map_eq_some_iff.mp h
      obtain ⟨ds, hds, rfl, rfl⟩ := readNatural?_eq_some_iff.mp hm
      exact .unsigned hds
  · intro h
    cases h with
    | @unsigned ds hds =>
      have hr := readNatural?_eq_some_iff.mpr ⟨ds, hds, rfl, rfl⟩
      obtain ⟨d, rest, hd, hs⟩ := head_spellDigits hds
      obtain ⟨hminus, hplus⟩ := NumberLiteral.digit_ne hd
      rw [hs] at hr ⊢
      unfold readInteger?
      split
      · next heq => exact (hplus (List.cons.inj heq).1).elim
      · next heq => exact (hminus (List.cons.inj heq).1).elim
      · rw [hr]
        rfl
    | plus hds =>
      rw [readInteger?, readNatural?_eq_some_iff.mpr ⟨_, hds, rfl, rfl⟩]
      rfl
    | minus hds =>
      rw [readInteger?, readNatural?_eq_some_iff.mpr ⟨_, hds, rfl, rfl⟩]
      rfl

theorem IsDecimal.unique {t : List Char} {m n : Int} (hm : IsDecimal t m) (hn : IsDecimal t n) :
    m = n := by
  rw [← readInteger?_eq_some_iff] at hm hn
  exact Option.some.inj (hm.symm.trans hn)

/-- A literal begins with no letter. -/
theorem IsDecimal.head_isAlpha {t : List Char} {n : Int} (h : IsDecimal t n) :
    ∃ c rest, t = c :: rest ∧ c.isAlpha = false := by
  cases h with
  | unsigned h =>
    obtain ⟨d, rest, hd, hs⟩ := head_spellDigits h
    have : ∀ d : Fin 10, (digit d).isAlpha = false := by decide
    exact ⟨digit d, rest, hs, this ⟨d, hd⟩⟩
  | plus => exact ⟨'+', _, rfl, rfl⟩
  | minus => exact ⟨'-', _, rfl, rfl⟩

theorem isBlank_of_mem_spellDigits {ds : List Nat} (h : NumberLiteral.AreDigits ds) :
    ∀ c ∈ spellDigits ds, isBlank c = false := by
  intro c hc
  obtain ⟨d, hd, rfl⟩ := List.mem_map.mp hc
  have : ∀ d : Fin 10, isBlank (digit d) = false := by decide
  exact this ⟨d, h.lt_ten d hd⟩

theorem IsDecimal.unblank {t : List Char} {n : Int} (h : IsDecimal t n) :
    ∀ c ∈ t, isBlank c = false := by
  cases h with
  | unsigned h => exact isBlank_of_mem_spellDigits h
  | plus h => exact List.forall_mem_cons.mpr ⟨rfl, isBlank_of_mem_spellDigits h⟩
  | minus h => exact List.forall_mem_cons.mpr ⟨rfl, isBlank_of_mem_spellDigits h⟩

end Text

/-! ### Short names -/

namespace Signal

/-- A short name of a signal, or an older one. -/
inductive IsShortName : List Char → Signal → Prop
  | own (s : Signal) : IsShortName s.shortName.toList s
  | cld : IsShortName "CLD".toList .chld
  | iot : IsShortName "IOT".toList .abrt
  | poll : IsShortName "POLL".toList .io

/-- A short name, with the letters SIG in front or without. -/
def Names (t : List Char) (s : Signal) : Prop :=
  IsShortName t s ∨ ∃ short, t = "SIG".toList ++ short ∧ IsShortName short s

theorem ofShortName?_eq_some_iff {t : List Char} {s : Signal} :
    ofShortName? t = some s ↔ t = s.shortName.toList := by
  constructor
  · intro h
    unfold ofShortName? at h
    have hs := List.find?_some h
    exact (of_decide_eq_true hs).symm
  · rintro rfl
    exact ofShortName?_shortName s

theorem shortName_injective {s t : Signal} (h : s.shortName.toList = t.shortName.toList) : s = t := by
  have hs := ofShortName?_shortName s
  rw [h, ofShortName?_shortName] at hs
  exact (Option.some.inj hs).symm

/-- No short name is one of the older ones. -/
theorem canonical_shortName (s : Signal) : canonical s.shortName.toList = s.shortName.toList := by
  cases s <;> decide

theorem canonical_eq_shortName_iff {t : List Char} {s : Signal} :
    canonical t = s.shortName.toList ↔ IsShortName t s := by
  constructor
  · intro h
    unfold canonical at h
    split at h
    · next ht => exact ht ▸ shortName_injective (t := .chld) h.symm ▸ .cld
    · split at h
      · next ht => exact ht ▸ shortName_injective (t := .abrt) h.symm ▸ .iot
      · split at h
        · next ht => exact ht ▸ shortName_injective (t := .io) h.symm ▸ .poll
        · exact h ▸ .own s
  · intro h
    cases h with
    | own => exact canonical_shortName s
    | cld => rfl
    | iot => rfl
    | poll => rfl

/-- A short name begins with a letter, and not with the letters SIG. -/
theorem IsShortName.plain {t : List Char} {s : Signal} (h : IsShortName t s) :
    (∃ c rest, t = c :: rest ∧ c.isAlpha = true) ∧ ¬ "SIG".toList <+: t := by
  cases h with
  | own => cases s <;> exact ⟨⟨_, _, rfl, rfl⟩, by decide⟩
  | cld => exact ⟨⟨_, _, rfl, rfl⟩, by decide⟩
  | iot => exact ⟨⟨_, _, rfl, rfl⟩, by decide⟩
  | poll => exact ⟨⟨_, _, rfl, rfl⟩, by decide⟩

/-! ### The letters SIG -/

theorem withoutSig_append (t : List Char) : withoutSig ("SIG".toList ++ t) = t := rfl

theorem withoutSig_of_not {t : List Char} (h : ¬ "SIG".toList <+: t) : withoutSig t = t := by
  unfold withoutSig
  split
  · next rest => exact (h ⟨rest, rfl⟩).elim
  · rfl

theorem names_iff {t : List Char} {s : Signal} : Names t s ↔ IsShortName (withoutSig t) s := by
  by_cases h : "SIG".toList <+: t
  · obtain ⟨short, rfl⟩ := h
    rw [withoutSig_append]
    constructor
    · rintro (h | ⟨other, ht, h⟩)
      · exact (h.plain.2 ⟨short, rfl⟩).elim
      · rwa [List.append_cancel_left ht]
    · exact fun h => .inr ⟨short, rfl, h⟩
  · rw [withoutSig_of_not h]
    constructor
    · rintro (ht | ⟨short, rfl, -⟩)
      · exact ht
      · exact (h ⟨short, rfl⟩).elim
    · exact .inl

/-- A literal is no name: it begins with no letter. -/
theorem Names.not_isDecimal {t : List Char} {s : Signal} {n : Int} (h : Names t s) :
    ¬ Text.IsDecimal t n := by
  intro hn
  obtain ⟨c, rest, rfl, hc⟩ := hn.head_isAlpha
  rcases h with h | ⟨short, ht, -⟩
  · obtain ⟨⟨d, rest', ht, hd⟩, -⟩ := h.plain
    cases ht
    rw [hc] at hd
    cases hd
  · cases ht
    cases hc

/-! ### Resolving -/

def IsLiteral (t : List Char) (n : Int) : Prop :=
  Text.IsDecimal t n ∧ -2 ^ 31 ≤ n ∧ n < 2 ^ 31

theorem readInt32?_eq_some_iff {t : List Char} {n : Int} :
    Text.readInt32? t = some n ↔ IsLiteral t n := by
  unfold Text.readInt32? IsLiteral
  rw [Option.filter_eq_some_iff, Text.readInteger?_eq_some_iff]
  refine and_congr_right fun _ => ?_
  unfold Text.isInt32
  rw [Bool.and_eq_true, decide_eq_true_iff, decide_eq_true_iff]
  omega

theorem ofNumber_eq_ok_iff {n : Int} {s : Signal} : ofNumber n = .ok s ↔ n = s.number := by
  rw [← ofNumber?_eq_some_iff]
  unfold ofNumber
  cases ofNumber? n with
  | none => exact ⟨nofun, nofun⟩
  | some u => exact ⟨fun h => by cases h; rfl, fun h => by cases h; rfl⟩

/-- What the letters behind SIG resolve to. -/
def resolveShort (short : List Char) : Except NameError Signal :=
  match ofShortName? (canonical short) with
  | some s => .ok s
  | none => .error (.noSuchName (String.ofList ("SIG".toList ++ canonical short)))

theorem resolveShort_eq_ok_iff {short : List Char} {s : Signal} :
    resolveShort short = .ok s ↔ IsShortName short s := by
  rw [← canonical_eq_shortName_iff, ← ofShortName?_eq_some_iff]
  unfold resolveShort
  cases ofShortName? (canonical short) with
  | none => exact ⟨nofun, nofun⟩
  | some u => exact ⟨fun h => by cases h; rfl, fun h => by cases h; rfl⟩

section Resolve

variable {name : String} {t : List Char}

theorem resolve_of_isLiteral (ht : Text.Trims name.toList t) {n : Int} (h : IsLiteral t n) :
    resolve name = ofNumber n := by
  have hn : Text.readInt32? (Text.trim name.toList) = some n :=
    readInt32?_eq_some_iff.mpr (ht.eq_trim ▸ h)
  unfold resolve
  simp only
  rw [hn]

theorem resolve_of_not_isLiteral (ht : Text.Trims name.toList t) (h : ¬ ∃ n, IsLiteral t n) :
    resolve name = resolveShort (withoutSig t) := by
  have hn : Text.readInt32? t = none :=
    Option.eq_none_iff_forall_ne_some.mpr fun n hn => h ⟨n, readInt32?_eq_some_iff.mp hn⟩
  simp only [resolve, ← ht.eq_trim, hn]
  rfl

/-- A text between blanks names a signal as a literal, by its number, or else as a name. -/
theorem resolve_eq_ok_iff (ht : Text.Trims name.toList t) {s : Signal} :
    resolve name = .ok s ↔ IsLiteral t s.number ∨ (¬ ∃ n, IsLiteral t n) ∧ Names t s := by
  by_cases h : ∃ n, IsLiteral t n
  · obtain ⟨n, hn⟩ := h
    rw [resolve_of_isLiteral ht hn, ofNumber_eq_ok_iff]
    constructor
    · rintro rfl
      exact .inl hn
    · rintro (h | ⟨h, -⟩)
      · exact hn.1.unique h.1
      · exact (h ⟨n, hn⟩).elim
  · rw [resolve_of_not_isLiteral ht h, resolveShort_eq_ok_iff, ← names_iff]
    constructor
    · exact fun hs => .inr ⟨h, hs⟩
    · rintro (hs | ⟨-, hs⟩)
      · exact (h ⟨_, hs⟩).elim
      · exact hs

/-- The letters SIG in front of a name that stands without them change nothing. -/
theorem resolve_sig (ht : Text.Trims name.toList name.toList)
    (hl : ∀ n, ¬ Text.IsDecimal name.toList n) (hs : ¬ "SIG".toList <+: name.toList) :
    resolve ("SIG" ++ name) = resolve name := by
  have ht' : Text.Trims ("SIG" ++ name).toList ("SIG".toList ++ name.toList) := by
    rw [String.toList_append]
    refine ⟨⟨[], [], by simp, nofun, nofun⟩, ?_, ?_⟩
    · intro c hc
      cases hc
      rfl
    · intro c hc
      rw [List.getLast?_append, Option.mem_def, Option.or_eq_some_iff] at hc
      rcases hc with hc | ⟨-, hc⟩
      · exact ht.last c hc
      · cases hc
        rfl
  have hl' : ¬ ∃ n, IsLiteral ("SIG".toList ++ name.toList) n := by
    rintro ⟨n, hn, -⟩
    obtain ⟨c, rest, hc, ha⟩ := hn.head_isAlpha
    cases hc
    cases ha
  rw [resolve_of_not_isLiteral ht' hl', withoutSig_append,
    resolve_of_not_isLiteral ht fun ⟨n, hn⟩ => hl n hn.1, withoutSig_of_not hs]

end Resolve

/-- The spellings of a signal: its name, its short name, and every decimal literal of its number. -/
inductive Spells : List Char → Signal → Prop
  | name (s : Signal) : Spells s.name.toList s
  | shortName (s : Signal) : Spells s.shortName.toList s
  | number {t : List Char} {s : Signal} (h : Text.IsDecimal t s.number) : Spells t s

theorem Spells.unblank {t : List Char} {s : Signal} (h : Spells t s) :
    ∀ c ∈ t, Text.isBlank c = false := by
  cases h with
  | name => cases s <;> exact Text.unblank_of_all (by decide)
  | shortName => cases s <;> exact Text.unblank_of_all (by decide)
  | number h => exact h.unblank

theorem Spells.resolve_eq {name : String} {t : List Char} {s : Signal} (h : Spells t s)
    (ht : Text.Trims name.toList t) : resolve name = .ok s := by
  rw [resolve_eq_ok_iff ht]
  have named (hs : Names t s) : IsLiteral t s.number ∨ (¬ ∃ n, IsLiteral t n) ∧ Names t s :=
    .inr ⟨fun ⟨_, hn⟩ => hs.not_isDecimal hn.1, hs⟩
  cases h with
  | name => exact named (.inr ⟨_, String.toList_append, .own s⟩)
  | shortName => exact named (.inl (.own s))
  | number h =>
    have := s.number_le
    exact .inl ⟨h, by omega, by omega⟩

/-- What looks like a name or a number and is refused: SIG twice, SIG in front of a number, and a
number that no signal has. -/
inductive Misspelt : List Char → Prop
  | twice (t : List Char) : Misspelt ("SIGSIG".toList ++ t)
  | number {t : List Char} {n : Int} (h : Text.IsDecimal t n) : Misspelt ("SIG".toList ++ t)
  | range {t : List Char} {n : Int} (h : Text.IsDecimal t n) (hn : n < 1 ∨ 31 < n) : Misspelt t

theorem Misspelt.resolve_ne {name : String} {t : List Char} (h : Misspelt t)
    (ht : Text.Trims name.toList t) (s : Signal) : resolve name ≠ .ok s := by
  rw [Ne, resolve_eq_ok_iff ht]
  have := s.number_pos
  have := s.number_le
  cases h with
  | twice t =>
    rintro (hn | ⟨-, hs⟩)
    · obtain ⟨c, rest, hc, ha⟩ := hn.1.head_isAlpha
      cases hc
      cases ha
    · exact (names_iff.mp hs).plain.2 ⟨t, rfl⟩
  | number h =>
    rintro (hn | ⟨-, hs⟩)
    · obtain ⟨c, rest, hc, ha⟩ := hn.1.head_isAlpha
      cases hc
      cases ha
    · exact Names.not_isDecimal (.inl (names_iff.mp hs)) h
  | range h hn =>
    rintro (hl | ⟨-, hs⟩)
    · have := h.unique hl.1
      omega
    · exact hs.not_isDecimal h

/-- What is left of a text between its blanks decides which signal it names, and what names none is
an argument error.  Every spelling of a signal resolves to it between any blanks. -/
theorem resolve_grammar (name : String) :
    (∃! t, Text.Trims name.toList t) ∧
    (∀ t, Text.Trims name.toList t →
      (∀ s, resolve name = .ok s ↔ IsLiteral t s.number ∨ (¬ ∃ n, IsLiteral t n) ∧ Names t s) ∧
      (Misspelt t → ∀ s, resolve name ≠ .ok s) ∧
      (name.toList = t → (∀ n, ¬ Text.IsDecimal t n) → ¬ "SIG".toList <+: t →
        resolve ("SIG" ++ name) = resolve name)) ∧
    (∀ before t after s, (∀ c ∈ before, Text.isBlank c = true) →
      (∀ c ∈ after, Text.isBlank c = true) → Spells t s →
      resolve (String.ofList (before ++ t ++ after)) = .ok s) ∧
    ((∀ s, resolve name ≠ .ok s) → ∃ e message, resolve name = .error e ∧
      Failure.ofName e = .invalidSignal message ∧ (Failure.ofName e).isArgument = true) := by
  refine ⟨⟨_, Text.trims_trim _, fun t ht => ht.eq_trim⟩, fun t ht => ⟨?_, ?_, ?_⟩, ?_, ?_⟩
  · exact fun s => resolve_eq_ok_iff ht
  · exact fun h s => h.resolve_ne ht s
  · rintro rfl hl hs
    exact resolve_sig ht hl hs
  · intro before t after s hb ha h
    refine h.resolve_eq ?_
    rw [String.toList_ofList]
    exact Text.trims_of_unblank before t after hb ha h.unblank
  · intro h
    cases hr : resolve name with
    | ok s => exact (h s hr).elim
    | error e => exact ⟨e, _, rfl, rfl, rfl⟩

/-- A literal with a sign and zeros in front stands between blanks, an older short name takes SIG
once, and the same name is refused with SIG twice. -/
theorem exists_spelling_between_blanks :
    let blanks : List Char := ['\u2003', '\n']
    let literal : List Char := "+0015".toList
    (∀ c ∈ blanks, Text.isBlank c = true) ∧ Spells literal .term ∧
      resolve (String.ofList (blanks ++ literal ++ blanks)) = .ok .term ∧
      Text.Trims "POLL".toList "POLL".toList ∧ Names "POLL".toList .io ∧
      resolve "POLL" = .ok .io ∧ resolve ("SIG" ++ "POLL") = .ok .io ∧
      Text.Trims "SIGSIGPOLL".toList "SIGSIGPOLL".toList ∧ Misspelt "SIGSIGPOLL".toList ∧
      resolve "SIGSIGPOLL" ≠ .ok .io := by
  intro blanks literal
  have hb : ∀ c ∈ blanks, Text.isBlank c = true := List.all_eq_true.mp (by decide)
  have hl : Text.IsDecimal literal 15 := @Text.IsDecimal.plus [0, 0, 1, 5] ⟨by decide, by decide⟩
  have hp : Text.Trims "POLL".toList "POLL".toList :=
    Text.trims_of_unblank [] "POLL".toList [] nofun nofun (Text.unblank_of_all (by decide))
  have hd : Text.Trims "SIGSIGPOLL".toList "SIGSIGPOLL".toList :=
    Text.trims_of_unblank [] "SIGSIGPOLL".toList [] nofun nofun (Text.unblank_of_all (by decide))
  have hn : Names "POLL".toList .io := .inl .poll
  have hm : Misspelt "SIGSIGPOLL".toList := .twice "POLL".toList
  obtain ⟨-, hread, hspell, -⟩ := resolve_grammar "POLL"
  obtain ⟨hok, -, hsig⟩ := hread _ hp
  have hpoll : resolve "POLL" = .ok .io :=
    (hok .io).mpr (.inr ⟨fun ⟨_, h⟩ => hn.not_isDecimal h.1, hn⟩)
  refine ⟨hb, .number hl, hspell _ _ _ _ hb hb (.number hl), hp, hn, hpoll, ?_, hd, hm, ?_⟩
  · exact (hsig rfl (fun _ => hn.not_isDecimal) (by decide)).trans hpoll
  · exact ((resolve_grammar "SIGSIGPOLL").2.1 _ hd).2.1 hm .io

end Signal

end HostServices
