import HostServices.Json.Number
import Mathlib.Data.Nat.Digits.Lemmas

/-!
# Number literals read back

A well-formed literal that is written in front of something that cannot go on with it is scanned
again, with nothing lost (`scan_write`).  The literal of an integer is well formed and stands for
the integer (`toInt?_ofInt`): its digits are those of `Nat.digits`, the most significant first.
-/

namespace HostServices

/-! ### Decimal digits of a number -/

namespace Text

def decimalDigits (n : Nat) : List Nat := if n = 0 then [0] else (Nat.digits 10 n).reverse

theorem digitsOnto_eq (n : Nat) (rest : List Char) :
    digitsOnto 10 n rest = (Nat.digits 10 n).reverse.map digit ++ rest := by
  induction n using Nat.strongRecOn generalizing rest with
  | _ n ih =>
    unfold digitsOnto
    by_cases hn : n = 0
    · rw [dif_pos (.inl hn), hn, Nat.digits_zero]
      rfl
    · rw [dif_neg (by omega), ih (n / 10) (by omega),
        Nat.digits_def' (by omega) (Nat.pos_of_ne_zero hn), List.reverse_cons, List.map_append,
        List.append_assoc]
      rfl

theorem writeNatural_eq (n : Nat) : writeNatural n = (decimalDigits n).map digit := by
  unfold writeNatural writeNumeral decimalDigits
  by_cases hn : n = 0
  · rw [if_pos hn, if_pos hn]
    rfl
  · rw [if_neg hn, if_neg hn, digitsOnto_eq, List.append_nil]

end Text

namespace NumberLiteral

/-! ### Digits -/

/-- What follows goes on with no digit. -/
def EndsDigits (rest : List Char) : Prop := ∀ c ∈ rest.head?, Text.digitValue? c = none

structure AreDigits (ds : List Nat) : Prop where
  ne_nil : ds ≠ []
  lt_ten : ∀ d ∈ ds, d < 10

theorem scanDigits_writeDigits {ds : List Nat} {rest : List Char} (hd : ∀ d ∈ ds, d < 10)
    (hr : EndsDigits rest) : scanDigits (writeDigits ds ++ rest) = (ds, rest) := by
  induction ds with
  | nil =>
    cases rest with
    | nil => rfl
    | cons c rest =>
      show scanDigits (c :: rest) = _
      rw [scanDigits, hr c rfl]
  | cons d ds ih =>
    obtain ⟨hd, hds⟩ := List.forall_mem_cons.mp hd
    show scanDigits (Text.digit d :: (writeDigits ds ++ rest)) = _
    rw [scanDigits, Text.digitValue?_digit hd, ih hds]

/-! ### Literals -/

/-- A literal that can be written: it has digits where it needs them, and none behind a leading
zero. -/
structure WellFormed (n : NumberLiteral) : Prop where
  whole : AreDigits n.whole
  leading : n.whole.head? = some 0 → n.whole = [0]
  fraction : ∀ ds ∈ n.fraction, AreDigits ds
  exponent : ∀ e ∈ n.exponent, AreDigits e.digits

/-- What follows goes on with nothing that a number literal could hold. -/
def Ends (rest : List Char) : Prop :=
  EndsDigits rest ∧ ∀ c ∈ rest.head?, c ≠ '.' ∧ c ≠ 'e' ∧ c ≠ 'E'

variable {n : NumberLiteral} {rest : List Char}

theorem scanWhole_writeDigits {ds : List Nat} (hd : AreDigits ds)
    (hz : ds.head? = some 0 → ds = [0]) (hr : EndsDigits rest) :
    scanWhole (writeDigits ds ++ rest) = some (ds, rest) := by
  unfold scanWhole
  rw [scanDigits_writeDigits hd.lt_ten hr]
  split
  · next h => exact absurd (Prod.mk.inj h).1 hd.ne_nil
  · next h =>
    obtain ⟨rfl, -⟩ := Prod.mk.inj h
    cases hz rfl
  · next h => rw [← (Prod.mk.inj h).1, ← (Prod.mk.inj h).2]

theorem scanFraction_writeFraction {fraction : Option (List Nat)}
    (hd : ∀ ds ∈ fraction, AreDigits ds) (hr : EndsDigits rest)
    (hp : ∀ c ∈ rest.head?, c ≠ '.') :
    scanFraction (writeFraction fraction ++ rest) = some (fraction, rest) := by
  cases fraction with
  | none =>
    show scanFraction rest = _
    unfold scanFraction
    split
    · exact absurd rfl (hp '.' rfl)
    · rfl
  | some ds =>
    have h := hd ds rfl
    show scanFraction ('.' :: (writeDigits ds ++ rest)) = _
    rw [scanFraction, scanDigits_writeDigits h.lt_ten hr]
    split
    · next h' => exact absurd (Prod.mk.inj h').1 h.ne_nil
    · next h' => rw [← (Prod.mk.inj h').1, ← (Prod.mk.inj h').2]

theorem digit_ne {d : Nat} (h : d < 10) :
    Text.digit d ≠ '-' ∧ Text.digit d ≠ '+' := by
  have : ∀ d : Fin 10, Text.digit d ≠ '-' ∧ Text.digit d ≠ '+' := by decide
  exact this ⟨d, h⟩

theorem exists_writeDigits {ds : List Nat} (h : AreDigits ds) :
    ∃ d < 10, ∃ tail, writeDigits ds = Text.digit d :: tail := by
  cases ds with
  | nil => exact absurd rfl h.ne_nil
  | cons d ds => exact ⟨d, h.lt_ten d List.mem_cons_self, writeDigits ds, rfl⟩

theorem scanSign_writeSign {sign : Option Bool} {ds : List Nat} (h : AreDigits ds) :
    scanSign (writeSign sign ++ (writeDigits ds ++ rest)) = (sign, writeDigits ds ++ rest) := by
  obtain ⟨d, hd, tail, ht⟩ := exists_writeDigits h
  rw [ht]
  obtain _ | _ | _ := sign
  · show scanSign (Text.digit d :: (tail ++ rest)) = _
    unfold scanSign
    split
    · next hc => exact absurd (List.cons.inj hc).1 (digit_ne hd).2
    · next hc => exact absurd (List.cons.inj hc).1 (digit_ne hd).1
    · rfl
  · rfl
  · rfl

theorem scanExponent_writeExponent {exponent : Option ExponentPart}
    (hd : ∀ e ∈ exponent, AreDigits e.digits) (hr : Ends rest) :
    scanExponent (writeExponent exponent ++ rest) = some (exponent, rest) := by
  cases exponent with
  | none =>
    cases rest with
    | nil => rfl
    | cons c rest =>
      obtain ⟨-, he, hE⟩ := hr.2 c rfl
      show scanExponent (c :: rest) = _
      rw [scanExponent, if_neg (not_or.mpr ⟨he, hE⟩)]
  | some e =>
    have h := hd e rfl
    show scanExponent ('e' :: ((writeSign e.sign ++ writeDigits e.digits) ++ rest)) = _
    rw [scanExponent, if_pos (.inl rfl), List.append_assoc, scanSign_writeSign h]
    simp only
    rw [scanDigits_writeDigits h.lt_ten hr.1]
    split
    · next h' => exact absurd (Prod.mk.inj h').1 h.ne_nil
    · next h' => rw [← (Prod.mk.inj h').1, ← (Prod.mk.inj h').2]

/-- An exponent goes on with no digit and with no point. -/
theorem head?_writeExponent (e : Option ExponentPart) (hr : Ends rest) :
    ∀ c ∈ (writeExponent e ++ rest).head?, Text.digitValue? c = none ∧ c ≠ '.' := by
  intro c hc
  cases e with
  | none => exact ⟨hr.1 c hc, (hr.2 c hc).1⟩
  | some e =>
    obtain rfl : 'e' = c := Option.some.inj hc
    exact ⟨rfl, by decide⟩

/-- A fraction goes on with no digit. -/
theorem head?_writeFraction (f : Option (List Nat)) (hr : EndsDigits rest) :
    EndsDigits (writeFraction f ++ rest) := by
  intro c hc
  cases f with
  | none => exact hr c hc
  | some ds =>
    obtain rfl : '.' = c := Option.some.inj hc
    rfl

theorem scanUnsigned_write (h : n.WellFormed) (hr : Ends rest) (negative : Bool) :
    scanUnsigned negative
        (writeDigits n.whole ++ (writeFraction n.fraction ++ (writeExponent n.exponent ++ rest))) =
      some ({ n with negative }, rest) := by
  have he := head?_writeExponent n.exponent hr
  have hf := head?_writeFraction n.fraction fun c hc => (he c hc).1
  unfold scanUnsigned
  rw [scanWhole_writeDigits h.whole h.leading hf]
  show (scanFraction _ >>= _) = _
  rw [scanFraction_writeFraction h.fraction (fun c hc => (he c hc).1) fun c hc => (he c hc).2]
  show (scanExponent _ >>= _) = _
  rw [scanExponent_writeExponent h.exponent hr]
  rfl

theorem scan_of_ne {c : Char} (hc : c ≠ '-') (s : List Char) :
    scan (c :: s) = scanUnsigned false (c :: s) := by
  unfold scan
  split
  · next h => exact absurd (List.cons.inj h).1 hc
  · rfl

/-- A literal reads back as it was written. -/
theorem scan_write (h : n.WellFormed) (hr : Ends rest) :
    scan (n.write ++ rest) = some (n, rest) := by
  obtain ⟨negative, whole, fraction, exponent⟩ := n
  have hs := scanUnsigned_write h hr negative
  unfold write
  rw [List.append_assoc, List.append_assoc, List.append_assoc]
  cases negative with
  | true => exact hs
  | false =>
    -- No sign is written, and the first digit is not taken for one.
    obtain ⟨d, hd, tail, ht⟩ := exists_writeDigits h.whole
    rw [ht] at hs ⊢
    exact (scan_of_ne (digit_ne hd).1 _).trans hs

/-- A literal begins with a minus or with a digit. -/
theorem exists_write (h : n.WellFormed) :
    ∃ c tail, n.write = c :: tail ∧ (c = '-' ∨ ∃ d < 10, c = Text.digit d) := by
  unfold write
  cases n.negative with
  | true => exact ⟨'-', _, rfl, .inl rfl⟩
  | false =>
    obtain ⟨d, hd, tail, ht⟩ := exists_writeDigits h.whole
    rw [ht]
    exact ⟨Text.digit d, _, rfl, .inr ⟨d, hd, rfl⟩⟩

/-! ### Integers -/

theorem digitsValue_reverse (ds : List Nat) : digitsValue ds.reverse = Nat.ofDigits 10 ds := by
  unfold digitsValue
  rw [List.foldl_reverse, Nat.ofDigits_eq_foldr]
  congr 1
  funext d n
  exact Nat.add_comm .. |>.trans (by rw [Nat.mul_comm]; rfl)

theorem digitsValue_decimalDigits (n : Nat) : digitsValue (Text.decimalDigits n) = n := by
  unfold Text.decimalDigits
  by_cases hn : n = 0
  · rw [if_pos hn, hn]
    rfl
  · rw [if_neg hn, digitsValue_reverse, Nat.ofDigits_digits]

theorem areDigits_decimalDigits (n : Nat) : AreDigits (Text.decimalDigits n) := by
  unfold Text.decimalDigits
  by_cases hn : n = 0
  · rw [if_pos hn]
    exact ⟨by decide, by decide⟩
  · rw [if_neg hn]
    refine ⟨fun h => Nat.digits_ne_nil_iff_ne_zero.mpr hn (List.reverse_eq_nil_iff.mp h), ?_⟩
    intro d hd
    exact Nat.digits_lt_base (by omega) (List.mem_reverse.mp hd)

theorem head?_decimalDigits {n : Nat} (h : (Text.decimalDigits n).head? = some 0) :
    Text.decimalDigits n = [0] := by
  unfold Text.decimalDigits at h ⊢
  by_cases hn : n = 0
  · rw [if_pos hn]
  · rw [if_neg hn, List.head?_reverse] at h
    have hne : Nat.digits 10 n ≠ [] := Nat.digits_ne_nil_iff_ne_zero.mpr hn
    rw [List.getLast?_eq_some_getLast hne] at h
    exact absurd (Option.some.inj h) (Nat.getLast_digit_ne_zero 10 hn)

theorem whole_ofInt (n : Int) : (ofInt n).whole = Text.decimalDigits n.natAbs := by
  have hr : EndsDigits [] := fun _ => nofun
  have h := scanDigits_writeDigits (areDigits_decimalDigits n.natAbs).lt_ten hr
  show (scanDigits (Text.writeNatural n.natAbs)).1 = _
  rw [List.append_nil] at h
  rw [Text.writeNatural_eq]
  exact congrArg Prod.fst h

theorem wellFormed_ofInt (n : Int) : (ofInt n).WellFormed where
  whole := by
    rw [whole_ofInt]
    exact areDigits_decimalDigits _
  leading := by
    rw [whole_ofInt]
    exact head?_decimalDigits
  fraction _ h := by cases h
  exponent _ h := by cases h

/-- The literal of an integer stands for it. -/
@[simp] theorem toInt?_ofInt (n : Int) : (ofInt n).toInt? = some n := by
  unfold toInt?
  rw [whole_ofInt, digitsValue_decimalDigits]
  show (if decide (n < 0) then if n.natAbs = 0 then none else some (-(n.natAbs : Int))
    else some (n.natAbs : Int)) = _
  by_cases hn : n < 0
  · rw [if_pos (decide_eq_true hn), if_neg (by omega)]
    exact congrArg some (by omega)
  · rw [if_neg (by simpa using hn)]
    exact congrArg some (by omega)

theorem hasValue_ofInt {n : Int} (h : isWord n = true) : (ofInt n).hasValue = true := by
  unfold hasValue
  rw [toInt?_ofInt]
  show (isWord n || _) = true
  rw [h]
  rfl

end NumberLiteral

end HostServices
