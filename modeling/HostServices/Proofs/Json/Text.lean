import HostServices.Json.Text
import Mathlib.Tactic.SplitIfs

/-!
# String literals read back

Every character is written as one piece of a literal that spells it (`scan_writeChar`), so every
text reads back from its literal, whatever follows (`scan_write`).  The literal that is written for
no text spells none.
-/

namespace HostServices.StringLiteral

/-! ### Escapes by number -/

theorem hexValue?_digit {d : Nat} (h : d < 16) : Text.hexValue? (Text.digit d) = some d := by
  have : ∀ d : Fin 16, Text.hexValue? (Text.digit d) = some d.val := by decide
  exact this ⟨d, h⟩

theorem hexUnit?_digits {a b c d : Nat} (ha : a < 16) (hb : b < 16) (hc : c < 16) (hd : d < 16) :
    hexUnit? (Text.digit a) (Text.digit b) (Text.digit c) (Text.digit d) =
      some (((a * 16 + b) * 16 + c) * 16 + d) := by
  unfold hexUnit?
  simp only [List.mapM_cons, List.mapM_nil, hexValue?_digit ha, hexValue?_digit hb,
    hexValue?_digit hc, hexValue?_digit hd]
  simp

/-- A written unit reads back. -/
theorem scan_writeUnit {n : Nat} (h : n < 65536) (s : List Char) :
    scan ('\\' :: 'u' :: (writeUnit n ++ s)) =
      (scan s).map fun p => (.unit n :: p.1, p.2) := by
  have hu : hexUnit? (Text.digit (n / 4096 % 16)) (Text.digit (n / 256 % 16))
      (Text.digit (n / 16 % 16)) (Text.digit (n % 16)) = some n := by
    rw [hexUnit?_digits (by omega) (by omega) (by omega) (by omega)]
    exact congrArg some (by omega)
  show scan ('\\' :: 'u' :: Text.digit (n / 4096 % 16) :: Text.digit (n / 256 % 16) ::
    Text.digit (n / 16 % 16) :: Text.digit (n % 16) :: s) = _
  rw [scan, hu]
  cases scan s <;> rfl

/-! ### Characters -/

/-- The piece spells the character: as it is, or a control by its number. -/
def Spells (p : Piece) (c : Char) : Prop := p = .char c ∨ p = .unit c.toNat ∧ c.toNat < 0x20

theorem text?_cons_of_spells {p : Piece} {c : Char} (h : Spells p c) (pieces : List Piece) :
    text? (p :: pieces) = (text? pieces).map (c :: ·) := by
  obtain rfl | ⟨rfl, hc⟩ := h
  · rw [text?]
  · have hh : isHigh c.toNat = false := by
      unfold isHigh
      rw [Bool.and_eq_false_iff]
      exact .inl (by simpa using by omega)
    have hl : isLow c.toNat = false := by
      unfold isLow
      rw [Bool.and_eq_false_iff]
      exact .inl (by simpa using by omega)
    -- A unit that is no half does not look for the other half behind it.
    obtain _ | ⟨_ | l, rest⟩ := pieces
    · simp [text?, hh, hl]
    · simp [text?, hh, hl]
    · simp [text?, hh, hl]

theorem scan_letter {e c : Char} (h : letterEscape? e = some c) (s : List Char) :
    scan ('\\' :: e :: s) = (scan s).map fun q => (.char c :: q.1, q.2) := by
  have hu : e ≠ 'u' := by
    rintro rfl
    cases h
  rw [scan, h]
  · cases scan s <;> rfl
  · intro a b c d rest he
    exact absurd he hu

theorem scan_plain {c : Char} (hq : c ≠ '"') (hb : c ≠ '\\') (hc : ¬ c.toNat < 0x20)
    (s : List Char) : scan (c :: s) = (scan s).map fun q => (.char c :: q.1, q.2) := by
  rw [scan, if_neg (not_or.mpr ⟨hb, hc⟩)]
  · cases scan s <;> rfl
  · exact hq
  · intro a b c d rest he
    exact absurd he hb
  · intro c rest he
    exact absurd he hb

/-- A character is written as one piece that spells it. -/
theorem scan_writeChar (c : Char) :
    ∃ p, Spells p c ∧ ∀ s, scan (writeChar c ++ s) = (scan s).map fun q => (p :: q.1, q.2) := by
  have hof := Char.ofNat_toNat c
  unfold writeChar
  split_ifs with hq hb h8 h12 hn hr ht hc
  · exact ⟨.char c, .inl rfl, scan_letter (by rw [hq]; rfl)⟩
  · exact ⟨.char c, .inl rfl, scan_letter (by rw [hb]; rfl)⟩
  · exact ⟨.char c, .inl rfl, scan_letter (by rw [← hof, h8]; rfl)⟩
  · exact ⟨.char c, .inl rfl, scan_letter (by rw [← hof, h12]; rfl)⟩
  · exact ⟨.char c, .inl rfl, scan_letter (by rw [hn]; rfl)⟩
  · exact ⟨.char c, .inl rfl, scan_letter (by rw [hr]; rfl)⟩
  · exact ⟨.char c, .inl rfl, scan_letter (by rw [ht]; rfl)⟩
  · exact ⟨.unit c.toNat, .inr ⟨rfl, hc⟩, scan_writeUnit (by omega)⟩
  · exact ⟨.char c, .inl rfl, scan_plain hq hb hc⟩

/-! ### Texts -/

theorem exists_scan_flatMap (s : List Char) :
    ∃ pieces, text? pieces = some s ∧
      ∀ rest, scan (s.flatMap writeChar ++ '"' :: rest) = some (pieces, rest) := by
  induction s with
  | nil => exact ⟨[], rfl, fun rest => by rw [List.flatMap_nil, List.nil_append, scan]⟩
  | cons c s ih =>
    obtain ⟨p, hp, hscan⟩ := scan_writeChar c
    obtain ⟨pieces, ht, hrest⟩ := ih
    refine ⟨p :: pieces, ?_, fun rest => ?_⟩
    · rw [text?_cons_of_spells hp, ht]
      rfl
    · rw [List.flatMap_cons, List.append_assoc, hscan, hrest]
      rfl

/-- What is written for a text, or for none, spells it. -/
theorem scan_write (text : Option (List Char)) (rest : List Char) :
    ∃ body pieces, write text = '"' :: body ∧ scan (body ++ rest) = some (pieces, rest) ∧
      text? pieces = text := by
  cases text with
  | none =>
    refine ⟨'\\' :: 'u' :: (writeUnit 0xd800 ++ ['"']), [.unit 0xd800], rfl, ?_, rfl⟩
    show scan ('\\' :: 'u' :: (writeUnit 0xd800 ++ '"' :: rest)) = _
    rw [scan_writeUnit (by omega), scan]
    rfl
  | some s =>
    obtain ⟨pieces, ht, hrest⟩ := exists_scan_flatMap s
    refine ⟨s.flatMap writeChar ++ ['"'], pieces, rfl, ?_, ht⟩
    rw [List.append_assoc]
    exact hrest rest

end HostServices.StringLiteral
