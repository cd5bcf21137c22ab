import HostServices.Json.Value
import HostServices.Proofs.Json.Number
import HostServices.Proofs.Json.Text
import Mathlib.Tactic.IntervalCases

/-!
# Data values read back

A value whose numbers are well formed is cut into its own tokens again (`lex_tokens`), since what
follows a number among them is a comma or the end of an array or object, and the machine that reads
tokens builds the value from them (`readTokens_tokens`).  Together: `parse?_render`.
-/

namespace HostServices

/-! ### One token -/

namespace JsonToken

/-- The token can be told from what follows it. -/
def ReadsBefore (rest : List Char) : JsonToken → Prop
  | .number n => n.WellFormed ∧ NumberLiteral.Ends rest
  | _ => True

variable {s rest : List Char} {t : JsonToken}

theorem lex_of_next? {c : Char} (hc : isSpace c = false) (h : next? (c :: s) = some (t, rest)) :
    lex (c :: s) = (lex rest).map (t :: ·) := by
  rw [lex, if_neg (by simp [hc])]
  split
  · next hn => cases h.symm.trans hn
  · next t' rest' hn =>
    cases h.symm.trans hn
    rfl

theorem next?_number {c : Char} (hc : c = '-' ∨ ∃ d < 10, c = Text.digit d) (s : List Char) :
    isSpace c = false ∧
      next? (c :: s) = (NumberLiteral.scan (c :: s)).map fun p => (.number p.1, p.2) := by
  obtain rfl | ⟨d, hd, rfl⟩ := hc
  · exact ⟨rfl, rfl⟩
  · interval_cases d <;> exact ⟨rfl, rfl⟩

theorem lex_number {n : NumberLiteral} (h : n.WellFormed) (hr : NumberLiteral.Ends rest) :
    lex (n.write ++ rest) = (lex rest).map (.number n :: ·) := by
  have hs := NumberLiteral.scan_write h hr
  obtain ⟨c, tail, hw, hc⟩ := NumberLiteral.exists_write h
  rw [hw] at hs ⊢
  obtain ⟨hspace, hnext⟩ := next?_number hc (tail ++ rest)
  refine lex_of_next? hspace (hnext.trans ?_)
  show (NumberLiteral.scan (c :: tail ++ rest)).map _ = _
  rw [hs]
  rfl

/-- A written token is cut off what follows it. -/
theorem lex_write (h : t.ReadsBefore rest) : lex (t.write ++ rest) = (lex rest).map (t :: ·) := by
  cases t with
  | openBrace => exact lex_of_next? rfl rfl
  | closeBrace => exact lex_of_next? rfl rfl
  | openBracket => exact lex_of_next? rfl rfl
  | closeBracket => exact lex_of_next? rfl rfl
  | colon => exact lex_of_next? rfl rfl
  | comma => exact lex_of_next? rfl rfl
  | null => exact lex_of_next? rfl rfl
  | bool b => cases b <;> exact lex_of_next? rfl rfl
  | number n => exact lex_number h.1 h.2
  | string text =>
    obtain ⟨body, pieces, hw, hs, ht⟩ := StringLiteral.scan_write text rest
    show lex (StringLiteral.write text ++ rest) = _
    rw [hw]
    refine lex_of_next? rfl ?_
    show (StringLiteral.scan (body ++ rest)).map _ = _
    rw [hs, ← ht]
    rfl

/-! ### Many tokens -/

/-- What follows, if anything does, begins with a comma or an end. -/
def Closing : List JsonToken → Prop
  | [] | .comma :: _ | .closeBracket :: _ | .closeBrace :: _ => True
  | _ => False

theorem ends_of_closing {ts : List JsonToken} (h : Closing ts) :
    NumberLiteral.Ends (ts.flatMap write) := by
  match ts, h with
  | [], _ => exact ⟨fun _ => nofun, fun _ => nofun⟩
  | .comma :: _, _ | .closeBracket :: _, _ | .closeBrace :: _, _ =>
    refine ⟨fun c hc => ?_, fun c hc => ?_⟩
    all_goals
      obtain rfl := Option.some.inj hc
      decide

/-- Every token can be told from those that follow it. -/
def Parted : List JsonToken → Prop
  | [] => True
  | t :: rest => t.ReadsBefore (rest.flatMap write) ∧ Parted rest

/-- The tokens of a text are those that were written. -/
theorem lex_flatMap_write {ts : List JsonToken} (h : Parted ts) :
    lex (ts.flatMap write) = some ts := by
  induction ts with
  | nil =>
    show lex [] = some []
    rw [lex]
  | cons t rest ih =>
    rw [List.flatMap_cons, lex_write h.1, ih h.2]
    rfl

end JsonToken

/-! ### Values -/

namespace JsonValue

mutual

def WellFormed : JsonValue → Prop
  | .number n => n.WellFormed
  | .array items => ItemsWellFormed items
  | .object fields => FieldsWellFormed fields
  | _ => True

def ItemsWellFormed : List JsonValue → Prop
  | [] => True
  | v :: rest => WellFormed v ∧ ItemsWellFormed rest

def FieldsWellFormed : List (Option (List Char) × JsonValue) → Prop
  | [] => True
  | (_, v) :: rest => WellFormed v ∧ FieldsWellFormed rest

end

open JsonToken

theorem closing_itemTokens (items : List JsonValue) (rest : List JsonToken) :
    Closing (itemTokens items ++ rest) := by
  cases items <;> rw [itemTokens] <;> trivial

theorem closing_fieldTokens (fields : List (Option (List Char) × JsonValue))
    (rest : List JsonToken) : Closing (fieldTokens fields ++ rest) := by
  cases fields <;> rw [fieldTokens] <;> trivial

mutual

theorem parted_tokens {rest : List JsonToken} (hc : Closing rest) (hr : Parted rest) :
    ∀ v : JsonValue, v.WellFormed → Parted (v.tokens ++ rest)
  | .null, _ | .bool _, _ | .string _, _ => ⟨trivial, hr⟩
  | .number _, h => ⟨⟨h, ends_of_closing hc⟩, hr⟩
  | .array [], _ | .object [], _ => ⟨trivial, trivial, hr⟩
  | .array (v :: items), h => by
    simp only [tokens, List.cons_append, List.append_assoc]
    exact ⟨trivial, parted_tokens (closing_itemTokens items rest)
      (parted_itemTokens hr items h.2) v h.1⟩
  | .object ((key, v) :: fields), h => by
    simp only [tokens, List.cons_append, List.append_assoc]
    exact ⟨trivial, trivial, trivial, parted_tokens (closing_fieldTokens fields rest)
      (parted_fieldTokens hr fields h.2) v h.1⟩

theorem parted_itemTokens {rest : List JsonToken} (hr : Parted rest) :
    ∀ items : List JsonValue, ItemsWellFormed items → Parted (itemTokens items ++ rest)
  | [], _ => ⟨trivial, hr⟩
  | v :: items, h => by
    simp only [itemTokens, List.cons_append, List.append_assoc]
    exact ⟨trivial, parted_tokens (closing_itemTokens items rest)
      (parted_itemTokens hr items h.2) v h.1⟩

theorem parted_fieldTokens {rest : List JsonToken} (hr : Parted rest) :
    ∀ fields : List (Option (List Char) × JsonValue), FieldsWellFormed fields →
      Parted (fieldTokens fields ++ rest)
  | [], _ => ⟨trivial, hr⟩
  | (key, v) :: fields, h => by
    simp only [fieldTokens, List.cons_append, List.append_assoc]
    exact ⟨trivial, trivial, trivial, parted_tokens (closing_fieldTokens fields rest)
      (parted_fieldTokens hr fields h.2) v h.1⟩

end

theorem lex_tokens {v : JsonValue} (h : v.WellFormed) :
    lex (v.tokens.flatMap JsonToken.write) = some v.tokens := by
  have hc : Closing [] := trivial
  have hp := parted_tokens hc (show Parted [] from trivial) v h
  rw [List.append_nil] at hp
  exact lex_flatMap_write hp

/-! ### The machine that reads tokens

What is open and what it holds so far stand on the stack, so the statements are for every stack and
for every list of items or fields that are done. -/

/-- The first token of a value is no closing bracket, so an array that begins with it is not
empty. -/
theorem readTokens_first (v : JsonValue) (stack : List Frame) (rest : List JsonToken) :
    readTokens .itemOrEnd stack (v.tokens ++ rest) =
      readTokens .value (.array [] :: stack) (v.tokens ++ rest) := by
  cases v with
  | null => rfl
  | bool b => rfl
  | number n => rfl
  | string text => rfl
  | array items => cases items <;> rw [tokens] <;> rfl
  | object fields => cases fields <;> rw [tokens] <;> rfl

mutual

/-- The tokens of a value complete it. -/
theorem readTokens_tokens (rest : List JsonToken) :
    ∀ (v : JsonValue) (stack : List Frame),
      readTokens .value stack (v.tokens ++ rest) = readTokens (.after v) stack rest
  | .null, _ | .bool _, _ | .string _, _ | .number _, _ => rfl
  | .array [], _ | .object [], _ => rfl
  | .array (v :: items), stack => by
    simp only [tokens, List.cons_append, List.append_assoc]
    show readTokens .itemOrEnd stack (v.tokens ++ (itemTokens items ++ rest)) = _
    rw [readTokens_first, readTokens_tokens _ v, readTokens_itemTokens rest items]
    rfl
  | .object ((key, v) :: fields), stack => by
    simp only [tokens, List.cons_append, List.append_assoc]
    show readTokens .value (.object [] key :: stack) (v.tokens ++ (fieldTokens fields ++ rest)) = _
    rw [readTokens_tokens _ v, readTokens_fieldTokens rest fields]
    rfl

theorem readTokens_itemTokens (rest : List JsonToken) :
    ∀ (items : List JsonValue) (v : JsonValue) (done : List JsonValue) (stack : List Frame),
      readTokens (.after v) (.array done :: stack) (itemTokens items ++ rest) =
        readTokens (.after (.array ((v :: done).reverse ++ items))) stack rest
  | [], v, done, stack => by
    rw [List.append_nil]
    rfl
  | w :: items, v, done, stack => by
    simp only [itemTokens, List.cons_append, List.append_assoc]
    show readTokens .value (.array (v :: done) :: stack) (w.tokens ++ (itemTokens items ++ rest)) = _
    rw [readTokens_tokens _ w, readTokens_itemTokens rest items, List.reverse_cons,
      List.append_assoc]
    rfl

theorem readTokens_fieldTokens (rest : List JsonToken) :
    ∀ (fields : List (Option (List Char) × JsonValue)) (v : JsonValue)
      (key : Option (List Char)) (done : List (Option (List Char) × JsonValue))
      (stack : List Frame),
      readTokens (.after v) (.object done key :: stack) (fieldTokens fields ++ rest) =
        readTokens (.after (.object (((key, v) :: done).reverse ++ fields))) stack rest
  | [], v, key, done, stack => by
    rw [List.append_nil]
    rfl
  | (key', w) :: fields, v, key, done, stack => by
    simp only [fieldTokens, List.cons_append, List.append_assoc]
    show readTokens .value (.object ((key, v) :: done) key' :: stack)
      (w.tokens ++ (fieldTokens fields ++ rest)) = _
    rw [readTokens_tokens _ w, readTokens_fieldTokens rest fields, List.reverse_cons,
      List.append_assoc]
    rfl

end

/-- A value reads back from its text. -/
theorem parse?_render {v : JsonValue} (h : v.WellFormed) : parse? v.render = some v := by
  unfold parse? render
  rw [String.toList_ofList, lex_tokens h]
  show readTokens .value [] v.tokens = some v
  have hr := readTokens_tokens [] v []
  rw [List.append_nil] at hr
  exact hr

end JsonValue

end HostServices
