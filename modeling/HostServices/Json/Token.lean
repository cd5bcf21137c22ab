import HostServices.Json.Number
import HostServices.Json.Text

/-!
# Tokens of data texts

A text is cut into punctuation, words, numbers and strings; blanks between them do not count.
-/

namespace HostServices

inductive JsonToken
  | openBrace
  | closeBrace
  | openBracket
  | closeBracket
  | colon
  | comma
  | null
  | bool (b : Bool)
  | number (n : NumberLiteral)
  /-- A string literal; none if it spells no text. -/
  | string (text : Option (List Char))
  deriving DecidableEq

namespace JsonToken

/-- The blanks of data texts. -/
def isSpace (c : Char) : Bool := c = ' ' || c = '\n' || c = '\t' || c = '\r'

/-- The token that a text begins with, and the rest. -/
def next? : List Char → Option (JsonToken × List Char)
  | '\x7b' :: rest => some (.openBrace, rest)
  | '\x7d' :: rest => some (.closeBrace, rest)
  | '[' :: rest => some (.openBracket, rest)
  | ']' :: rest => some (.closeBracket, rest)
  | ':' :: rest => some (.colon, rest)
  | ',' :: rest => some (.comma, rest)
  | '"' :: rest =>
    (StringLiteral.scan rest).map fun (pieces, rest) => (.string (StringLiteral.text? pieces), rest)
  | 'n' :: 'u' :: 'l' :: 'l' :: rest => some (.null, rest)
  | 't' :: 'r' :: 'u' :: 'e' :: rest => some (.bool true, rest)
  | 'f' :: 'a' :: 'l' :: 's' :: 'e' :: rest => some (.bool false, rest)
  | s => (NumberLiteral.scan s).map fun (n, rest) => (.number n, rest)

theorem length_next? {s rest : List Char} {t : JsonToken} (h : next? s = some (t, rest)) :
    rest.length < s.length := by
  unfold next? at h
  split at h
  case h_7 r =>
    simp only [Option.map_eq_some_iff, Prod.mk.injEq, Prod.exists] at h
    obtain ⟨p, r', hr, _, rfl⟩ := h
    have := StringLiteral.length_scan hr
    simp only [List.length_cons]
    omega
  case h_11 =>
    simp only [Option.map_eq_some_iff, Prod.mk.injEq, Prod.exists] at h
    obtain ⟨n, r', hr, _, rfl⟩ := h
    exact NumberLiteral.length_scan hr
  all_goals
    simp only [Option.some.injEq, Prod.mk.injEq] at h
    rw [← h.2]
    simp only [List.length_cons]
    omega

def lex : List Char → Option (List JsonToken)
  | [] => some []
  | c :: rest =>
    if isSpace c then lex rest
    else
      match h : next? (c :: rest) with
      | none => none
      | some (t, left) =>
        have : left.length < rest.length + 1 := length_next? h
        (lex left).map (t :: ·)
termination_by s => s.length

def write : JsonToken → List Char
  | .openBrace => ['\x7b']
  | .closeBrace => ['\x7d']
  | .openBracket => ['[']
  | .closeBracket => [']']
  | .colon => [':']
  | .comma => [',']
  | .null => "null".toList
  | .bool true => "true".toList
  | .bool false => "false".toList
  | .number n => n.write
  | .string text => StringLiteral.write text

end JsonToken

end HostServices
