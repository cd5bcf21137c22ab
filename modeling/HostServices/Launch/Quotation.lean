import HostServices.Text.Numeral

/-!
# Quoted operands

Programs quote operands in two ways: in complaints, with nothing in them that does not print, and so
that a shell reads them back.

This is an assumption about the programs around a launch; no theorem rests on it.
-/

namespace HostServices.Launch

/-- The quotation mark that both ways use. -/
def quotationMark : Char := Char.ofNat 39

def escapeLetter? (c : Char) : Option Char :=
  match c with
  | '\n' => some 'n'
  | '\t' => some 't'
  | '\r' => some 'r'
  | c =>
    if c.toNat = 7 then some 'a'
    else if c.toNat = 8 then some 'b'
    else if c.toNat = 11 then some 'v'
    else if c.toNat = 12 then some 'f'
    else none

/-- An octet does not print. -/
def isUnseen (c : Char) : Bool := c.toNat < 32 || 127 ≤ c.toNat

/-- An octet that does not print as an escape. -/
def spellUnseen (c : Char) : List Char :=
  match escapeLetter? c with
  | some letter => ['\\', letter]
  | none =>
    let digits := Text.writeNumeral 8 c.toNat
    '\\' :: List.replicate (3 - digits.length) '0' ++ digits

/-! ### In complaints -/

/-- A character in the quoted form of an operand. -/
def spellPlainly (c : Char) : List Char :=
  if c = '\\' || c = quotationMark then ['\\', c]
  else if isUnseen c then spellUnseen c
  else [c]

/-- An operand between quotation marks, with nothing in it that does not print. -/
def quotedOperand (s : String) : String :=
  String.ofList (quotationMark :: s.toList.flatMap spellPlainly ++ [quotationMark])

/-! ### For the shell -/

/-- A character in a text, at its start or alone in it, means something to a shell. -/
def hasMeaning (isFirst isAlone : Bool) (c : Char) : Bool :=
  if c = '#' || c = '~' then isFirst
  else if c = '\x7b' || c = '\x7d' then isAlone
  else " ?\\!\"$&()*;<=>[^`|".toList.contains c || c = quotationMark || isUnseen c

def isPlainInDoubleQuotes (isFirst isAlone : Bool) (c : Char) : Bool :=
  if c = '#' || c = '~' then isFirst
  else if c = '\x7b' || c = '\x7d' then isAlone
  else !"?\\!\"$&()*;<=>[^`|".toList.contains c && !isUnseen c

/-- All characters of a text satisfy a condition on whether they are its first one and alone. -/
def allInPlace (holds : Bool → Bool → Char → Bool) : List Char → Bool
  | [] => true
  | [c] => holds true true c
  | c :: rest => holds true false c && rest.all (holds false false)

/-- A text between marks, of which those marks and what does not print are kept apart. -/
def quoteInParts : Bool → List Char → List Char
  | _, [] => [quotationMark]
  | inEscapes, c :: rest =>
    let mark := quotationMark
    if c = mark then [mark, '\\', mark, mark] ++ quoteInParts false rest
    else if isUnseen c then
      (if inEscapes then [] else [mark, '$', mark]) ++ spellUnseen c ++ quoteInParts true rest
    else (if inEscapes then [mark, mark] else []) ++ c :: quoteInParts false rest

/-- The parts of a text with a mark in it begin as the text ends: as if behind an escape, where the
last character is one. -/
def beginsInEscapes (text : List Char) : Bool :=
  text.contains quotationMark && text.getLast?.any isUnseen

/-- An operand as a shell reads it back. -/
def quotedForShell (s : String) : String :=
  let text := s.toList
  if !text.isEmpty && allInPlace (fun isFirst isAlone c => !hasMeaning isFirst isAlone c) text then s
  else if text.contains quotationMark && allInPlace isPlainInDoubleQuotes text then "\"" ++ s ++ "\""
  else String.ofList (quotationMark :: quoteInParts (beginsInEscapes text) text)

end HostServices.Launch
