/-!
# Patterns of the shell

In a pattern a star stands for any text, a question mark for any character, and brackets for one of
some characters.  What is quoted stands for itself.

Assumed of the shell that a launch starts, as `Launch.Shell.World` says.
-/

namespace HostServices.Launch.Shell

/-- A character of an expanded word. -/
inductive Letter
  | plain (c : Char)
  | quoted (c : Char)
  /-- A quotation begins or ends. -/
  | mark
  deriving DecidableEq

namespace Letter

def char? : Letter → Option Char
  | plain c | quoted c => some c
  | mark => none

def text (ls : List Letter) : List Char := ls.filterMap char?

def ofText (quoted : Bool) (s : List Char) : List Letter :=
  s.map fun c => if quoted then .quoted c else .plain c

end Letter

/-- Characters that a bracket stands for. -/
inductive CharRange
  | between (first last : Char)
  | named (contains : Char → Bool)

def CharRange.contains (r : CharRange) (c : Char) : Bool :=
  match r with
  | between first last => first.toNat ≤ c.toNat && c.toNat ≤ last.toNat
  | named contains => contains c

inductive PatternItem
  | exactly (c : Char)
  | anything
  | anyOne
  | oneOf (inverted : Bool) (ranges : List CharRange)

/-- The named classes of characters. -/
def charClass? (name : List Char) : Option (Char → Bool) :=
  let isBlank (c : Char) : Bool := c = ' ' || c = '\t'
  let isSpace (c : Char) : Bool := c = ' ' || (9 ≤ c.toNat && c.toNat ≤ 13)
  let isControl (c : Char) : Bool := c.toNat < 32 || c.toNat = 127
  let isGraphic (c : Char) : Bool := 32 < c.toNat && c.toNat < 127
  match String.ofList name with
  | "alnum" => some Char.isAlphanum
  | "alpha" => some Char.isAlpha
  | "blank" => some isBlank
  | "cntrl" => some isControl
  | "digit" => some Char.isDigit
  | "graph" => some isGraphic
  | "lower" => some Char.isLower
  | "print" => some fun c => isGraphic c || c = ' '
  | "punct" => some fun c => isGraphic c && !c.isAlphanum
  | "space" => some isSpace
  | "upper" => some Char.isUpper
  | "xdigit" => some fun c => c.isDigit || ('a' ≤ c.toLower && c.toLower ≤ 'f')
  | _ => none

/-- The class at the beginning of a text in brackets, behind its first bracket, and the rest. -/
def takeClass? (s : List Letter) : Option ((Char → Bool) × List Letter) :=
  match s with
  | .plain ':' :: s =>
    let (name, rest) := s.span fun l => l != .plain ':'
    match rest with
    | .plain ':' :: .plain ']' :: rest =>
      (charClass? (Letter.text name)).map fun contains => (contains, rest)
    | _ => none
  | _ => none

/-- The ranges of a bracket up to its end, and the rest; none if it has no end.  The number bounds
the letters. -/
def takeRanges? : Nat → Bool → List Letter → Option (List CharRange × List Letter)
  | 0, _, _ => none
  | n + 1, isFirst, s =>
    let one (c : Char) (rest : List Letter) : Option (List CharRange × List Letter) :=
      match rest with
      | .plain '-' :: last :: rest' =>
        match if last = .plain ']' then none else last.char? with
        | some d => (takeRanges? n false rest').map fun (rs, rest) => (.between c d :: rs, rest)
        | none => (takeRanges? n false rest).map fun (rs, rest) => (.between c c :: rs, rest)
      | rest => (takeRanges? n false rest).map fun (rs, rest) => (.between c c :: rs, rest)
    match s with
    | [] => none
    | .mark :: rest => takeRanges? n isFirst rest
    | .quoted c :: rest => one c rest
    | .plain c :: rest =>
      if c = ']' && !isFirst then some ([], rest)
      else if c = '[' then
        match takeClass? rest with
        | some (contains, rest) =>
          (takeRanges? n false rest).map fun (rs, rest) => (.named contains :: rs, rest)
        | none => one c rest
      else one c rest

/-- The items of a pattern whose backslashes have been carried out.  The number bounds the
letters. -/
def patternItems : Nat → List Letter → List PatternItem
  | 0, _ => []
  | _, [] => []
  | n + 1, .mark :: rest => patternItems n rest
  | n + 1, .quoted c :: rest => .exactly c :: patternItems n rest
  | n + 1, .plain c :: rest =>
    match c with
    | '*' => .anything :: patternItems n rest
    | '?' => .anyOne :: patternItems n rest
    | '[' =>
      let (inverted, inside) :=
        match rest with
        | .plain '!' :: rest => (true, rest)
        | rest => (false, rest)
      match takeRanges? (inside.length + 1) true inside with
      | some (ranges, rest) => .oneOf inverted ranges :: patternItems n rest
      | none => .exactly c :: patternItems n rest
    | c => .exactly c :: patternItems n rest

/-- A backslash that is not quoted quotes the next letter. -/
def carryOutBackslashes : List Letter → List Letter
  | .plain '\\' :: .plain c :: rest => .quoted c :: carryOutBackslashes rest
  | l :: rest => l :: carryOutBackslashes rest
  | [] => []

def compilePattern (s : List Letter) : List PatternItem :=
  patternItems s.length (carryOutBackslashes (s.filter (· != .mark)))

/-- Some end of a text satisfies a condition. -/
def someEnd (holds : List Char → Bool) : List Char → Bool
  | [] => holds []
  | c :: rest => holds (c :: rest) || someEnd holds rest

def fits : List PatternItem → List Char → Bool
  | [], s => s.isEmpty
  | .anything :: items, s => someEnd (fits items) s
  | _ :: _, [] => false
  | .exactly c :: items, d :: s => c = d && fits items s
  | .anyOne :: items, _ :: s => fits items s
  | .oneOf inverted ranges :: items, d :: s =>
    (ranges.any fun r => r.contains d) != inverted && fits items s

/-- The lengths of a text's beginnings, the shortest or the longest first. -/
def lengths (longest : Bool) (s : List Char) : List Nat :=
  let all := List.range (s.length + 1)
  if longest then all.reverse else all

/-- A text up to the first bound between arguments, which is the character zero. -/
def upToBound (s : List Char) : List Char := s.takeWhile fun c => c.toNat != 0

/-- A text without what a pattern fits at its beginning or at its end.  Patterns do not fit across
bounds between arguments. -/
def trim (atEnd longest : Bool) (pattern : List PatternItem) (s : List Char) : List Char :=
  if atEnd then
    match (lengths (!longest) s).find? fun n => fits pattern (upToBound (s.drop n)) with
    | some n => s.take n
    | none => s
  else
    match (lengths longest s).find? fun n => fits pattern (upToBound (s.take n)) with
    | some n => s.drop n
    | none => s

end HostServices.Launch.Shell
