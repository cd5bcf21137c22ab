import HostServices.Text.Pattern

/-!
# The written form of patterns

Patterns are read from their usual written form.  Classes of characters that depend on the script
are not known, and neither are the cases of letters, unless a pattern is restricted to ASCII.
-/

namespace HostServices.Text.Pattern

/-- How a written pattern is read; this can change in the middle of it. -/
structure Flags where
  ignoresCase : Bool
  /-- Repetitions that are not marked are reluctant, and those that are marked are not. -/
  swapsGreed : Bool
  isAscii : Bool

def Flags.standard : Flags := ⟨false, false, false⟩

/-- The characters that stand for themselves behind a backslash. -/
def isEscapable (c : Char) : Bool :=
  c.toNat < 128 && !c.isAlphanum && c != '<' && c != '>'

/-- The character of a number of hexadecimal digits. -/
def takeCode? (digits : Nat) (s : List Char) : Option (Char × List Char) :=
  let digit? (c : Char) : Option Nat :=
    if c.isDigit then some (c.toNat - '0'.toNat)
    else if 'a' ≤ c.toLower ∧ c.toLower ≤ 'f' then some (c.toLower.toNat - 'a'.toNat + 10)
    else none
  let rec go : Nat → Nat → List Char → Option (Char × List Char)
    | 0, code, rest =>
      if h : code.isValidChar then some (Char.ofNatAux code h, rest) else none
    | n + 1, code, c :: rest => (digit? c).bind fun d => go n (code * 16 + d) rest
    | _ + 1, _, [] => none
  go digits 0 s

/-- The character of an escape behind its backslash, and the rest. -/
def takeEscape? : List Char → Option (Char × List Char)
  | 'n' :: rest => some ('\n', rest)
  | 't' :: rest => some ('\t', rest)
  | 'r' :: rest => some ('\r', rest)
  | 'a' :: rest => some (Char.ofNat 7, rest)
  | 'f' :: rest => some (Char.ofNat 12, rest)
  | 'v' :: rest => some (Char.ofNat 11, rest)
  | 'x' :: rest => takeCode? 2 rest
  | 'u' :: rest => takeCode? 4 rest
  | 'U' :: rest => takeCode? 8 rest
  | c :: rest => if isEscapable c then some (c, rest) else none
  | [] => none

/-- The sets that have a name inside brackets. -/
def namedSets : List (String × CharSet) :=
  let digit := CharSet.range '0' '9'
  let upper := CharSet.range 'A' 'Z'
  let lower := CharSet.range 'a' 'z'
  let alpha := CharSet.union upper lower
  let alnum := CharSet.union digit alpha
  [("alnum", alnum), ("alpha", alpha), ("ascii", .range (Char.ofNat 0) (Char.ofNat 127)),
    ("blank", .union (.single '\t') (.single ' ')),
    ("cntrl", .union (.range (Char.ofNat 0) (Char.ofNat 31)) (.single (Char.ofNat 127))),
    ("digit", digit), ("graph", .range '!' '~'), ("lower", lower), ("print", .range ' ' '~'),
    ("punct", .union (.union (.range '!' '/') (.range ':' '@'))
      (.union (.range '[' (Char.ofNat 96)) (.range '\x7b' '~'))),
    ("space", .union (.range '\t' '\r') (.single ' ')), ("upper", upper),
    ("word", .union alnum (.single '_')),
    ("xdigit", .union digit (.union (.range 'A' 'F') (.range 'a' 'f')))]

/-- A named set behind its opening `[:`, and the rest. -/
def takeNamed? (s : List Char) : Option (CharSet × List Char) :=
  let (negated, s) :=
    match s with
    | '^' :: rest => (true, rest)
    | s => (false, s)
  match s.span fun c => c != ':' with
  | (name, ':' :: ']' :: rest) =>
    (namedSets.lookup (String.ofList name)).map fun set =>
      (if negated then .complement set else set, rest)
  | _ => none

/-- The set of an escape behind its backslash, in patterns restricted to ASCII. -/
def escapedSet? (f : Flags) (c : Char) : Option CharSet :=
  if !f.isAscii then none
  else
    match c with
    | 'd' => namedSets.lookup "digit"
    | 's' => namedSets.lookup "space"
    | 'w' => namedSets.lookup "word"
    | _ => none

/-- One character between brackets, and the rest. -/
def takeMember? : List Char → Option (Char × List Char)
  | '\\' :: rest => takeEscape? rest
  | c :: rest => some (c, rest)
  | [] => none

/-- How the two sides of a sign between brackets make one set. -/
inductive SetSign
  | both
  | without
  | either
  deriving DecidableEq

namespace SetSign

def take? : List Char → Option (SetSign × List Char)
  | '&' :: '&' :: rest => some (.both, rest)
  | '-' :: '-' :: rest => some (.without, rest)
  | '~' :: '~' :: rest => some (.either, rest)
  | _ => none

/-- The set that two sides make. -/
def combine : SetSign → CharSet → CharSet → CharSet
  | .both, a, b => .common a b
  | .without, a, b => .common a (.complement b)
  | .either, a, b => .union (.common a (.complement b)) (.common b (.complement a))

end SetSign

/-- A set that is being read: what stands in front of the last sign, and what stands behind it. -/
structure OpenSet where
  before : Option (CharSet × SetSign)
  members : Option CharSet

namespace OpenSet

def start : OpenSet := ⟨none, none⟩

def add (o : OpenSet) (more : CharSet) : OpenSet :=
  { o with
    members := some (match o.members with
      | some set => .union set more
      | none => more) }

def close (o : OpenSet) : CharSet :=
  let last := o.members.getD .empty
  match o.before with
  | some (set, sign) => sign.combine set last
  | none => last

def sign (o : OpenSet) (s : SetSign) : OpenSet := ⟨some (o.close, s), none⟩

end OpenSet

mutual

/-- A set behind its opening bracket, and the rest.  The numbers of these functions bound their
calls. -/
def takeSet? (f : Flags) : Nat → List Char → Option (CharSet × List Char)
  | 0, _ => none
  | n + 1, s =>
    let (negated, s) :=
      match s with
      | '^' :: rest => (true, rest)
      | s => (false, s)
    let (dashes, s) := s.span fun c => c = '-'
    let found :=
      match dashes, s with
      | [], ']' :: rest => takeMembers? f n (OpenSet.start.add (.single ']')) rest
      | [], s => takeMembers? f n .start s
      | _, s => takeMembers? f n (OpenSet.start.add (.single '-')) s
    found.map fun (set, rest) => (if negated then .complement set else set, rest)

/-- The members of a set up to its closing bracket, and the rest. -/
def takeMembers? (f : Flags) : Nat → OpenSet → List Char → Option (CharSet × List Char)
  | 0, _, _ => none
  | _, _, [] => none
  | _ + 1, o, ']' :: rest => some (o.close, rest)
  | n + 1, o, '[' :: rest =>
    let named :=
      match rest with
      | ':' :: rest => takeNamed? rest
      | _ => none
    match named with
    | some (more, rest) => takeMembers? f n (o.add more) rest
    | none => do
      let (more, rest) ← takeSet? f n rest
      takeMembers? f n (o.add more) rest
  | n + 1, o, s =>
    let escaped : Option (CharSet × List Char) :=
      match s with
      | '\\' :: c :: rest => (escapedSet? f c).map fun set => (set, rest)
      | _ => none
    match SetSign.take? s, escaped with
    | some (sign, rest), _ => takeMembers? f n (o.sign sign) rest
    | none, some (set, rest) => takeMembers? f n (o.add set) rest
    | none, none => do
      let (first, rest) ← takeMember? s
      match rest with
      | '-' :: c :: rest =>
        if c = ']' || c = '-' then takeMembers? f n (o.add (.single first)) ('-' :: c :: rest)
        else
          let (last, rest) ← takeMember? (c :: rest)
          if first ≤ last then takeMembers? f n (o.add (.range first last)) rest else none
      | rest => takeMembers? f n (o.add (.single first)) rest

end

/-- The set of a bracket that is one pattern.  Letters of both cases are not known, and the
complement of ASCII is not restricted to it. -/
def wholeSet? (f : Flags) (set : CharSet) : Option CharSet :=
  let reachesBeyond : Bool := set.holds (Char.ofNat 128)
  if f.ignoresCase || (f.isAscii && reachesBeyond) then none else some set

def letter? (f : Flags) (c : Char) : Option CharSet :=
  if !f.ignoresCase then some (.single c)
  else if f.isAscii && c.toNat < 128 then some (.union (.single c.toLower) (.single c.toUpper))
  else none

def beginsRepetition (s : List Char) : Bool :=
  s.head?.any fun c => c = '*' || c = '+' || c = '?' || c = '\x7b'

def takeRepetitions (f : Flags) : Nat → Pattern → List Char → Pattern × List Char
  | 0, p, s => (p, s)
  | n + 1, p, s =>
    let again (repeats : Bool → Pattern) (rest : List Char) : Pattern × List Char :=
      match rest with
      | '?' :: rest => takeRepetitions f n (repeats (!f.swapsGreed)) rest
      | rest => takeRepetitions f n (repeats f.swapsGreed) rest
    match s with
    | '*' :: rest => again (fun reluctant => .repeated reluctant p) rest
    | '+' :: rest => again (fun reluctant => .sequence p (.repeated reluctant p)) rest
    | '?' :: rest => again (fun reluctant => .optional reluctant p) rest
    | s => (p, s)

/-- Flags in front of a text, of which some have been read, last first, and the rest.  They are set,
or taken back behind a hyphen.  Those about ends of lines and about blanks do not matter here. -/
def takeFlags? : List Char → Bool → Flags → List Char → Option (Flags × List Char)
  | seen, isSet, f, c :: rest =>
    if c = ':' || c = ')' then if seen.head? = some '-' then none else some (f, c :: rest)
    else if seen.contains c then none
    else
      match c with
      | '-' => takeFlags? (c :: seen) false f rest
      | 'i' => takeFlags? (c :: seen) isSet { f with ignoresCase := isSet } rest
      | 'U' => takeFlags? (c :: seen) isSet { f with swapsGreed := isSet } rest
      | 'u' => takeFlags? (c :: seen) isSet { f with isAscii := !isSet } rest
      | 'm' | 's' | 'R' | 'x' => takeFlags? (c :: seen) isSet f rest
      | _ => none
  | _, _, _, [] => none

inductive Group
  | pattern (f : Flags) (rest : List Char)
  /-- Nothing: what follows is read in another way. -/
  | change (f : Flags) (rest : List Char)

/-- The head of a group behind its parenthesis: nothing, flags, or a name. -/
def takeGroup? (f : Flags) (s : List Char) : Option Group :=
  match s with
  | '?' :: 'P' :: '<' :: rest | '?' :: '<' :: rest =>
    match rest.span fun c => c.isAlphanum || c = '_' with
    | (c :: _, '>' :: rest) => if c.isDigit then none else some (.pattern f rest)
    | _ => none
  | '?' :: ')' :: _ => none
  | '?' :: rest =>
    match takeFlags? [] true f rest with
    | some (f, ':' :: rest) => some (.pattern f rest)
    | some (f, _ :: rest) => if beginsRepetition rest then none else some (.change f rest)
    | _ => none
  | s => some (.pattern f s)

mutual

/-- Choices up to the end or a closing parenthesis, and the rest. -/
def takeChoice? : Nat → Flags → List Char → Option (Pattern × List Char)
  | 0, _, _ => none
  | n + 1, f, s => do
    let (first, f, rest) ← takeSequence? n f .nothing s
    match rest with
    | '|' :: rest =>
      let (second, rest) ← takeChoice? n f rest
      return (.choice first second, rest)
    | rest => return (first, rest)

/-- Patterns one behind the other, how what follows is read, and that. -/
def takeSequence? : Nat → Flags → Pattern → List Char → Option (Pattern × Flags × List Char)
  | 0, _, _, _ => none
  | n + 1, f, before, s =>
    let one : Option (Pattern × List Char) → Option (Pattern × Flags × List Char)
      | some (p, rest) =>
        let (p, rest) := takeRepetitions f rest.length p rest
        takeSequence? n f (.sequence before p) rest
      | none => none
    match s with
    | [] | '|' :: _ | ')' :: _ => some (before, f, s)
    | '(' :: rest =>
      match takeGroup? f rest with
      | some (.change f rest) => takeSequence? n f before rest
      | some (.pattern inner rest) =>
        match takeChoice? n inner rest with
        | some (p, ')' :: rest) => one (some (p, rest))
        | _ => none
      | none => none
    | s => one (takeOne? n f s)

/-- One pattern without signs of repetition, and the rest. -/
def takeOne? : Nat → Flags → List Char → Option (Pattern × List Char)
  | 0, _, _ | _, _, [] => none
  | n + 1, f, c :: rest =>
    let letter (c : Char) (rest : List Char) : Option (Pattern × List Char) :=
      (letter? f c).map fun set => (.oneOf set, rest)
    match c with
    | '[' => do
      let (set, rest) ← takeSet? f n rest
      return (.oneOf (← wholeSet? f set), rest)
    | '.' => if f.isAscii then none else some (.oneOf (.complement (.single '\n')), rest)
    | '^' => some (.atStart, rest)
    | '$' => some (.atEnd, rest)
    | '\\' =>
      match rest with
      | 'A' :: rest => some (.atStart, rest)
      | 'z' :: rest => some (.atEnd, rest)
      | c :: more =>
        match escapedSet? f c with
        | some set => some (.oneOf set, more)
        | none => (takeEscape? rest).bind fun (c, rest) => letter c rest
      | [] => none
    | c => if beginsRepetition [c] then none else letter c rest

end

def parse? (s : String) : Option Pattern :=
  match takeChoice? (4 * s.length + 4) .standard s.toList with
  | some (p, []) => some p
  | _ => none

end HostServices.Text.Pattern
