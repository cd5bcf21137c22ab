/-!
# Patterns

Regular patterns for texts.  The ways in which a pattern fits are ordered: of two choices the first
is preferred, and a repetition prefers more rounds to fewer unless it is marked reluctant.  A
pattern *accepts* a text when its preferred fit at the first place where it fits at all reaches to
the end of the text.
-/

namespace HostServices.Text

inductive CharSet
  | range (first last : Char)
  | union (a b : CharSet)
  | complement (a : CharSet)

def CharSet.holds (c : Char) : CharSet → Bool
  | .range first last => first ≤ c && c ≤ last
  | .union a b => a.holds c || b.holds c
  | .complement a => !a.holds c

namespace CharSet

def single (c : Char) : CharSet := .range c c

def empty : CharSet := .range 'b' 'a'

/-- The characters that two sets share. -/
def common (a b : CharSet) : CharSet := .complement (.union (.complement a) (.complement b))

end CharSet

inductive Pattern
  | nothing
  | oneOf (s : CharSet)
  | atStart
  | atEnd
  | sequence (a b : Pattern)
  | choice (a b : Pattern)
  | optional (reluctant : Bool) (p : Pattern)
  | repeated (reluctant : Bool) (p : Pattern)

namespace Pattern

/-! ### Fitting -/

/-- What is left behind each number of rounds that make progress, the preferred number first; the
last argument bounds the rounds. -/
def roundEnds (step : List Char → List (List Char)) (reluctant : Bool) :
    Nat → List Char → List (List Char)
  | 0, s => [s]
  | n + 1, s =>
    let shorter := (step s).filter fun t => t.length < s.length
    let more := (shorter.flatMap (roundEnds step reluctant n)).eraseDups
    if reluctant then s :: more else more ++ [s]

/-- What is left of a text behind each way in which a pattern fits in front of it, the preferred one
first.  The whole text has `total` characters. -/
def ends (total : Nat) : Pattern → List Char → List (List Char)
  | .nothing, s => [s]
  | .oneOf set, s =>
    match s with
    | c :: rest => if set.holds c then [rest] else []
    | [] => []
  | .atStart, s => if s.length = total then [s] else []
  | .atEnd, s => if s.isEmpty then [s] else []
  | .sequence a b, s => ((ends total a s).flatMap (ends total b)).eraseDups
  | .choice a b, s => (ends total a s ++ ends total b s).eraseDups
  | .optional reluctant p, s =>
    if reluctant then s :: ends total p s else ends total p s ++ [s]
  | .repeated reluctant p, s => roundEnds (ends total p) reluctant s.length s

/-- What is left behind the preferred fit at the first place where a pattern fits. -/
def firstEnd? (total : Nat) (p : Pattern) : List Char → Option (List Char)
  | [] => (ends total p []).head?
  | c :: rest =>
    match ends total p (c :: rest) with
    | left :: _ => some left
    | [] => firstEnd? total p rest

/-- The preferred fit at the first place reaches to the end of the text. -/
def accepts (p : Pattern) (s : String) : Bool :=
  firstEnd? s.toList.length p s.toList == some []

end Pattern

end HostServices.Text
