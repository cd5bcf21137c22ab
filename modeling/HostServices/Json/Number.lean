import HostServices.Text.Numeral

/-!
# Number literals

A number literal is kept as it is written, since not every reader wants the same number from it:
an integer must be written as one, and a float takes any literal.
-/

namespace HostServices

structure ExponentPart where
  /-- The sign, if one is written; true for a minus. -/
  sign : Option Bool
  digits : List Nat
  deriving DecidableEq

/-- A number as it is written, with the values of its digits. -/
structure NumberLiteral where
  negative : Bool
  whole : List Nat
  fraction : Option (List Nat)
  exponent : Option ExponentPart
  deriving DecidableEq

namespace NumberLiteral

/-! ### Reading and writing -/

/-- The leading digits of a text, and the rest. -/
def scanDigits : List Char → List Nat × List Char
  | [] => ([], [])
  | c :: rest =>
    match Text.digitValue? c with
    | none => ([], c :: rest)
    | some d =>
      let (ds, rest) := scanDigits rest
      (d :: ds, rest)

/-- The digits of the whole part: no other digit follows a leading zero. -/
def scanWhole (s : List Char) : Option (List Nat × List Char) :=
  match scanDigits s with
  | ([], _) => none
  | (0 :: _ :: _, _) => none
  | (ds, rest) => some (ds, rest)

/-- A point with digits behind it, if there is a point. -/
def scanFraction : List Char → Option (Option (List Nat) × List Char)
  | '.' :: rest =>
    match scanDigits rest with
    | ([], _) => none
    | (ds, rest) => some (some ds, rest)
  | s => some (none, s)

def scanSign : List Char → Option Bool × List Char
  | '+' :: rest => (some false, rest)
  | '-' :: rest => (some true, rest)
  | s => (none, s)

def scanExponent : List Char → Option (Option ExponentPart × List Char)
  | c :: rest =>
    if c = 'e' ∨ c = 'E' then
      let (sign, rest) := scanSign rest
      match scanDigits rest with
      | ([], _) => none
      | (ds, rest) => some (some ⟨sign, ds⟩, rest)
    else some (none, c :: rest)
  | [] => some (none, [])

/-- The parts of a number literal behind its sign. -/
def scanUnsigned (negative : Bool) (s : List Char) : Option (NumberLiteral × List Char) := do
  let (whole, s) ← scanWhole s
  let (fraction, s) ← scanFraction s
  let (exponent, s) ← scanExponent s
  return (⟨negative, whole, fraction, exponent⟩, s)

/-- A number literal in front of a text, and the rest. -/
def scan : List Char → Option (NumberLiteral × List Char)
  | '-' :: rest => scanUnsigned true rest
  | s => scanUnsigned false s

def writeDigits (ds : List Nat) : List Char := ds.map Text.digit

/-- A point and the digits behind it, if there are any. -/
def writeFraction : Option (List Nat) → List Char
  | none => []
  | some ds => '.' :: writeDigits ds

def writeSign : Option Bool → List Char
  | none => []
  | some true => ['-']
  | some false => ['+']

def writeExponent : Option ExponentPart → List Char
  | none => []
  | some e => 'e' :: (writeSign e.sign ++ writeDigits e.digits)

def write (n : NumberLiteral) : List Char :=
  (if n.negative then ['-'] else []) ++
    (writeDigits n.whole ++ (writeFraction n.fraction ++ writeExponent n.exponent))

theorem length_scanDigits (s : List Char) : (scanDigits s).2.length ≤ s.length := by
  induction s with
  | nil => simp [scanDigits]
  | cons c rest ih =>
    unfold scanDigits
    split
    · simp
    · simp only [List.length_cons]
      omega

theorem length_scanWhole {s rest : List Char} {ds : List Nat}
    (h : scanWhole s = some (ds, rest)) : rest.length < s.length := by
  cases s with
  | nil => simp [scanWhole, scanDigits] at h
  | cons c s =>
    have hl := length_scanDigits s
    unfold scanWhole at h
    unfold scanDigits at h
    cases hc : Text.digitValue? c with
    | none => simp [hc] at h
    | some d =>
      simp only [hc] at h
      split at h
      · simp at h
      · simp at h
      · next heq =>
        simp only [Prod.mk.injEq] at heq
        simp only [Option.some.injEq, Prod.mk.injEq] at h
        rw [← h.2, ← heq.2, List.length_cons]
        omega

theorem length_scanFraction {s rest : List Char} {ds : Option (List Nat)}
    (h : scanFraction s = some (ds, rest)) : rest.length ≤ s.length := by
  unfold scanFraction at h
  split at h
  · next r =>
    split at h
    · simp at h
    · next heq =>
      have := length_scanDigits r
      simp only [Option.some.injEq, Prod.mk.injEq] at h
      rw [heq, h.2] at this
      simpa using Nat.le_succ_of_le this
  · simp only [Option.some.injEq, Prod.mk.injEq] at h
    exact Nat.le_of_eq (congrArg List.length h.2.symm)

theorem length_scanSign (s : List Char) : (scanSign s).2.length ≤ s.length := by
  unfold scanSign
  split <;> simp

theorem length_scanExponent {s rest : List Char} {e : Option ExponentPart}
    (h : scanExponent s = some (e, rest)) : rest.length ≤ s.length := by
  cases s with
  | nil =>
    simp only [scanExponent, Option.some.injEq, Prod.mk.injEq] at h
    exact Nat.le_of_eq (congrArg List.length h.2.symm)
  | cons c s =>
    rw [scanExponent] at h
    by_cases hc : c = 'e' ∨ c = 'E'
    · rw [if_pos hc] at h
      have h1 := length_scanDigits (scanSign s).2
      have h2 := length_scanSign s
      simp only at h
      split at h
      · simp at h
      · next heq =>
        simp only [Option.some.injEq, Prod.mk.injEq] at h
        rw [heq, h.2] at h1
        simp only at h1
        simp only [List.length_cons]
        omega
    · rw [if_neg hc] at h
      simp only [Option.some.injEq, Prod.mk.injEq] at h
      exact Nat.le_of_eq (congrArg List.length h.2.symm)

theorem length_scanUnsigned {negative : Bool} {s rest : List Char} {n : NumberLiteral}
    (h : scanUnsigned negative s = some (n, rest)) : rest.length < s.length := by
  simp only [scanUnsigned, Option.bind_eq_bind, Option.bind_eq_some_iff, Option.pure_def,
    Option.some.injEq, Prod.mk.injEq, Prod.exists] at h
  obtain ⟨w, s1, h1, f, s2, h2, e, s3, h3, _, rfl⟩ := h
  have := length_scanWhole h1
  have := length_scanFraction h2
  have := length_scanExponent h3
  omega

theorem length_scan {s rest : List Char} {n : NumberLiteral} (h : scan s = some (n, rest)) :
    rest.length < s.length := by
  unfold scan at h
  split at h
  · exact Nat.lt_succ_of_lt (length_scanUnsigned h)
  · exact length_scanUnsigned h

/-! ### Integers -/

def digitsValue (ds : List Nat) : Nat := ds.foldl (fun n d => n * 10 + d) 0

def ofInt (n : Int) : NumberLiteral where
  negative := n < 0
  whole := (scanDigits (Text.writeNatural n.natAbs)).1
  fraction := none
  exponent := none

/-- The integer of a literal that is written as one.  Zero with a minus is none. -/
def toInt? (n : NumberLiteral) : Option Int :=
  if n.fraction.isSome || n.exponent.isSome then none
  else
    let m := digitsValue n.whole
    if n.negative then if m = 0 then none else some (-m) else some m

/-! ### Floats

The digits are gathered as long as the number stays below 2 to the 64; later ones only count as
places.  Then the number is scaled by a power of ten in as few float operations as its exponent
allows, so the result may be off in its last bit. -/

/-- Gathers digits while the number stays below 2 to the 64, and tells which are left. -/
def gather : Nat → List Nat → Nat × List Nat
  | n, [] => (n, [])
  | n, d :: ds => if n * 10 + d < UInt64.size then gather (n * 10 + d) ds else (n, d :: ds)

/-- The largest power of ten that is a float. -/
def maxPower : Nat := 308

def powerOfTen (k : Nat) : Float := Float.ofScientific 1 false k

/-- Divides by a power of ten, in steps of the largest one. -/
def scaleDown (x : Float) (k : Nat) : Float :=
  if k ≤ maxPower then x / powerOfTen k
  else if x == 0 then x
  else scaleDown (x / powerOfTen maxPower) (k - maxPower)
termination_by k
decreasing_by simp only [maxPower] at *; omega

/-- A number scaled by a power of ten, unless it grows too large. -/
def scale? (m : Nat) (k : Int) : Option Float :=
  let x := (UInt64.ofNat m).toFloat
  match k with
  | .negSucc k => some (scaleDown x (k + 1))
  | .ofNat k =>
    if k ≤ maxPower then
      let y := x * powerOfTen k
      if y.isInf then none else some y
    else if x == 0 then some x
    else none

def maxExponent : Int := 2147483647

/-- An exponent kept within 32 bits. -/
def clampExponent (k : Int) : Int := max (-maxExponent - 1) (min maxExponent k)

/-- The absolute value of a literal as a float, unless it is too large for one. -/
def magnitude? (n : NumberLiteral) : Option Float :=
  let (m, left) := gather 0 n.whole
  let (m, unused) := gather m (n.fraction.getD [])
  let places : Int := left.length + unused.length - (n.fraction.getD []).length
  match n.exponent with
  | none => scale? m places
  | some e =>
    let shift := digitsValue e.digits
    let down := e.sign == some true
    if maxExponent < shift then if m = 0 || down then some 0 else none
    else scale? m (clampExponent (if down then places - shift else places + shift))

/-- The float of a literal, unless it is too large for one. -/
def toFloat? (n : NumberLiteral) : Option Float :=
  n.magnitude?.map fun x => if n.negative then -x else x

/-- The integers of 64 bits, with a sign or without. -/
def isWord (n : Int) : Bool := -9223372036854775808 ≤ n && n < UInt64.size

/-- The literal stands for an integer of 64 bits or for a float. -/
def hasValue (n : NumberLiteral) : Bool := n.toInt?.any isWord || n.toFloat?.isSome

end NumberLiteral

end HostServices
