import HostServices.Text.Prefix

/-!
# Floating numbers in formats

A written number is rounded to a binary one with a given number of digits, a half going to the even
neighbour, and is then written with as many decimal places as a format asks for, rounded in the same
way from its exact value.

This is an assumption about how the programs around a launch write numbers; no theorem rests on it.
-/

namespace HostServices.Launch

/-- A floating number: `mantissa * 2 ^ exponent`, or one that is not finite. -/
inductive Floating
  | finite (negative : Bool) (mantissa : Nat) (exponent : Int)
  | infinite (negative : Bool)
  | notANumber (negative : Bool)

structure BinaryFormat where
  /-- How many digits a number has at most. -/
  bits : Nat
  /-- The exponent of the least number. -/
  least : Int
  /-- All numbers are below this power of two. -/
  limit : Int
  /-- How many digits stand in front of the point when a number is written in base sixteen. -/
  lead : Nat

namespace BinaryFormat

def double : BinaryFormat := ⟨53, -1074, 1024, 1⟩

def extended : BinaryFormat := ⟨64, -16445, 16384, 4⟩

end BinaryFormat

/-- A quotient rounded to an integer, a half to the even one. -/
def roundQuotient (n d : Nat) : Nat :=
  let q := n / d
  let twice := 2 * (n % d)
  if d < twice || (twice = d && q % 2 = 1) then q + 1 else q

namespace Floating

/-! ### Reading -/

/-- The least number of bits that hold a number. -/
def bitLength (n : Nat) : Nat := if n = 0 then 0 else n.log2 + 1

/-- A quotient rounded to a number of a format, and whether it is out of the format's range: too
great, or too small to be exact. -/
def ofQuotient (f : BinaryFormat) (negative : Bool) (n d : Nat) : Floating × Bool :=
  if n = 0 then (.finite negative 0 0, false)
  else
    let guess := max ((bitLength n : Int) - bitLength d - f.bits) f.least
    let divided (e : Int) : Nat × Nat :=
      if 0 ≤ e then (n, d * Nat.pow 2 e.toNat) else (n * Nat.pow 2 (-e).toNat, d)
    let scaled (e : Int) : Nat := roundQuotient (divided e).1 (divided e).2
    let e := if bitLength (scaled guess) ≤ f.bits then guess else guess + 1
    let m := scaled e
    let isExact : Bool := (divided e).1 % (divided e).2 = 0
    if f.limit < bitLength m + e then (.infinite negative, true)
    else (.finite negative m e, bitLength m < f.bits && !isExact)

def tenTo (e : Int) : Nat × Nat :=
  if 0 ≤ e then (Nat.pow 10 e.toNat, 1) else (1, Nat.pow 10 (-e).toNat)

/-- The exponent behind a number's mark of it, and the rest; without digits there is none. -/
def takeExponent (mark : Char) (s : List Char) : Int × List Char :=
  match s with
  | c :: rest =>
    if c.toLower != mark then (0, s)
    else
      let (negative, digits) :=
        match rest with
        | '-' :: rest => (true, rest)
        | '+' :: rest => (false, rest)
        | rest => (false, rest)
      match digits with
      | d :: _ =>
        if d.isDigit then
          let (n, rest) := Text.takeDigits 10 0 digits
          let n := min n 100000
          (if negative then -(n : Int) else n, rest)
        else (0, s)
      | [] => (0, s)
  | [] => (0, [])

/-- Digits with a point among them: their number without the point, how many stand behind it,
whether there are any, and the rest. -/
def takePointed (base : Nat) (s : List Char) : Nat × Nat × Bool × List Char :=
  let (whole, behind) := Text.takeDigits base 0 s
  match behind with
  | '.' :: fraction =>
    let (n, rest) := Text.takeDigits base whole fraction
    let places := fraction.length - rest.length
    if behind.length = s.length && places = 0 then (0, 0, false, s) else (n, places, true, rest)
  | rest => (whole, 0, rest.length != s.length, rest)

/-- A number in front of a text that begins with its digits, whether it is out of range, and the
rest. -/
def takeUnsigned? (f : BinaryFormat) (negative : Bool) (s : List Char) :
    Option (Floating × Bool × List Char) :=
  let lower := s.map Char.toLower
  let rounded (n d : Nat) (rest : List Char) : Option (Floating × Bool × List Char) :=
    let (x, isOut) := ofQuotient f negative n d
    some (x, isOut, rest)
  if "infinity".toList.isPrefixOf lower then some (.infinite negative, false, s.drop 8)
  else if "inf".toList.isPrefixOf lower then some (.infinite negative, false, s.drop 3)
  else if "nan".toList.isPrefixOf lower then some (.notANumber negative, false, s.drop 3)
  else
    let hex :=
      match s with
      | '0' :: x :: rest => if x.toLower = 'x' then some (takePointed 16 rest) else none
      | _ => none
    match hex with
    | some (n, places, true, rest) =>
      let (e, rest) := takeExponent 'p' rest
      let e := e - 4 * places
      if 0 ≤ e then rounded (n * Nat.pow 2 e.toNat) 1 rest
      else rounded n (Nat.pow 2 (-e).toNat) rest
    | _ =>
      match takePointed 10 s with
      | (n, places, true, rest) =>
        let (e, rest) := takeExponent 'e' rest
        let (num, den) := tenTo (e - places)
        rounded (n * num) den rest
      | _ => none

/-- The number in front of a text, if there is one, whether it is out of range, and the rest. -/
def take? (f : BinaryFormat) (s : List Char) : Option (Floating × Bool × List Char) :=
  match s.dropWhile Text.isPlainBlank with
  | '-' :: rest => takeUnsigned? f true rest
  | '+' :: rest => takeUnsigned? f false rest
  | rest => takeUnsigned? f false rest

/-! ### Writing -/

def isNegative : Floating → Bool
  | .finite negative .. | .infinite negative | .notANumber negative => negative

def isFinite : Floating → Bool
  | .finite .. => true
  | _ => false

/-- The absolute value of a finite number as a quotient. -/
def quotient (mantissa : Nat) (exponent : Int) : Nat × Nat :=
  if 0 ≤ exponent then (mantissa * Nat.pow 2 exponent.toNat, 1)
  else (mantissa, Nat.pow 2 (-exponent).toNat)

/-- Digits with a point in front of the last ones. -/
def pointed (digits : List Char) (places : Nat) (alternate : Bool) : List Char :=
  let digits := List.replicate (places + 1 - digits.length) '0' ++ digits
  let whole := digits.take (digits.length - places)
  if places = 0 then if alternate then whole ++ ['.'] else whole
  else whole ++ '.' :: digits.drop (digits.length - places)

def fixed (n d places : Nat) (alternate : Bool) : List Char :=
  pointed (Text.writeNatural (roundQuotient (n * Nat.pow 10 places) d)) places alternate

/-- A quotient as a number with one digit in front of the point and a power of ten; both as they are
after rounding to a number of places. -/
def scientific (n d places : Nat) : Nat × Int :=
  if n = 0 then (0, 0)
  else
    let at10 (e : Int) : Nat :=
      let (num, den) := tenTo (places - e)
      roundQuotient (n * num) (d * den)
    let isBelow (e : Int) : Bool :=
      let (num, den) := tenTo e
      n * den < d * num
    let guess : Int := (Text.writeNatural n).length - (Text.writeNatural d).length
    let e := if isBelow guess then guess - 1 else guess
    let m := at10 e
    if m < Nat.pow 10 (places + 1) then (m, e) else (at10 (e + 1), e + 1)

/-- The exponent of a number, with two digits at least. -/
def exponentText (e : Int) : List Char :=
  let digits := Text.writeNatural e.natAbs
  (if e < 0 then '-' else '+') :: List.replicate (2 - digits.length) '0' ++ digits

/-- Digits behind the point without the zeros at their end. -/
def withoutZeros (s : List Char) : List Char :=
  if s.contains '.' then
    let s := (s.reverse.dropWhile (· = '0')).reverse
    if s.getLast? = some '.' then s.dropLast else s
  else s

/-- A quotient with a power of ten. -/
def exponential (n d places : Nat) (alternate : Bool) : List Char :=
  let (m, e) := scientific n d places
  pointed (Text.writeNatural m) places alternate ++ 'e' :: exponentText e

/-- A quotient in the shorter of the two forms, with a number of digits that count. -/
def general (n d digits : Nat) (alternate : Bool) : List Char :=
  let digits := max digits 1
  let (m, e) := scientific n d (digits - 1)
  let trimmed (s : List Char) := if alternate then s else withoutZeros s
  if -4 ≤ e && e < digits then trimmed (fixed n d ((digits : Int) - 1 - e).toNat alternate)
  else
    trimmed (pointed (Text.writeNatural m) (digits - 1) alternate) ++ 'e' :: exponentText e

/-- A finite number in base sixteen with a power of two, rounded to a number of places or, if there
is none, with all that count.  What is rounded up to sixteen in front of the point moves behind
it. -/
def hexadecimal (f : BinaryFormat) (mantissa : Nat) (exponent : Int) (precision : Option Nat)
    (alternate : Bool) : List Char :=
  let unit := max (exponent + bitLength mantissa - f.bits) f.least
  let whole := mantissa * Nat.pow 2 (exponent - unit).toNat
  let all := (f.bits - f.lead) / 4
  let places := precision.getD all
  let rounded := roundQuotient (whole * Nat.pow 16 places) (Nat.pow 16 all)
  let carries := Nat.pow 16 (places + 1) ≤ rounded
  let rounded := if carries then rounded / 16 else rounded
  let e := unit + 4 * all + if carries then 4 else 0
  let e := if mantissa = 0 then 0 else e
  let digits := Text.writeNumeral 16 rounded
  let text :=
    match precision with
    | some _ => pointed digits places alternate
    | none =>
      let text := withoutZeros (pointed digits places false)
      if alternate && !text.contains '.' then text ++ ['.'] else text
  '0' :: 'x' :: text ++ 'p' :: (if e < 0 then '-' else '+') :: Text.writeNatural e.natAbs

/-- A number without its sign, in the form of a conversion's letter. -/
def write (letter : Char) (f : BinaryFormat) (precision : Option Nat) (alternate : Bool) :
    Floating → List Char
  | .infinite _ => "inf".toList
  | .notANumber _ => "nan".toList
  | .finite _ mantissa exponent =>
    let (n, d) := quotient mantissa exponent
    let places := precision.getD 6
    match letter with
    | 'f' => fixed n d places alternate
    | 'e' => exponential n d places alternate
    | 'g' => general n d places alternate
    | _ => hexadecimal f mantissa exponent precision alternate

end Floating

end HostServices.Launch
