import HostServices.Text.Numeral

/-!
# Numbers in front of a text

An integer is read as far as it goes: behind blanks and a sign stands a numeral in base sixteen
behind `0x`, in base two behind `0b`, in base eight behind `0`, and in base ten otherwise.
-/

namespace HostServices.Text

def isPlainBlank (c : Char) : Bool := c = ' ' || (9 ≤ c.toNat && c.toNat ≤ 13)

def digitIn? (base : Nat) (c : Char) : Option Nat := (hexValue? c).filter (· < base)

/-- The number of the digits in front of a text, read after a number with value `acc`, and the
rest. -/
def takeDigits (base acc : Nat) : List Char → Nat × List Char
  | [] => (acc, [])
  | c :: rest =>
    match digitIn? base c with
    | some d => takeDigits base (acc * base + d) rest
    | none => (acc, c :: rest)

structure NumberPrefix where
  value : Int
  rest : List Char

def takeNumeral? (s : List Char) : Option (Nat × List Char) :=
  let startsWith (base : Nat) (s : List Char) := s.head?.any fun c => (digitIn? base c).isSome
  match s with
  | '0' :: x :: rest =>
    if (x = 'x' || x = 'X') && startsWith 16 rest then some (takeDigits 16 0 rest)
    else if (x = 'b' || x = 'B') && startsWith 2 rest then some (takeDigits 2 0 rest)
    else some (takeDigits 8 0 (x :: rest))
  | s => if startsWith 10 s then some (takeDigits 10 0 s) else none

def takeInteger? (s : List Char) : Option NumberPrefix :=
  match s.dropWhile isPlainBlank with
  | '-' :: rest => (takeNumeral? rest).map fun (n, rest) => ⟨-n, rest⟩
  | '+' :: rest => (takeNumeral? rest).map fun (n, rest) => ⟨n, rest⟩
  | rest => (takeNumeral? rest).map fun (n, rest) => ⟨n, rest⟩

def takeDecimal? (s : List Char) : Option NumberPrefix :=
  let decimal? (s : List Char) : Option (Nat × List Char) :=
    if s.head?.any fun c => (digitIn? 10 c).isSome then some (takeDigits 10 0 s) else none
  match s.dropWhile isPlainBlank with
  | '-' :: rest => (decimal? rest).map fun (n, rest) => ⟨-n, rest⟩
  | '+' :: rest => (decimal? rest).map fun (n, rest) => ⟨n, rest⟩
  | rest => (decimal? rest).map fun (n, rest) => ⟨n, rest⟩

/-- The numbers of 64 bits with a sign. -/
def isInt64 (n : Int) : Bool := -Int.pow 2 63 ≤ n && n < Int.pow 2 63

/-- The number of 64 bits with a sign that is closest to an integer. -/
def clampInt64 (n : Int) : Int := max (-Int.pow 2 63) (min n (Int.pow 2 63 - 1))

/-- An integer in 64 bits with a sign, without what does not fit. -/
def wrapInt64 (n : Int) : Int := (n + Int.pow 2 63) % Int.pow 2 64 - Int.pow 2 63

end HostServices.Text
