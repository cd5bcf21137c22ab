/-!
# Numerals

Positional numerals in a base up to sixteen, written with lower-case digits, and decimal literals
with a sign.
-/

namespace HostServices.Text

/-- The digit of a value below sixteen. -/
def digit (n : Nat) : Char :=
  if n < 10 then Char.ofNat (48 + n) else Char.ofNat (87 + n)

def digitValue? (c : Char) : Option Nat :=
  if 48 ≤ c.toNat ∧ c.toNat ≤ 57 then some (c.toNat - 48) else none

/-- The value of a hexadecimal digit of either case. -/
def hexValue? (c : Char) : Option Nat :=
  if 97 ≤ c.toNat ∧ c.toNat ≤ 102 then some (c.toNat - 87)
  else if 65 ≤ c.toNat ∧ c.toNat ≤ 70 then some (c.toNat - 55)
  else digitValue? c

/-- The digits of `n` in front of `rest`, most significant first; none for zero. -/
def digitsOnto (base n : Nat) (rest : List Char) : List Char :=
  if h : n = 0 ∨ base < 2 then rest
  else
    have : n / base < n := Nat.div_lt_self (by omega) (by omega)
    digitsOnto base (n / base) (digit (n % base) :: rest)
termination_by n

def writeNumeral (base n : Nat) : List Char :=
  if n = 0 then ['0'] else digitsOnto base n []

def writeNatural (n : Nat) : List Char := writeNumeral 10 n

/-- The decimal literal of an integer, with a sign only when it is negative. -/
def writeInteger : Int → List Char
  | .ofNat n => writeNatural n
  | .negSucc n => '-' :: writeNatural (n + 1)

/-- The value of decimal digits read after a number with value `acc`. -/
def readDigits? (acc : Nat) : List Char → Option Nat
  | [] => some acc
  | c :: rest => (digitValue? c).bind fun d => readDigits? (acc * 10 + d) rest

/-- The value of a text of one or more decimal digits. -/
def readNatural? : List Char → Option Nat
  | [] => none
  | c :: rest => readDigits? 0 (c :: rest)

/-- The value of decimal digits behind at most one sign. -/
def readInteger? : List Char → Option Int
  | '+' :: rest => (readNatural? rest).map Int.ofNat
  | '-' :: rest => (readNatural? rest).map fun n => -Int.ofNat n
  | text => (readNatural? text).map Int.ofNat

/-- The numbers of 32 bits with a sign. -/
def isInt32 (n : Int) : Bool := -2147483648 ≤ n && n ≤ 2147483647

/-- A decimal literal of a number of 32 bits. -/
def readInt32? (s : List Char) : Option Int := (readInteger? s).filter isInt32

theorem digitValue?_digit {d : Nat} (h : d < 10) : digitValue? (digit d) = some d := by
  have : ∀ d : Fin 10, digitValue? (digit d) = some d.val := by decide
  exact this ⟨d, h⟩

end HostServices.Text
