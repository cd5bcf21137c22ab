/-!
# Octets

What programs write and read are bytes.  They are kept as strings all of whose characters are below
256, where each character stands for the byte of its number.  Bytes that spell no text are shown by
the replacement character.
-/

namespace HostServices.Text

def toOctets (s : String) : String :=
  String.ofList (s.toList.flatMap fun c =>
    (String.utf8EncodeChar c).map fun b => Char.ofNat b.toNat)

/-- The character that stands for what spells none. -/
def replacement : Char := Char.ofNat 0xfffd

/-- How many bytes follow a first one, and what the first of them must lie between. -/
def following? (first : Nat) : Option (Nat × Nat × Nat) :=
  if 0xc2 ≤ first ∧ first ≤ 0xdf then some (1, 0x80, 0xbf)
  else if first = 0xe0 then some (2, 0xa0, 0xbf)
  else if first = 0xed then some (2, 0x80, 0x9f)
  else if 0xe1 ≤ first ∧ first ≤ 0xef then some (2, 0x80, 0xbf)
  else if first = 0xf0 then some (3, 0x90, 0xbf)
  else if 0xf1 ≤ first ∧ first ≤ 0xf3 then some (3, 0x80, 0xbf)
  else if first = 0xf4 then some (3, 0x80, 0x8f)
  else none

/-- A part of a character's bytes that is still to be completed. -/
structure Unfinished where
  /-- What the bytes so far are worth. -/
  value : Nat
  missing : Nat
  least : Nat
  most : Nat

def beginCharacter (n : Nat) : Except Char Unfinished :=
  if n < 0x80 then .error (Char.ofNat n)
  else
    match following? n with
    | none => .error replacement
    | some (missing, least, most) => .ok ⟨n % Nat.pow 2 (6 - missing), missing, least, most⟩

/-- Reads bytes as text.  Each longest part of a character that is cut short is replaced as a
whole, and so is each byte that begins none. -/
def readOctets : Option Unfinished → List Nat → List Char
  | none, [] => []
  | some _, [] => [replacement]
  | none, n :: rest =>
    match beginCharacter n with
    | .error c => c :: readOctets none rest
    | .ok u => readOctets (some u) rest
  | some u, n :: rest =>
    if u.least ≤ n ∧ n ≤ u.most then
      let value := u.value * 64 + n % 64
      if u.missing = 1 then Char.ofNat value :: readOctets none rest
      else readOctets (some ⟨value, u.missing - 1, 0x80, 0xbf⟩) rest
    else
      match beginCharacter n with
      | .error c => replacement :: c :: readOctets none rest
      | .ok v => replacement :: readOctets (some v) rest

def ofOctets (s : String) : String := String.ofList (readOctets none (s.toList.map Char.toNat))

def spelled? (s : String) : Option String :=
  let text := ofOctets s
  if toOctets text = s then some text else none

end HostServices.Text
