import HostServices.Text.Numeral

/-!
# String literals

Between its quotes a string literal holds characters and escapes.  An escape by number stands for
half of a pair as well as for a character, so a literal may spell no text at all; such a literal is
well formed, and only a reader that wants its text refuses it.
-/

namespace HostServices.StringLiteral

/-- A part of a string literal. -/
inductive Piece
  | char (c : Char)
  /-- An escape by number, of 16 bits. -/
  | unit (n : Nat)
  deriving DecidableEq

/-- The number of four hexadecimal digits. -/
def hexUnit? (a b c d : Char) : Option Nat := do
  let digits ← [a, b, c, d].mapM Text.hexValue?
  return digits.foldl (fun n d => n * 16 + d) 0

def letterEscape? (c : Char) : Option Char :=
  if c = '"' then some '"'
  else if c = '\\' then some '\\'
  else if c = '/' then some '/'
  else if c = 'b' then some (Char.ofNat 8)
  else if c = 'f' then some (Char.ofNat 12)
  else if c = 'n' then some '\n'
  else if c = 'r' then some '\r'
  else if c = 't' then some '\t'
  else none

/-- The pieces up to the closing quote, and what follows it.  Controls must be escaped. -/
def scan : List Char → Option (List Piece × List Char)
  | [] => none
  | '"' :: rest => some ([], rest)
  | '\\' :: 'u' :: a :: b :: c :: d :: rest => do
    let n ← hexUnit? a b c d
    let (pieces, rest) ← scan rest
    return (.unit n :: pieces, rest)
  | '\\' :: c :: rest => do
    let e ← letterEscape? c
    let (pieces, rest) ← scan rest
    return (.char e :: pieces, rest)
  | c :: rest =>
    if c = '\\' ∨ c.toNat < 0x20 then none
    else do
      let (pieces, rest) ← scan rest
      return (.char c :: pieces, rest)

/-- The first half of a pair. -/
def isHigh (n : Nat) : Bool := 0xd800 ≤ n && n ≤ 0xdbff

/-- The second half of a pair. -/
def isLow (n : Nat) : Bool := 0xdc00 ≤ n && n ≤ 0xdfff

/-- The text that pieces spell: halves must stand in pairs. -/
def text? : List Piece → Option (List Char)
  | [] => some []
  | .char c :: rest => (text? rest).map (c :: ·)
  | .unit h :: .unit l :: rest =>
    if isHigh h && isLow l then
      (text? rest).map (Char.ofNat ((h - 0xd800) * 0x400 + (l - 0xdc00) + 0x10000) :: ·)
    else if isHigh h || isLow h then none
    else (text? (.unit l :: rest)).map (Char.ofNat h :: ·)
  | .unit n :: rest =>
    if isHigh n || isLow n then none else (text? rest).map (Char.ofNat n :: ·)

/-- Four hexadecimal digits of a number below 2 to the 16. -/
def writeUnit (n : Nat) : List Char :=
  [Text.digit (n / 4096 % 16), Text.digit (n / 256 % 16), Text.digit (n / 16 % 16),
    Text.digit (n % 16)]

/-- A character written: only quotes, backslashes and controls are escaped. -/
def writeChar (c : Char) : List Char :=
  if c = '"' then ['\\', '"']
  else if c = '\\' then ['\\', '\\']
  else if c.toNat = 8 then ['\\', 'b']
  else if c.toNat = 12 then ['\\', 'f']
  else if c = '\n' then ['\\', 'n']
  else if c = '\r' then ['\\', 'r']
  else if c = '\t' then ['\\', 't']
  else if c.toNat < 0x20 then '\\' :: 'u' :: writeUnit c.toNat
  else [c]

/-- The literal of a text; for none, a literal that spells no text. -/
def write : Option (List Char) → List Char
  | some s => '"' :: s.flatMap writeChar ++ ['"']
  | none => '"' :: '\\' :: 'u' :: writeUnit 0xd800 ++ ['"']

theorem length_scan {s rest : List Char} {pieces : List Piece} (h : scan s = some (pieces, rest)) :
    rest.length < s.length := by
  fun_induction scan s generalizing pieces with
  | case1 => simp at h
  | case2 rest' =>
    simp only [Option.some.injEq, Prod.mk.injEq] at h
    rw [← h.2]
    simp
  | case3 a b c d rest' ih =>
    simp only [Option.bind_eq_bind, Option.bind_eq_some_iff, Option.pure_def, Option.some.injEq,
      Prod.mk.injEq, Prod.exists] at h
    obtain ⟨_, _, p, r, hr, _, rfl⟩ := h
    have := ih hr
    simp only [List.length_cons]
    omega
  | case4 c rest' _ ih =>
    simp only [Option.bind_eq_bind, Option.bind_eq_some_iff, Option.pure_def, Option.some.injEq,
      Prod.mk.injEq, Prod.exists] at h
    obtain ⟨_, _, p, r, hr, _, rfl⟩ := h
    have := ih hr
    simp only [List.length_cons]
    omega
  | case5 => simp at h
  | case6 c rest' _ _ _ _ ih =>
    simp only [Option.bind_eq_bind, Option.bind_eq_some_iff, Option.pure_def, Option.some.injEq,
      Prod.mk.injEq, Prod.exists] at h
    obtain ⟨p, r, hr, _, rfl⟩ := h
    have := ih hr
    simp only [List.length_cons]
    omega

end HostServices.StringLiteral
