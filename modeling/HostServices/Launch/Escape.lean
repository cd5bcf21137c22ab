import HostServices.Text.Prefix

/-!
# Backslash escapes

What stands behind a backslash in a text to be printed.  The shell and the printing programs know
slightly different escapes; here each has its own reader, all built from the same parts.

This is an assumption about the programs around a launch; no theorem rests on it.
-/

namespace HostServices.Launch

inductive Escape
  | text (s rest : List Char)
  | stop
  | refused (why : String)

namespace Escape

/-- The number of at most `n` digits in front of a text, read after a number, and the rest. -/
def takeAtMost (base : Nat) : Nat → Nat → List Char → Nat × List Char
  | 0, acc, s => (acc, s)
  | _, acc, [] => (acc, [])
  | n + 1, acc, c :: rest =>
    match Text.digitIn? base c with
    | some d => takeAtMost base n (acc * base + d) rest
    | none => (acc, c :: rest)

def byte (n : Nat) : Char := Char.ofNat (n % 256)

def startsWithDigit (base : Nat) (s : List Char) : Bool :=
  s.head?.any fun c => (Text.digitIn? base c).isSome

def letter? (c : Char) : Option Char :=
  match c with
  | 'a' => some (Char.ofNat 7)
  | 'b' => some (Char.ofNat 8)
  | 'e' => some (Char.ofNat 27)
  | 'f' => some (Char.ofNat 12)
  | 'n' => some '\n'
  | 'r' => some '\r'
  | 't' => some '\t'
  | 'v' => some (Char.ofNat 11)
  | '\\' => some '\\'
  | _ => none

/-- An escape in a format of the shell: a letter or up to three octal digits. -/
def ofShellFormat (s : List Char) : Escape :=
  if startsWithDigit 8 s then
    let (n, rest) := takeAtMost 8 3 0 s
    .text [byte n] rest
  else
    match s with
    | c :: rest =>
      match letter? c with
      | some e => .text [e] rest
      | none => .text ['\\'] s
    | [] => .text ['\\'] []

/-- An escape in an operand of the shell: as in a format, but a zero in front of octal digits is
not counted, and there is one that ends all output. -/
def ofShellText (s : List Char) : Escape :=
  match s with
  | 'c' :: _ => .stop
  | '0' :: rest => ofShellFormat (if startsWithDigit 8 rest then rest else s)
  | s => ofShellFormat s

/-- A character by its code point, in a locale that only knows the first 128. -/
def spellCodePoint (n : Nat) : List Char :=
  if n < 128 then [Char.ofNat n]
  else
    let (letter, width) := if n < 0x10000 then ('u', 4) else ('U', 8)
    let spelled := (Text.writeNumeral 16 n).map Char.toUpper
    '\\' :: letter :: List.replicate (width - spelled.length) '0' ++ spelled

def ofCodePoint (letter : Char) (digits : Nat) (s : List Char) : Escape :=
  let (n, rest) := takeAtMost 16 digits 0 s
  if s.length < rest.length + digits then .refused "missing hexadecimal number in escape"
  else if 0xd800 ≤ n && n ≤ 0xdfff then
    let spelled := Text.writeNumeral 16 n
    let zeros := List.replicate (digits - spelled.length) '0'
    .refused ("invalid universal character name \\" ++ String.ofList (letter :: zeros ++ spelled))
  else .text (spellCodePoint n) rest

/-- An escape of the printf program.  In operands a zero in front of octal digits is not
counted. -/
def ofProgram (inOperand : Bool) (s : List Char) : Escape :=
  match s with
  | [] => .text ['\\'] []
  | 'c' :: _ => .stop
  | '"' :: rest => .text ['"'] rest
  | 'x' :: rest =>
    if startsWithDigit 16 rest then
      let (n, rest) := takeAtMost 16 2 0 rest
      .text [byte n] rest
    else .refused "missing hexadecimal number in escape"
  | 'u' :: rest => ofCodePoint 'u' 4 rest
  | 'U' :: rest => ofCodePoint 'U' 8 rest
  | c :: rest =>
    if startsWithDigit 8 s then
      let (n, rest) := takeAtMost 8 3 0 (if inOperand && c = '0' then rest else s)
      .text [byte n] rest
    else
      match letter? c with
      | some e => .text [e] rest
      | none => .text ['\\', c] rest

def ofEcho (s : List Char) : Escape :=
  match s with
  | [] => .text ['\\'] []
  | 'c' :: _ => .stop
  | 'x' :: rest =>
    if startsWithDigit 16 rest then
      let (n, rest) := takeAtMost 16 2 0 rest
      .text [byte n] rest
    else .text ['\\'] s
  | c :: rest =>
    if startsWithDigit 8 s then
      let (n, rest) := takeAtMost 8 3 0 (if c = '0' then rest else s)
      .text [byte n] rest
    else
      match letter? c with
      | some e => .text [e] rest
      | none => .text ['\\'] s

end Escape

/-- Why an output ends before its time. -/
inductive Cut
  | asked
  | refused (why : String)
  deriving DecidableEq

/-- An output, and why it is cut short, if it is. -/
structure Cuttable where
  text : List Char
  cut : Option Cut

/-- More output in front of another one. -/
def Cuttable.behind (s : List Char) (c : Cuttable) : Cuttable := { c with text := s ++ c.text }

/-- Carries out all escapes of a text; the number bounds its characters. -/
def unescape (read : List Char → Escape) : Nat → List Char → Cuttable
  | 0, s => ⟨s, none⟩
  | _, [] => ⟨[], none⟩
  | n + 1, c :: rest =>
    if c = '\\' then
      match read rest with
      | .text s rest => (unescape read n rest).behind s
      | .stop => ⟨[], some .asked⟩
      | .refused why => ⟨[], some (.refused why)⟩
    else (unescape read n rest).behind [c]

/-! ### Echo -/

def joined (operands : List String) : List Char := (" ".intercalate operands).toList

/-- The output of the shell's echo, which always carries out escapes. -/
def shellEcho (operands : List String) : String :=
  let (newline, operands) :=
    match operands with
    | "-n" :: rest => (false, rest)
    | operands => (true, operands)
  let text := joined operands
  let out := unescape Escape.ofShellText text.length text
  String.ofList (out.text ++ if newline && out.cut.isNone then ['\n'] else [])

structure EchoOptions where
  newline : Bool
  escapes : Bool

def EchoOptions.take? (o : EchoOptions) (operand : String) : Option EchoOptions :=
  match operand.toList with
  | '-' :: c :: rest =>
    if (c :: rest).all fun c => c = 'n' || c = 'e' || c = 'E' then
      some ((c :: rest).foldl
        (fun o c =>
          if c = 'n' then { o with newline := false }
          else { o with escapes := c = 'e' }) o)
    else none
  | _ => none

def EchoOptions.takeAll (o : EchoOptions) : List String → EchoOptions × List String
  | [] => (o, [])
  | operand :: rest =>
    match o.take? operand with
    | some o => o.takeAll rest
    | none => (o, operand :: rest)

/-- The output of the echo program, which carries out escapes only on demand.  A strict one always
does, and takes options only behind a first one against the newline. -/
def programEcho (isStrict : Bool) (operands : List String) : String :=
  let start : EchoOptions := ⟨true, false⟩
  let (o, operands) :=
    if isStrict && operands.head? != some "-n" then (start, operands) else start.takeAll operands
  let o := { o with escapes := o.escapes || isStrict }
  let text := joined operands
  let out := if o.escapes then unescape Escape.ofEcho text.length text else ⟨text, none⟩
  String.ofList (out.text ++ if o.newline && out.cut.isNone then ['\n'] else [])

end HostServices.Launch
