import HostServices.Launch.Escape
import HostServices.Launch.Floating
import HostServices.Launch.Quotation

/-!
# Formats

A format is a text with conversions, each of which takes an operand; it is carried out again as long
as operands are left.  The shell and the printf program know the same conversions but differ in what
they refuse and in how they complain.

This is an assumption about the programs around a launch; no theorem rests on it.
-/

namespace HostServices.Launch

inductive Printer
  | shell
  | program
  deriving DecidableEq

/-! ### Layout -/

/-- How what a conversion gives is laid out. -/
structure Layout where
  left : Bool
  plus : Bool
  blank : Bool
  zeros : Bool
  alternate : Bool
  width : Nat
  precision : Option Nat

namespace Layout

def plain : Layout := ⟨false, false, false, false, false, 0, none⟩

def flag? (l : Layout) (c : Char) : Option Layout :=
  match c with
  | '-' => some { l with left := true }
  | '+' => some { l with plus := true }
  | ' ' => some { l with blank := true }
  | '0' => some { l with zeros := true }
  | '#' => some { l with alternate := true }
  | _ => none

/-- A width from an operand; a negative one asks for blanks on the right. -/
def withWidth (l : Layout) (n : Int) : Layout :=
  { l with width := n.natAbs, left := l.left || n < 0 }

/-- A precision from an operand; a negative one is none. -/
def withPrecision (l : Layout) (n : Int) : Layout :=
  { l with precision := if n < 0 then none else some n.toNat }

/-- Fills a text up to the width. -/
def pad (l : Layout) (s : List Char) : List Char :=
  let blanks := List.replicate (l.width - s.length) ' '
  if l.left then s ++ blanks else blanks ++ s

def text (l : Layout) (s : List Char) : List Char := l.pad (s.take (l.precision.getD s.length))

/-- Digits behind their sign; zeros that fill up the width stand between. -/
def signed (l : Layout) (fills : Bool) (sign digits : List Char) : List Char :=
  let zeros := if fills && l.zeros && !l.left then l.width - sign.length - digits.length else 0
  l.pad (sign ++ List.replicate zeros '0' ++ digits)

/-- The digits of an integer, at least as many as the precision asks for. -/
def digits (l : Layout) (base n : Nat) : List Char :=
  let digits := if n = 0 && l.precision = some 0 then [] else Text.writeNumeral base n
  List.replicate (l.precision.getD 0 - digits.length) '0' ++ digits

def sign (l : Layout) (negative : Bool) : List Char :=
  if negative then ['-'] else if l.plus then ['+'] else if l.blank then [' '] else []

def integer (l : Layout) (n : Int) : List Char :=
  l.signed l.precision.isNone (l.sign (n < 0)) (l.digits 10 n.natAbs)

/-- A number of 64 bits in a base.  In base eight the alternate form begins with a zero, in base
sixteen with `0x`. -/
def unsigned (l : Layout) (base : Nat) (n : Nat) : List Char :=
  let digits := l.digits base n
  let digits := if l.alternate && base = 8 && digits.head? != some '0' then '0' :: digits else digits
  let mark := if l.alternate && base = 16 && n != 0 then ['0', 'x'] else []
  l.signed l.precision.isNone mark digits

/-- A floating number in the form of a conversion's letter. -/
def floating (l : Layout) (letter : Char) (f : BinaryFormat) (x : Floating) : List Char :=
  let body := x.write letter f l.precision l.alternate
  match letter, body with
  | 'a', '0' :: 'x' :: digits => l.signed true (l.sign x.isNegative ++ ['0', 'x']) digits
  | _, body => l.signed x.isFinite (l.sign x.isNegative) body

end Layout

/-! ### Operands -/

/-- What is wrong with an operand that ought to be a number. -/
inductive Complaint
  | noNumber
  | notAllRead
  | outOfRange
  /-- What stands behind a quoted character is ignored. -/
  | ignored (rest : String)
  deriving DecidableEq

def Complaint.wording (p : Printer) (operand : String) (quoted : String → String) :
    Complaint → String
  | .noNumber =>
    match p with
    | .shell => operand ++ ": expected numeric value"
    | .program => quoted operand ++ ": expected a numeric value"
  | .notAllRead =>
    match p with
    | .shell => operand ++ ": not completely converted"
    | .program => quoted operand ++ ": value not completely converted"
  | .outOfRange =>
    (match p with
      | .shell => operand
      | .program => quoted operand) ++ ": Numerical result out of range"
  | .ignored rest =>
    "warning: " ++ rest ++ ": character(s) following character constant have been ignored"

def complaintAbout (operand rest : List Char) : Option Complaint :=
  if rest.isEmpty then none
  else if rest.length = operand.length then some .noNumber
  else some .notAllRead

/-- The complaint about a number, which may also be out of range: the program complains of that
first, the shell last. -/
def withRange (p : Printer) (isOut : Bool) (complaint : Option Complaint) : Option Complaint :=
  if isOut && (p = .program || complaint.isNone) then some .outOfRange else complaint

def quotedCharacter? (p : Printer) (operand : List Char) : Option (Nat × Option Complaint) :=
  match operand with
  | q :: s =>
    if q != '"' && q != Char.ofNat 39 then none
    else
      match p, s with
      | .shell, c :: _ => some (c.toNat, none)
      | .shell, [] => some (0, none)
      | .program, [c] => some (c.toNat, none)
      | .program, c :: rest => some (c.toNat, some (.ignored (String.ofList rest)))
      | .program, [] => none
  | [] => none

def integerOf (p : Printer) (within : Int → Int) (operand : List Char) :
    Int × Option Complaint :=
  match quotedCharacter? p operand with
  | some (n, complaint) => (n, complaint)
  | none =>
    match Text.takeInteger? operand with
    | none => (0, complaintAbout operand operand)
    | some ⟨n, rest⟩ =>
      (within n, withRange p (within n != n) (complaintAbout operand rest))

def signedOf (p : Printer) (operand : List Char) : Int × Option Complaint :=
  integerOf p Text.clampInt64 operand

/-- An operand as a number of 64 bits without a sign; a negative one counts from above. -/
def unsignedOf (p : Printer) (operand : List Char) : Nat × Option Complaint :=
  let within (n : Int) : Int := if n.natAbs < UInt64.size then n else Int.pow 2 64 - 1
  let (n, complaint) := integerOf p within operand
  ((n % Int.pow 2 64).toNat, complaint)

def floatingOf (p : Printer) (f : BinaryFormat) (operand : List Char) :
    Floating × Option Complaint :=
  match quotedCharacter? p operand with
  | some (n, complaint) => (.finite false n 0, complaint)
  | none =>
    match Floating.take? f operand with
    | none => (.finite false 0 0, complaintAbout operand operand)
    | some (x, isOut, rest) => (x, withRange p isOut (complaintAbout operand rest))

/-! ### Conversions -/

def isFloatingLetter (c : Char) : Bool := ['a', 'e', 'f', 'g'].contains c.toLower

def Printer.floatingFormat : Printer → BinaryFormat
  | .shell => .double
  | .program => .extended

structure Converted where
  out : Cuttable
  complaint : Option Complaint

def convert (p : Printer) (l : Layout) (letter : Char) (operand : List Char) : Converted :=
  let whole (r : List Char × Option Complaint) : Converted := ⟨⟨r.1, none⟩, r.2⟩
  if isFloatingLetter letter then
    let (x, complaint) := floatingOf p p.floatingFormat operand
    let s := l.floating letter.toLower p.floatingFormat x
    whole (if letter.isUpper then s.map Char.toUpper else s, complaint)
  else
    let based (base : Nat) : List Char × Option Complaint :=
      let (n, complaint) := unsignedOf p operand
      (l.unsigned base n, complaint)
    match letter with
    | 's' => ⟨⟨l.text operand, none⟩, none⟩
    | 'c' => ⟨⟨l.pad [operand.headD (Char.ofNat 0)], none⟩, none⟩
    | 'b' =>
      let read := match p with
        | .shell => Escape.ofShellText
        | .program => Escape.ofProgram true
      let out := unescape read operand.length operand
      ⟨⟨l.text out.text, out.cut⟩, none⟩
    | 'o' => whole (based 8)
    | 'u' => whole (based 10)
    | 'x' => whole (based 16)
    | 'X' =>
      let (s, complaint) := based 16
      whole (s.map Char.toUpper, complaint)
    | _ =>
      let (n, complaint) := signedOf p operand
      whole (l.integer n, complaint)

/-! ### Carrying out formats -/

structure Printed where
  out : Cuttable
  complaints : List (String × Complaint)
  operands : List String

def Printed.behind (s : List Char) (r : Printed) : Printed := { r with out := r.out.behind s }

def takeFlags (p : Printer) (l : Layout) : List Char → Layout × List Char
  | [] => (l, [])
  | c :: rest =>
    match l.flag? c with
    | some l => takeFlags p l rest
    | none =>
      if p = .program && (c = Char.ofNat 39 || c = 'I') then takeFlags p l rest else (l, c :: rest)

/-- A width or a precision of a conversion. -/
structure Count where
  value? : Option Int
  rest : List Char
  operands : List String
  /-- What is wrong with the operand that was taken. -/
  complaints : List (String × Complaint)

/-- Why a conversion is refused, and what is wrong with the operands that it has used up. -/
structure Refusal where
  why : String
  complaints : List (String × Complaint)

/-- The greatest width of an output that can be held. -/
def greatestCount : Nat := 2000000

/-- Why a width or a precision in digits is refused. -/
def tooWide : Printer → String
  | .shell => "xvsnprintf failed"
  | .program => "write error"

/-- A width or a precision: digits, or an operand.  The shell counts by 32 bits of an operand, while
the program refuses what does not fit; a precision may be as negative as it likes. -/
def takeCount (p : Printer) (isPrecision : Bool) (s : List Char) (operands : List String) :
    Except Refusal Count :=
  match s with
  | '*' :: rest =>
    match operands with
    | [] => .ok ⟨some 0, rest, [], []⟩
    | operand :: others =>
      let (n, complaint) := signedOf p operand.toList
      let complaints := (complaint.map fun c => (operand, c)).toList
      let fits : Bool := -Int.pow 2 31 ≤ n && n < Int.pow 2 31
      let counted := if p = .shell then n.bmod UInt32.size else n
      let isNone : Bool := isPrecision && counted < 0
      let what := if isPrecision then "precision" else "field width"
      if p = .program && !fits && !isNone then
        .error ⟨"invalid " ++ what ++ ": " ++ quotedOperand operand, complaints⟩
      else if greatestCount < counted.natAbs && !isNone then .error ⟨tooWide p, complaints⟩
      else .ok ⟨some counted, rest, others, complaints⟩
  | s =>
    let (digits, rest) := s.span Char.isDigit
    match Text.readNatural? digits with
    | none => .ok ⟨none, rest, operands, []⟩
    | some n =>
      if n ≤ greatestCount then .ok ⟨some n, rest, operands, []⟩ else .error ⟨tooWide p, []⟩

/-- The letters that the printf program takes behind some flags. -/
def allows (flags : List Char) (dotted : Bool) (letter : Char) : Bool :=
  let has (c : Char) := flags.contains c
  let grouped := has (Char.ofNat 39) || has 'I'
  "aAcdeEfFgGiosuxX".toList.contains letter &&
    !(grouped && "aAceEosxX".toList.contains letter) &&
    !(has '#' && "cdisu".toList.contains letter) &&
    !(has '0' && "cs".toList.contains letter) &&
    !(dotted && letter = 'c')

def shellLetters : List Char := "aAbcdeEfFgGiosuxX".toList

/-- A conversion: its layout and letter, the rest of the format and of the operands, and what is
wrong with those that it used up. -/
structure Conversion where
  layout : Layout
  letter : Char
  rest : List Char
  operands : List String
  complaints : List (String × Complaint)

/-- The letter of a conversion of which the rest has been read; the program passes marks of size. -/
def takeLetter? (p : Printer) (flags : List Char) (dotted : Bool) (s : List Char) :
    Option (Char × List Char) :=
  let s := if p = .program then s.dropWhile fun c => "lLhjtz".toList.contains c else s
  match s with
  | [] => none
  | c :: rest =>
    let isKnown := if p = .shell then shellLetters.contains c else allows flags dotted c
    if isKnown then some (c, rest) else none

/-- Why a conversion without a known letter is refused.  It is spelled up to the letter. -/
def unknownLetter (p : Printer) (s behind : List Char) : String :=
  let behind := if p = .program then behind.dropWhile fun c => "lLhjtz".toList.contains c else behind
  let spelled := String.ofList ('%' :: s.take (s.length - behind.tail.length))
  match p with
  | .shell => if behind.isEmpty then "missing format character" else spelled ++ ": invalid directive"
  | .program => spelled ++ ": invalid conversion specification"

/-- Takes a conversion behind its percent sign. -/
def takeConversion (p : Printer) (s : List Char) (operands : List String) :
    Except Refusal Conversion := do
  let behind (complaints : List (String × Complaint)) (r : Refusal) : Refusal :=
    { r with complaints := complaints ++ r.complaints }
  let (l, behindFlags) := takeFlags p .plain s
  let flags := s.take (s.length - behindFlags.length)
  let width ← takeCount p false behindFlags operands
  let l := (width.value?.map l.withWidth).getD l
  let (l, dotted, last) ←
    match width.rest with
    | '.' :: rest => do
      let precision ← (takeCount p true rest width.operands).mapError (behind width.complaints)
      pure (l.withPrecision (precision.value?.getD 0), true, precision)
    | _ => pure (l, false, ⟨none, width.rest, width.operands, []⟩)
  let complaints := width.complaints ++ last.complaints
  match takeLetter? p flags dotted last.rest with
  | some (letter, rest) => return ⟨l, letter, rest, last.operands, complaints⟩
  | none => throw ⟨unknownLetter p s last.rest, complaints⟩

/-- Carries out a format once; the number bounds its characters. -/
def printOnce (p : Printer) : Nat → List Char → List String → Printed
  | 0, _, operands | _, [], operands => ⟨⟨[], none⟩, [], operands⟩
  | n + 1, '\\' :: s, operands =>
    let read := match p with
      | .shell => Escape.ofShellFormat
      | .program => Escape.ofProgram false
    match read s with
    | .text e rest => (printOnce p n rest operands).behind e
    | .stop => ⟨⟨[], some .asked⟩, [], []⟩
    | .refused why => ⟨⟨[], some (.refused why)⟩, [], operands⟩
  | n + 1, '%' :: s, operands =>
    let carryOut (l : Layout) (letter : Char) (rest : List Char) (operands : List String)
        (complaints : List (String × Complaint)) : Printed :=
      let operand := operands.headD ""
      let converted := convert p l letter operand.toList
      let complaints := complaints ++ (converted.complaint.map fun c => (operand, c)).toList
      match converted.out.cut with
      | some cut => ⟨⟨converted.out.text, some cut⟩, complaints, operands.tail⟩
      | none =>
        let r := printOnce p n rest operands.tail
        { r with
          out := r.out.behind converted.out.text
          complaints := complaints ++ r.complaints }
    match p, s with
    | _, '%' :: rest => (printOnce p n rest operands).behind ['%']
    | .program, 'b' :: rest => carryOut .plain 'b' rest operands []
    | .program, 'q' :: rest =>
      let quoted := (operands.take 1).flatMap fun operand => (quotedForShell operand).toList
      (printOnce p n rest operands.tail).behind quoted
    | p, s =>
      match takeConversion p s operands with
      | .error r => ⟨⟨[], some (.refused r.why)⟩, r.complaints, operands⟩
      | .ok c => carryOut c.layout c.letter c.rest c.operands c.complaints
  | n + 1, c :: rest, operands => (printOnce p n rest operands).behind [c]

/-- Carries out a format again as long as it uses up operands. -/
def printAll (p : Printer) (format : List Char) : Nat → List String → Printed
  | 0, operands => ⟨⟨[], none⟩, [], operands⟩
  | n + 1, operands =>
    let r := printOnce p format.length format operands
    if r.out.cut.isSome || r.operands.isEmpty || r.operands.length = operands.length then r
    else
      let more := printAll p format n r.operands
      { more with
        out := more.out.behind r.out.text
        complaints := r.complaints ++ more.complaints }

def print (p : Printer) (format : String) (operands : List String) : Printed :=
  printAll p format.toList (operands.length + 1) operands

/-! ### The printf program -/

/-- What the printf program leaves behind: its exit code, output and complaints. -/
structure PrintfRun where
  code : Nat
  output : String
  complaints : List String

/-- A complaint that does not make the program fail. -/
def Complaint.isWarning : Complaint → Bool
  | .ignored _ => true
  | _ => false

/-- Runs the printf program; a strict one does not warn of what it ignores in an operand. -/
def runPrintf (isStrict : Bool) : List String → PrintfRun
  | "--" :: [] | [] =>
    ⟨1, "", ["missing operand"]⟩
  | "--" :: format :: operands => finish (print .program format operands)
  | format :: operands => finish (print .program format operands)
where
  /-- Operands that are left over are told. -/
  finish (r : Printed) : PrintfRun :=
    let told := r.complaints.filter fun c => !(isStrict && c.2.isWarning)
    let complaints := told.map fun (operand, c) => c.wording .program operand quotedOperand
    let code := if told.any fun c => !c.2.isWarning then 1 else 0
    let output := String.ofList r.out.text
    match r.out.cut with
    | some (.refused why) => ⟨1, output, complaints ++ [why]⟩
    | some .asked => ⟨code, output, complaints⟩
    | none =>
      match r.operands with
      | [] => ⟨code, output, complaints⟩
      | operand :: _ =>
        ⟨code, output,
          complaints ++ ["warning: ignoring excess arguments, starting with " ++ quotedOperand operand]⟩

end HostServices.Launch
