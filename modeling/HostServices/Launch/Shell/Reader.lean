import HostServices.Launch.Shell.Token

/-!
# Reading tokens

A source is the rest of a script with what its reader has to remember: the line, a token that was
put back, aliases, and the texts that redirections announced and that follow in later lines.

Words may hold commands.  How those are read is a parameter of what stands here.

Assumed of the shell that a launch starts, as `Launch.Shell.World` says.
-/

namespace HostServices.Launch.Shell

/-- An alias whose text stands in front of the rest of a script. -/
structure OpenAlias where
  name : String
  /-- How many characters follow its text. -/
  behind : Nat
  /-- Its text ends in a blank, so that the next word may be an alias, too. -/
  isSpaced : Bool

/-- A text that a redirection announced. -/
structure Awaited where
  id : Nat
  ending : List Char
  stripsTabs : Bool
  isPlain : Bool

/-- A script being read. -/
structure Source where
  text : List Char
  line : Nat
  pushedBack : Option Token
  aliases : List (String × String)
  openAliases : List OpenAlias
  /-- The next word may be an alias wherever it stands. -/
  aliasFollows : Bool
  awaited : List Awaited
  /-- What follows behind an announced text of which the end has been reached. -/
  behindDocument : Option (List Char)
  /-- The texts that redirections announced and that have been found, by number. -/
  documents : List (Nat × Word)
  nextDocument : Nat

namespace Source

/-- A script that nothing has been read of. -/
def ofText (text : List Char) (aliases : List (String × String)) (nextDocument : Nat) : Source where
  text := text
  line := 1
  pushedBack := none
  aliases := aliases
  openAliases := []
  aliasFollows := false
  awaited := []
  behindDocument := none
  documents := []
  nextDocument := nextDocument

/-- Without the joined lines in front: a backslash at the end of a line joins it to the next. -/
def joinLines (s : Source) : Source :=
  go s.text s.line
where
  go : List Char → Nat → Source
    | '\\' :: '\n' :: rest, line => go rest (line + 1)
    | text, line => { s with text := text, line := line }

/-- At the start of a line of an announced text: without the tabs that do not count, and without
all the rest if the text ends here.  A backslash behind such tabs joins no lines: it is kept with
the end of its line. -/
def startLine (s : Source) (a : Awaited) : Source × List Char :=
  let s := s.joinLines
  let line := if a.stripsTabs then s.text.dropWhile (· = '\t') else s.text
  let endsHere (rest : List Char) : Source × List Char :=
    ({ s with text := [], behindDocument := some rest, line := s.line + 1 }, [])
  let goesOn : Source × List Char :=
    match line with
    | '\\' :: '\n' :: rest =>
      if line.length < s.text.length then ({ s with text := rest }, ['\\', '\n'])
      else ({ s with text := line }, [])
    | line => ({ s with text := line }, [])
  if a.ending.isPrefixOf line then
    match line.drop a.ending.length with
    | [] => endsHere []
    | '\n' :: rest => endsHere rest
    | _ => goesOn
  else goesOn

def advance (s : Source) : Source :=
  match s.text with
  | [] => s
  | c :: rest => { s with text := rest, line := if c = '\n' then s.line + 1 else s.line }

/-- Forgets the aliases whose texts are read. -/
def leaveAliases (s : Source) : Source :=
  let (left, kept) := s.openAliases.partition fun a => s.text.length ≤ a.behind
  { s with openAliases := kept, aliasFollows := s.aliasFollows || left.any OpenAlias.isSpaced }

/-- The text of an alias in place of its name, unless it is being read. -/
def expandAlias? (s : Source) (name : String) : Option Source :=
  if s.openAliases.any fun a => a.name = name then none
  else
    (s.aliases.lookup name).map fun value =>
      let spaced := value.toList.getLast?.any fun c => c = ' ' || c = '\t'
      if value = "" then s
      else
        { s with
          text := value.toList ++ s.text
          openAliases := ⟨name, s.text.length, spaced⟩ :: s.openAliases }

end Source

/-- Reading a part of a script. -/
abbrev Parse := EStateM SyntaxError Source

namespace Parse

/-- The next character, behind joined lines. -/
def peek : Parse (Option Char) := do
  modify Source.joinLines
  return (← get).text.head?

def advance : Parse Unit := modify Source.advance

/-- Takes the next character, even if a line ends there. -/
def takeAny : Parse (Option Char) := do
  let c := (← get).text.head?
  advance
  return c

/-- Passes a given character, if it is the next one. -/
def pass (c : Char) : Parse Bool := do
  if (← peek) = some c then
    advance
    return true
  else return false

/-- Takes characters of a class. -/
def takeWhile (accepts : Char → Bool) : Nat → Parse (List Char)
  | 0 => return []
  | n + 1 => do
    match ← peek with
    | some c => if accepts c then advance; return c :: (← takeWhile accepts n) else return []
    | none => return []

def within {α : Type} (text : List Char) (line : Nat) (p : Parse α) : Parse α := do
  let outer ← get
  set { outer with text := text, line := line, openAliases := [], pushedBack := none, awaited := [] }
  let a ← p
  modify fun inner =>
    { outer with documents := inner.documents, nextDocument := inner.nextDocument }
  return a

end Parse

open Parse

/-! ### Words -/

/-- Where a text by the rules of double quotes ends. -/
inductive DoubleEnd
  | quote
  /-- The brace of a parameter; quotes inside may hide it. -/
  | brace (hidden : Bool)
  | endOfText

/-- The rules by which a part of a word is read. -/
inductive Mode
  /-- No quotes; behind a parameter a brace ends it. -/
  | plain (braced : Bool)
  | double (ending : DoubleEnd)
  | sum (depth : Nat)

/-- What reading words depends on. -/
structure Reading where
  commands : Parse Command
  enclosed : Parse Command
  /-- Dollars and backquotes are mere text. -/
  isPlain : Bool
  /-- What is read is a text that a redirection announced. -/
  document : Option Awaited

/-- The complaint about quotes that are not closed.  Those in an announced text stand in braces. -/
def Reading.openQuotes (r : Reading) : SyntaxError :=
  if r.document.isSome then .openBrace else .openQuotation

/-- The complaint about a text that ends too early. -/
def openMessage (r : Reading) : Mode → Option SyntaxError
  | .plain braced => if braced then some .openBrace else none
  | .double .endOfText => none
  | .double .quote | .double (.brace _) => some r.openQuotes
  | .sum _ => some .openSum

/-- A character of a text; behind the end of a line an announced text may end. -/
def readOne (r : Reading) (d : Draft) (quoted : Bool) (c : Char) : Parse Draft := do
  let d := d.add quoted c
  match r.document with
  | some a =>
    if c = '\n' then
      let (s, kept) := (← get).startLine a
      set s
      return kept.foldl (fun d c => d.add true c) d
    else return d
  | none => return d

/-- A text in single quotes, which have been opened. -/
def readSingle (r : Reading) : Nat → Draft → Parse Draft
  | 0, d => return d
  | n + 1, d => do
    match ← takeAny with
    | none => throw r.openQuotes
    | some c => if c.toNat = 39 then return d.mark else readSingle r n (← readOne r d true c)

/-- The text between backquotes, of which the first has been passed. -/
def readBackquoted (double : Bool) : Nat → List Char → Parse (List Char)
  | 0, acc => return acc.reverse
  | n + 1, acc => do
    match ← peek with
    | none => throw .openBackquote
    | some '\x60' => advance; return acc.reverse
    | some '\\' =>
      advance
      match ← takeAny with
      | none => throw .openBackquote
      | some c =>
        let stands := c = '\\' || c = '\x60' || c = '$' || (double && c = '"')
        readBackquoted double n (if stands then c :: acc else c :: '\\' :: acc)
    | some c => advance; readBackquoted double n (c :: acc)

/-- The name of a parameter in braces, and whether its length is asked for; none for what is no
name. -/
def readName (n : Nat) : Parse (Option (List Char × Bool)) := do
  match ← peek with
  | none | some '\x7d' => return none
  | some c =>
    if beginsName c then return some (← takeWhile isNameChar n, false)
    else if c.isDigit then return some (← takeWhile Char.isDigit n, false)
    else
      advance
      let special : Option (List Char × Bool) := if isSpecial c then some ([c], false) else none
      if c != '#' then return special
      match ← peek with
      | none => return special
      | some d =>
        if beginsName d then return some (← takeWhile isNameChar n, true)
        else
          let before ← get
          advance
          if d.isDigit then return some ([d], true)
          else if d = '\x7d' || (← peek) != some '\x7d' then
            set before
            return special
          else return if isSpecial d then some ([d], true) else none

/-- What is made of a parameter, from the sign behind its name: a function of the word that
follows, and whether that word is a pattern.  None if nothing follows. -/
def readUse : Parse (Option ((Word → Use) × Bool)) := do
  let lack? (c : Option Char) : Option Lack :=
    match c with
    | some '-' => some .replace
    | some '=' => some .assign
    | some '?' => some .complain
    | some '+' => some .invert
    | _ => none
  let lacking (colon : Bool) (c : Option Char) : (Word → Use) × Bool :=
    match lack? c with
    | some l => (.lacking colon l, false)
    | none => (fun _ => .bad, false)
  let c ← peek
  advance
  match c with
  | some '\x7d' => return none
  | some ':' =>
    let c ← peek
    advance
    return lacking true c
  | some '#' => let longest ← pass '#'; return some (.trim false longest, true)
  | some '%' => let longest ← pass '%'; return some (.trim true longest, true)
  | c => return lacking false c

/-- A parameter in braces, of which the first has been passed. -/
def readBraced (again : Mode → Draft → Parse Draft) (n : Nat) (double : Bool) : Parse Part := do
  let rest (isPattern : Bool) : Parse Word := do
    let mode := if double && !isPattern then Mode.double (.brace false) else .plain true
    let d ← again mode .empty
    advance
    return d.finish
  match ← readName n with
  | none =>
    let _ ← rest false
    return .parameter [] .bad double
  | some (name, true) =>
    let _ ← rest false
    return .parameter name .length double
  | some (name, false) =>
    match ← readUse with
    | none => return .parameter name .value double
    | some (use, isPattern) => return .parameter name (use (← rest isPattern)) double

/-- What stands behind a dollar sign. -/
def readDollar (r : Reading) (again : Mode → Draft → Parse Draft) (n : Nat) (double : Bool)
    (d : Draft) : Parse Draft := do
  let single (name : List Char) := d.put (.parameter name .value double)
  let c ← if r.isPlain then pure none else peek
  match c with
  | some '(' =>
    advance
    if ← pass '(' then return d.put (.arithmetic (← again (.sum 0) .empty).finish double)
    else return d.put (.output (← r.enclosed) double)
  | some '\x7b' => advance; return d.put (← readBraced again n double)
  | some c =>
    if beginsName c then return single (← takeWhile isNameChar n)
    else if isSpecial c then
      advance
      return single [c]
    else return d.add double '$'
  | none => return d.add double '$'

def readBackquote (r : Reading) (n : Nat) (double : Bool) (d : Draft) : Parse Draft := do
  if r.isPlain then return d.add double '\x60'
  else
    let text ← readBackquoted double n []
    return d.put (.output (← within text 1 r.commands) double)

/-- What stands behind a backslash in double quotes; it is kept in front of most characters. -/
def readEscape (r : Reading) (ending : DoubleEnd) (d : Draft) : Parse Draft := do
  match ← takeAny with
  | none => return d.add true '\\'
  | some c =>
    let quotes := c = '"' && (match ending with | .endOfText => r.document.isNone | _ => true)
    let braces := c = '\x7d' && (match ending with | .brace _ => true | _ => false)
    if quotes || braces || c = '\\' || c = '\x60' || c = '$' then return d.add true c
    else return (d.add true '\\').add true c

def endsWord (c : Char) : Bool := "\n\t <>();&|".toList.contains c

def readPlain (r : Reading) (again : Mode → Draft → Parse Draft) (n : Nat) (braced : Bool)
    (d : Draft) (c : Char) : Parse Draft := do
  let on := again (.plain braced)
  if if braced then c = '\x7d' else endsWord c then return d
  else
    advance
    if c.toNat = 39 then on (← readSingle r n d.mark)
    else
      match c with
      | '\\' => on (d.add true ((← takeAny).getD '\\'))
      | '"' =>
        let d ← again (.double .quote) d.mark
        advance
        on d.mark
      | '$' => on (← readDollar r again n false d)
      | '\x60' => on (← readBackquote r n false d)
      | c => on (← readOne r d false c)

def readDouble (r : Reading) (again : Mode → Draft → Parse Draft) (n : Nat) (ending : DoubleEnd)
    (d : Draft) (c : Char) : Parse Draft := do
  let on := again (.double ending)
  match ending, c with
  | .quote, '"' => return d
  | .brace false, '\x7d' => return d
  | .brace hidden, '"' => advance; again (.double (.brace !hidden)) d.mark
  | _, '\\' => advance; on (← readEscape r ending d)
  | _, '$' => advance; on (← readDollar r again n true d)
  | _, '\x60' => advance; on (← readBackquote r n true d)
  | _, c => advance; on (← readOne r d true c)

def readSum (r : Reading) (again : Mode → Draft → Parse Draft) (n depth : Nat) (d : Draft)
    (c : Char) : Parse Draft := do
  let on := again (.sum depth)
  advance
  match c with
  | '(' => again (.sum (depth + 1)) (d.add true c)
  | ')' =>
    if 0 < depth then again (.sum (depth - 1)) (d.add true c)
    else if ← pass ')' then return d
    else on (d.add true c)
  | '\\' => on (← readEscape r .quote d)
  | '$' => on (← readDollar r again n true d)
  | '\x60' => on (← readBackquote r n true d)
  | c => on (← readOne r d true c)

/-- Reads parts of a word up to where they end by the rules of a mode.  The number bounds the
characters. -/
def readParts (r : Reading) : Nat → Mode → Draft → Parse Draft
  | 0, _, d => return d
  | n + 1, mode, d => do
    match ← peek with
    | none =>
      match openMessage r mode with
      | some e => throw e
      | none => return d
    | some c =>
      match mode with
      | .plain braced => readPlain r (readParts r n) n braced d c
      | .double ending => readDouble r (readParts r n) n ending d c
      | .sum depth => readSum r (readParts r n) n depth d c

/-! ### Announced texts -/

/-- An announced text that stands for itself, the number of its lines and of its end, and what
follows.  The number bounds the lines. -/
def takeDocument (a : Awaited) : Nat → List Char → List Char × Nat × List Char
  | 0, s => ([], 0, s)
  | _, [] => ([], 0, [])
  | n + 1, s =>
    let s := if a.stripsTabs then s.dropWhile (· = '\t') else s
    let (line, behind) := s.span (· != '\n')
    if line = a.ending then ([], 1, behind.drop 1)
    else
      let (text, lines, rest) := takeDocument a n (behind.drop 1)
      (line ++ behind.take 1 ++ text, behind.length.min 1 + lines, rest)

def readDocument (r : Reading) (n : Nat) (a : Awaited) : Parse Unit := do
  let keep (w : Word) : Parse Unit :=
    modify fun s => { s with documents := (a.id, w) :: s.documents }
  if a.isPlain then
    let s ← get
    let (text, lines, rest) := takeDocument a (s.text.length + 1) s.text
    set { s with text := rest, line := s.line + lines }
    keep [.text text true]
  else
    let (s, kept) := (← get).startLine a
    set s
    let start := kept.foldl (fun d c => d.add true c) Draft.empty
    let d ← readParts { r with document := some a } n (.double .endOfText) start
    modify fun s => { s with text := s.behindDocument.getD s.text, behindDocument := none }
    keep d.finish

def readDocuments (r : Reading) (n : Nat) : Parse Unit := do
  let awaited := (← get).awaited
  modify fun s => { s with awaited := [] }
  awaited.forM (readDocument r n)

/-! ### Tokens -/

def skipBlanks : Nat → Parse Unit
  | 0 => return
  | n + 1 => do
    match ← peek with
    | some ' ' | some '\t' => advance; skipBlanks n
    | some '#' => modify fun s => { s with text := s.text.dropWhile (· != '\n') }
    | _ => return

def readRedirectSign (first : Char) : Parse RedirectSign := do
  if first = '>' then
    if ← pass '>' then return .file .append
    else if ← pass '|' then return .file .overwrite
    else if ← pass '&' then return .duplicate true
    else return .file .write
  else if ← pass '<' then return .here (← pass '-')
  else if ← pass '&' then return .duplicate false
  else if ← pass '>' then return .file .readWrite
  else return .file .read

def readToken (r : Reading) (n : Nat) : Parse Token := do
  skipBlanks n
  modify Source.leaveAliases
  let sign (c : Char) (single double : String) : Parse Token := do
    advance
    return .sign (if ← pass c then double else single)
  match ← peek with
  | none => return .endOfText
  | some '\n' => advance; return .newline
  | some '&' => sign '&' "&" "&&"
  | some '|' => sign '|' "|" "||"
  | some ';' => sign ';' ";" ";;"
  | some '(' => advance; return .sign "("
  | some ')' => advance; return .sign ")"
  | some _ =>
    let d ← readParts r n (.plain false) .empty
    let c ← peek
    match d.descriptor?, c with
    | some descriptor, some '<' =>
      advance
      return .redirect (descriptor.getD 0) (← readRedirectSign '<')
    | some descriptor, some '>' =>
      advance
      return .redirect (descriptor.getD 1) (← readRedirectSign '>')
    | _, _ => return .word d.finish

/-- What is looked for when a token is read. -/
structure Wants where
  /-- Ends of lines do not count. -/
  skipsLines : Bool
  reserved : Bool
  aliases : Bool

namespace Wants

def word : Wants := ⟨false, false, false⟩

def command : Wants := ⟨false, true, true⟩

/-- The beginning of a command in this line or a later one. -/
def commandBelow : Wants := ⟨true, true, true⟩

end Wants

def putBack (t : Token) : Parse Unit := modify fun s => { s with pushedBack := some t }

def next (r : Reading) : Nat → Wants → Parse Token
  | 0, _ => return .endOfText
  | n + 1, w => do
    let t ←
      match (← get).pushedBack with
      | some t => modify (fun s => { s with pushedBack := none }); pure t
      | none => readToken r n
    let w := { w with aliases := w.aliases || (← get).aliasFollows }
    modify fun s => { s with aliasFollows := false }
    match t with
    | .newline =>
      if w.skipsLines then
        readDocuments r n
        next r n w
      else return t
    | .word word =>
      match plainText? word with
      | none => return t
      | some s =>
        let name := String.ofList s
        if w.reserved && reserved.contains name then return .sign name
        else
          let source ← get
          match if w.aliases then source.expandAlias? name else none with
          | some source => set source; next r n w
          | none => return t
    | t => return t

end HostServices.Launch.Shell
