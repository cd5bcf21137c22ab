import HostServices.Launch.Shell.Tree

/-!
# Tokens

A script is read as words, redirections, and the signs and reserved words that hold commands
together.  What cannot be put together is a syntax error.

Assumed of the shell that a launch starts, as `Launch.Shell.World` says.
-/

namespace HostServices.Launch.Shell

/-- What a redirection does, from the signs in front of its name. -/
inductive RedirectSign
  | file (how : Opening)
  | duplicate (forOutput : Bool)
  /-- A text of the script follows, perhaps without the tabs in front of its lines. -/
  | here (stripsTabs : Bool)

inductive Token
  | word (w : Word)
  | redirect (descriptor : Nat) (sign : RedirectSign)
  | sign (spelling : String)
  | newline
  | endOfText

/-- The words that hold commands together where a command begins. -/
def reserved : List String :=
  ["!", "case", "do", "done", "elif", "else", "esac", "fi", "for", "if", "in", "then", "until",
    "while", "\x7b", "\x7d"]

namespace Token

def isSign (t : Token) (spelling : String) : Bool :=
  match t with
  | .sign s => s = spelling
  | _ => false

def describe : Token → String
  | .word _ => "word"
  | .redirect _ _ => "redirection"
  | .sign s => "\"" ++ s ++ "\""
  | .newline => "newline"
  | .endOfText => "end of file"

/-- Ends a list of commands, in a place where a list can end. -/
def endsList : Token → Bool
  | .endOfText => true
  | .sign s => [")", ";;", "do", "done", "elif", "else", "esac", "fi", "then", "\x7d"].contains s
  | _ => false

end Token

/-- Why a script makes no sense. -/
inductive SyntaxError
  | unexpected (found : Token)
  /-- Something else had to stand here. -/
  | expecting (found : Token) (what : String)
  | openQuotation
  | openBrace
  | openSum
  | openBackquote
  | badLoopVariable
  | badFunctionName
  | badDescriptor

def SyntaxError.message (e : SyntaxError) : String :=
  "Syntax error: " ++
    match e with
    | .unexpected found => found.describe ++ " unexpected"
    | .expecting found what => found.describe ++ " unexpected (expecting " ++ what ++ ")"
    | .openQuotation => "Unterminated quoted string"
    | .openBrace => "Missing '\x7d'"
    | .openSum => "Missing '))'"
    | .openBackquote => "EOF in backquote substitution"
    | .badLoopVariable => "Bad for loop variable"
    | .badFunctionName => "Bad function name"
    | .badDescriptor => "Bad fd number"

/-! ### Words being read -/

/-- A word being read: its finished parts, and the text of the open one, both last first. -/
structure Draft where
  parts : List Part
  text : List Char
  quoted : Bool

namespace Draft

def empty : Draft := ⟨[], [], false⟩

/-- The open text is finished. -/
def close (d : Draft) : List Part :=
  if d.text.isEmpty then d.parts else .text d.text.reverse d.quoted :: d.parts

def add (d : Draft) (quoted : Bool) (c : Char) : Draft :=
  if d.quoted = quoted then { d with text := c :: d.text } else ⟨d.close, [c], quoted⟩

def put (d : Draft) (p : Part) : Draft := ⟨p :: d.close, [], d.quoted⟩

def mark (d : Draft) : Draft := d.put .quotation

def finish (d : Draft) : Word := d.close.reverse

/-- The descriptor that a word in front of a redirection's sign means: none or one digit, which
is not quoted. -/
def descriptor? (d : Draft) : Option (Option Nat) :=
  match d.finish with
  | [] => some none
  | [.text [c] false] => if c.isDigit then some (some (c.toNat - 48)) else none
  | _ => none

end Draft

end HostServices.Launch.Shell
