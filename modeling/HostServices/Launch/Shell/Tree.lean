/-!
# The structure of shell scripts

A script is made of commands.  Commands are made of words, and words of parts: text, quoted or not,
parameters whose values take their place when the word is expanded, sums, and the output of other
commands.

Assumed of the shell that a launch starts, as `Launch.Shell.World` says.
-/

namespace HostServices.Launch.Shell

inductive Opening
  | read
  | write
  /-- As `write`, even where files are to be spared. -/
  | overwrite
  | append
  | readWrite
  deriving DecidableEq

/-- What happens to a parameter that has no value; with a colon an empty value counts as none. -/
inductive Lack
  /-- A word takes its place. -/
  | replace
  /-- A word becomes its value. -/
  | assign
  | complain
  /-- Nothing; a word takes the place of a value instead. -/
  | invert
  deriving DecidableEq

mutual

inductive Part
  /-- Text; quoted text is neither divided nor a pattern. -/
  | text (s : List Char) (quoted : Bool)
  | quotation
  | parameter (name : List Char) (use : Use) (quoted : Bool)
  | arithmetic (body : List Part) (quoted : Bool)
  | output (c : Command) (quoted : Bool)

inductive Use
  | value
  | length
  /-- Something that makes no sense. -/
  | bad
  | lacking (colon : Bool) (lack : Lack) (word : List Part)
  /-- The value without what a pattern fits at its end or at its beginning. -/
  | trim (atEnd longest : Bool) (pattern : List Part)

/-- A stream goes elsewhere. -/
inductive Redirect
  | file (descriptor : Nat) (how : Opening) (name : List Part)
  /-- Where another descriptor goes, or nowhere. -/
  | duplicate (descriptor : Nat) (forOutput : Bool) (source : List Part)
  /-- A text that stands in the script, by its number. -/
  | here (descriptor : Nat) (id : Nat)

/-- A command.  Numbers of lines are kept for complaints. -/
inductive Command
  | simple (line : Nat) (assignments : List (List Char × List Part)) (words : List (List Part))
      (redirects : List Redirect)
  | redirected (line : Nat) (c : Command) (redirects : List Redirect)
  | sequence (a b : Command)
  | both (a b : Command)
  | either (a b : Command)
  | negated (a : Command)
  | pipeline (parts : List Command)
  | loop (untilSuccess : Bool) (condition body : Command)
  | forEach (line : Nat) (name : List Char) (items : List (List Part)) (body : Command)
  | branch (condition yes : Command) (no : Option Command)
  /-- The commands behind the first patterns of which one fits a word. -/
  | choose (line : Nat) (subject : List Part) (cases : List (List (List Part) × Option Command))
  /-- What it changes is forgotten afterwards. -/
  | subshell (line : Nat) (c : Command) (redirects : List Redirect)
  | background (c : Command) (redirects : List Redirect)
  | define (line : Nat) (name : List Char) (body : Command)
  | nothing

end

abbrev Word := List Part

/-! ### Names -/

def isNameChar (c : Char) : Bool := c.isAlphanum || c = '_'

def beginsName (c : Char) : Bool := c.isAlpha || c = '_'

def isName : List Char → Bool
  | [] => false
  | c :: rest => beginsName c && rest.all isNameChar

/-- The parameters that are called by a sign. -/
def isSpecial (c : Char) : Bool := c.isDigit || "#?!-$@*".toList.contains c

def assignment? : Word → Option (List Char × Word)
  | .text s false :: parts =>
    match s.span (· != '=') with
    | (name, _ :: value) =>
      if !isName name then none
      else if value.isEmpty then some (name, parts)
      else some (name, .text value false :: parts)
    | _ => none
  | _ => none

/-- The text of a word in which nothing is quoted or expanded. -/
def plainText? : Word → Option (List Char)
  | [.text s false] => some s
  | _ => none

end HostServices.Launch.Shell
