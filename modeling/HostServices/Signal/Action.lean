/-!
# What a watched signal does

An action is what a watcher asks for; a disposition is what is reported about one.
-/

namespace HostServices

/-- What to do with a signal; `κ` is the type of callbacks. -/
inductive Action (κ : Type)
  | default
  | ignore
  | custom (callback : κ)

/-- What is known of the action on a signal. -/
inductive Disposition
  | default
  | ignore
  | custom
  /-- A handler that was not installed here. -/
  | foreign
  deriving DecidableEq, Repr

namespace Disposition

def tag : Disposition → String
  | .default => "default"
  | .ignore => "ignore"
  | .custom => "custom"
  | .foreign => "foreign"

def display : Disposition → String
  | .default => "Default"
  | .ignore => "Ignore"
  | .custom => "Custom"
  | .foreign => "Foreign"

def all : List Disposition := [.default, .ignore, .custom, .foreign]

def ofTag? (tag : String) : Option Disposition := all.find? fun d => d.tag = tag

@[simp] theorem ofTag?_tag (d : Disposition) : ofTag? d.tag = some d := by cases d <;> decide

end Disposition

namespace Action

variable {κ : Type}

/-- What is reported about an action. -/
def disposition : Action κ → Disposition
  | .default => .default
  | .ignore => .ignore
  | .custom _ => .custom

def callback? : Action κ → Option κ
  | .custom k => some k
  | _ => none

def ofDescriptor? (descriptor : String) : Option (Action κ) :=
  if descriptor ∈ ["DEFAULT", "SIG_DFL", "SYSTEM_DEFAULT"] then some .default
  else if descriptor ∈ ["IGNORE", "SIG_IGN", ""] then some .ignore
  else none

/-- An action as a reader sees it; a callback has no text of its own. -/
def display : Action κ → String
  | .default => "Default"
  | .ignore => "Ignore"
  | .custom _ => "Custom(..)"

end Action

end HostServices
