import HostServices.Signal.Basic
import HostServices.Text.Blank
import HostServices.Text.Numeral

/-!
# Names that resolve to signals

A signal is named by its number, its short name, an alias of it, or one of the two names behind
the letters SIG.  Blanks around the name do not count; case does.
-/

namespace HostServices.Signal

inductive NameError
  | noSuchNumber (n : Int)
  | noSuchName (wholeName : String)
  deriving DecidableEq

def NameError.message : NameError → String
  | .noSuchNumber n => "invalid signal number (" ++ String.ofList (Text.writeInteger n) ++ ")"
  | .noSuchName wholeName => "unsupported signal '" ++ wholeName ++ "'"

/-- The short name that an older short name stands for. -/
def canonical (short : List Char) : List Char :=
  if short = "CLD".toList then "CHLD".toList
  else if short = "IOT".toList then "ABRT".toList
  else if short = "POLL".toList then "IO".toList
  else short

/-- A name without the letters SIG in front of it, if it has them. -/
def withoutSig : List Char → List Char
  | 'S' :: 'I' :: 'G' :: rest => rest
  | name => name

def ofShortName? (short : List Char) : Option Signal :=
  all.find? fun s => s.shortName.toList = short

def ofNumber (n : Int) : Except NameError Signal :=
  match ofNumber? n with
  | some s => .ok s
  | none => .error (.noSuchNumber n)

def resolve (name : String) : Except NameError Signal :=
  let bare := Text.trim name.toList
  match Text.readInt32? bare with
  | some n => ofNumber n
  | none =>
    let short := canonical (withoutSig bare)
    match ofShortName? short with
    | some s => .ok s
    | none => .error (.noSuchName (String.ofList ("SIG".toList ++ short)))

theorem ofShortName?_shortName (s : Signal) : ofShortName? s.shortName.toList = some s := by
  cases s <;> decide

end HostServices.Signal
