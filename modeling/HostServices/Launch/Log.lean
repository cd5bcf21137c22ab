import HostServices.Json.Value
import HostServices.Text.Quoted

/-!
# Log lines

A log line has a level, the module it comes from as its target, a message and fields.  Lines that
are written in the course of a service's call belong to that call; when it is over, a last line
closes it.
-/

namespace HostServices.Launch

inductive Level
  | error
  | warn
  | info
  | debug
  | trace
  deriving DecidableEq

namespace Level

/-- How much must be let through for a level to be written. -/
def rank : Level → Nat
  | .error => 1
  | .warn => 2
  | .info => 3
  | .debug => 4
  | .trace => 5

def name : Level → String
  | .error => "ERROR"
  | .warn => "WARN"
  | .info => "INFO"
  | .debug => "DEBUG"
  | .trace => "TRACE"

end Level

inductive FieldValue
  /-- A text, quoted in plain lines. -/
  | text (s : String)
  | shown (s : String)
  | bool (b : Bool)
  | number (n : Nat)
  /-- A value that differs from run to run. -/
  | masked

abbrev Fields := List (String × FieldValue)

def FieldValue.display : FieldValue → String
  | .text s => Text.quote s
  | .shown s => s
  | .bool b => toString b
  | .number n => toString n
  | .masked => "*"

def Fields.display (fields : Fields) : String :=
  String.join (fields.map fun (key, v) => " " ++ key ++ "=" ++ v.display)

structure ServiceCall where
  service : String
  id : Nat

namespace ServiceCall

/-- What all calls are called in the log. -/
def kind : String := "primitive"

/-- Where log lines about calls come from. -/
def target : String := "vm_primitives::monitoring::tracer"

def level : Level := .debug

def fieldNames : List String := ["primitive", "call_id", "duration_us"]

def fields (c : ServiceCall) (isOver : Bool) : Fields :=
  [("primitive", .text c.service), ("call_id", .number c.id)] ++
    if isOver then [("duration_us", .masked)] else []

end ServiceCall

/-- Where in the course of calls a line is written. -/
inductive Place
  | outside
  | inside (c : ServiceCall)
  /-- In the course of a call whose duration is known. -/
  | ending (c : ServiceCall)
  | closing (c : ServiceCall)

namespace Place

def call? : Place → Option ServiceCall
  | .outside => none
  | .inside c | .ending c | .closing c => some c

/-- The fields of the call that a line belongs to. -/
def fields : Place → Fields
  | .outside => []
  | .inside c => c.fields false
  | .ending c | .closing c => c.fields true

end Place

structure LogLine where
  level : Level
  target : String
  message : String
  fields : Fields
  place : Place

namespace LogLine

/-- A plain line, without its time.  Levels are aligned to the right. -/
def display (l : LogLine) : String :=
  let level := String.ofList (List.replicate (5 - l.level.name.length) ' ') ++ l.level.name
  let call := if l.place.call?.isSome then ServiceCall.kind ++ ": " else ""
  level ++ " main ThreadId(01) " ++ call ++ l.target ++ ": " ++ l.message ++ l.fields.display ++
    l.place.fields.display

end LogLine

def FieldValue.toJson : FieldValue → JsonValue
  | .text s | .shown s => .ofText s
  | .bool b => .bool b
  | .number n => .ofInt n
  | .masked => .ofText "*"

def LogLine.toJson (l : LogLine) : JsonValue :=
  let fields := l.fields.map fun (key, v) => (key, v.toJson)
  .record [("level", .ofText l.level.name),
    ("fields", .record (("message", .ofText l.message) :: fields)), ("target", .ofText l.target)]

def ServiceCall.ended (c : ServiceCall) : List LogLine :=
  [⟨ServiceCall.level, ServiceCall.target, "primitive completed", c.fields true, .ending c⟩,
    ⟨ServiceCall.level, ServiceCall.target, "close", [("time.busy", .masked), ("time.idle", .masked)],
      .closing c⟩]

end HostServices.Launch
