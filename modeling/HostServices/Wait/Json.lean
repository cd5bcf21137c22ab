import HostServices.Json.Value
import HostServices.Wait.Outcome

/-!
# Outcomes as data

A status is a tagged value; an outcome carries its tag among its fields.
-/

namespace HostServices.Wait

namespace ChildStatus

def toJson (s : ChildStatus) : JsonValue :=
  .record [("state", .ofText s.tag), ("value", .ofInt s.value)]

def ofJson? (v : JsonValue) : Option ChildStatus :=
  match v.asTagged? "state" "value" with
  | some (.holding tag content) => content.asInt32?.bind (ofTag? tag)
  | _ => none

end ChildStatus

namespace Outcome

def toJson : Outcome → JsonValue
  | .exited pid code =>
    .record [("outcome", .ofText "exited"), ("pid", .ofInt pid), ("code", .ofInt code)]
  | .signaled pid signal =>
    .record [("outcome", .ofText "signaled"), ("pid", .ofInt pid), ("signal", .ofInt signal)]
  | .stopped pid signal =>
    .record [("outcome", .ofText "stopped"), ("pid", .ofInt pid), ("signal", .ofInt signal)]
  | .noChildAvailable => .record [("outcome", .ofText "no_child_available")]
  | .noStateChange => .record [("outcome", .ofText "no_state_change")]
  | .otherError errno =>
    .record [("outcome", .ofText "other_error"), ("errno", .ofInt errno.code)]

/-- Two numbers of 32 bits among the fields of a case. -/
def pair? (first second : String) (make : Int → Int → Outcome) (v : JsonValue) :
    Option Outcome :=
  match v.asFields? [first, second] with
  | some [a, b] => return make (← a.asInt32?) (← b.asInt32?)
  | _ => none

/-- The error number among the fields of a case. -/
def error? (v : JsonValue) : Option Outcome :=
  match v.asFields? ["errno"] with
  | some [n] => n.asInt32?.map fun n => .otherError (.ofNumber n)
  | _ => none

/-- A case that holds nothing; other fields of an object do not matter. -/
def bare? (o : Outcome) : JsonValue → Option Outcome
  | .array (_ :: _) => none
  | _ => some o

def ofJson? (v : JsonValue) : Option Outcome :=
  match v.asInlineTagged? "outcome" with
  | none => none
  | some (tag, content) =>
    if tag = "exited" then pair? "pid" "code" .exited content
    else if tag = "signaled" then pair? "pid" "signal" .signaled content
    else if tag = "stopped" then pair? "pid" "signal" .stopped content
    else if tag = "no_child_available" then bare? .noChildAvailable content
    else if tag = "no_state_change" then bare? .noStateChange content
    else if tag = "other_error" then error? content
    else none

end Outcome

end HostServices.Wait
