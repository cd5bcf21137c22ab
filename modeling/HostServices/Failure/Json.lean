import HostServices.Failure
import HostServices.Json.Value

/-!
# Failures as data

A failure is a tagged value: its kind, and what it holds as details.
-/

namespace HostServices.Failure

def details? : Failure → Option JsonValue
  | .argument text | .invalidSignal text | .unsupported text => some (.ofText text)
  | .interrupted => none
  | .os operation reason =>
    some (.record [("op", .ofText operation), ("errno", .ofText reason)])

def toJson (f : Failure) : JsonValue :=
  .record (("error_type", .ofText f.tag) :: (f.details?.map fun v => ("details", v)).toList)

def ofText? (tag text : String) : Option Failure :=
  if tag = "argument" then some (.argument text)
  else if tag = "invalid_signal" then some (.invalidSignal text)
  else if tag = "unsupported" then some (.unsupported text)
  else none

def ofOsDetails? (v : JsonValue) : Option Failure :=
  match v.asNamedFields? ["op", "errno"] with
  | some [operation, reason] => return .os (← operation.asText?) (← reason.asText?)
  | _ => none

def ofJson? (v : JsonValue) : Option Failure :=
  match v.asTagged? "error_type" "details" with
  | none => none
  | some (.bare tag) => if tag = "interrupted" then some .interrupted else none
  | some (.holding tag content) =>
    if tag = "interrupted" then if content.isNull then some .interrupted else none
    else if tag = "os" then ofOsDetails? content
    else content.asText?.bind (ofText? tag)

end HostServices.Failure
