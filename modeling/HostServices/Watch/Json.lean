import HostServices.Json.Value
import HostServices.Signal.Action
import HostServices.Watch.Stats

/-!
# Counters and dispositions as data
-/

namespace HostServices

namespace Watch.Stats

def keys : List String :=
  ["installs", "deliveries", "callbacks_run", "callback_panics", "custom_handlers"]

/-- The counters in the order of their names. -/
def toList (s : Stats) : List Nat :=
  [s.installs, s.deliveries, s.callbacksRun, s.callbackPanics, s.customHandlers]

def ofList? : List Nat → Option Stats
  | [a, b, c, d, e] => some ⟨a, b, c, d, e⟩
  | _ => none

def toJson (s : Stats) : JsonValue := .record (keys.zip (s.toList.map fun (n : Nat) => .ofInt n))

/-- The counters that a data value stands for; each has 64 bits. -/
def ofJson? (v : JsonValue) : Option Stats := do
  ofList? (← (← v.asFields? keys).mapM JsonValue.asNat64?)

end Watch.Stats

namespace Disposition

def toJson (d : Disposition) : JsonValue := .ofText d.tag

def ofJson? (v : JsonValue) : Option Disposition := v.asName?.bind ofTag?

end Disposition

end HostServices
