/-!
# Counters of the watch registry
-/

namespace HostServices.Watch

/-- What the registry has counted. The numbers have no end: counters of 64 bits are taken to count
fewer than `2 ^ 64` events. -/
structure Stats where
  installs : Nat
  deliveries : Nat
  callbacksRun : Nat
  callbackPanics : Nat
  customHandlers : Nat
  deriving DecidableEq

namespace Stats

def zero : Stats := ⟨0, 0, 0, 0, 0⟩

end Stats

end HostServices.Watch
