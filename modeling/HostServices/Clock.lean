import HostServices.Json.Value

/-!
# Clocks of the system

The time of day in whole seconds, and the processor time of the process and its reaped children.
-/

namespace HostServices

/-- What the processor spent, in four parts. -/
structure Quad (α : Type) where
  user : α
  system : α
  childrenUser : α
  childrenSystem : α

/-- Processor time in seconds. -/
abbrev CpuTimes := Quad Float

namespace CpuTimes

/-- The form with six places; the last two are always zero. -/
def toSix (t : CpuTimes) : List Float :=
  [t.user, t.system, t.childrenUser, t.childrenSystem, 0, 0]

/-- The processor times that a data value stands for. -/
def ofJson? (v : JsonValue) : Option CpuTimes := do
  match ← (← v.asFields? ["user", "system", "children_user", "children_system"]).mapM
      JsonValue.asFloat? with
  | [a, b, c, d] => some ⟨a, b, c, d⟩
  | _ => none

end CpuTimes

structure TimeSpan where
  seconds : Int
  microseconds : Int

/-- The seconds of a span; its microseconds are counted in 64 bits. -/
def TimeSpan.toFloat (t : TimeSpan) : Float :=
  (Int64.ofInt (t.seconds * 1000000 + t.microseconds)).toFloat / 1e6

/-- What one process, or its children, used. -/
structure Usage where
  user : TimeSpan
  system : TimeSpan

structure Clock where
  /-- The seconds since the epoch, rounded down. -/
  now : Int
  /-- The processor times in ticks, unless the system does not tell. -/
  ticks : Option (Quad Int)
  /-- The ticks of a second; not positive if the system does not tell. -/
  ticksPerSecond : Int
  /-- The usage of the process itself, unless the system does not tell. -/
  ownUsage : Option Usage
  /-- The usage of its children, unless the system does not tell. -/
  childUsage : Option Usage

namespace Clock

/-- Whole seconds since the epoch; zero before it. -/
def epochSeconds (c : Clock) : Nat := c.now.toNat

/-- The ticks of a second, or a fallback. -/
def tickRate (c : Clock) (fallback : Int) : Int :=
  if 0 < c.ticksPerSecond then c.ticksPerSecond else fallback

/-- User and system seconds of a usage; zero when the system does not tell. -/
def usageSeconds : Option Usage → Float × Float
  | some u => (u.user.toFloat, u.system.toFloat)
  | none => (0, 0)

/-- The processor times: from the ticks, or else from the usages. -/
def cpuTimes (c : Clock) (fallback : Int) : CpuTimes :=
  match c.ticks with
  | some t =>
    let rate := (Int64.ofInt (c.tickRate fallback)).toFloat
    let seconds (n : Int) := (Int64.ofInt n).toFloat / rate
    ⟨seconds t.user, seconds t.system, seconds t.childrenUser, seconds t.childrenSystem⟩
  | none =>
    let (user, system) := usageSeconds c.ownUsage
    let (childrenUser, childrenSystem) := usageSeconds c.childUsage
    ⟨user, system, childrenUser, childrenSystem⟩

end Clock

end HostServices
