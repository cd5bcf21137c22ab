/-!
# The wake pipe

Bytes in the pipe only say that there is something to look at, so their values do not count.  A
write to a full pipe is lost, which does no harm: a byte is already there.
-/

namespace HostServices.Watch

/-- A pipe of wake bytes, with room for at least one. -/
structure Pipe where
  capacity : Nat
  held : Nat
  capacity_pos : 0 < capacity
  held_le : held ≤ capacity

namespace Pipe

/-- The empty pipe of a process; that many single bytes fill a socket's buffer. -/
def standard : Pipe := ⟨278, 0, by decide, by decide⟩

def drained (p : Pipe) : Pipe := { p with held := 0, held_le := Nat.zero_le _ }

/-- One more byte, or none when the pipe is full. -/
def write (p : Pipe) : Pipe :=
  if h : p.held < p.capacity then { p with held := p.held + 1, held_le := h } else p

/-- The bytes that one read takes at most. -/
def readSize : Nat := 64

def read (p : Pipe) : Pipe :=
  { p with
    held := p.held - readSize
    held_le := Nat.le_trans (Nat.sub_le _ _) p.held_le }

theorem held_write_pos (p : Pipe) : 0 < p.write.held := by
  have := p.capacity_pos
  unfold write
  split
  · simp
  · omega

theorem held_le_write (p : Pipe) : p.held ≤ p.write.held := by
  unfold write
  split <;> simp

@[simp] theorem held_drained (p : Pipe) : p.drained.held = 0 := rfl

end Pipe

end HostServices.Watch
