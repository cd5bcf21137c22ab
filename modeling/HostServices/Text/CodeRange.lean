/-!
# Ranges of code points

Properties of characters are kept as lists of code point ranges, in three parts by size.
-/

namespace HostServices.Text

/-- A range, both ends included, holds a code point. -/
def inRange (n : Nat) (r : Nat × Nat) : Bool := r.1 ≤ n && n ≤ r.2

/-- A character lies in one of the ranges: those below 1000 (hexadecimal), those from there to FFFF
and those above. -/
def liesIn (low middle high : List (Nat × Nat)) (c : Char) : Bool :=
  let ranges :=
    if c.toNat < 0x1000 then low
    else if c.toNat < 0x10000 then middle
    else high
  ranges.any (inRange c.toNat)

end HostServices.Text
