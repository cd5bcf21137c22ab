/-!
# Interrupt flags

An interrupt flag is a cell that its clones share: whoever raises one of them raises all.  `Flag` is
the cell's number and `FlagCells` what the cells hold; a pool gives flags names.
-/

namespace HostServices

/-- An interrupt flag; clones are equal. -/
structure Flag where
  cell : Nat
  deriving DecidableEq

structure FlagCells where
  raised : List Flag
  /-- The cell of the next new flag. -/
  next : Nat
  deriving DecidableEq

namespace FlagCells

def empty : FlagCells := ⟨[], 0⟩

def isRaised (c : FlagCells) (f : Flag) : Bool := c.raised.contains f

def set (c : FlagCells) (f : Flag) (raised : Bool) : FlagCells :=
  let others := c.raised.filter (· != f)
  { c with raised := if raised then f :: others else others }

/-- A new flag, not raised, with a cell of its own. -/
def create (c : FlagCells) : Flag × FlagCells :=
  let f : Flag := ⟨c.next⟩
  (f, { c.set f false with next := c.next + 1 })

end FlagCells

structure FlagPool where
  /-- The flag of each name, in the order in which the names came up. -/
  names : List (String × Flag)
  cells : FlagCells

namespace FlagPool

def empty : FlagPool := ⟨[], .empty⟩

def bindName (name : String) (flag : Flag) : List (String × Flag) → List (String × Flag)
  | [] => [(name, flag)]
  | (n, f) :: rest =>
    if n = name then (name, flag) :: rest else (n, f) :: bindName name flag rest

def create (p : FlagPool) (name : String) : FlagPool :=
  let (flag, cells) := p.cells.create
  ⟨bindName name flag p.names, cells⟩

def clone (p : FlagPool) (name source : String) : FlagPool :=
  match p.names.lookup source with
  | some flag => { p with names := bindName name flag p.names }
  | none => p

def set (p : FlagPool) (name : String) (raised : Bool) : FlagPool :=
  match p.names.lookup name with
  | some flag => { p with cells := p.cells.set flag raised }
  | none => p

def view (p : FlagPool) : List (String × Bool) :=
  p.names.map fun (name, flag) => (name, p.cells.isRaised flag)

end FlagPool

end HostServices
