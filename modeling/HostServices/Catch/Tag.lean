import HostServices.Text.Quoted

/-!
# Catch tags

A tag names a catch.  Two tags are the same when they have one origin: the minting they descend
from, or the shared object they were made for.  Labels and contents are for readers only.
-/

namespace HostServices.Catch

/-- What a shared object holds. -/
inductive Content
  | text (s : String)
  | int (n : Int)
  | flag (b : Bool)
  deriving DecidableEq

/-- The types of shared objects. -/
inductive ContentType
  | text
  | int
  | flag
  deriving DecidableEq

def Content.type : Content → ContentType
  | .text _ => .text
  | .int _ => .int
  | .flag _ => .flag

/-- An object that its owner can make tags for. -/
structure Shared where
  origin : Nat
  content : Content
  deriving DecidableEq

structure Tag where
  /-- Where the tag descends from; live origins have different numbers. -/
  origin : Nat
  /-- What the shared object holds, if the tag was made for one. -/
  content : Option Content
  label : Option String

namespace Tag

def mint (origin : Nat) (label : Option String) : Tag := ⟨origin, none, label⟩

def ofShared (o : Shared) : Tag := ⟨o.origin, some o.content, none⟩

def is (a b : Tag) : Bool := a.origin == b.origin

theorem is_iff {a b : Tag} : a.is b = true ↔ a.origin = b.origin := by simp [is]

/-- Equality of tags is sameness: neither label nor content takes part. -/
instance : BEq Tag := ⟨is⟩

/-- The hash follows the origin alone, so tags that are the same have one hash. -/
instance : Hashable Tag := ⟨fun t => hash t.origin⟩

theorem beq_eq_is (a b : Tag) : (a == b) = a.is b := rfl

theorem hash_eq_of_is {a b : Tag} (h : a.is b = true) : hash a = hash b := by
  show hash a.origin = hash b.origin
  rw [is_iff.1 h]

def downcast? (t : Tag) (type : ContentType) : Option Content :=
  t.content.filter fun c => c.type = type

/-- A tag as a reader sees it.  The address is masked. -/
def display (t : Tag) : String :=
  match t.label with
  | some label => ":" ++ label
  | none => "#<Tag:ADDR>"

def displayLabel : Option String → String
  | some label => "Some(" ++ Text.quote label ++ ")"
  | none => "None"

/-- A tag spelled out.  The address is masked. -/
def inspect (t : Tag) : String :=
  "Tag \x7b addr: ADDR, label: " ++ displayLabel t.label ++ " \x7d"

end Tag

end HostServices.Catch
