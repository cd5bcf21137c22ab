import HostServices.Catch.Tag

/-!
# Books of tags and shared objects

A book binds names to tags and to shared objects.  Names can be bound again and dropped; origins
are never used twice.
-/

namespace HostServices.Catch

/-- Names bound to values, the latest binding of a name in front. -/
abbrev Bindings (α : Type) := List (String × α)

namespace Bindings

variable {α : Type}

def find? (b : Bindings α) (name : String) : Option α := b.lookup name

def drop (b : Bindings α) (name : String) : Bindings α := b.filter fun p => p.1 != name

/-- Binds a name, in place of what it was bound to. -/
def bind (b : Bindings α) (name : String) (a : α) : Bindings α := (name, a) :: b.drop name

def has (b : Bindings α) (name : String) : Bool := (b.find? name).isSome

end Bindings

structure TagBook where
  tags : Bindings Tag
  objects : Bindings Shared
  next : Nat

namespace TagBook

def empty : TagBook := ⟨[], [], 0⟩

def mint (b : TagBook) (name : String) (label : Option String) : TagBook :=
  { b with tags := Bindings.bind b.tags name (.mint b.next label), next := b.next + 1 }

/-- Binds a name to a new shared object. -/
def share (b : TagBook) (name : String) (content : Content) : TagBook :=
  { b with objects := Bindings.bind b.objects name ⟨b.next, content⟩, next := b.next + 1 }

def tagObject (b : TagBook) (name object : String) : TagBook :=
  match Bindings.find? b.objects object with
  | some o => { b with tags := Bindings.bind b.tags name (.ofShared o) }
  | none => b

def clone (b : TagBook) (name source : String) : TagBook :=
  match Bindings.find? b.tags source with
  | some t => { b with tags := Bindings.bind b.tags name t }
  | none => b

def drop (b : TagBook) (name : String) : TagBook :=
  { b with tags := Bindings.drop b.tags name }

def tag? (b : TagBook) (name : String) : Option Tag := Bindings.find? b.tags name

/-- Both names are bound, and to tags that are related. -/
def related (b : TagBook) (relation : Tag → Tag → Bool) (x y : String) : Bool :=
  match b.tag? x, b.tag? y with
  | some t, some u => relation t u
  | _, _ => false

/-- The number of different tags that are bound. -/
def distinct (b : TagBook) : Nat := (b.tags.map Prod.snd).eraseDups.length

/-- How often a shared object is held: by its own name and by every tag made for it. -/
def references? (b : TagBook) (object : String) : Option Nat :=
  (Bindings.find? b.objects object).map fun o =>
    1 + b.tags.countP fun p => p.2.origin == o.origin

end TagBook

end HostServices.Catch
