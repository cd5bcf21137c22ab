import HostServices.Catch.Tag
import HostServices.Failure

/-!
# Programs with non-local exits

A small language whose expressions bind tags, catch, throw, raise failures and clean up.
-/

namespace HostServices.Catch

inductive Value
  | null
  | bool (b : Bool)
  | int (n : Int64)
  | text (s : String)
  deriving DecidableEq

def Value.inspect : Value → String
  | .null => "null"
  | .bool b => toString b
  | .int n => String.ofList (Text.writeInteger n.toInt)
  | .text s => Text.quote s

/-- The sum of integers, wrapping at 64 bits, or two texts joined. -/
def Value.add? : Value → Value → Option Value
  | .int a, .int b => some (.int (a + b))
  | .text a, .text b => some (.text (a ++ b))
  | _, _ => none

inductive TagSource
  | fresh
  | labeled (label : String)
  | shared (object : String)
  | clone (tag : String)
  deriving DecidableEq

inductive Expr
  | value (v : Value)
  | log (e : Expr)
  /-- One after the other; the second value counts. -/
  | andThen (a b : Expr)
  | add (a b : Expr)
  /-- Two names are bound to the same tag. -/
  | same (t u : String)
  | bindTag (name : String) (source : TagSource) (body : Expr)
  /-- A new shared object; its name stays bound after the body. -/
  | object (name : String) (content : Content) (body : Expr)
  /-- Catch what is thrown to a tag; the body knows the tag by the name it. -/
  | catching (tag : String) (body : Expr)
  /-- Catch what is thrown to a new tag. -/
  | catchFresh (name : String) (body : Expr)
  /-- Catch what is thrown to some new tags that the body does not know. -/
  | nest (depth : Nat) (body : Expr)
  | throwing (tag : String) (e : Expr)
  | raise (f : Failure)
  /-- A raised failure becomes its wording. -/
  | rescue (body : Expr)
  /-- The cleanup always runs; the value of the body counts. -/
  | ensure (body cleanup : Expr)
  /-- What escapes is logged and goes on with another value. -/
  | rewrap (body e : Expr)
  /-- Throw where nothing but the escape can come out, and take its wording. -/
  | direct (tag : String) (e : Expr)

instance : Inhabited Expr := ⟨.value .null⟩

/-- Expressions one after the other; null if there are none. -/
def Expr.sequence : List Expr → Expr
  | [] => .value .null
  | [e] => e
  | e :: rest => .andThen e (.sequence rest)

end HostServices.Catch
