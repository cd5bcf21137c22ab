import HostServices.Json.Token

/-!
# Data values

A data value is read from tokens by a machine with a stack of arrays and objects that are still
open, and written as tokens without blanks.
-/

namespace HostServices

/-- A data value.  Keys and strings that spell no text are kept as none. -/
inductive JsonValue
  | null
  | bool (b : Bool)
  | number (n : NumberLiteral)
  | string (text : Option (List Char))
  | array (items : List JsonValue)
  | object (fields : List (Option (List Char) × JsonValue))

namespace JsonValue

/-! ### Reading -/

/-- An open array or object with what it holds so far, the last first. -/
inductive Frame
  | array (items : List JsonValue)
  | object (fields : List (Option (List Char) × JsonValue)) (key : Option (List Char))

inductive Expected
  | value
  | itemOrEnd
  | keyOrEnd
  | key (fields : List (Option (List Char) × JsonValue))
  | colon (fields : List (Option (List Char) × JsonValue)) (key : Option (List Char))
  /-- The value is complete: a comma or an end. -/
  | after (v : JsonValue)

def ofToken? : JsonToken → Option JsonValue
  | .null => some .null
  | .bool b => some (.bool b)
  | .number n => some (.number n)
  | .string text => some (.string text)
  | _ => none

def begin? (stack : List Frame) : JsonToken → Option (Expected × List Frame)
  | .openBracket => some (.itemOrEnd, stack)
  | .openBrace => some (.keyOrEnd, stack)
  | t => (ofToken? t).map fun v => (.after v, stack)

def step? : Expected → List Frame → JsonToken → Option (Expected × List Frame)
  | .value, stack, t => begin? stack t
  | .itemOrEnd, stack, .closeBracket => some (.after (.array []), stack)
  | .itemOrEnd, stack, t => begin? (.array [] :: stack) t
  | .keyOrEnd, stack, .closeBrace => some (.after (.object []), stack)
  | .keyOrEnd, stack, .string key => some (.colon [] key, stack)
  | .key fields, stack, .string key => some (.colon fields key, stack)
  | .colon fields key, stack, .colon => some (.value, .object fields key :: stack)
  | .after v, .array items :: stack, .comma => some (.value, .array (v :: items) :: stack)
  | .after v, .array items :: stack, .closeBracket =>
    some (.after (.array (v :: items).reverse), stack)
  | .after v, .object fields key :: stack, .comma => some (.key ((key, v) :: fields), stack)
  | .after v, .object fields key :: stack, .closeBrace =>
    some (.after (.object ((key, v) :: fields).reverse), stack)
  | _, _, _ => none

/-- Reads tokens to the end: one value must be complete then, and nothing open. -/
def readTokens : Expected → List Frame → List JsonToken → Option JsonValue
  | .after v, [], [] => some v
  | _, _, [] => none
  | expected, stack, t :: rest =>
    (step? expected stack t).bind fun (expected, stack) => readTokens expected stack rest

def parse? (s : String) : Option JsonValue :=
  (JsonToken.lex s.toList).bind (readTokens .value [])

/-! ### Writing -/

mutual

/-- The tokens of a value. -/
def tokens : JsonValue → List JsonToken
  | .null => [.null]
  | .bool b => [.bool b]
  | .number n => [.number n]
  | .string text => [.string text]
  | .array [] => [.openBracket, .closeBracket]
  | .array (v :: rest) => .openBracket :: tokens v ++ itemTokens rest
  | .object [] => [.openBrace, .closeBrace]
  | .object ((key, v) :: rest) =>
    .openBrace :: .string key :: .colon :: tokens v ++ fieldTokens rest

def itemTokens : List JsonValue → List JsonToken
  | [] => [.closeBracket]
  | v :: rest => .comma :: tokens v ++ itemTokens rest

def fieldTokens : List (Option (List Char) × JsonValue) → List JsonToken
  | [] => [.closeBrace]
  | (key, v) :: rest => .comma :: .string key :: .colon :: tokens v ++ fieldTokens rest

end

def render (v : JsonValue) : String := String.ofList (v.tokens.flatMap JsonToken.write)

/-! ### Building -/

def ofText (s : String) : JsonValue := .string (some s.toList)

def ofInt (n : Int) : JsonValue := .number (.ofInt n)

/-- An object with the given fields in order. -/
def record (fields : List (String × JsonValue)) : JsonValue :=
  .object (fields.map fun (key, v) => (some key.toList, v))

/-! ### Taking apart -/

def asText? : JsonValue → Option String
  | .string (some s) => some (String.ofList s)
  | _ => none

/-- The integer of a number that is written as one. -/
def asInt? : JsonValue → Option Int
  | .number n => n.toInt?
  | _ => none

/-- An integer of 32 bits with a sign. -/
def asInt32? (v : JsonValue) : Option Int := v.asInt?.filter Text.isInt32

/-- An integer of 64 bits without a sign. -/
def asNat64? (v : JsonValue) : Option Nat :=
  (v.asInt?.filter fun n => 0 ≤ n && n < Int.pow 2 64).map Int.toNat

def asFloat? : JsonValue → Option Float
  | .number n => n.toFloat?
  | _ => none

def isNull : JsonValue → Bool
  | .null => true
  | _ => false

/-- The fields of an object, if every key spells a text. -/
def asRecord? : JsonValue → Option (List (List Char × JsonValue))
  | .object fields => fields.mapM fun (key, v) => key.map fun k => (k, v)
  | _ => none

/-- The values of a key, in order. -/
def valuesOf (fields : List (List Char × JsonValue)) (key : String) : List JsonValue :=
  (fields.filter fun p => p.1 = key.toList).map Prod.snd

/-- The value of a key that occurs once. -/
def only? (fields : List (List Char × JsonValue)) (key : String) : Option JsonValue :=
  match valuesOf fields key with
  | [v] => some v
  | _ => none

/-- The values of some fields of an object, each of which occurs once, among others. -/
def asNamedFields? (keys : List String) (v : JsonValue) : Option (List JsonValue) :=
  v.asRecord?.bind fun fields => keys.mapM (only? fields)

/-- The values of a record's fields, from an object or from an array of just these values in
order. -/
def asFields? (keys : List String) : JsonValue → Option (List JsonValue)
  | .array items => if items.length = keys.length then some items else none
  | v => v.asNamedFields? keys

/-- A bare name: a string, or an object whose only field has the name and holds null. -/
def asName? : JsonValue → Option String
  | .object [(some key, .null)] => some (String.ofList key)
  | v => v.asText?

mutual

/-- How deep arrays and objects are nested. -/
def depth : JsonValue → Nat
  | .array items => itemDepth items + 1
  | .object fields => fieldDepth fields + 1
  | _ => 0

def itemDepth : List JsonValue → Nat
  | [] => 0
  | v :: rest => max (depth v) (itemDepth rest)

def fieldDepth : List (Option (List Char) × JsonValue) → Nat
  | [] => 0
  | (_, v) :: rest => max (depth v) (fieldDepth rest)

end

mutual

/-- All strings and keys spell texts and all numbers have a value. -/
def isSound : JsonValue → Bool
  | .number n => n.hasValue
  | .string text => text.isSome
  | .array items => areSound items
  | .object fields => fieldsSound fields
  | _ => true

def areSound : List JsonValue → Bool
  | [] => true
  | v :: rest => isSound v && areSound rest

def fieldsSound : List (Option (List Char) × JsonValue) → Bool
  | [] => true
  | (key, v) :: rest => key.isSome && isSound v && fieldsSound rest

end

/-- A value inside an object or an array that can be kept until it is known what it is for: it is
sound and not nested too deep. -/
def isKeepable (v : JsonValue) : Bool := v.isSound && v.depth ≤ 126

/-! ### Tagged data

A tagged value tells its case by a name under one key and what the case holds under another. -/

inductive Tagged
  /-- The case holds nothing. -/
  | bare (tag : String)
  | holding (tag : String) (content : JsonValue)

/-- Of two keys the first is the one that comes first among some fields. -/
def comesFirst (a b : String) (fields : List (List Char × JsonValue)) : Bool :=
  match fields.find? fun p => p.1 = a.toList || p.1 = b.toList with
  | some (key, _) => key = a.toList
  | none => false

/-- Takes a tagged value apart.  The keys occur once each, in any order, and the content may be
missing; a content that comes before its tag must be keepable.  An array of tag and content will
do as well, where the tag is a string. -/
def asTagged? (tagKey contentKey : String) : JsonValue → Option Tagged
  | .array [tag, content] => tag.asText?.map fun t => .holding t content
  | v => do
    let fields ← v.asRecord?
    let tag ← (← only? fields tagKey).asName?
    match valuesOf fields contentKey with
    | [] => some (.bare tag)
    | [content] =>
      if comesFirst tagKey contentKey fields || content.isKeepable then
        some (.holding tag content)
      else none
    | _ => none

/-- Takes a value apart whose tag stands among what the case holds: under a key of an object, or in
front of an array.  What is left must be keepable. -/
def asInlineTagged? (tagKey : String) : JsonValue → Option (String × JsonValue)
  | .array (tag :: rest) =>
    if rest.all isKeepable then tag.asText?.map fun t => (t, .array rest) else none
  | .object fields => do
    let named ← asRecord? (.object fields)
    let tag ← (← only? named tagKey).asText?
    let others := fields.filter fun p => p.1 != some tagKey.toList
    if others.all fun p => p.2.isKeepable then some (tag, .object others) else none
  | _ => none

end JsonValue

end HostServices
