import Benchplane.Library.Bytes

/-!
# JSON output

JSON values and the two texts a serializer writes for them: the compact one and
the pretty one, which indents by two spaces.  Numbers are kept as the text to
write.
-/

namespace Benchplane
namespace Library

mutual

/-- A JSON value. -/
inductive Json where
  | null
  | bool (value : Bool)
  | number (text : String)
  | string (text : String)
  | array (items : JsonItems)
  | object (fields : JsonFields)

/-- The items of an array. -/
inductive JsonItems where
  | nil
  | cons (head : Json) (tail : JsonItems)

/-- The fields of an object, in the order they are written. -/
inductive JsonFields where
  | nil
  | cons (key : String) (value : Json) (tail : JsonFields)

end

def JsonItems.ofList : List Json → JsonItems
  | [] => .nil
  | item :: rest => .cons item (ofList rest)

def JsonFields.ofList : List (String × Json) → JsonFields
  | [] => .nil
  | field :: rest => .cons field.1 field.2 (ofList rest)

def JsonItems.isNil : JsonItems → Bool
  | .nil => true
  | .cons _ _ => false

def JsonFields.isNil : JsonFields → Bool
  | .nil => true
  | .cons _ _ _ => false

namespace Json

/-- An array of a list of values. -/
def list (items : List Json) : Json := .array (.ofList items)

/-- An object of a list of fields. -/
def record (fields : List (String × Json)) : Json := .object (.ofList fields)

/-- An unsigned integer. -/
def nat (value : Nat) : Json := .number value.repr

/-- A `u32`. -/
def u32 (value : UInt32) : Json := nat value.toNat

/-- A `u64`. -/
def u64 (value : UInt64) : Json := nat value.toNat

/-- `null` for an absent value. -/
def option {α : Type} (encode : α → Json) : Option α → Json
  | none => .null
  | some value => encode value

/-- The escape sequence of a character inside a string. -/
def escapeChar (c : Char) : List Char :=
  if c = '\x22' then ['\x5c', '\x22']
  else if c = '\x5c' then ['\x5c', '\x5c']
  else if c = '\x08' then ['\x5c', 'b']
  else if c = '\t' then ['\x5c', 't']
  else if c = '\n' then ['\x5c', 'n']
  else if c = '\x0c' then ['\x5c', 'f']
  else if c = '\r' then ['\x5c', 'r']
  else if c.toNat < 0x20 then
    ['\x5c', 'u', '0', '0', hexDigit (c.toNat / 16), hexDigit (c.toNat % 16)]
  else [c]

/-- A string in quotes. -/
def quote (text : String) : String :=
  "\x22" ++ String.ofList (text.toList.flatMap escapeChar) ++ "\x22"

end Json

mutual

/-- The compact text. -/
def Json.compact : Json → String
  | .null => "null"
  | .bool true => "true"
  | .bool false => "false"
  | .number text => text
  | .string text => Json.quote text
  | .array items => "[" ++ items.compact ++ "]"
  | .object fields => "\x7b" ++ fields.compact ++ "\x7d"

def JsonItems.compact : JsonItems → String
  | .nil => ""
  | .cons head tail => head.compact ++ if tail.isNil then "" else "," ++ tail.compact

def JsonFields.compact : JsonFields → String
  | .nil => ""
  | .cons key value tail =>
      Json.quote key ++ ":" ++ value.compact ++ if tail.isNil then "" else "," ++ tail.compact

end

/-- The indentation at a depth. -/
def indentation (depth : Nat) : String :=
  String.ofList (List.replicate (2 * depth) ' ')

mutual

/-- The pretty text at a depth. -/
def Json.pretty (depth : Nat) : Json → String
  | .null => "null"
  | .bool true => "true"
  | .bool false => "false"
  | .number text => text
  | .string text => Json.quote text
  | .array items =>
      if items.isNil then "[]"
      else "[\n" ++ items.pretty (depth + 1) ++ "\n" ++ indentation depth ++ "]"
  | .object fields =>
      if fields.isNil then "\x7b\x7d"
      else "\x7b\n" ++ fields.pretty (depth + 1) ++ "\n" ++ indentation depth ++ "\x7d"

def JsonItems.pretty (depth : Nat) : JsonItems → String
  | .nil => ""
  | .cons head tail =>
      indentation depth ++ head.pretty depth ++
        if tail.isNil then "" else ",\n" ++ tail.pretty depth

def JsonFields.pretty (depth : Nat) : JsonFields → String
  | .nil => ""
  | .cons key value tail =>
      indentation depth ++ Json.quote key ++ ": " ++ value.pretty depth ++
        if tail.isNil then "" else ",\n" ++ tail.pretty depth

end

end Library
end Benchplane
