/-
JSON values and their compact text.  Integers from `-2^63` up to `2^64 - 1` are
exact; every other number is a binary64 number.
-/
import SegmentPaths.OrderedMap
import SegmentPaths.Text.Decimal
import SegmentPaths.Json.Double

namespace SegmentPaths

inductive JsonNumber
  | int (value : Int)
  | double (value : Double)
deriving DecidableEq

inductive Json
  | null
  | bool (value : Bool)
  | number (value : JsonNumber)
  | text (value : String)
  | array (items : List Json)
  | object (members : List (String × Json))

instance : Inhabited Json := ⟨.null⟩

/-- The 64-bit integer that a number is, if it is one. -/
def JsonNumber.int64? : JsonNumber → Option Int64
  | .int value => Decimal.int64? value
  | .double _ => none

def JsonNumber.chars : JsonNumber → List Char
  | .int value => Decimal.chars value
  | .double value => value.chars

namespace Json

/-- A 64-bit integer as a value. -/
def ofInt64 (n : Int64) : Json := .number (.int n.toInt)

/-- A count as a value. -/
def ofNat (n : Nat) : Json := .number (.int n)

/-- An object from members in any order; of equal keys the last one stays. -/
def ofMembers (members : List (String × Json)) : Json :=
  .object (OrderedMap.ofList members).toList

/-- The digit of a number below sixteen, in lower case. -/
def hexDigit (n : Nat) : Char := Nat.digitChar n

/-- A character inside a JSON string. -/
def escapedChar (c : Char) : List Char :=
  if c = '"' then ['\\', '"']
  else if c = '\\' then ['\\', '\\']
  else if c = '\x08' then ['\\', 'b']
  else if c = '\x0c' then ['\\', 'f']
  else if c = '\n' then ['\\', 'n']
  else if c = '\r' then ['\\', 'r']
  else if c = '\t' then ['\\', 't']
  else if c.toNat < 0x20 then
    ['\\', 'u', '0', '0', hexDigit (c.toNat / 16), hexDigit (c.toNat % 16)]
  else [c]

/-- A string with its quotes. -/
def quotedChars (value : String) : List Char :=
  '"' :: value.toList.flatMap escapedChar ++ ['"']

mutual

/-- The compact text of a value. -/
def chars : Json → List Char
  | .null => ['n', 'u', 'l', 'l']
  | .bool true => ['t', 'r', 'u', 'e']
  | .bool false => ['f', 'a', 'l', 's', 'e']
  | .number value => value.chars
  | .text value => quotedChars value
  | .array items => '[' :: itemChars items ++ [']']
  | .object members => '\x7b' :: memberChars members ++ ['\x7d']

def itemChars : List Json → List Char
  | [] => []
  | [item] => item.chars
  | item :: next :: rest => item.chars ++ ',' :: itemChars (next :: rest)

def memberChars : List (String × Json) → List Char
  | [] => []
  | [(key, value)] => quotedChars key ++ ':' :: value.chars
  | (key, value) :: next :: rest =>
    quotedChars key ++ ':' :: value.chars ++ ',' :: memberChars (next :: rest)

end

/-- The compact text of a value. -/
def compact (value : Json) : String := String.ofList value.chars

end Json

end SegmentPaths
