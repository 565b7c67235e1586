/-
JSON text as it is written.  A document keeps repeated keys, and it has holes
where the grammar is met but no value is meant: a string with an unpaired
surrogate, a number beyond the greatest double, and what nests too deep.
Whoever reads such a hole refuses it, while values that nobody looks at may
hold them.
-/
import SegmentPaths.Json.Value

namespace SegmentPaths

inductive Document
  | null
  | bool (value : Bool)
  | number (value : JsonNumber)
  | text (value : String)
  | array (items : List Document)
  | object (members : List (Option String × Document))
  | hole

instance : Inhabited Document := ⟨.null⟩

namespace Document

/-- The blanks of the JSON grammar. -/
def isSpace (c : Char) : Bool := c == ' ' || c == '\n' || c == '\t' || c == '\r'

def skipSpace (cs : List Char) : List Char := cs.dropWhile isSpace

/-- The value of a hexadecimal digit. -/
def hexValue? (c : Char) : Option Nat :=
  if '0' ≤ c ∧ c ≤ '9' then some (c.toNat - '0'.toNat)
  else if 'a' ≤ c ∧ c ≤ 'f' then some (c.toNat - 'a'.toNat + 10)
  else if 'A' ≤ c ∧ c ≤ 'F' then some (c.toNat - 'A'.toNat + 10)
  else none

/-- The number of four hexadecimal digits. -/
def hexUnit? (a b c d : Char) : Option Nat := do
  let a ← hexValue? a
  let b ← hexValue? b
  let c ← hexValue? c
  let d ← hexValue? d
  pure (((a * 16 + b) * 16 + c) * 16 + d)

def isLeadUnit (unit : Nat) : Bool := 0xd800 ≤ unit && unit < 0xdc00

def isTrailUnit (unit : Nat) : Bool := 0xdc00 ≤ unit && unit < 0xe000

/-- The character of a surrogate pair. -/
def pairedChar (lead trail : Nat) : Char :=
  Char.ofNat (0x10000 + (lead - 0xd800) * 0x400 + (trail - 0xdc00))

/-- The units of a string, first the text of `\u` escapes as they stand. -/
inductive Piece
  | char (c : Char)
  | unit (code : Nat)

/-- Reads the pieces of a string behind its opening quote, and the rest. -/
def pieces? : List Char → Option (List Piece × List Char)
  | '"' :: rest => some ([], rest)
  | '\\' :: 'u' :: a :: b :: c :: d :: rest => do
    let code ← hexUnit? a b c d
    let (tail, rest) ← pieces? rest
    pure (.unit code :: tail, rest)
  | '\\' :: c :: rest => do
    let plain ←
      if c = '"' ∨ c = '\\' ∨ c = '/' then some c
      else if c = 'b' then some '\x08'
      else if c = 'f' then some '\x0c'
      else if c = 'n' then some '\n'
      else if c = 'r' then some '\r'
      else if c = 't' then some '\t'
      else none
    let (tail, rest) ← pieces? rest
    pure (.char plain :: tail, rest)
  | c :: rest =>
    if c.toNat < 0x20 then none
    else do
      let (tail, rest) ← pieces? rest
      pure (.char c :: tail, rest)
  | [] => none

/-- The characters that pieces spell, unless a surrogate stands alone. -/
def spelled? : List Piece → Option (List Char)
  | [] => some []
  | .char c :: rest => (spelled? rest).map (c :: ·)
  | .unit lead :: .unit trail :: rest =>
    if isLeadUnit lead then
      if isTrailUnit trail then (spelled? rest).map (pairedChar lead trail :: ·) else none
    else if isTrailUnit lead then none
    else (spelled? (.unit trail :: rest)).map (Char.ofNat lead :: ·)
  | .unit code :: rest =>
    if isLeadUnit code || isTrailUnit code then none
    else (spelled? rest).map (Char.ofNat code :: ·)

/-- Reads a string behind its opening quote, if it has a text, and the rest. -/
def string? (cs : List Char) : Option (Option String × List Char) :=
  (pieces? cs).map (fun (pieces, rest) => ((spelled? pieces).map String.ofList, rest))

/-- The greatest significand that is kept while digits are read. -/
def greatestSignificand : Nat := 18446744073709551615

/-- Appends digits to a significand until one would lift it above the greatest;
with the digits that are left. -/
def appendDigits (significand : Nat) : List Char → Nat × List Char
  | [] => (significand, [])
  | digit :: rest =>
    let next := significand * 10 + (digit.toNat - '0'.toNat)
    if next ≤ greatestSignificand then appendDigits next rest else (significand, digit :: rest)

/-- A number as it is written. -/
structure Literal where
  negative : Bool
  whole : List Char
  fraction : Option (List Char)
  exponent : Option (Bool × List Char)

/-- The exponents of literals stay among the 32-bit integers. -/
def clampExponent (n : Int) : Int := max (-2147483648) (min n 2147483647)

namespace Literal

/-- The literal as a binary64 number.  Its significand is made of the leading
digits that stay below `2 ^ 64`; whole digits behind them count as zeros, and
fraction digits behind them are dropped. -/
def double? (literal : Literal) : Option Double :=
  let (whole, left) := appendDigits 0 literal.whole
  let fraction := literal.fraction.getD []
  let (significand, dropped) := appendDigits whole fraction
  let exponent := Int.ofNat left.length - Int.ofNat (fraction.length - dropped.length)
  match literal.exponent with
  | none => Double.ofDecimal? literal.negative significand exponent
  | some (down, digits) =>
    let amount := Nat.ofDigitChars 10 digits 0
    if 2147483648 ≤ amount then
      if significand ≠ 0 ∧ down = false then none
      else some { Double.zero with negative := literal.negative }
    else
      let shift := if down then -Int.ofNat amount else Int.ofNat amount
      Double.ofDecimal? literal.negative significand (clampExponent (exponent + shift))

/-- The number a literal stands for: an integer when it is written as one and
fits, and a double otherwise. -/
def number? (literal : Literal) : Option JsonNumber :=
  match literal.fraction, literal.exponent with
  | none, none =>
    let value := Nat.ofDigitChars 10 literal.whole 0
    if literal.negative then
      if 1 ≤ value ∧ value ≤ 9223372036854775808 then some (.int (-Int.ofNat value))
      else literal.double?.map .double
    else if value ≤ greatestSignificand then some (.int value)
    else literal.double?.map .double
  | _, _ => literal.double?.map .double

end Literal

/-- Splits the digits off the front of a text. -/
def digits (cs : List Char) : List Char × List Char := (cs.takeWhile Char.isDigit,
  cs.dropWhile Char.isDigit)

/-- One or more digits, and the rest. -/
def someDigits? (cs : List Char) : Option (List Char × List Char) :=
  match digits cs with
  | ([], _) => none
  | found => some found

/-- The whole part of a number: a single zero, or digits that start otherwise. -/
def whole? (cs : List Char) : Option (List Char × List Char) :=
  match cs with
  | '0' :: rest =>
    match rest with
    | c :: _ => if c.isDigit then none else some (['0'], rest)
    | [] => some (['0'], rest)
  | _ => someDigits? cs

def fraction? (cs : List Char) : Option (Option (List Char) × List Char) :=
  match cs with
  | '.' :: rest => (someDigits? rest).map (fun (found, rest) => (some found, rest))
  | _ => some (none, cs)

def exponent? (cs : List Char) : Option (Option (Bool × List Char) × List Char) :=
  match cs with
  | c :: rest =>
    if c = 'e' ∨ c = 'E' then
      match rest with
      | '-' :: rest => (someDigits? rest).map (fun (found, rest) => (some (true, found), rest))
      | '+' :: rest => (someDigits? rest).map (fun (found, rest) => (some (false, found), rest))
      | _ => (someDigits? rest).map (fun (found, rest) => (some (false, found), rest))
    else some (none, cs)
  | [] => some (none, cs)

/-- Reads a number, and the rest. -/
def literal? (cs : List Char) : Option (Literal × List Char) := do
  let (negative, cs) := match cs with
    | '-' :: rest => (true, rest)
    | _ => (false, cs)
  let (whole, cs) ← whole? cs
  let (fraction, cs) ← fraction? cs
  let (exponent, cs) ← exponent? cs
  pure (⟨negative, whole, fraction, exponent⟩, cs)

/-- The document of a string or of a number; a hole if it means no value. -/
def ofText : Option String → Document
  | some value => .text value
  | none => .hole

def ofNumber : Option JsonNumber → Document
  | some value => .number value
  | none => .hole

mutual

/-- Reads one value behind blanks, and the rest.  The fuel bounds the recursion. -/
def value? : Nat → List Char → Option (Document × List Char)
  | 0, _ => none
  | fuel + 1, cs =>
    match skipSpace cs with
    | 'n' :: 'u' :: 'l' :: 'l' :: rest => some (.null, rest)
    | 't' :: 'r' :: 'u' :: 'e' :: rest => some (.bool true, rest)
    | 'f' :: 'a' :: 'l' :: 's' :: 'e' :: rest => some (.bool false, rest)
    | '"' :: rest => (string? rest).map (fun (found, rest) => (ofText found, rest))
    | '[' :: rest =>
      match skipSpace rest with
      | ']' :: rest => some (.array [], rest)
      | rest => (items? fuel rest).map (fun (found, rest) => (.array found, rest))
    | '\x7b' :: rest =>
      match skipSpace rest with
      | '\x7d' :: rest => some (.object [], rest)
      | rest => (members? fuel rest).map (fun (found, rest) => (.object found, rest))
    | other => (literal? other).map (fun (found, rest) => (ofNumber found.number?, rest))

/-- Reads one or more items up to the closing bracket. -/
def items? : Nat → List Char → Option (List Document × List Char)
  | 0, _ => none
  | fuel + 1, cs => do
    let (item, rest) ← value? fuel cs
    match skipSpace rest with
    | ',' :: rest =>
      let (items, rest) ← items? fuel rest
      pure (item :: items, rest)
    | ']' :: rest => pure ([item], rest)
    | _ => none

/-- Reads one or more members up to the closing brace. -/
def members? : Nat → List Char → Option (List (Option String × Document) × List Char)
  | 0, _ => none
  | fuel + 1, cs =>
    match skipSpace cs with
    | '"' :: rest => do
      let (key, rest) ← string? rest
      match skipSpace rest with
      | ':' :: rest =>
        let (value, rest) ← value? fuel rest
        match skipSpace rest with
        | ',' :: rest =>
          let (members, rest) ← members? fuel rest
          pure ((key, value) :: members, rest)
        | '\x7d' :: rest => pure ([(key, value)], rest)
        | _ => none
      | _ => none
    | _ => none

end

/-- How many brackets a text may nest. -/
def greatestNesting : Nat := 127

mutual

/-- A document with holes in place of what nests deeper than so many brackets. -/
def cutBelow (room : Nat) : Document → Document
  | .array items => if room = 0 then .hole else .array (cutItems (room - 1) items)
  | .object members => if room = 0 then .hole else .object (cutMembers (room - 1) members)
  | other => other

def cutItems (room : Nat) : List Document → List Document
  | [] => []
  | item :: rest => cutBelow room item :: cutItems room rest

def cutMembers (room : Nat) : List (Option String × Document) → List (Option String × Document)
  | [] => []
  | (key, value) :: rest => (key, cutBelow room value) :: cutMembers room rest

end

/-- Reads a whole text as one value. -/
def read? (source : String) : Option Document :=
  let cs := source.toList
  match value? (cs.length + 1) cs with
  | none => none
  | some (document, rest) =>
    if (skipSpace rest).isEmpty then some (document.cutBelow greatestNesting) else none

mutual

/-- The value a document means, if it has no hole.  Of equal keys the last one
counts, and members are sorted by their keys. -/
def json? : Document → Option Json
  | .null => some .null
  | .bool value => some (.bool value)
  | .number value => some (.number value)
  | .text value => some (.text value)
  | .array items => (jsonItems? items).map .array
  | .object members => (jsonMembers? members).map Json.ofMembers
  | .hole => none

def jsonItems? : List Document → Option (List Json)
  | [] => some []
  | item :: rest => do
    let item ← json? item
    let rest ← jsonItems? rest
    pure (item :: rest)

def jsonMembers? : List (Option String × Document) → Option (List (String × Json))
  | [] => some []
  | (key, value) :: rest => do
    let key ← key
    let value ← json? value
    let rest ← jsonMembers? rest
    pure ((key, value) :: rest)

end

mutual

/-- A value as a document without holes. -/
def ofJson : Json → Document
  | .null => .null
  | .bool value => .bool value
  | .number value => .number value
  | .text value => .text value
  | .array items => .array (ofItems items)
  | .object members => .object (ofMembers members)

def ofItems : List Json → List Document
  | [] => []
  | item :: rest => ofJson item :: ofItems rest

def ofMembers : List (String × Json) → List (Option String × Document)
  | [] => []
  | (key, value) :: rest => (some key, ofJson value) :: ofMembers rest

end

end Document

/-- The value a JSON text means. -/
def Json.read? (source : String) : Option Json :=
  (Document.read? source).bind Document.json?

end SegmentPaths
