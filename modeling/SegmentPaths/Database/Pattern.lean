/-
Patterns of LIKE: a percent sign stands for any text, an underscore for any one
character, and a character behind the escape character for itself.
-/
namespace SegmentPaths

/-- A piece of a pattern.  What an escape character at the end of a pattern
stands for matches nothing. -/
inductive PatternPart
  | anyText
  | anyOne
  | char (c : Char)
  | nothing
deriving DecidableEq

namespace Pattern

/-- What a character of a pattern stands for by itself. -/
def part (c : Char) : PatternPart :=
  if c = '%' then .anyText else if c = '_' then .anyOne else .char c

/-- The pieces of a pattern. -/
def parts (escape : Option Char) : List Char → List PatternPart
  | [] => []
  | [c] => if escape = some c then [.nothing] else [part c]
  | c :: next :: rest =>
    if escape = some c then .char next :: parts escape rest
    else part c :: parts escape (next :: rest)

/-- A text and everything that is left of it when its front is dropped. -/
def suffixes : List Char → List (List Char)
  | [] => [[]]
  | c :: rest => (c :: rest) :: suffixes rest

/-- Whether a whole text has the form of a pattern, for a test that says which
characters count as the same. -/
def fits (same : Char → Char → Bool) : List PatternPart → List Char → Bool
  | [], cs => cs.isEmpty
  | .anyText :: rest, cs => (suffixes cs).any (fits same rest)
  | .anyOne :: _, [] => false
  | .anyOne :: rest, _ :: cs => fits same rest cs
  | .char _ :: _, [] => false
  | .char c :: rest, d :: cs => same c d && fits same rest cs
  | .nothing :: _, _ => false

/-- Equality of characters but for the case of ASCII letters. -/
def sameLetter (c d : Char) : Bool := c.toLower == d.toLower

end Pattern

end SegmentPaths
