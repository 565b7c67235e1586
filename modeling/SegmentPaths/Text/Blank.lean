/-
White space as Unicode lists it, and text without the white space at its ends.
-/
namespace SegmentPaths

/-- The characters with the Unicode property White_Space. -/
def isBlank (c : Char) : Bool :=
  let code := c.toNat
  (0x09 ≤ code && code ≤ 0x0d) || code == 0x20 || code == 0x85 || code == 0xa0 ||
    code == 0x1680 || (0x2000 ≤ code && code ≤ 0x200a) || code == 0x2028 ||
    code == 0x2029 || code == 0x202f || code == 0x205f || code == 0x3000

/-- Drops the white space in front of a text. -/
def trimLeft (cs : List Char) : List Char := cs.dropWhile isBlank

/-- Drops the white space at both ends of a text. -/
def trimBlanks (source : String) : String :=
  String.ofList (trimLeft (trimLeft source.toList).reverse).reverse

end SegmentPaths
