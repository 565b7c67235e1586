/-
Character classes given by ranges of codes.
-/
namespace SegmentPaths

/-- Whether a code lies in one of the ranges, which stand in order: each is given
by its first code and the code behind its last. -/
def inRanges (code : Nat) : List Nat → Bool
  | first :: last :: rest =>
    if code < first then false
    else if code < last then true
    else inRanges code rest
  | _ => false

end SegmentPaths
