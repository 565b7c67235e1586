/-
Relationship paths: from a value, over links between items, to a contact.  A
path is the list of its hops; its depth counts the item it starts at as well.
-/
import SegmentPaths.Text.Decimal

namespace SegmentPaths

/-- The way a hop crosses a stored link. -/
inductive Direction
  | lowerToHigher
  | higherToLower
deriving DecidableEq

/-- The hops of a path in order. -/
abbrev RelationshipPath := List Direction

/-- The greatest depth that paths are enumerated to. -/
def greatestDepth : Nat := 8

/-- How deep paths may go. -/
structure DepthLimit where
  depth : Nat
  positive : 1 ≤ depth
  bounded : depth ≤ greatestDepth
deriving DecidableEq

namespace Direction

/-- The link column a hop comes from. -/
def fromColumn : Direction → String
  | .lowerToHigher => "custom_item_id_lower"
  | .higherToLower => "custom_item_id_higher"

/-- The link column a hop leads to. -/
def toColumn : Direction → String
  | .lowerToHigher => "custom_item_id_higher"
  | .higherToLower => "custom_item_id_lower"

def display : Direction → String
  | .lowerToHigher => " -> item(lower->higher)"
  | .higherToLower => " -> item(higher->lower)"

end Direction

namespace DepthLimit

def new? (depth : Nat) : Option DepthLimit :=
  if h : 1 ≤ depth ∧ depth ≤ greatestDepth then some ⟨depth, h.1, h.2⟩ else none

/-- The depth limit where none is given. -/
def standard : DepthLimit := ⟨3, by decide, by decide⟩

instance : Inhabited DepthLimit := ⟨standard⟩

end DepthLimit

namespace RelationshipPath

/-- The number of items on a path. -/
def depth (path : RelationshipPath) : Nat := path.length + 1

def isDirect (path : RelationshipPath) : Bool := path.isEmpty

def display (path : RelationshipPath) : String :=
  "value" ++ String.join (path.map Direction.display) ++ " -> contact"

/-- Every path with a number of hops, counting up in binary with the first hop
as the leading digit. -/
def ofLength : Nat → List RelationshipPath
  | 0 => [[]]
  | hops + 1 =>
    (ofLength hops).map (Direction.lowerToHigher :: ·) ++
      (ofLength hops).map (Direction.higherToLower :: ·)

/-- Every path up to a depth, shorter ones first. -/
def enumerate (limit : DepthLimit) : List RelationshipPath :=
  (List.range limit.depth).flatMap ofLength

/-- The number of paths up to a depth. -/
def count (limit : DepthLimit) : Nat := Nat.pow 2 limit.depth - 1

/-- A path is among those of a length exactly if it has it. -/
theorem mem_ofLength (path : RelationshipPath) (hops : Nat) :
    path ∈ ofLength hops ↔ path.length = hops := by
  induction hops generalizing path with
  | zero => simp [ofLength]
  | succ hops ih =>
      cases path with
      | nil => simp [ofLength]
      | cons direction rest => cases direction <;> simp [ofLength, ih]

theorem mem_enumerate (path : RelationshipPath) (limit : DepthLimit) :
    path ∈ enumerate limit ↔ depth path ≤ limit.depth := by
  simp only [enumerate, List.mem_flatMap, List.mem_range, mem_ofLength, depth]
  constructor
  · rintro ⟨hops, hlt, hlength⟩
    omega
  · intro h
    exact ⟨path.length, by omega, rfl⟩

end RelationshipPath

end SegmentPaths
