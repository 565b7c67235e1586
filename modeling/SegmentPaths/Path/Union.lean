/-
The fragments of a compiled filter, one for each path, and their union.
-/
import SegmentPaths.Path.Fragment
import SegmentPaths.Sql.Fault

namespace SegmentPaths

/-- Fragments in the order of their paths. -/
structure FragmentUnion where
  fragments : List Fragment

namespace FragmentUnion

def empty : FragmentUnion := ⟨[]⟩

def push (union : FragmentUnion) (fragment : Fragment) : FragmentUnion :=
  ⟨union.fragments ++ [fragment]⟩

def count (union : FragmentUnion) : Nat := union.fragments.length

def isEmpty (union : FragmentUnion) : Bool := union.fragments.isEmpty

def restrictToContact (union : FragmentUnion) (contact : Int64) : FragmentUnion :=
  ⟨union.fragments.map (fun fragment => fragment.restrictToContact contact)⟩

/-- Merges the values of fragments into a map, one fragment after the other. -/
def mergeParams (params : Parameters) : List Fragment → Except Fault Parameters
  | [] => .ok params
  | fragment :: rest => do
    let params ← params.merged fragment.params
    mergeParams params rest

/-- The values of all placeholders. -/
def params (union : FragmentUnion) : Except Fault Parameters :=
  mergeParams .empty union.fragments

/-- The query of one fragment, or the union of all. -/
def query (union : FragmentUnion) : Except Fault Query :=
  match Query.ofBranches? (union.fragments.map Fragment.query) with
  | some query => .ok query
  | none => .error .emptyUnion

/-- The text of the query, and the values of its placeholders. -/
def render (union : FragmentUnion) (dialect : Dialect) : Except Fault (String × Parameters) := do
  let query ← union.query
  let sql ← query.render dialect
  let params ← union.params
  pure (sql, params)

end FragmentUnion

end SegmentPaths
