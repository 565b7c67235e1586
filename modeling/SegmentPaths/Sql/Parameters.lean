/-
Named parameter values of a statement, in the order of their names.
-/
import SegmentPaths.OrderedMap
import SegmentPaths.Text.Decimal

namespace SegmentPaths

/-- A value bound to a placeholder. -/
inductive ParamValue
  | int (value : Int64)
  | text (value : String)
deriving DecidableEq, Inhabited

/-- The value as text, without quotes. -/
def ParamValue.display : ParamValue → String
  | .int value => Decimal.text value
  | .text value => value

/-- The values bound to the placeholders of a statement. -/
abbrev Parameters := OrderedMap String ParamValue

namespace Parameters

/-- Sets entries one after the other, and stops behind the first one that
replaces a different value, naming it. -/
def mergeEntries (params : Parameters) : List (String × ParamValue) → Parameters × Option String
  | [] => (params, none)
  | (name, value) :: rest =>
    let next := params.insert name value
    match params.get? name with
    | none => mergeEntries next rest
    | some previous => if previous = value then mergeEntries next rest else (next, some name)

/-- Adds all of another map, in the order of its names. -/
def merge (params other : Parameters) : Parameters × Option String :=
  mergeEntries params other.toList

end Parameters

end SegmentPaths
