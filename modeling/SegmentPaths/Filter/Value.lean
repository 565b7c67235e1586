/-
The values that a filter compares with.  There are two readers: one for values
as segments store them, which takes booleans as numbers and says what is wrong
with a value, and one for stored conditions.
-/
import SegmentPaths.Filter.Error
import SegmentPaths.Json.Record
import SegmentPaths.Sql.Parameters

namespace SegmentPaths

/-- What a filter compares with: nothing, one value or a list of them. -/
inductive FilterValue
  | none
  | single (value : ParamValue)
  | list (values : List ParamValue)
deriving DecidableEq

namespace ParamValue

def json : ParamValue → Json
  | .int value => Json.ofInt64 value
  | .text value => .text value

/-- Reads a string or a 64-bit integer. -/
def ofDocument? : Document → Option ParamValue
  | .number value => value.int64?.map .int
  | .text value => some (.text value)
  | _ => none

end ParamValue

/-- Values of placeholders under their names. -/
def Parameters.json (params : Parameters) : Json :=
  .object (params.toList.map (fun (name, value) => (name, value.json)))

namespace FilterValue

def json : FilterValue → Json
  | .none => .null
  | .single value => value.json
  | .list values => .array (values.map ParamValue.json)

/-- Reads a stored value: null, a scalar or a list of scalars. -/
def ofDocument? : Document → Option FilterValue
  | .null => some .none
  | .array items => (Document.decodeAll? ParamValue.ofDocument? items).map .list
  | other => (ParamValue.ofDocument? other).map .single

/-- Reads one value of a segment; a boolean counts as one or zero. -/
def scalarOfJson : Json → Except QueryError ParamValue
  | .text value => .ok (.text value)
  | .bool value => .ok (.int (if value then 1 else 0))
  | .number value =>
    match value.int64? with
    | some n => .ok (.int n)
    | Option.none => .error (.invalidFilter (.fractional value))
  | other => .error (.invalidFilter (.unsupportedValue other))

/-- Reads the values of a list, up to the first one that cannot be read. -/
def scalarsOfJson : List Json → Except QueryError (List ParamValue)
  | [] => .ok []
  | item :: rest => do
    let value ← scalarOfJson item
    let values ← scalarsOfJson rest
    pure (value :: values)

/-- Reads the value of a segment filter. -/
def ofJson : Json → Except QueryError FilterValue
  | .null => .ok .none
  | .array items => (scalarsOfJson items).map .list
  | other => (scalarOfJson other).map .single

end FilterValue

end SegmentPaths
