/-
Why a filter cannot be compiled.
-/
import SegmentPaths.CustomObject.Operator
import SegmentPaths.Json.Value

namespace SegmentPaths

/-- What is wrong with a filter by itself. -/
inductive FilterProblem
  | notAvailable (op : Operator) (typeKey : String)
  | needsValue (op : Operator)
  | needsList (op : Operator)
  | takesSingle (op : Operator)
  | noPositiveForm (op : Operator)
  | notInteger (text : String)
  | fractional (number : JsonNumber)
  | unsupportedValue (value : Json)
  | unknownOperator (key : String)
  | noId (field : String)
  | notCustom (field : String)
  | platformFilter (field object : String)
  | noPlatformHandler (field : String)
  | seedNotName (seed : String)
  | refused (reason : String)

/-- Why a filter cannot be compiled.  A segment with such a filter still stands
without it. -/
inductive QueryError
  | unsupportedFieldType (typeKey : String)
  | unknownField (id : Int64)
  | unknownObject (id : Int64)
  | invalidFilter (problem : FilterProblem)

def FilterProblem.message : FilterProblem → String
  | .notAvailable op typeKey =>
    "operator '" ++ op.key ++ "' is not available for '" ++ typeKey ++ "' fields"
  | .needsValue op => "operator '" ++ op.key ++ "' needs a value"
  | .needsList op => "operator '" ++ op.key ++ "' needs at least one value"
  | .takesSingle op => "operator '" ++ op.key ++ "' takes a single value"
  | .noPositiveForm op => "operator '" ++ op.key ++ "' has no positive form"
  | .notInteger text => "'" ++ text ++ "' is not an integer"
  | .fractional number => "value " ++ String.ofList number.chars ++ " is not an integer"
  | .unsupportedValue value => "unsupported filter value " ++ value.compact
  | .unknownOperator key => "unknown operator '" ++ key ++ "'"
  | .noId field => "'" ++ field ++ "' does not end in an id"
  | .notCustom field => "'" ++ field ++ "' is not a custom field or custom object filter"
  | .platformFilter field object =>
    "'" ++ field ++ "' on '" ++ object ++ "' is handled by the platform"
  | .noPlatformHandler field => "no handler for platform filter '" ++ field ++ "'"
  | .seedNotName seed => "alias seed '" ++ seed ++ "' is not an identifier"
  | .refused reason => reason

def QueryError.message : QueryError → String
  | .unsupportedFieldType typeKey => "unsupported field type '" ++ typeKey ++ "'"
  | .unknownField id => "unknown custom field " ++ Decimal.text id
  | .unknownObject id => "unknown custom object " ++ Decimal.text id
  | .invalidFilter problem => "invalid segment filter: " ++ problem.message

end SegmentPaths
