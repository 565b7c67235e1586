/-
Filters as segments store them, and the custom object filters among them.
-/
import SegmentPaths.Path.Compiler

namespace SegmentPaths

/-- How a filter joins the ones in front of it. -/
inductive Glue
  | and
  | or
deriving DecidableEq

/-- A filter as it is stored, before anything in it is looked at. -/
structure RawFilter where
  glue : Glue
  field : String
  object : String
  type : String
  operator : String
  filter : Json

/-- A filter on a custom field or on custom items, or one that the platform
handles itself. -/
inductive SegmentFilter
  | customField (glue : Glue) (filter : FieldFilter)
  | customItem (glue : Glue) (filter : ItemFilter)
  | native (raw : RawFilter)

namespace Glue

def key : Glue → String
  | .and => "and"
  | .or => "or"

def ofKey? (text : String) : Option Glue :=
  if text = "and" then some .and else if text = "or" then some .or else none

end Glue

namespace RawFilter

def memberNames : List String := ["glue", "field", "object", "type", "operator", "filter"]

def ofDocument? (format : Format) (document : Document) : Option RawFilter := do
  let record ← document.record? format memberNames
  let glue ← record.default? "glue" .and (Document.choice? format Glue.ofKey?)
  let field ← record.required? "field" Document.text?
  let object ← record.required? "object" Document.text?
  let type ← record.default? "type" "" Document.text?
  let operator ← record.required? "operator" Document.text?
  let filter ← record.default? "filter" .null Document.json?
  pure ⟨glue, field, object, type, operator, filter⟩

/-- Reads a stored filter. -/
def read? (source : String) : Option RawFilter :=
  (Document.read? source).bind (ofDocument? .json)

def json (raw : RawFilter) : Json :=
  Json.ofMembers
    [("glue", .text raw.glue.key), ("field", .text raw.field), ("object", .text raw.object),
     ("type", .text raw.type), ("operator", .text raw.operator), ("filter", raw.filter)]

end RawFilter

namespace SegmentFilter

/-- The object that custom filters are stored under. -/
def customObject : String := "custom_object"

/-- What the field of a filter on a custom field starts with. -/
def fieldMark : String := "cmf_"

/-- What the field of a filter on custom items starts with. -/
def itemMark : String := "cmo_"

def glue : SegmentFilter → Glue
  | .customField glue _ => glue
  | .customItem glue _ => glue
  | .native raw => raw.glue

def isNegative : SegmentFilter → Bool
  | .customField _ filter => filter.isNegative
  | .customItem _ filter => filter.isNegative
  | .native _ => false

/-- What stands behind a mark at the front of a text. -/
def behind? (mark text : String) : Option String :=
  if mark.toList.isPrefixOf text.toList then
    some (String.ofList (text.toList.drop mark.toList.length))
  else none

/-- The id behind the mark of a field. -/
def readId (field id : String) : Except QueryError Int64 :=
  match Decimal.read? id with
  | some n => .ok n
  | none => .error (.invalidFilter (.noId field))

/-- The condition of a stored filter; its value is looked at only if the operator
takes one. -/
def readCondition (raw : RawFilter) : Except QueryError ValueCondition :=
  match Operator.ofKey? raw.operator with
  | none => .error (.invalidFilter (.unknownOperator raw.operator))
  | some op =>
    if op.takesNoValue then .ok ⟨op, .none⟩
    else (FilterValue.ofJson raw.filter).map (fun value => ⟨op, value⟩)

/-- Finds out what a stored filter is about. -/
def ofRaw (raw : RawFilter) : Except QueryError SegmentFilter :=
  if raw.object ≠ customObject then .ok (.native raw)
  else
    match behind? fieldMark raw.field with
    | some id => do
      let field ← readId raw.field id
      let condition ← readCondition raw
      pure (.customField raw.glue ⟨field, some condition⟩)
    | none =>
      match behind? itemMark raw.field with
      | some id => do
        let object ← readId raw.field id
        let condition ← readCondition raw
        pure (.customItem raw.glue ⟨object, some condition⟩)
      | none => .error (.invalidFilter (.notCustom raw.field))

end SegmentFilter

end SegmentPaths
