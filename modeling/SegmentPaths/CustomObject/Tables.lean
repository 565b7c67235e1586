/-
The tables that items, their links and their values are stored in.
-/
import SegmentPaths.CustomObject.FieldType
import SegmentPaths.Filter.Error

namespace SegmentPaths

/-- The stored tables, all under one prefix. -/
structure TableNames where
  tablePrefix : String
deriving DecidableEq

namespace TableNames

def table (tables : TableNames) (name : String) : String := tables.tablePrefix ++ name

def items (tables : TableNames) : String := tables.table "custom_item"

/-- The table that links items to contacts. -/
def itemContact (tables : TableNames) : String := tables.table "custom_item_xref_contact"

/-- The table that links items to each other. -/
def itemItem (tables : TableNames) : String := tables.table "custom_item_xref_custom_item"

def values (tables : TableNames) (kind : ValueKind) : String := tables.table kind.table

/-- The field type that a text stands for. -/
def fieldType (typeKey : String) : Except QueryError FieldType :=
  match FieldType.ofKey? typeKey with
  | some type => .ok type
  | none => .error (.unsupportedFieldType typeKey)

/-- The table with the values of fields of a type. -/
def valueTable (tables : TableNames) (typeKey : String) : Except QueryError String :=
  (fieldType typeKey).map (fun type => tables.values type.valueKind)

end TableNames

end SegmentPaths
