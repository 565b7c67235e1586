/-
What the compiler asks about fields, objects and tables.
-/
import SegmentPaths.CustomObject.Basic
import SegmentPaths.CustomObject.Tables

namespace SegmentPaths

/-- A source of answers about fields, objects and tables. -/
structure Metadata where
  valueTable : String → Except QueryError String
  field : Int64 → Except QueryError CustomField
  object : Int64 → Except QueryError CustomObject
  tables : TableNames

/-- The same answers, except that some field types have tables of their own. -/
def Metadata.withValueTables (metadata : Metadata) (own : OrderedMap String String) : Metadata :=
  { metadata with
    valueTable := fun typeKey =>
      match own.get? typeKey with
      | some table => .ok table
      | none => metadata.valueTable typeKey }

end SegmentPaths
