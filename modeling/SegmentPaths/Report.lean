/-
Report columns: the fields of an object beside its items, each joined from the
table of its values under an alias of its own.
-/
import SegmentPaths.CustomObject.Metadata
import SegmentPaths.Sql.Query
import SegmentPaths.Text.Md5

namespace SegmentPaths

structure ReportColumn where
  key : String
  label : String
  type : String
deriving DecidableEq

/-- The join of the values of one field. -/
structure FieldJoin where
  joinAlias : String
  table : String
  field : Int64
deriving DecidableEq

structure Report where
  columns : List ReportColumn
  joins : List FieldJoin

namespace Report

/-- The alias of a field: the first eight digits of the digest of its id. -/
def fieldAlias (field : Int64) : String :=
  String.ofList ((Md5.hex (Decimal.text field)).take 8)

def column (field : CustomField) : ReportColumn :=
  ⟨fieldAlias field.id ++ ".value", field.label, "string"⟩

def fieldJoin (tables : TableNames) (field : CustomField) : Except QueryError FieldJoin :=
  (tables.valueTable field.typeKey).map (fun table => ⟨fieldAlias field.id, table, field.id⟩)

/-- The joins of fields, up to the first one whose type is not known. -/
def fieldJoins (tables : TableNames) : List CustomField → Except QueryError (List FieldJoin)
  | [] => .ok []
  | field :: rest => do
    let first ← fieldJoin tables field
    let others ← fieldJoins tables rest
    pure (first :: others)

/-- The report on all fields of an object, in their order. -/
def ofObject (object : CustomObject) (tables : TableNames) : Except QueryError Report :=
  (fieldJoins tables object.fields).map (fun joins => ⟨object.fields.map column, joins⟩)

/-- The join that finds the value of a field for an item, or nothing. -/
def join (itemAlias : String) (field : FieldJoin) : Join :=
  .on .left (.table field.table (some field.joinAlias))
    (.binary .and
      (.binary .equal (.tableColumn itemAlias "id") (.tableColumn field.joinAlias "custom_item_id"))
      (.binary .equal (.tableColumn field.joinAlias "custom_field_id") (.int field.field)))

/-- Joins the values of all fields to a query that reads items. -/
def prepareQuery (report : Report) (query : Query) (itemAlias : String) : Query :=
  (report.joins.map (join itemAlias)).foldl Query.addJoin query

end Report

end SegmentPaths
