/-
One fragment of a compiled filter: the query that follows one path from the
values of a field, or from the items of an object, to contacts.
-/
import SegmentPaths.CustomObject.Tables
import SegmentPaths.Filter.Condition
import SegmentPaths.Path.Basic

namespace SegmentPaths

/-- Where a path starts. -/
inductive PathSource
  | fieldValue (table : String) (field : Int64)
  | objectItem (object : Int64)
deriving DecidableEq

namespace PathSource

def aliasSuffix : PathSource → String
  | .fieldValue .. => "value"
  | .objectItem _ => "item"

/-- The column that holds the item a path starts at. -/
def itemColumn : PathSource → String
  | .fieldValue .. => "custom_item_id"
  | .objectItem _ => "id"

/-- The column that conditions compare. -/
def comparedColumn : PathSource → String
  | .fieldValue .. => "value"
  | .objectItem _ => "name"

/-- The column that holds the id of the field or object. -/
def idColumn : PathSource → String
  | .fieldValue .. => "custom_field_id"
  | .objectItem _ => "custom_object_id"

def id : PathSource → Int64
  | .fieldValue _ field => field
  | .objectItem object => object

def table (tables : TableNames) : PathSource → String
  | .fieldValue table _ => table
  | .objectItem _ => tables.items

end PathSource

/-- A fragment with the values of its placeholders.  Every alias and every
placeholder in it starts with the seed. -/
structure Fragment where
  query : Query
  seed : String
  params : Parameters
  sourceAlias : String
  comparedColumn : String

/-- The names that a fragment makes from its seed. -/
def seedName (seed suffix : String) : String := seed ++ "_" ++ suffix

namespace Fragment

/-- The alias of the link table of a hop, counted from one. -/
def linkAlias (seed : String) (index : Nat) : String :=
  seedName seed ("item_xref_" ++ Decimal.natText index)

def contactAliasOf (seed : String) : String := seedName seed "contact"

/-- The joins that cross the links of a path, with the column they end at. -/
def linkJoins (linkTable seed : String) : Nat → RelationshipPath → Expr → List Join × Expr
  | _, [], previous => ([], previous)
  | index, direction :: rest, previous =>
    let link := linkAlias seed index
    let join := Join.on .inner (.table linkTable (some link))
      (.binary .equal (.tableColumn link direction.fromColumn) previous)
    let (joins, last) :=
      linkJoins linkTable seed (index + 1) rest (.tableColumn link direction.toColumn)
    (join :: joins, last)

/-- The fragment of a path. -/
def build (tables : TableNames) (path : RelationshipPath) (source : PathSource)
    (seed : String) : Fragment :=
  let sourceAlias := seedName seed source.aliasSuffix
  let contactAlias := contactAliasOf seed
  let idName := seedName seed source.idColumn
  let (joins, last) :=
    linkJoins tables.itemItem seed 1 path (.tableColumn sourceAlias source.itemColumn)
  let contactJoin := Join.on .inner (.table tables.itemContact (some contactAlias))
    (.binary .equal last (.tableColumn contactAlias "custom_item_id"))
  { query := .select [.column none "contact_id"]
      (some (.table (source.table tables) (some sourceAlias))) (joins ++ [contactJoin])
      (some (.binary .equal (.tableColumn sourceAlias source.idColumn) (.param idName)))
    seed := seed
    params := OrderedMap.empty.insert idName (.int source.id)
    sourceAlias := sourceAlias
    comparedColumn := source.comparedColumn }

/-- The alias of the contact table. -/
def contactAlias (fragment : Fragment) : String := contactAliasOf fragment.seed

/-- Demands a condition of the value that the path starts at. -/
def applyCondition (fragment : Fragment) (condition : ValueCondition) (type : FieldType) :
    Except QueryError Fragment := do
  let (expr, params) ← condition.toExpr (.tableColumn fragment.sourceAlias fragment.comparedColumn)
    type (seedName fragment.seed fragment.comparedColumn) fragment.params
  pure { fragment with query := fragment.query.addFilter expr, params := params }

/-- Demands that the path ends at one contact. -/
def restrictToContact (fragment : Fragment) (contact : Int64) : Fragment :=
  let name := seedName fragment.seed "contact_id"
  { fragment with
    query := fragment.query.addFilter
      (.binary .equal (.tableColumn fragment.contactAlias "contact_id") (.param name))
    params := fragment.params.insert name (.int contact) }

end Fragment

end SegmentPaths
