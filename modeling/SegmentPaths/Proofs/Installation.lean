/-
The rows of an installation, apart from how they are stored.  Columns may hold
any value, and nothing is demanded of the rows: a theorem that needs more of
them says so.
-/
import SegmentPaths.Database.Run
import SegmentPaths.Database.Schema
import SegmentPaths.Path.Compiler
import SegmentPaths.Proofs.Rows

namespace SegmentPaths

/-- Whether a table takes a row as far as nulls go. -/
def StoredTable.Admits (table : StoredTable) (row : List Datum) : Prop :=
  ∀ entry ∈ table.columns.zip row, entry.1.required = true → entry.2 ≠ .null

instance (table : StoredTable) (row : List Datum) : Decidable (table.Admits row) :=
  inferInstanceAs (Decidable (∀ entry ∈ table.columns.zip row, _ → _))

/-- A value of a field of an item. -/
structure ValueRow where
  item : Datum
  field : Datum
  value : Datum

structure ItemRow where
  id : Datum
  object : Datum
  name : Datum

/-- Two items that are linked to each other. -/
structure LinkRow where
  lower : Datum
  higher : Datum

/-- An item that is linked to a contact. -/
structure ContactRow where
  item : Datum
  contact : Datum
deriving DecidableEq

def ValueRow.row (row : ValueRow) : List Datum := [row.item, row.field, row.value]

def ItemRow.row (row : ItemRow) : List Datum := [row.id, row.object, row.name]

def LinkRow.row (row : LinkRow) : List Datum := [row.lower, row.higher]

def ContactRow.row (row : ContactRow) : List Datum := [row.item, row.contact]

/-- The row of a link between two items. -/
def LinkRow.ofLink (link : ItemItemLink) : LinkRow := ⟨.int link.lower, .int link.higher⟩

namespace Schema

def itemRelation (rows : List ItemRow) : Relation :=
  ⟨["id", "custom_object_id", "name"], rows.map ItemRow.row⟩

def contactRelation (rows : List ContactRow) : Relation :=
  ⟨["custom_item_id", "contact_id"], rows.map ContactRow.row⟩

def linkRelation (rows : List LinkRow) : Relation :=
  ⟨["custom_item_id_lower", "custom_item_id_higher"], rows.map LinkRow.row⟩

def valueRelation (rows : List ValueRow) : Relation :=
  ⟨["custom_item_id", "custom_field_id", "value"], rows.map ValueRow.row⟩

end Schema

/-- The rows of all tables; those with values go by the names of their tables. -/
structure Installation where
  items : List ItemRow
  contacts : List ContactRow
  links : List LinkRow
  values : String → List ValueRow

namespace Installation

/-- Whether a database holds these rows in the tables that metadata names. -/
structure StoredIn (installation : Installation) (metadata : Metadata) (database : Database) :
    Prop where
  items : database.table? metadata.tables.items = some (Schema.itemRelation installation.items)
  contacts : database.table? metadata.tables.itemContact =
    some (Schema.contactRelation installation.contacts)
  links : database.table? metadata.tables.itemItem =
    some (Schema.linkRelation installation.links)
  values : ∀ typeKey table, metadata.valueTable typeKey = .ok table →
    database.table? table = some (Schema.valueRelation (installation.values table))

/-- Placeholders have no say in where rows are stored. -/
theorem StoredIn.withParams {installation : Installation} {metadata : Metadata}
    {database : Database} (hstored : installation.StoredIn metadata database)
    (params : Parameters) : installation.StoredIn metadata (database.withParams params) :=
  ⟨hstored.items, hstored.contacts, hstored.links, hstored.values⟩

end Installation

/-- A row that paths start at: the field or object it belongs to, the item, and
the value that conditions compare. -/
structure SourceRow where
  owner : Datum
  item : Datum
  compared : Datum

namespace SourceRow

def ofValue (row : ValueRow) : SourceRow := ⟨row.field, row.item, row.value⟩

def ofItem (row : ItemRow) : SourceRow := ⟨row.object, row.id, row.name⟩

/-- The row under the column names of its table. -/
def named : PathSource → SourceRow → Row
  | .fieldValue .., row =>
    [("custom_item_id", row.item), ("custom_field_id", row.owner), ("value", row.compared)]
  | .objectItem _, row =>
    [("id", row.item), ("custom_object_id", row.owner), ("name", row.compared)]

variable (source : PathSource) (row : SourceRow)

@[simp]
theorem lookup_itemColumn : (named source row).lookup source.itemColumn = some row.item := by
  cases source <;> rfl

@[simp]
theorem lookup_idColumn : (named source row).lookup source.idColumn = some row.owner := by
  cases source <;> rfl

@[simp]
theorem lookup_comparedColumn :
    (named source row).lookup source.comparedColumn = some row.compared := by
  cases source <;> rfl

@[simp]
theorem lookup_contact : (named source row).lookup "contact_id" = none := by
  cases source <;> rfl

end SourceRow

namespace LinkRow

def named (row : LinkRow) : Row :=
  [("custom_item_id_lower", row.lower), ("custom_item_id_higher", row.higher)]

/-- The end of a link that a hop comes from. -/
def near (row : LinkRow) : Direction → Datum
  | .lowerToHigher => row.lower
  | .higherToLower => row.higher

/-- The end of a link that a hop leads to. -/
def far (row : LinkRow) : Direction → Datum
  | .lowerToHigher => row.higher
  | .higherToLower => row.lower

@[simp]
theorem lookup_fromColumn (row : LinkRow) (direction : Direction) :
    row.named.lookup direction.fromColumn = some (row.near direction) := by
  cases direction <;> rfl

@[simp]
theorem lookup_toColumn (row : LinkRow) (direction : Direction) :
    row.named.lookup direction.toColumn = some (row.far direction) := by
  cases direction <;> rfl

@[simp]
theorem lookup_contact (row : LinkRow) : row.named.lookup "contact_id" = none := rfl

end LinkRow

namespace ContactRow

def named (row : ContactRow) : Row :=
  [("custom_item_id", row.item), ("contact_id", row.contact)]

@[simp]
theorem lookup_item (row : ContactRow) : row.named.lookup "custom_item_id" = some row.item := rfl

@[simp]
theorem lookup_contact (row : ContactRow) : row.named.lookup "contact_id" = some row.contact :=
  rfl

/-- The table of contacts of items takes no row without a contact. -/
theorem contact_ne_null {row : ContactRow} (h : Schema.itemContact.Admits row.row) :
    row.contact ≠ .null :=
  h (Schema.integerColumn "contact_id", row.contact)
    (List.mem_cons_of_mem _ List.mem_cons_self) rfl

end ContactRow

namespace PathSource

/-- Whether a source is one that metadata names a table for. -/
def KnownTo (metadata : Metadata) : PathSource → Prop
  | .fieldValue table _ => ∃ typeKey, metadata.valueTable typeKey = .ok table
  | .objectItem _ => True

end PathSource

namespace Installation

/-- The rows of the table that paths from a source start in. -/
def sourceRows (installation : Installation) : PathSource → List SourceRow
  | .fieldValue table _ => (installation.values table).map SourceRow.ofValue
  | .objectItem _ => installation.items.map SourceRow.ofItem

variable {installation : Installation} {metadata : Metadata} {database : Database}

theorem StoredIn.named_source (hstored : installation.StoredIn metadata database)
    {source : PathSource} (hknown : source.KnownTo metadata) :
    (database.relation (source.table metadata.tables)).named =
      (installation.sourceRows source).map (SourceRow.named source) := by
  cases source with
  | fieldValue table field =>
      obtain ⟨typeKey, htable⟩ := hknown
      have hrelation := Database.relation_of_table? (hstored.values typeKey table htable)
      simp only [PathSource.table, hrelation, Relation.named, Schema.valueRelation, sourceRows,
        List.map_map]
      rfl
  | objectItem object =>
      have hrelation := Database.relation_of_table? hstored.items
      simp only [PathSource.table, hrelation, Relation.named, Schema.itemRelation, sourceRows,
        List.map_map]
      rfl

theorem StoredIn.named_links (hstored : installation.StoredIn metadata database) :
    (database.relation metadata.tables.itemItem).named =
      installation.links.map LinkRow.named := by
  simp only [Database.relation_of_table? hstored.links, Relation.named, Schema.linkRelation,
    List.map_map]
  rfl

theorem StoredIn.named_contacts (hstored : installation.StoredIn metadata database) :
    (database.relation metadata.tables.itemContact).named =
      installation.contacts.map ContactRow.named := by
  simp only [Database.relation_of_table? hstored.contacts, Relation.named,
    Schema.contactRelation, List.map_map]
  rfl

end Installation

namespace Installation

/-- The tables that hold the rows of an installation, and the table of contacts. -/
def database (installation : Installation) (tables : TableNames) (leads : List Datum) :
    Database where
  table? name :=
    if name = tables.items then some (Schema.itemRelation installation.items)
    else if name = tables.itemContact then some (Schema.contactRelation installation.contacts)
    else if name = tables.itemItem then some (Schema.linkRelation installation.links)
    else if name = Schema.leads.name then
      some ⟨Schema.leads.columnNames, leads.map fun id => [id]⟩
    else some (Schema.valueRelation (installation.values name))
  params := .empty
  like := Store.isLike none
  likeEscaped := Store.isLike (some Expr.patternEscape)
  regexp _ _ := false

theorem table_inj (tables : TableNames) {left right : String}
    (h : tables.table left = tables.table right) : left = right := by
  have hlist := congrArg String.toList h
  simp only [TableNames.table, String.toList_append] at hlist
  exact String.toList_injective (List.append_cancel_left hlist)

/-- Every installation is stored somewhere. -/
theorem storedIn_database (installation : Installation) {metadata : Metadata}
    (hvalues : metadata.valueTable = metadata.tables.valueTable) (leads : List Datum) :
    installation.StoredIn metadata (installation.database metadata.tables leads) := by
  have hcontact : metadata.tables.itemContact ≠ metadata.tables.items :=
    fun h => absurd (table_inj _ h) (by decide)
  have hlink : metadata.tables.itemItem ≠ metadata.tables.items :=
    fun h => absurd (table_inj _ h) (by decide)
  have hother : metadata.tables.itemItem ≠ metadata.tables.itemContact :=
    fun h => absurd (table_inj _ h) (by decide)
  have hvalue : ∀ kind : ValueKind, metadata.tables.values kind ≠ metadata.tables.items ∧
      metadata.tables.values kind ≠ metadata.tables.itemContact ∧
      metadata.tables.values kind ≠ metadata.tables.itemItem := by
    intro kind
    refine ⟨fun h => ?_, fun h => ?_, fun h => ?_⟩
    all_goals
      have hname := table_inj _ h
      revert hname
      cases kind <;> decide
  have hleads : ∀ kind : ValueKind, metadata.tables.values kind ≠ Schema.leads.name := by
    intro kind h
    have hlength := congrArg (fun name => name.toList.length) h
    have hlong : Schema.leads.name.toList.length < kind.table.toList.length := by
      cases kind <;> decide
    simp only [TableNames.values, TableNames.table, String.toList_append,
      List.length_append] at hlength
    omega
  refine ⟨if_pos rfl, ?_, ?_, fun typeKey table htable => ?_⟩
  · simp only [database, if_neg hcontact, if_pos]
  · simp only [database, if_neg hlink, if_neg hother, if_pos]
  · rw [hvalues, TableNames.valueTable] at htable
    cases htype : TableNames.fieldType typeKey with
    | error error =>
        rw [htype] at htable
        cases htable
    | ok type =>
        rw [htype] at htable
        cases htable
        obtain ⟨hitems, hcontacts, hlinks⟩ := hvalue type.valueKind
        simp only [database, if_neg hitems, if_neg hcontacts, if_neg hlinks, if_neg (hleads _)]

end Installation

end SegmentPaths
