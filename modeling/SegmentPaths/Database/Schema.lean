/-
The tables of an installation without a prefix, and the table of contacts.
-/
import SegmentPaths.CustomObject.Item
import SegmentPaths.CustomObject.Tables
import SegmentPaths.Database.Table

namespace SegmentPaths

namespace Schema

def integerColumn (name : String) : TableColumn := ⟨name, .integer, true⟩

/-- The names of the tables. -/
def tables : TableNames := ⟨""⟩

def items : StoredTable :=
  { name := tables.items
    columns := [⟨"id", .rowId, false⟩, integerColumn "custom_object_id", ⟨"name", .text, true⟩]
    key := ["id"]
    ascending := none
    rows := [] }

/-- Which items are linked to which contacts. -/
def itemContact : StoredTable :=
  { name := tables.itemContact
    columns := [integerColumn "custom_item_id", integerColumn "contact_id"]
    key := ["custom_item_id", "contact_id"]
    ascending := none
    rows := [] }

/-- Which items are linked to each other. -/
def itemItem : StoredTable :=
  { name := tables.itemItem
    columns := [integerColumn "custom_item_id_lower", integerColumn "custom_item_id_higher"]
    key := ["custom_item_id_lower", "custom_item_id_higher"]
    ascending := some ("custom_item_id_lower", "custom_item_id_higher")
    rows := [] }

/-- The table of the values of a kind.  Options of a field are rows of their own,
other values are one for each item and field, and may be null. -/
def values (kind : ValueKind) : StoredTable :=
  let key := ["custom_item_id", "custom_field_id"]
  { name := tables.values kind
    columns := key.map integerColumn ++
      [⟨"value", if kind = .int then .integer else .text, decide (kind = .option)⟩]
    key := if kind = .option then key ++ ["value"] else key
    ascending := none
    rows := [] }

/-- The tables that queries are compiled for. -/
def store : Store :=
  [items, itemContact, itemItem] ++ ([.int, .text, .datetime, .option] : List ValueKind).map values

/-- The contacts. -/
def leads : StoredTable :=
  { name := "leads"
    columns := [⟨"id", .rowId, false⟩]
    key := ["id"]
    ascending := none
    rows := [] }

/-- The row of a link between items. -/
def linkRow (link : ItemItemLink) : List Datum := [.int link.lower, .int link.higher]

end Schema

/-- The rows of an installation, table by table. -/
structure Contents where
  leads : List (List Datum)
  items : List (List Datum)
  contacts : List (List Datum)
  links : List ItemItemLink
  values : ValueKind → List (List Datum)

namespace Contents

/-- The rows in the order of their insertion, under the names of their tables. -/
def tables (contents : Contents) : List (String × List (List Datum)) :=
  [(Schema.leads.name, contents.leads), (Schema.items.name, contents.items),
   (Schema.itemContact.name, contents.contacts),
   (Schema.itemItem.name, contents.links.map Schema.linkRow)] ++
    ([.int, .text, .datetime, .option] : List ValueKind).map (fun kind =>
      ((Schema.values kind).name, contents.values kind))

/-- Inserts all rows into the tables of a store. -/
def insertInto (contents : Contents) (store : Store) : Except InsertError Store :=
  contents.tables.foldlM (fun store (table, rows) => store.insertAll table rows) store

end Contents

end SegmentPaths
