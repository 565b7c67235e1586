/-
The columns of a report on an object.  The alias of a field shows four of the sixteen
bytes of a digest, so fields of an object have aliases of their own exactly if their
digests differ in these.  Where they do, the key of every column refers to the value
of its own field; two fields for which they do not share their alias.
-/
import SegmentPaths.Proofs.ReportRows
import SegmentPaths.Proofs.WellFormedCatalogs

namespace SegmentPaths

namespace Md5

theorem byteHex_injective {first second : UInt8} (h : byteHex first = byteHex second) :
    first = second := by
  have hdigit : ∀ m < 16, ∀ n < 16, Nat.digitChar m = Nat.digitChar n → m = n := by decide
  have hfirst := first.toNat_lt
  have hsecond := second.toNat_lt
  obtain ⟨hhigh, hrest⟩ := List.cons.inj h
  obtain ⟨hlow, -⟩ := List.cons.inj hrest
  have hhigh := hdigit _ (by omega) _ (by omega) hhigh
  have hlow := hdigit _ (by omega) _ (by omega) hlow
  exact UInt8.toNat_inj.mp (by omega)

/-- Two digits are one byte. -/
theorem take_flatMap_byteHex (bytes : List UInt8) (count : Nat) :
    (bytes.flatMap byteHex).take (2 * count) = (bytes.take count).flatMap byteHex := by
  induction count generalizing bytes with
  | zero => rfl
  | succ count ih =>
      cases bytes with
      | nil => rfl
      | cons byte rest =>
          have hlength : (byteHex byte).length = 2 := rfl
          rw [List.flatMap_cons, Nat.mul_succ, Nat.add_comm, List.take_append,
            List.take_of_length_le (by omega), hlength, Nat.add_sub_cancel_left, ih,
            List.take_succ_cons, List.flatMap_cons]

theorem flatMap_byteHex_injective {first second : List UInt8}
    (h : first.flatMap byteHex = second.flatMap byteHex) : first = second := by
  induction first generalizing second with
  | nil =>
      cases second with
      | nil => rfl
      | cons => cases h
  | cons byte rest ih =>
      cases second with
      | nil => cases h
      | cons other others =>
          obtain ⟨hbyte, hrest⟩ := List.append_inj h rfl
          rw [byteHex_injective hbyte, ih hrest]

end Md5

/-- A type that is known has a table. -/
theorem CustomField.valueTable_of_type? (tables : TableNames) (field : CustomField)
    {type : FieldType} (h : field.type? = some type) :
    tables.valueTable field.typeKey = .ok (tables.values type.valueKind) := by
  have hkey : FieldType.ofKey? field.typeKey = some type := h
  simp only [TableNames.valueTable, TableNames.fieldType, hkey, Except.map]

namespace Report

/-- The bytes of the digest of a field id that the alias of the field shows. -/
def digestHead (field : Int64) : List UInt8 :=
  (Md5.digest (Decimal.text field).toUTF8.data.toList).take 4

theorem fieldAlias_eq (field : Int64) :
    fieldAlias field = String.ofList ((digestHead field).flatMap Md5.byteHex) :=
  congrArg String.ofList (Md5.take_flatMap_byteHex _ 4)

/-- Fields share their alias exactly if their digests start with the same four bytes. -/
theorem fieldAlias_eq_iff (first second : Int64) :
    fieldAlias first = fieldAlias second ↔ digestHead first = digestHead second := by
  rw [fieldAlias_eq, fieldAlias_eq]
  constructor
  · intro h
    exact Md5.flatMap_byteHex_injective (String.ofList_injective h)
  · intro h
    rw [h]

theorem key_eq_iff (first second : CustomField) :
    (column first).key = (column second).key ↔ digestHead first.id = digestHead second.id := by
  rw [← fieldAlias_eq_iff]
  constructor
  · intro h
    have hchars := congrArg String.toList h
    simp only [column, String.toList_append] at hchars
    exact String.toList_inj.mp (List.append_cancel_right hchars)
  · intro h
    rw [column, column, h]

/-- The join of the values of a field whose type is known. -/
theorem fieldJoin_of_type? (tables : TableNames) {field : CustomField} {type : FieldType}
    (h : field.type? = some type) :
    fieldJoin tables field = .ok ⟨fieldAlias field.id, tables.values type.valueKind, field.id⟩ := by
  rw [fieldJoin, field.valueTable_of_type? tables h]
  rfl

/-- Fields of known types all get their joins, in order. -/
theorem fieldJoins_of_types (tables : TableNames) {fields : List CustomField}
    (h : ∀ field ∈ fields, field.type?.isSome = true) :
    ∃ joins, fieldJoins tables fields = .ok joins ∧
      List.Forall₂ (fun field join => fieldJoin tables field = .ok join) fields joins := by
  induction fields with
  | nil => exact ⟨[], rfl, .nil⟩
  | cons field rest ih =>
      obtain ⟨joins, hjoins, hall⟩ := ih fun other hother => h other (List.mem_cons_of_mem _ hother)
      obtain ⟨type, htype⟩ := Option.isSome_iff_exists.mp (h field List.mem_cons_self)
      have hfirst := fieldJoin_of_type? tables htype
      refine ⟨_ :: joins, ?_, .cons hfirst hall⟩
      rw [fieldJoins, hfirst, hjoins]
      rfl

/-- A join goes by the alias of its field. -/
theorem joinAlias_of_fieldJoin {tables : TableNames} {field : CustomField} {join : FieldJoin}
    (h : fieldJoin tables field = .ok join) : join.joinAlias = fieldAlias field.id := by
  obtain ⟨table, -, rfl⟩ := exists_of_map_ok h
  rfl

theorem map_joinAlias {tables : TableNames} {fields : List CustomField} {joins : List FieldJoin}
    (h : List.Forall₂ (fun field join => fieldJoin tables field = .ok join) fields joins) :
    joins.map FieldJoin.joinAlias = fields.map fun field => fieldAlias field.id :=
  (map_eq_of_forall₂ h fun _ _ hjoin => (joinAlias_of_fieldJoin hjoin).symm).symm

theorem mem_joins {tables : TableNames} {fields : List CustomField} {joins : List FieldJoin}
    (h : List.Forall₂ (fun field join => fieldJoin tables field = .ok join) fields joins)
    {field : CustomField} (hfield : field ∈ fields) {join : FieldJoin}
    (hjoin : fieldJoin tables field = .ok join) : join ∈ joins := by
  induction h with
  | nil => cases hfield
  | cons hfirst _ ih =>
      rcases List.mem_cons.mp hfield with rfl | hrest
      · rw [hfirst] at hjoin
        cases hjoin
        exact List.mem_cons_self
      · exact List.mem_cons_of_mem _ (ih hrest)

/-- What is derived from fields with different ids is different exactly if the
digests of the ids differ in their heads. -/
theorem nodup_map_iff {fields : List CustomField} (hids : (fields.map CustomField.id).Nodup)
    {derived : CustomField → String}
    (hderived : ∀ first second,
      derived first = derived second ↔ digestHead first.id = digestHead second.id) :
    (fields.map derived).Nodup ↔ ∀ first ∈ fields, ∀ second ∈ fields,
      digestHead first.id = digestHead second.id → first = second := by
  have hnodup : fields.Nodup := hids.of_map CustomField.id
  rw [List.nodup_map_iff_inj_on hnodup]
  simp only [hderived]

end Report

/-- In a scope the key of a join refers to its own field: to a row of the table of the
field that has the ids of the item and the field, or to nulls if there is none. -/
def FieldJoin.ShownIn (database : Database) (join : FieldJoin) (item : Datum)
    (scope : Scope) : Prop :=
  ∃ row : Row, (∀ column, scope.column join.joinAlias column = row.value column) ∧
    (row ∈ join.held database item ∨ join.held database item = [] ∧
      row = Relation.nullRow (database.relation join.table).columns)

namespace Report

/-- Every join of a report is shown in what a prepared query reads, beside the item
that the query read before. -/
theorem shownIn_of_fits {report : Report} {source : Option Source} {joins : List Join}
    {itemAlias : String} (hfits : report.Fits source joins itemAlias) {database : Database}
    {scope outer : Scope}
    (hscope : scope ∈ Query.joined database source
      (joins ++ report.joins.map (Report.join itemAlias)) outer)
    {join : FieldJoin} (hjoin : join ∈ report.joins) :
    join.ShownIn database ((scope ++ outer).column itemAlias "id") (scope ++ outer) := by
  rw [joined_prepared hfits] at hscope
  obtain ⟨base, hbase, hmem⟩ := List.mem_flatMap.mp hscope
  obtain ⟨added, hadded, rfl⟩ := List.mem_map.mp hmem
  have hall := forall₂_of_mem_shown hadded
  have hnames := map_fst_of_mem_shown hadded
  have hitem : added.lookup itemAlias = none := Scope.lookup_eq_none fun entry hentry hsame =>
    hfits.item (hnames ▸ hsame ▸ List.mem_map_of_mem hentry)
  have hfresh : base.lookup join.joinAlias = none :=
    Scope.lookup_eq_none fun entry hentry hsame => hfits.tables join hjoin
      (Query.names_of_mem_joined hbase ▸ hsame ▸ List.mem_map_of_mem hentry)
  obtain ⟨row, hrow, hlookup⟩ := Scope.lookup_of_forall₂ hfits.distinct hall hjoin
  have hfound : (base ++ added ++ outer).lookup join.joinAlias = some row := by
    rw [List.lookup_append, List.lookup_append, hfresh, Option.none_or, hlookup, Option.some_or]
  rw [Scope.column_past outer hitem]
  exact ⟨row, fun column => Scope.column_of_lookup hfound column, Relation.mem_orNulls_iff.mp hrow⟩

/-- What the report on an object of a catalog offers: a column and a join for every
field.  Aliases, and so keys, are different exactly if no two fields have digests with
the same head; where they are, and fit a query, the key of every field refers to the
value of this field in whatever the prepared query reads. -/
structure Offers (report : Report) (object : CustomObject) (tables : TableNames) : Prop where
  columns : report.columns = object.fields.map column
  aliases : (report.joins.map FieldJoin.joinAlias).Nodup ↔
    ∀ first ∈ object.fields, ∀ second ∈ object.fields,
      digestHead first.id = digestHead second.id → first = second
  keys : (report.columns.map ReportColumn.key).Nodup ↔
    ∀ first ∈ object.fields, ∀ second ∈ object.fields,
      digestHead first.id = digestHead second.id → first = second
  shown : ∀ (database : Database) (columns : List Expr) (source : Option Source)
    (joins : List Join) (condition : Option Expr) (itemAlias : String) (outer : Scope),
    report.Fits source joins itemAlias →
    ∃ prepared, report.prepareQuery (.select columns source joins condition) itemAlias =
        .select columns source prepared condition ∧
      ∀ scope ∈ Query.joined database source prepared outer, ∀ field ∈ object.fields,
        ∀ type, field.type? = some type →
          FieldJoin.ShownIn database
            ⟨fieldAlias field.id, tables.values type.valueKind, field.id⟩
            ((scope ++ outer).column itemAlias "id") (scope ++ outer)

/-- The report on an object of a catalog whose field types are all known. -/
theorem offers_columns_of_fields {objects : List CustomObject} {tables : TableNames}
    {catalog : Catalog} (hcatalog : Catalog.new objects tables = .ok catalog)
    {object : CustomObject} (hobject : object ∈ catalog.objects)
    (htypes : ∀ field ∈ object.fields, field.type?.isSome = true) :
    ∃ report, ofObject object catalog.tables = .ok report ∧
      report.Offers object catalog.tables := by
  have hids : (object.fields.map CustomField.id).Nodup := by
    have hwellFormed : CustomObject.WellFormed catalog.objects :=
      (CatalogIndex.wellFormed_completed (Catalog.wellFormed_of_new hcatalog)).perm
        (Catalog.objects_perm hcatalog)
    exact (List.nodup_flatMap.mp hwellFormed.fieldIds).1 object hobject
  obtain ⟨joins, hjoins, hall⟩ := fieldJoins_of_types catalog.tables htypes
  refine ⟨⟨object.fields.map column, joins⟩, ?_, rfl, ?_, ?_, ?_⟩
  · rw [ofObject, hjoins]
    rfl
  · rw [map_joinAlias hall]
    exact nodup_map_iff hids fun first second => fieldAlias_eq_iff first.id second.id
  · rw [List.map_map]
    exact nodup_map_iff hids key_eq_iff
  · intro database columns source others condition itemAlias outer hfits
    refine ⟨_, prepareQuery_select _ columns source others condition itemAlias, ?_⟩
    intro scope hscope field hfield type htype
    have hjoin := mem_joins hall hfield (fieldJoin_of_type? catalog.tables htype)
    exact shownIn_of_fits hfits hscope hjoin

end Report

namespace Products

/-- The report on products. -/
def report : Report where
  columns := product.fields.map Report.column
  joins := [⟨Report.fieldAlias 3, "custom_field_value_int", 3⟩,
    ⟨Report.fieldAlias 4, "custom_field_value_int", 4⟩,
    ⟨Report.fieldAlias 11, "custom_field_value_text", 11⟩]

example : report.columns.map ReportColumn.key =
    ["eccbc87e.value", "a87ff679.value", "6512bd43.value"] := by
  decide +kernel

/-- The report on products fits a query that reads items as `ci`. -/
theorem report_offers_columns :
    (Catalog.new [product] ⟨""⟩ = .ok catalog ∧ product ∈ catalog.objects ∧
      ∀ field ∈ product.fields, field.type?.isSome = true) ∧
    Report.ofObject product catalog.tables = .ok report ∧
    report.Fits (some (.table "custom_item" (some "ci"))) [] "ci" ∧
    report.Offers product catalog.tables := by
  have hobject : product ∈ catalog.objects := by decide
  have htypes : ∀ field ∈ product.fields, field.type?.isSome = true := by decide
  have hreport : Report.ofObject product catalog.tables = .ok report := rfl
  obtain ⟨found, hfound, hoffers⟩ :=
    Report.offers_columns_of_fields new_product hobject htypes
  rw [hreport] at hfound
  cases hfound
  have hfits : report.Fits (some (.table "custom_item" (some "ci"))) [] "ci" :=
    ⟨by decide +kernel, by decide +kernel, by decide +kernel⟩
  exact ⟨⟨new_product, hobject, htypes⟩, hreport, hfits, hoffers⟩

/-- Products with two sizes, the digests of whose ids start with the same four bytes. -/
def sized : CustomObject where
  id := 1
  aliasName := "product"
  nameSingular := "Product"
  namePlural := "Products"
  kind := .master
  masterObject := none
  relationshipObject := none
  fields := [⟨25302, 1, "Width", "width", "int"⟩, ⟨82945, 1, "Height", "height", "int"⟩]

/-- A catalog takes the two sizes, and a report gives both the same alias and key. -/
theorem sizes_share_alias :
    ∃ catalog report, Catalog.new [sized] ⟨""⟩ = .ok catalog ∧ sized ∈ catalog.objects ∧
      (∀ field ∈ sized.fields, field.type?.isSome = true) ∧
      Report.ofObject sized catalog.tables = .ok report ∧
      report.joins.map FieldJoin.joinAlias = ["7b763dcb", "7b763dcb"] ∧
      report.columns.map ReportColumn.key = ["7b763dcb.value", "7b763dcb.value"] ∧
      ¬(report.joins.map FieldJoin.joinAlias).Nodup ∧
      ¬(report.columns.map ReportColumn.key).Nodup := by
  refine ⟨⟨⟨.ofList [(1, sized)], .ofList [(25302, 1), (82945, 1)]⟩, ⟨""⟩⟩,
    ⟨sized.fields.map Report.column, [⟨Report.fieldAlias 25302, "custom_field_value_int", 25302⟩,
      ⟨Report.fieldAlias 82945, "custom_field_value_int", 82945⟩]⟩,
    rfl, by decide, by decide, rfl, ?_, ?_, ?_, ?_⟩ <;> decide +kernel

end Products

end SegmentPaths
