/-
The values that a report shows.  Where no item has two values of a field, each join of
a report puts just one row beside an item: the one that holds the value, or nulls.  So
a prepared query returns the rows of the query, each with the values of its item.
-/
import SegmentPaths.Proofs.Qualifiers
import SegmentPaths.Proofs.ReportColumns
import SegmentPaths.Proofs.StoredKeys

namespace SegmentPaths

namespace Relation

/-- The stored value of a field of an item: null if there is none. -/
def storedValue (relation : Relation) (item : Datum) (field : Int64) : Datum :=
  if item = .null then .null
  else
    ((relation.named.find? fun row => decide (valueKey row = (item, .int field))).map
      fun row => row.value "value").getD .null

theorem value_nullRow (columns : List String) (column : String) :
    Row.value (nullRow columns) column = .null := by
  induction columns with
  | nil => rfl
  | cons first rest ih =>
      rw [Row.value, nullRow, List.map_cons, List.lookup_cons]
      cases column == first with
      | true => rfl
      | false => exact ih

/-- Of rows with different keys, one key finds one at most. -/
theorem OneEach.filter_cases {relation : Relation} (h : relation.OneEach)
    (key : Datum × Datum) :
    (relation.named.filter fun row => decide (valueKey row = key)) = [] ∨
      ∃ row, (relation.named.filter fun row => decide (valueKey row = key)) = [row] := by
  have hkeys : ((relation.named.filter fun row => decide (valueKey row = key)).map
      valueKey).Nodup := h.sublist (List.filter_sublist.map valueKey)
  have hkey : ∀ row ∈ relation.named.filter fun row => decide (valueKey row = key),
      valueKey row = key := fun row hrow => of_decide_eq_true (List.mem_filter.mp hrow).2
  match hfound : relation.named.filter fun row => decide (valueKey row = key) with
  | [] => exact Or.inl rfl
  | [row] => exact Or.inr ⟨row, rfl⟩
  | first :: second :: rest =>
      rw [hfound] at hkeys hkey
      have hsame : valueKey first = valueKey second := by
        rw [hkey first (by simp), hkey second (by simp)]
      simp [hsame] at hkeys

end Relation

namespace FieldJoin

variable (database : Database)

theorem held_eq_filter (join : FieldJoin) {item : Datum} (hitem : item ≠ .null) :
    join.held database item = (database.relation join.table).named.filter fun row =>
      decide (Relation.valueKey row = (item, .int join.field)) := by
  refine List.filter_congr fun row _ => decide_eq_decide.mpr ?_
  constructor
  · rintro ⟨hsame, -, hfield⟩
    exact Prod.ext hsame.symm hfield
  · intro hkey
    obtain ⟨hsame, hfield⟩ := Prod.mk.inj hkey
    exact ⟨hsame.symm, hitem, hfield⟩

theorem held_null (join : FieldJoin) : join.held database .null = [] :=
  List.filter_eq_nil_iff.mpr fun row _ => by simp

/-- The row that holds the value of the field for an item, or nulls. -/
def shownRow (join : FieldJoin) (item : Datum) : Row := (join.beside database item).headD []

variable {database}

/-- A join puts one row beside an item, with the stored value. -/
theorem beside_of_oneEach {join : FieldJoin} (h : (database.relation join.table).OneEach)
    (item : Datum) :
    join.beside database item = [join.shownRow database item] ∧
      (join.shownRow database item).value "value" =
        (database.relation join.table).storedValue item join.field := by
  have hnone : ∀ {rows}, rows = [] → Relation.orNulls (database.relation join.table).columns rows =
      [Relation.nullRow (database.relation join.table).columns] := fun hrows => by
    rw [hrows]
    rfl
  by_cases hitem : item = .null
  · subst hitem
    have hbeside := hnone (join.held_null database)
    rw [shownRow, beside, hbeside, Relation.storedValue, if_pos rfl]
    exact ⟨rfl, Relation.value_nullRow _ "value"⟩
  · have hheld := join.held_eq_filter database hitem
    rw [Relation.storedValue, if_neg hitem, ← List.head?_filter, ← hheld]
    rcases h.filter_cases (item, .int join.field) with hempty | ⟨row, hrow⟩
    · rw [hempty] at hheld
      rw [shownRow, beside, hnone hheld, hheld]
      exact ⟨rfl, Relation.value_nullRow _ "value"⟩
    · rw [hrow] at hheld
      rw [shownRow, beside, hheld]
      exact ⟨rfl, rfl⟩

end FieldJoin

namespace Report

variable {database : Database}

/-- What joins put beside an item if each of them puts one row. -/
def shownRows (database : Database) (item : Datum) (joins : List FieldJoin) : Scope :=
  joins.map fun join => (join.joinAlias, join.shownRow database item)

theorem shown_of_oneEach {joins : List FieldJoin}
    (h : ∀ join ∈ joins, (database.relation join.table).OneEach) (item : Datum) :
    shown database item joins = [shownRows database item joins] := by
  induction joins with
  | nil => rfl
  | cons join rest ih =>
      rw [shown, (FieldJoin.beside_of_oneEach (h join List.mem_cons_self) item).1,
        ih fun other hother => h other (List.mem_cons_of_mem join hother)]
      rfl

/-- Under the alias of a join, its row is found. -/
theorem lookup_shownRows {joins : List FieldJoin}
    (hdistinct : (joins.map FieldJoin.joinAlias).Nodup) {join : FieldJoin} (hjoin : join ∈ joins)
    (database : Database) (item : Datum) :
    (shownRows database item joins).lookup join.joinAlias = some (join.shownRow database item) := by
  have hrows : List.Forall₂ (fun join entry => entry.1 = FieldJoin.joinAlias join ∧
      entry.2 = join.shownRow database item) joins (shownRows database item joins) := by
    rw [shownRows, List.forall₂_map_right_iff, List.forall₂_same]
    exact fun join _ => ⟨rfl, rfl⟩
  obtain ⟨row, rfl, hlookup⟩ := Scope.lookup_of_forall₂
    (R := fun join row => row = FieldJoin.shownRow database join item) hdistinct hrows hjoin
  exact hlookup

end Report

/-- The stored value of a field for an item, in the table of its type. -/
def CustomField.storedValue (database : Database) (tables : TableNames) (field : CustomField)
    (item : Datum) : Datum :=
  match tables.valueTable field.typeKey with
  | .ok table => (database.relation table).storedValue item field.id
  | .error _ => .null

theorem CustomField.storedValue_of_type? (database : Database) (tables : TableNames)
    {field : CustomField} {type : FieldType} (h : field.type? = some type) (item : Datum) :
    field.storedValue database tables item =
      (database.relation (tables.values type.valueKind)).storedValue item field.id := by
  rw [storedValue, field.valueTable_of_type? tables h]

/-- Only fields with options may hold more than one value for an item. -/
theorem FieldType.valueKind_ne_option {type : FieldType} (hselect : type ≠ .select)
    (hmultiselect : type ≠ .multiselect) : type.valueKind ≠ .option := by
  cases type <;> simp_all [valueKind]

/-- The scopes that a plain SELECT returns rows for. -/
def Query.returned (database : Database) (source : Option Source) (joins : List Join)
    (condition : Option Expr) (outer : Scope) : List Scope :=
  (joined database source joins outer).filter fun scope =>
    meets database condition (scope ++ outer)

theorem Query.rows_eq_returned (database : Database) (columns : List Expr)
    (source : Option Source) (joins : List Join) (condition : Option Expr) (outer : Scope) :
    (Query.select columns source joins condition).rows database outer =
      (returned database source joins condition outer).map fun scope =>
        Expr.values database columns (scope ++ outer) :=
  rows_select database columns source joins condition outer

theorem Expr.values_eq_map (database : Database) (exprs : List Expr) (scope : Scope) :
    Expr.values database exprs scope = exprs.map fun expr => expr.value database scope := by
  induction exprs with
  | nil => rw [Expr.values, List.map_nil]
  | cons expr rest ih => rw [Expr.values, ih, List.map_cons]

namespace Report

/-- What is selected for the column of a field. -/
def valueColumn (field : CustomField) : Expr := .tableColumn (fieldAlias field.id) "value"

/-- A report goes with a plain SELECT on items: all columns of the query are qualified, and
the aliases of the report are different from each other and from all that the query calls
its tables. -/
structure GoesWith (report : Report) (columns : List Expr) (source : Option Source)
    (joins : List Join) (condition : Option Expr) (itemAlias : String) : Prop where
  qualified : none ∉ (Query.select columns source joins condition).qualifiers
  items : itemAlias ∈ Query.tableNames source joins
  distinct : (report.joins.map FieldJoin.joinAlias).Nodup
  tables : ∀ join ∈ report.joins, join.joinAlias ∉ Query.tableNames source joins
  unnamed : ∀ join ∈ report.joins,
    some join.joinAlias ∉ (Query.select columns source joins condition).qualifiers

section Prepared

variable {report : Report} {columns : List Expr} {source : Option Source} {joins : List Join}
  {condition : Option Expr} {itemAlias : String} {database : Database}

theorem GoesWith.fits (h : report.GoesWith columns source joins condition itemAlias) :
    report.Fits source joins itemAlias where
  distinct := h.distinct
  item := by
    intro hmem
    obtain ⟨join, hjoin, rfl⟩ := List.mem_map.mp hmem
    exact h.tables join hjoin h.items
  tables := h.tables

/-- What a report shows makes no difference to the query. -/
theorem GoesWith.agreeOn (h : report.GoesWith columns source joins condition itemAlias)
    (database : Database) (item : Datum) (scope outer : Scope) :
    Scope.AgreeOn (Query.select columns source joins condition).qualifiers
      (scope ++ shownRows database item report.joins ++ outer) (scope ++ outer) := by
  apply Scope.AgreeOn.past h.qualified
  intro entry hentry
  obtain ⟨join, hjoin, rfl⟩ := List.mem_map.mp hentry
  exact h.unnamed join hjoin

/-- A prepared query returns a row for each row of the query, with what the report shows
beside it. -/
theorem returned_prepared (h : report.GoesWith columns source joins condition itemAlias)
    (hone : ∀ join ∈ report.joins, (database.relation join.table).OneEach) (outer : Scope) :
    Query.returned database source (joins ++ report.joins.map (Report.join itemAlias)) condition
        outer =
      (Query.returned database source joins condition outer).map fun scope =>
        scope ++ shownRows database ((scope ++ outer).column itemAlias "id") report.joins := by
  have hmeets : ∀ (item : Datum) (scope : Scope),
      Query.meets database condition (scope ++ shownRows database item report.joins ++ outer) =
        Query.meets database condition (scope ++ outer) := by
    intro item scope
    have hagree := h.agreeOn database item scope outer
    rw [Query.qualifiers_select] at hagree
    cases hcondition : condition with
    | none => rfl
    | some condition =>
        rw [hcondition] at hagree
        exact congrArg Datum.holds (condition.value_agree database hagree.right)
  rw [Query.returned, joined_prepared h.fits]
  simp only [shown_of_oneEach hone, List.map_singleton, ← List.map_eq_flatMap, List.filter_map,
    Function.comp_def, hmeets]
  rfl

/-- The key of a field refers to what is stored for the item. -/
theorem value_valueColumn (h : report.GoesWith columns source joins condition itemAlias)
    {field : CustomField} {table : String}
    (hjoin : FieldJoin.mk (fieldAlias field.id) table field.id ∈ report.joins)
    (hone : (database.relation table).OneEach) {scope outer : Scope}
    (hscope : scope ∈ Query.joined database source joins outer) (item : Datum) :
    (valueColumn field).value database
        (scope ++ shownRows database item report.joins ++ outer) =
      (database.relation table).storedValue item field.id := by
  have hfresh : scope.lookup (fieldAlias field.id) = none :=
    Scope.lookup_eq_none fun entry hentry hsame => h.tables _ hjoin
      (Query.names_of_mem_joined hscope ▸ hsame ▸ List.mem_map_of_mem hentry)
  have hfound := lookup_shownRows h.distinct hjoin database item
  have hlookup : (scope ++ shownRows database item report.joins ++ outer).lookup
      (fieldAlias field.id) =
        some ((FieldJoin.mk (fieldAlias field.id) table field.id).shownRow database item) := by
    rw [List.lookup_append, List.lookup_append, hfresh, Option.none_or, hfound, Option.some_or]
  rw [valueColumn, Expr.tableColumn, Expr.value, Scope.column_of_lookup hlookup]
  exact (FieldJoin.beside_of_oneEach hone item).2

end Prepared

/-- What a report does to a query that it goes with: joins are added behind those of the
query and nothing else changes, the same rows are returned, and a row that shows the report
shows, in the order of the fields, what is stored for its item. -/
structure Shows (report : Report) (object : CustomObject) (tables : TableNames)
    (database : Database) (columns : List Expr) (source : Option Source) (joins : List Join)
    (condition : Option Expr) (itemAlias : String) (outer : Scope) : Prop where
  clauses : report.prepareQuery (.select columns source joins condition) itemAlias =
    .select columns source (joins ++ report.joins.map (Report.join itemAlias)) condition
  rows : (report.prepareQuery (.select columns source joins condition) itemAlias).rows
    database outer = (Query.select columns source joins condition).rows database outer
  values : (report.prepareQuery (.select (columns ++ object.fields.map valueColumn) source joins
      condition) itemAlias).rows database outer =
    (Query.returned database source joins condition outer).map fun scope =>
      Expr.values database columns (scope ++ outer) ++ object.fields.map fun field =>
        field.storedValue database tables ((scope ++ outer).column itemAlias "id")

/-- The report on an object shows the stored values of its items, if none of its fields
holds options and no item has two values of a field. -/
theorem shows_stored_values {object : CustomObject} (tables : TableNames)
    (htypes : ∀ field ∈ object.fields, ∃ type, field.type? = some type ∧
      type ≠ .select ∧ type ≠ .multiselect) :
    ∃ report, ofObject object tables = .ok report ∧
      report.columns = object.fields.map column ∧
      ∀ (columns : List Expr) (source : Option Source) (joins : List Join)
        (condition : Option Expr) (itemAlias : String) (database : Database),
        report.GoesWith columns source joins condition itemAlias →
        (∀ kind ≠ .option, (database.relation (tables.values kind)).OneEach) →
        ∀ outer : Scope,
          report.Shows object tables database columns source joins condition itemAlias outer := by
  have hknown : ∀ field ∈ object.fields, field.type?.isSome = true := by
    intro field hfield
    obtain ⟨type, htype, -⟩ := htypes field hfield
    rw [htype, Option.isSome_some]
  obtain ⟨fieldJoins, hjoins, hall⟩ := fieldJoins_of_types tables hknown
  refine ⟨⟨object.fields.map column, fieldJoins⟩, by rw [ofObject, hjoins]; rfl, rfl, ?_⟩
  intro columns source joins condition itemAlias database hgoes hvalues outer
  have hone : ∀ join ∈ fieldJoins, (database.relation join.table).OneEach := by
    intro join hjoin
    obtain ⟨field, ⟨type, htype, hselect, hmultiselect⟩, hfield⟩ :=
      exists_of_forall₂ ((List.forall₂_and_left _ _).mpr ⟨htypes, hall⟩) hjoin
    rw [fieldJoin_of_type? tables htype] at hfield
    cases hfield
    exact hvalues _ (FieldType.valueKind_ne_option hselect hmultiselect)
  have hreturned := returned_prepared hgoes hone outer
  have hcolumns : ∀ scope : Scope, Expr.values database columns
      (scope ++ shownRows database ((scope ++ outer).column itemAlias "id") fieldJoins ++ outer) =
        Expr.values database columns (scope ++ outer) := by
    intro scope
    have hagree := hgoes.agreeOn database
      ((scope ++ outer).column itemAlias "id") scope outer
    rw [Query.qualifiers_select] at hagree
    exact Expr.values_agree database columns hagree.left.left.left
  constructor
  · exact prepareQuery_select _ columns source joins condition itemAlias
  · rw [prepareQuery_select, Query.rows_eq_returned, Query.rows_eq_returned, hreturned,
      List.map_map]
    exact List.map_congr_left fun scope _ => hcolumns scope
  · rw [prepareQuery_select, Query.rows_eq_returned, hreturned, List.map_map]
    refine List.map_congr_left fun scope hscope => ?_
    rw [Function.comp_apply, Expr.values_eq_map, List.map_append, ← Expr.values_eq_map,
      hcolumns scope, List.map_map]
    congr 1
    refine List.map_congr_left fun field hfield => ?_
    obtain ⟨type, htype, hselect, hmultiselect⟩ := htypes field hfield
    rw [CustomField.storedValue_of_type? database tables htype]
    exact value_valueColumn hgoes
      (mem_joins hall hfield (fieldJoin_of_type? tables htype))
      (hvalues _ (FieldType.valueKind_ne_option hselect hmultiselect)) (List.mem_filter.mp hscope).1 _

end Report

namespace Products

/-- A bag with a price, a weight and no color, and a box with a color only. -/
def contents : Contents where
  leads := []
  items := [[.int 1, .int 1, .text "bag"], [.int 2, .int 1, .text "box"],
    [.int 3, .int 2, .text "order"]]
  contacts := []
  links := []
  values kind :=
    match kind with
    | .int => [[.int 1, .int 3, .int 5], [.int 1, .int 4, .int 12], [.int 3, .int 3, .int 8]]
    | .text => [[.int 2, .int 11, .text "red"]]
    | .datetime | .option => []

def store : Store := (contents.insertInto (Schema.leads :: Schema.store)).toOption.getD []

/-- The items that are products. -/
def productItems : Expr := .binary .equal (.tableColumn "ci" "custom_object_id") (.int 1)

/-- Both products are shown once, with what is stored for them. -/
theorem contents_shown :
    (∀ field ∈ product.fields, ∃ type, field.type? = some type ∧
      type ≠ .select ∧ type ≠ .multiselect) ∧
    (∀ kind ≠ .option,
      ((store.database .empty).relation (Schema.tables.values kind)).OneEach) ∧
    report.GoesWith [.tableColumn "ci" "name"] (some (.table "custom_item" (some "ci"))) []
      (some productItems) "ci" ∧
    (report.prepareQuery (.select ([.tableColumn "ci" "name"] ++
      product.fields.map Report.valueColumn) (some (.table "custom_item" (some "ci"))) []
        (some productItems)) "ci").rows (store.database .empty) [] =
      [[.text "bag", .int 5, .int 12, .null], [.text "box", .null, .null, .text "red"]] := by
  have htypes : ∀ field ∈ product.fields, ∃ type, field.type? = some type ∧
      type ≠ .select ∧ type ≠ .multiselect := by decide
  have hstore : contents.insertInto (Schema.leads :: Schema.store) = .ok store := rfl
  have hone : ∀ kind ≠ .option,
      ((store.database .empty).relation (Schema.tables.values kind)).OneEach :=
    fun kind hkind => Store.oneEach_of_insertInto hstore .empty hkind
  have hgoes : report.GoesWith [.tableColumn "ci" "name"]
      (some (.table "custom_item" (some "ci"))) [] (some productItems) "ci" :=
    ⟨by decide, by decide, by decide +kernel, by decide +kernel, by decide +kernel⟩
  obtain ⟨found, hfound, -, hshows⟩ := Report.shows_stored_values Schema.tables htypes
  have hreport : Report.ofObject product Schema.tables = .ok report := rfl
  rw [hreport] at hfound
  cases hfound
  refine ⟨htypes, hone, hgoes, ?_⟩
  rw [(hshows _ _ _ _ _ _ hgoes hone []).values]
  decide +kernel

end Products

end SegmentPaths
