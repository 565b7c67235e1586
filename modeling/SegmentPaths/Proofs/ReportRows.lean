/-
The rows of a report.  Each join of a report puts beside an item the rows that hold
the value of its field for that item, or one row of nulls; what the joins before it
have put there is left alone, as long as no alias comes twice.
-/
import SegmentPaths.Proofs.Rows
import SegmentPaths.Report
import Mathlib.Data.List.Forall2

namespace SegmentPaths

/-- The value that a row has in a column; null if it has none. -/
def Row.value (row : Row) (column : String) : Datum := (row.lookup column).getD .null

/-- Related items that look the same make the same list. -/
theorem map_eq_of_forall₂ {A B C : Type} {R : A → B → Prop} {xs : List A} {ys : List B}
    {f : A → C} {g : B → C} (h : List.Forall₂ R xs ys) (hsame : ∀ x y, R x y → f x = g y) :
    xs.map f = ys.map g := by
  rw [← List.forall₂_eq_eq_eq, List.forall₂_map_left_iff, List.forall₂_map_right_iff]
  exact h.imp hsame

namespace Relation

/-- Rows, or one row of nulls if there are none. -/
def orNulls (columns : List String) (rows : List Row) : List Row :=
  if rows.isEmpty then [nullRow columns] else rows

theorem mem_orNulls_iff {columns : List String} {rows : List Row} {row : Row} :
    row ∈ orNulls columns rows ↔ row ∈ rows ∨ rows = [] ∧ row = nullRow columns := by
  cases rows <;> simp [orNulls]

end Relation

namespace Scope

/-- A table is found past added rows of other tables. -/
theorem lookup_past {scope added : Scope} {table : String} (more : Scope)
    (h : added.lookup table = none) :
    (scope ++ added ++ more).lookup table = (scope ++ more).lookup table := by
  rw [List.append_assoc, List.lookup_append, List.lookup_append, h, Option.none_or,
    List.lookup_append]

theorem column_past {scope added : Scope} {table : String} (more : Scope)
    (h : added.lookup table = none) (name : String) :
    (scope ++ added ++ more).column table name = (scope ++ more).column table name := by
  rw [column, lookup_past more h, column]

/-- A row is found under its alias among rows with different aliases. -/
theorem lookup_of_forall₂ {A : Type} {aliasOf : A → String} {R : A → Row → Prop} {items : List A}
    {scope : Scope} (hnodup : (items.map aliasOf).Nodup)
    (h : List.Forall₂ (fun item entry => entry.1 = aliasOf item ∧ R item entry.2) items scope)
    {item : A} (hitem : item ∈ items) :
    ∃ row, R item row ∧ scope.lookup (aliasOf item) = some row := by
  induction h with
  | nil => cases hitem
  | @cons first entry rest entries hfirst _ ih =>
      obtain ⟨name, row⟩ := entry
      obtain ⟨rfl, hrow⟩ := hfirst
      rw [List.map_cons, List.nodup_cons] at hnodup
      rcases List.mem_cons.mp hitem with rfl | hitem
      · exact ⟨row, hrow, List.lookup_cons_self⟩
      · obtain ⟨found, hfound, hlookup⟩ := ih hnodup.2 hitem
        have hother : aliasOf item ≠ aliasOf first := fun hsame =>
          hnodup.1 (hsame ▸ List.mem_map_of_mem hitem)
        refine ⟨found, hfound, ?_⟩
        rw [List.lookup_cons, beq_false_of_ne hother]
        exact hlookup

end Scope

/-- A left join keeps the rows that pass its condition, or nulls where none does. -/
theorem joinRows_left (name : String) (columns : List String) (rows : List Row)
    (passes : Scope → Bool) (scopes : List Scope) :
    joinRows .left name columns rows passes scopes =
      scopes.flatMap fun scope =>
        (Relation.orNulls columns (rows.filter fun row => passes (scope ++ [(name, row)]))).map
          fun row => scope ++ [(name, row)] := by
  refine congrArg List.flatten (List.map_congr_left fun scope _ => ?_)
  simp only [List.filter_map, Function.comp_def]
  cases rows.filter fun row => passes (scope ++ [(name, row)]) <;> rfl

namespace Join

variable (database : Database)

/-- The name that columns of the joined table are qualified with. -/
def name : Join → String
  | .on _ source _ => source.name

theorem extend_left (table aliasName : String) (condition : Expr) (outer scope : Scope) :
    (Join.on .left (.table table (some aliasName)) condition).extend database outer [scope] =
      (Relation.orNulls (database.relation table).columns
        ((database.relation table).named.filter fun row =>
          condition.holdsIn database (scope ++ [(aliasName, row)] ++ outer))).map fun row =>
            scope ++ [(aliasName, row)] := by
  simp only [Join.extend, Source.rows, Source.name, Source.columnNames, Option.getD_some,
    joinRows_left, List.flatMap_cons, List.flatMap_nil, List.append_nil]
  rfl

/-- Whatever its kind, a join adds one row under its name. -/
theorem exists_of_mem_extend (join : Join) {outer scope : Scope} {scopes : List Scope}
    (h : scope ∈ join.extend database outer scopes) :
    ∃ base ∈ scopes, ∃ row, scope = base ++ [(join.name, row)] := by
  obtain ⟨kind, source, condition⟩ := join
  rw [Join.extend] at h
  cases kind with
  | inner =>
      rw [joinRows_inner] at h
      obtain ⟨base, hbase, hmem⟩ := List.mem_flatMap.mp h
      obtain ⟨row, -, rfl⟩ := List.mem_map.mp hmem
      exact ⟨base, hbase, row, rfl⟩
  | left =>
      rw [joinRows_left] at h
      obtain ⟨base, hbase, hmem⟩ := List.mem_flatMap.mp h
      obtain ⟨row, -, rfl⟩ := List.mem_map.mp hmem
      exact ⟨base, hbase, row, rfl⟩

theorem exists_of_mem_scopes {joins : List Join} {outer scope : Scope} {scopes : List Scope}
    (h : scope ∈ Join.scopes database joins outer scopes) :
    ∃ base ∈ scopes, scope.map Prod.fst = base.map Prod.fst ++ joins.map name := by
  induction joins generalizing scopes with
  | nil => exact ⟨scope, h, (List.append_nil _).symm⟩
  | cons join rest ih =>
      rw [Join.scopes] at h
      obtain ⟨extended, hextended, hnames⟩ := ih h
      obtain ⟨base, hbase, row, rfl⟩ := join.exists_of_mem_extend database hextended
      exact ⟨base, hbase, by rw [hnames]; simp⟩

end Join

namespace Query

/-- The names that columns of the tables of a plain SELECT are qualified with. -/
def tableNames (source : Option Source) (joins : List Join) : List String :=
  source.toList.map Source.name ++ joins.map Join.name

/-- The rows that a plain SELECT reads are in sight under the names of its tables. -/
theorem names_of_mem_joined {database : Database} {source : Option Source} {joins : List Join}
    {outer scope : Scope} (h : scope ∈ joined database source joins outer) :
    scope.map Prod.fst = tableNames source joins := by
  obtain ⟨base, hbase, hnames⟩ := Join.exists_of_mem_scopes database h
  rw [hnames, tableNames]
  cases source with
  | none =>
      rw [List.mem_singleton.mp hbase]
      rfl
  | some source =>
      obtain ⟨row, -, rfl⟩ := List.mem_map.mp hbase
      rfl

/-- Joins that are added extend the rows that a plain SELECT read before. -/
theorem joined_append (database : Database) (source : Option Source) (joins added : List Join)
    (outer : Scope) :
    joined database source (joins ++ added) outer =
      (joined database source joins outer).flatMap fun scope =>
        Join.scopes database added outer [scope] := by
  have hscopes : joined database source (joins ++ added) outer =
      Join.scopes database added outer (joined database source joins outer) :=
    Join.scopes_append database joins added outer _
  have hsingle : (joined database source joins outer).flatMap (fun scope => [scope]) =
      joined database source joins outer := by simp
  rw [hscopes, ← hsingle, Join.scopes_flatMap, hsingle]

theorem foldl_addJoin (added : List Join) (columns : List Expr) (source : Option Source)
    (joins : List Join) (condition : Option Expr) :
    added.foldl addJoin (.select columns source joins condition) =
      .select columns source (joins ++ added) condition := by
  induction added generalizing joins with
  | nil => rw [List.foldl_nil, List.append_nil]
  | cons join rest ih => rw [List.foldl_cons, addJoin, ih, List.append_assoc]; rfl

end Query

namespace FieldJoin

variable (database : Database)

/-- The rows of the table of a field that hold its value for an item. -/
def held (join : FieldJoin) (item : Datum) : List Row :=
  (database.relation join.table).named.filter fun row =>
    decide (item = row.value "custom_item_id" ∧ item ≠ .null ∧
      row.value "custom_field_id" = .int join.field)

/-- What a join of a report puts beside an item. -/
def beside (join : FieldJoin) (item : Datum) : List Row :=
  Relation.orNulls (database.relation join.table).columns (join.held database item)

end FieldJoin

namespace Report

variable {database : Database} {itemAlias : String} {scope outer : Scope}

/-- What the joins of a report put beside an item, each under its alias, in every
combination. -/
def shown (database : Database) (item : Datum) : List FieldJoin → List Scope
  | [] => [[]]
  | join :: rest =>
    (join.beside database item).flatMap fun row =>
      (shown database item rest).map ((join.joinAlias, row) :: ·)

theorem forall₂_of_mem_shown {item : Datum} {joins : List FieldJoin} {added : Scope}
    (h : added ∈ shown database item joins) :
    List.Forall₂ (fun join entry =>
      entry.1 = FieldJoin.joinAlias join ∧ entry.2 ∈ join.beside database item) joins added := by
  induction joins generalizing added with
  | nil =>
      rw [List.mem_singleton.mp h]
      exact .nil
  | cons join rest ih =>
      obtain ⟨row, hrow, hmem⟩ := List.mem_flatMap.mp h
      obtain ⟨tail, htail, rfl⟩ := List.mem_map.mp hmem
      exact .cons ⟨rfl, hrow⟩ (ih htail)

theorem map_fst_of_mem_shown {item : Datum} {joins : List FieldJoin} {added : Scope}
    (h : added ∈ shown database item joins) :
    added.map Prod.fst = joins.map FieldJoin.joinAlias :=
  (map_eq_of_forall₂ (forall₂_of_mem_shown h) fun _ _ hentry => hentry.1.symm).symm

/-- The condition of a join holds for the rows with the ids of the item and the field. -/
theorem holdsIn_join {join : FieldJoin} (hfresh : scope.lookup join.joinAlias = none)
    (hitem : itemAlias ≠ join.joinAlias) (row : Row) :
    (Expr.binary .and
      (.binary .equal (.tableColumn itemAlias "id")
        (.tableColumn join.joinAlias "custom_item_id"))
      (.binary .equal (.tableColumn join.joinAlias "custom_field_id")
        (.int join.field))).holdsIn database (scope ++ [(join.joinAlias, row)] ++ outer) =
    decide ((scope ++ outer).column itemAlias "id" = row.value "custom_item_id" ∧
      (scope ++ outer).column itemAlias "id" ≠ .null ∧
      row.value "custom_field_id" = .int join.field) := by
  have hother : List.lookup itemAlias [(join.joinAlias, row)] = none :=
    Scope.lookup_eq_none fun entry hentry => by rw [List.mem_singleton.mp hentry]; exact hitem
  have hrow := Scope.lookup_added row outer hfresh
  rw [Expr.holdsIn_and, Expr.holdsIn_equal, Expr.holdsIn_equal, Bool.eq_iff_iff]
  simp only [Expr.tableColumn, Expr.value, Scope.column_past outer hother,
    Scope.column_of_lookup hrow, ← Row.value.eq_1, Bool.and_eq_true, decide_eq_true_iff]
  constructor
  · rintro ⟨⟨hid, hnull⟩, hfield, -⟩
    exact ⟨hid, hid ▸ hnull, hfield⟩
  · rintro ⟨hid, hnull, hfield⟩
    exact ⟨⟨hid, hid ▸ hnull⟩, hfield, by simp⟩

/-- One join of a report. -/
theorem extend_join {join : FieldJoin} (hfresh : scope.lookup join.joinAlias = none)
    (hitem : itemAlias ≠ join.joinAlias) :
    (Report.join itemAlias join).extend database outer [scope] =
      (join.beside database ((scope ++ outer).column itemAlias "id")).map fun row =>
        scope ++ [(join.joinAlias, row)] := by
  rw [Report.join, Join.extend_left]
  simp only [holdsIn_join hfresh hitem]
  rfl

/-- All joins of a report, one after the other.  What the first ones add does not
hide the item from the later ones. -/
theorem scopes_joins {joins : List FieldJoin}
    (hnodup : (joins.map FieldJoin.joinAlias).Nodup)
    (hitem : itemAlias ∉ joins.map FieldJoin.joinAlias)
    (hfresh : ∀ join ∈ joins, scope.lookup join.joinAlias = none) :
    Join.scopes database (joins.map (Report.join itemAlias)) outer [scope] =
      (shown database ((scope ++ outer).column itemAlias "id") joins).map (scope ++ ·) := by
  induction joins generalizing scope with
  | nil => simp [Join.scopes, shown]
  | cons join rest ih =>
      rw [List.map_cons, List.nodup_cons] at hnodup
      rw [List.map_cons, List.mem_cons, not_or] at hitem
      have hlookup : ∀ {table : String} (row : Row), table ≠ join.joinAlias →
          List.lookup table [(join.joinAlias, row)] = none := fun row hne =>
        Scope.lookup_eq_none fun entry hentry => by rw [List.mem_singleton.mp hentry]; exact hne
      -- An added row hides neither the item nor the aliases that are still to come.
      have hnext : ∀ row : Row,
          Join.scopes database (rest.map (Report.join itemAlias)) outer
              [scope ++ [(join.joinAlias, row)]] =
            (shown database ((scope ++ outer).column itemAlias "id") rest).map fun added =>
              scope ++ (join.joinAlias, row) :: added := by
        intro row
        have hstep := @ih (scope ++ [(join.joinAlias, row)]) hnodup.2 hitem.2
        rw [Scope.column_past outer (hlookup row hitem.1)] at hstep
        rw [hstep]
        · simp
        · intro other hother
          have hne : other.joinAlias ≠ join.joinAlias := fun hsame =>
            hnodup.1 (hsame ▸ List.mem_map_of_mem hother)
          rw [List.lookup_append, hfresh other (List.mem_cons_of_mem join hother),
            hlookup row hne]
          rfl
      rw [List.map_cons, Join.scopes, extend_join (hfresh join List.mem_cons_self) hitem.1,
        List.map_eq_flatMap (l := join.beside database _), Join.scopes_flatMap, shown,
        List.map_flatMap]
      simp only [hnext, List.map_map, Function.comp_def]

theorem prepareQuery_select (report : Report) (columns : List Expr) (source : Option Source)
    (joins : List Join) (condition : Option Expr) (itemAlias : String) :
    report.prepareQuery (.select columns source joins condition) itemAlias =
      .select columns source (joins ++ report.joins.map (Report.join itemAlias)) condition :=
  Query.foldl_addJoin _ columns source joins condition

/-- The aliases of a report are different from each other, from the alias of the
items and from the names of the tables that a query reads. -/
structure Fits (report : Report) (source : Option Source) (joins : List Join)
    (itemAlias : String) : Prop where
  distinct : (report.joins.map FieldJoin.joinAlias).Nodup
  item : itemAlias ∉ report.joins.map FieldJoin.joinAlias
  tables : ∀ join ∈ report.joins, join.joinAlias ∉ Query.tableNames source joins

/-- A prepared query reads the rows that the query read before, each with what the
report shows beside it. -/
theorem joined_prepared {report : Report} {source : Option Source} {joins : List Join}
    (hfits : report.Fits source joins itemAlias) (database : Database) (outer : Scope) :
    Query.joined database source (joins ++ report.joins.map (Report.join itemAlias)) outer =
      (Query.joined database source joins outer).flatMap fun scope =>
        (shown database ((scope ++ outer).column itemAlias "id") report.joins).map (scope ++ ·) := by
  have hfresh : ∀ scope ∈ Query.joined database source joins outer, ∀ join ∈ report.joins,
      scope.lookup join.joinAlias = none := by
    intro scope hscope join hjoin
    refine Scope.lookup_eq_none fun entry hentry hsame => hfits.tables join hjoin ?_
    rw [← Query.names_of_mem_joined hscope, hsame]
    exact List.mem_map_of_mem hentry
  rw [Query.joined_append]
  refine congrArg List.flatten (List.map_congr_left fun scope hscope => ?_)
  exact scopes_joins hfits.distinct hfits.item (hfresh scope hscope)

end Report

end SegmentPaths
