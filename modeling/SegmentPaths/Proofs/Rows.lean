/-
How the meaning of queries goes through their parts: which conditions are met,
and how joins extend scopes one scope at a time.
-/
import SegmentPaths.Database.Evaluation

namespace SegmentPaths

namespace Datum

@[simp]
theorem holds_ofTruth (truth : Truth) : (ofTruth truth).holds = (truth == some true) := by
  rw [holds, truth_ofTruth]

/-- Values that compare are equal exactly if they are the same. -/
theorem equal_of_ne_null {a b : Datum} (ha : a ≠ .null) (hb : b ≠ .null) :
    equal a b = some (decide (a = b)) := by
  cases a with
  | null => exact absurd rfl ha
  | int m =>
      cases b with
      | null => exact absurd rfl hb
      | int n =>
          have hsame : (compare m.toInt n.toInt).isEq = decide (m = n) := by
            rw [Bool.eq_iff_iff, Ordering.isEq_iff_eq_eq, Std.LawfulEqCmp.compare_eq_iff_eq,
              decide_eq_true_iff, Int64.toInt_inj]
          simp [equal, order?, hsame]
      | text t => simp [equal, order?, Ordering.isEq]
  | text s =>
      cases b with
      | null => exact absurd rfl hb
      | int n => simp [equal, order?, Ordering.isEq]
      | text t =>
          have hsame : (compare s t).isEq = decide (s = t) := by
            rw [Bool.eq_iff_iff, Ordering.isEq_iff_eq_eq, Std.LawfulEqCmp.compare_eq_iff_eq,
              decide_eq_true_iff]
          simp [equal, order?, hsame]

theorem equal_eq_true_iff (a b : Datum) : equal a b = some true ↔ a = b ∧ b ≠ .null := by
  by_cases ha : a = .null
  · subst ha
    simp [equal, order?, eq_comm]
  · by_cases hb : b = .null
    · subst hb
      cases a <;> simp [equal, order?]
    · rw [equal_of_ne_null ha hb]
      simp [hb]

/-- Among values that all compare, a value is either found or not. -/
theorem among_of_ne_null {datum : Datum} {others : List Datum} (hdatum : datum ≠ .null)
    (hothers : ∀ other ∈ others, other ≠ .null) :
    datum.among others = some (decide (datum ∈ others)) := by
  induction others with
  | nil => simp [among, Truth.any]
  | cons other rest ih =>
      have hrest := ih fun value hvalue => hothers value (List.mem_cons_of_mem _ hvalue)
      have hhead := equal_of_ne_null hdatum (hothers other List.mem_cons_self)
      simp only [among, List.map_cons, Truth.any] at hrest ⊢
      rw [hhead, hrest]
      by_cases hsame : datum = other <;> by_cases hmem : datum ∈ rest <;>
        simp [Truth.or, hsame, hmem]

end Datum

namespace Database

/-- The same tables and tests with other values of placeholders. -/
def withParams (database : Database) (params : Parameters) : Database :=
  { database with params := params }

theorem relation_of_table? {database : Database} {name : String} {relation : Relation}
    (h : database.table? name = some relation) : database.relation name = relation := by
  rw [Database.relation, h, Option.getD_some]

theorem param_of_get? {database : Database} {name : String} {value : ParamValue}
    (h : database.params.get? name = some value) : database.param name = .ofParam value := by
  rw [Database.param, h]

end Database

namespace Expr

variable (database : Database)

/-- Whether a condition is met in a scope. -/
def holdsIn (expr : Expr) (scope : Scope) : Bool := (expr.value database scope).holds

theorem holdsIn_and (left right : Expr) (scope : Scope) :
    holdsIn database (.binary .and left right) scope =
      (holdsIn database left scope && holdsIn database right scope) := by
  have hand := Truth.and_eq_true (left.value database scope).truth
    (right.value database scope).truth
  simp only [holdsIn, Expr.value, Database.binary, Datum.holds, Datum.truth_ofTruth]
  rw [Bool.eq_iff_iff, Bool.and_eq_true]
  simpa using hand

theorem holdsIn_or (left right : Expr) (scope : Scope) :
    holdsIn database (.binary .or left right) scope =
      (holdsIn database left scope || holdsIn database right scope) := by
  have hor := Truth.or_eq_true (left.value database scope).truth
    (right.value database scope).truth
  simp only [holdsIn, Expr.value, Database.binary, Datum.holds, Datum.truth_ofTruth]
  rw [Bool.eq_iff_iff, Bool.or_eq_true]
  simpa using hor

theorem holdsIn_equal (left right : Expr) (scope : Scope) :
    holdsIn database (.binary .equal left right) scope =
      decide (left.value database scope = right.value database scope ∧
        right.value database scope ≠ .null) := by
  simp only [holdsIn, Expr.value, Database.binary, Datum.holds_ofTruth]
  rw [Bool.eq_iff_iff, decide_eq_true_iff, ← Datum.equal_eq_true_iff, beq_iff_eq]

/-- Where no null stands in the way, a value is among the rows of a query or it is not. -/
theorem holdsIn_inQuery {subject : Expr} {query : Query} {negated : Bool} {scope : Scope}
    {values : List Datum} (hsubject : subject.value database scope ≠ .null)
    (hvalues : ∀ value ∈ values, value ≠ .null)
    (hrows : query.rows database scope = values.map fun value => [value]) :
    holdsIn database (.inQuery subject query negated) scope =
      (decide (subject.value database scope ∈ values) != negated) := by
  have hheads : (query.rows database scope).map (fun row => row.headD .null) = values := by
    rw [hrows, List.map_map]
    exact List.map_id values
  rw [holdsIn, Expr.value, hheads, Datum.among_of_ne_null hsubject hvalues]
  cases negated <;> simp [Truth.not]

end Expr

/-- Items that contribute nothing may be dropped. -/
theorem flatMap_eq_flatMap_filter {A B : Type} {items : List A} {keep : A → Bool}
    {f g : A → List B} (hkeep : ∀ item, keep item = true → f item = g item)
    (hdrop : ∀ item, keep item = false → f item = []) :
    items.flatMap f = (items.filter keep).flatMap g := by
  induction items with
  | nil => rfl
  | cons item rest ih =>
      cases hitem : keep item with
      | false => rw [List.flatMap_cons, hdrop item hitem, List.nil_append, ih,
          List.filter_cons_of_neg (by simp [hitem])]
      | true => rw [List.flatMap_cons, hkeep item hitem, ih, List.filter_cons_of_pos hitem,
          List.flatMap_cons]

theorem Scope.column_of_lookup {scope : Scope} {table : String} {row : Row}
    (h : scope.lookup table = some row) (name : String) :
    scope.column table name = (row.lookup name).getD .null := by
  rw [Scope.column, h, Option.bind_some]

theorem Scope.lookup_added {scope : Scope} {aliasName : String} (row : Row) (more : Scope)
    (hfresh : scope.lookup aliasName = none) :
    (scope ++ [(aliasName, row)] ++ more).lookup aliasName = some row := by
  rw [List.append_assoc, List.lookup_append, hfresh, Option.none_or, List.singleton_append,
    List.lookup_cons_self]

theorem Scope.lookup_eq_none {scope : Scope} {aliasName : String}
    (h : ∀ entry ∈ scope, aliasName ≠ entry.1) : scope.lookup aliasName = none :=
  List.lookup_eq_none_iff.mpr fun entry hentry => bne_iff_ne.mpr (h entry hentry)

namespace Expr

variable {database : Database} {scope : Scope}

theorem value_tableColumn {table name : String} {row : Row} {stored : Datum}
    (hrow : scope.lookup table = some row) (hstored : row.lookup name = some stored) :
    (tableColumn table name).value database scope = stored := by
  rw [tableColumn, Expr.value, Scope.column_of_lookup hrow, hstored, Option.getD_some]

end Expr

/-- An inner join keeps the rows that pass its condition. -/
theorem joinRows_inner (name : String) (columns : List String) (rows : List Row)
    (passes : Scope → Bool) (scopes : List Scope) :
    joinRows .inner name columns rows passes scopes =
      scopes.flatMap fun scope =>
        (rows.filter fun row => passes (scope ++ [(name, row)])).map fun row =>
          scope ++ [(name, row)] := by
  simp only [joinRows, List.filter_map]
  rfl

namespace Join

variable (database : Database)

theorem extend_flatMap {A : Type} (join : Join) (outer : Scope) (items : List A)
    (scopes : A → List Scope) :
    join.extend database outer (items.flatMap scopes) =
      items.flatMap fun item => join.extend database outer (scopes item) := by
  obtain ⟨kind, source, condition⟩ := join
  simp only [Join.extend, joinRows, List.flatMap_assoc]

/-- Joins extend every scope on its own. -/
theorem scopes_flatMap {A : Type} (joins : List Join) (outer : Scope) (items : List A)
    (scopes : A → List Scope) :
    Join.scopes database joins outer (items.flatMap scopes) =
      items.flatMap fun item => Join.scopes database joins outer (scopes item) := by
  induction joins generalizing scopes with
  | nil => simp only [Join.scopes]
  | cons join rest ih => simp only [Join.scopes, extend_flatMap, ih]

theorem scopes_append (first second : List Join) (outer : Scope) (scopes : List Scope) :
    Join.scopes database (first ++ second) outer scopes =
      Join.scopes database second outer (Join.scopes database first outer scopes) := by
  induction first generalizing scopes with
  | nil => simp only [List.nil_append, Join.scopes]
  | cons join rest ih => simp only [List.cons_append, Join.scopes, ih]

/-- An inner join with a stored table extends a scope by the rows that meet its
condition. -/
theorem extend_inner (table aliasName : String) (condition : Expr) (outer scope : Scope) :
    (Join.on .inner (.table table (some aliasName)) condition).extend database outer [scope] =
      ((database.relation table).named.filter fun row =>
        condition.holdsIn database (scope ++ [(aliasName, row)] ++ outer)).map fun row =>
          scope ++ [(aliasName, row)] := by
  simp only [Join.extend, Source.rows, Source.name, Option.getD_some, joinRows_inner,
    List.flatMap_cons, List.flatMap_nil, List.append_nil]
  rfl

end Join

namespace Query

/-- The scopes that a plain SELECT chooses its rows from. -/
def joined (database : Database) (source : Option Source) (joins : List Join) (outer : Scope) :
    List Scope :=
  let start : List Scope :=
    match source with
    | none => [[]]
    | some source => (source.rows database outer).map (fun row => [(source.name, row)])
  Join.scopes database joins outer start

/-- Whether the condition of a plain SELECT, if it has one, is met. -/
def meets (database : Database) (condition : Option Expr) (scope : Scope) : Bool :=
  condition.all fun condition => condition.holdsIn database scope

theorem rows_select (database : Database) (columns : List Expr) (source : Option Source)
    (joins : List Join) (condition : Option Expr) (outer : Scope) :
    (Query.select columns source joins condition).rows database outer =
      ((joined database source joins outer).filter fun scope =>
        meets database condition (scope ++ outer)).map fun scope =>
          Expr.values database columns (scope ++ outer) := by
  cases condition with
  | none =>
      have hall : ∀ scopes : List Scope, scopes.filter (fun _ => true) = scopes :=
        fun scopes => List.filter_eq_self.mpr fun _ _ => rfl
      cases source <;> simp only [Query.rows, joined, meets, Option.all_none, hall]
  | some condition =>
      cases source <;> simp only [Query.rows, joined, meets, Option.all_some, Expr.holdsIn]

/-- One more condition on a plain SELECT has to be met as well. -/
theorem rows_addFilter (database : Database) (columns : List Expr) (source : Option Source)
    (joins : List Join) (condition : Option Expr) (added : Expr) (outer : Scope) :
    ((Query.select columns source joins condition).addFilter added).rows database outer =
      ((joined database source joins outer).filter fun scope =>
        meets database condition (scope ++ outer) &&
          added.holdsIn database (scope ++ outer)).map fun scope =>
            Expr.values database columns (scope ++ outer) := by
  cases condition with
  | none => simp only [Query.addFilter, rows_select, meets, Option.all_some, Option.all_none,
      Bool.true_and]
  | some existing =>
      simp only [Query.addFilter, rows_select, meets, Option.all_some, Expr.holdsIn_and]

theorem allRows_eq_flatMap (database : Database) (queries : List Query) (outer : Scope) :
    Query.allRows database queries outer =
      queries.flatMap fun query => query.rows database outer := by
  induction queries with
  | nil => simp only [Query.allRows, List.flatMap_nil]
  | cons query rest ih => simp only [Query.allRows, List.flatMap_cons, ih]

/-- The rows of a union are those of its branches. -/
theorem rows_ofBranches? {queries : List Query} {query : Query}
    (h : Query.ofBranches? queries = some query) (database : Database) (outer : Scope) :
    query.rows database outer = queries.flatMap fun branch => branch.rows database outer := by
  match queries, h with
  | [single], h =>
      cases h
      simp
  | first :: second :: rest, h =>
      cases h
      simp only [Query.rows, allRows_eq_flatMap, List.flatMap_cons, List.append_assoc]

theorem columnNames_ofBranches? {first : Query} {rest : List Query} {query : Query}
    (h : Query.ofBranches? (first :: rest) = some query) :
    query.columnNames = first.columnNames := by
  cases rest with
  | nil =>
      cases h
      rfl
  | cons second rest =>
      cases h
      rw [Query.columnNames]

end Query

end SegmentPaths
