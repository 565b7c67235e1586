/-
What the columns of a statement are qualified with.  A statement reads the rows in
sight only through these names, so scopes that agree on them give it the same meaning,
however deep its queries are nested.
-/
import SegmentPaths.Proofs.Rows

namespace SegmentPaths

mutual

/-- What the columns in an expression are qualified with; none for a column that is not. -/
def Expr.qualifiers : Expr → List (Option String)
  | .column table _ => [table]
  | .int _ | .text _ | .param _ => []
  | .binary _ left right => left.qualifiers ++ right.qualifiers
  | .likeEscaped subject pattern => subject.qualifiers ++ pattern.qualifiers
  | .inList subject values => subject.qualifiers ++ Expr.listQualifiers values
  | .inQuery subject query _ => subject.qualifiers ++ query.qualifiers
  | .notNull subject => subject.qualifiers

def Expr.listQualifiers : List Expr → List (Option String)
  | [] => []
  | expr :: rest => expr.qualifiers ++ Expr.listQualifiers rest

/-- What the columns in a query are qualified with, its inner queries included. -/
def Query.qualifiers : Query → List (Option String)
  | .select columns source joins condition =>
    Expr.listQualifiers columns ++
      (match source with
        | none => []
        | some source => source.qualifiers) ++
      Join.listQualifiers joins ++
      (match condition with
        | none => []
        | some condition => condition.qualifiers)
  | .unionAll first second rest =>
    first.qualifiers ++ second.qualifiers ++ Query.listQualifiers rest

def Query.listQualifiers : List Query → List (Option String)
  | [] => []
  | query :: rest => query.qualifiers ++ Query.listQualifiers rest

def Source.qualifiers : Source → List (Option String)
  | .table _ _ => []
  | .derived query _ => query.qualifiers

def Join.qualifiers : Join → List (Option String)
  | .on _ source condition => source.qualifiers ++ condition.qualifiers

def Join.listQualifiers : List Join → List (Option String)
  | [] => []
  | join :: rest => join.qualifiers ++ Join.listQualifiers rest

end

theorem Query.qualifiers_select (columns : List Expr) (source : Option Source)
    (joins : List Join) (condition : Option Expr) :
    (Query.select columns source joins condition).qualifiers =
      Expr.listQualifiers columns ++ source.elim [] Source.qualifiers ++
        Join.listQualifiers joins ++ condition.elim [] Expr.qualifiers := by
  cases source <;> cases condition <;> rw [Query.qualifiers] <;> rfl

/-- Columns with these qualifiers are found in the same rows of both scopes. -/
def Scope.AgreeOn (qualifiers : List (Option String)) (first second : Scope) : Prop :=
  ∀ qualifier ∈ qualifiers, ∃ table, qualifier = some table ∧
    first.lookup table = second.lookup table

namespace Scope.AgreeOn

variable {first second : Scope} {qualifiers more : List (Option String)}

theorem left (h : AgreeOn (qualifiers ++ more) first second) :
    AgreeOn qualifiers first second :=
  fun qualifier hqualifier => h qualifier (List.mem_append_left more hqualifier)

theorem right (h : AgreeOn (qualifiers ++ more) first second) : AgreeOn more first second :=
  fun qualifier hqualifier => h qualifier (List.mem_append_right qualifiers hqualifier)

/-- Rows of inner tables come first and hide what they hide in both scopes. -/
theorem behind (h : AgreeOn qualifiers first second) (inner : Scope) :
    AgreeOn qualifiers (inner ++ first) (inner ++ second) := by
  intro qualifier hqualifier
  obtain ⟨table, rfl, hsame⟩ := h qualifier hqualifier
  refine ⟨table, rfl, ?_⟩
  rw [List.lookup_append, List.lookup_append, hsame]

/-- Rows of tables that nothing is qualified with make no difference. -/
theorem past {added : Scope} (hqualified : none ∉ qualifiers)
    (hadded : ∀ entry ∈ added, some entry.1 ∉ qualifiers) (front back : Scope) :
    AgreeOn qualifiers (front ++ added ++ back) (front ++ back) := by
  intro qualifier hqualifier
  cases qualifier with
  | none => exact absurd hqualifier hqualified
  | some table =>
      have hnone : added.lookup table = none := Scope.lookup_eq_none fun entry hentry hsame =>
        hadded entry hentry (hsame ▸ hqualifier)
      refine ⟨table, rfl, ?_⟩
      rw [List.append_assoc, List.lookup_append, List.lookup_append, hnone, Option.none_or,
        List.lookup_append]

end Scope.AgreeOn

section Evaluation

variable (database : Database)

mutual

/-- Evaluation reads a scope only through the qualifiers of columns. -/
theorem Expr.value_agree : (expr : Expr) → ∀ {first second : Scope},
    Scope.AgreeOn expr.qualifiers first second →
      expr.value database first = expr.value database second
  | .column none name, first, second, h => by
      rw [Expr.qualifiers] at h
      obtain ⟨table, hnone, -⟩ := h none List.mem_cons_self
      cases hnone
  | .column (some table) name, first, second, h => by
      rw [Expr.qualifiers] at h
      obtain ⟨found, hsome, hsame⟩ := h (some table) List.mem_cons_self
      cases hsome
      rw [Expr.value, Expr.value, Scope.column, Scope.column, hsame]
  | .int value, first, second, _ => by rw [Expr.value, Expr.value]
  | .text value, first, second, _ => by rw [Expr.value, Expr.value]
  | .param name, first, second, _ => by rw [Expr.value, Expr.value]
  | .binary op left right, first, second, h => by
      rw [Expr.qualifiers] at h
      rw [Expr.value, Expr.value, left.value_agree h.left, right.value_agree h.right]
  | .likeEscaped subject pattern, first, second, h => by
      rw [Expr.qualifiers] at h
      rw [Expr.value, Expr.value, subject.value_agree h.left, pattern.value_agree h.right]
  | .inList subject values, first, second, h => by
      rw [Expr.qualifiers] at h
      rw [Expr.value, Expr.value, subject.value_agree h.left, Expr.values_agree values h.right]
  | .inQuery subject query negated, first, second, h => by
      rw [Expr.qualifiers] at h
      rw [Expr.value, Expr.value, subject.value_agree h.left, query.rows_agree h.right]
  | .notNull subject, first, second, h => by
      rw [Expr.qualifiers] at h
      rw [Expr.value, Expr.value, subject.value_agree h]

theorem Expr.values_agree : (exprs : List Expr) → ∀ {first second : Scope},
    Scope.AgreeOn (Expr.listQualifiers exprs) first second →
      Expr.values database exprs first = Expr.values database exprs second
  | [], first, second, _ => by rw [Expr.values, Expr.values]
  | expr :: rest, first, second, h => by
      rw [Expr.listQualifiers] at h
      rw [Expr.values, Expr.values, expr.value_agree h.left, Expr.values_agree rest h.right]

/-- A query sees the outer scope behind its own tables. -/
theorem Query.rows_agree : (query : Query) → ∀ {first second : Scope},
    Scope.AgreeOn query.qualifiers first second →
      query.rows database first = query.rows database second
  | .select columns source joins condition, first, second, h => by
      rw [Query.qualifiers_select] at h
      have hjoins := Join.scopes_agree joins h.left.right
      have hcolumns : ∀ scope : Scope, Expr.values database columns (scope ++ first) =
          Expr.values database columns (scope ++ second) := fun scope =>
        Expr.values_agree columns (h.left.left.left.behind scope)
      have hjoined : Query.joined database source joins first =
          Query.joined database source joins second := by
        cases source with
        | none => exact hjoins [[]]
        | some source => simp only [Query.joined, source.rows_agree h.left.left.right, hjoins]
      have hmeets : ∀ scope : Scope, Query.meets database condition (scope ++ first) =
          Query.meets database condition (scope ++ second) := by
        intro scope
        cases condition with
        | none => rfl
        | some condition =>
            exact congrArg Datum.holds (condition.value_agree (h.right.behind scope))
      rw [Query.rows_select, Query.rows_select, hjoined]
      simp only [hmeets, hcolumns]
  | .unionAll query next rest, first, second, h => by
      rw [Query.qualifiers] at h
      rw [Query.rows, Query.rows, query.rows_agree h.left.left, next.rows_agree h.left.right,
        Query.allRows_agree rest h.right]

theorem Query.allRows_agree : (queries : List Query) → ∀ {first second : Scope},
    Scope.AgreeOn (Query.listQualifiers queries) first second →
      Query.allRows database queries first = Query.allRows database queries second
  | [], first, second, _ => by rw [Query.allRows, Query.allRows]
  | query :: rest, first, second, h => by
      rw [Query.listQualifiers] at h
      rw [Query.allRows, Query.allRows, query.rows_agree h.left, Query.allRows_agree rest h.right]

theorem Source.rows_agree : (source : Source) → ∀ {first second : Scope},
    Scope.AgreeOn source.qualifiers first second →
      source.rows database first = source.rows database second
  | .table name aliasName, first, second, _ => by rw [Source.rows, Source.rows]
  | .derived query aliasName, first, second, h => by
      rw [Source.qualifiers] at h
      rw [Source.rows, Source.rows, query.rows_agree h]

theorem Join.extend_agree : (join : Join) → ∀ {first second : Scope},
    Scope.AgreeOn join.qualifiers first second → ∀ scopes : List Scope,
      join.extend database first scopes = join.extend database second scopes
  | .on kind source condition, first, second, h, scopes => by
      rw [Join.qualifiers] at h
      have hcondition : ∀ scope : Scope, condition.value database (scope ++ first) =
          condition.value database (scope ++ second) := fun scope =>
        condition.value_agree (h.right.behind scope)
      rw [Join.extend, Join.extend, source.rows_agree h.left]
      simp only [hcondition]

theorem Join.scopes_agree : (joins : List Join) → ∀ {first second : Scope},
    Scope.AgreeOn (Join.listQualifiers joins) first second → ∀ scopes : List Scope,
      Join.scopes database joins first scopes = Join.scopes database joins second scopes
  | [], first, second, _, scopes => by rw [Join.scopes, Join.scopes]
  | join :: rest, first, second, h, scopes => by
      rw [Join.listQualifiers] at h
      rw [Join.scopes, Join.scopes, join.extend_agree h.left, Join.scopes_agree rest h.right]

end

end Evaluation

end SegmentPaths
