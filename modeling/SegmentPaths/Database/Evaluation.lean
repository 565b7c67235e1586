/-
What queries mean: the rows that a query returns from the tables of a database.
Rows are kept as a list, since UNION ALL and joins count how often each one
comes; their order is no part of the meaning.
-/
import SegmentPaths.Database.Datum
import SegmentPaths.Sql.Query

namespace SegmentPaths

/-- A table: the names of its columns, and its rows. -/
structure Relation where
  columns : List String
  rows : List (List Datum)

/-- Everything that the meaning of a query depends on: the tables, the values of
placeholders, and the tests on texts that differ from database to database. -/
structure Database where
  table? : String → Option Relation
  params : Parameters
  like : String → String → Bool
  likeEscaped : String → String → Bool
  regexp : String → String → Bool

/-- The values of a row under the names of their columns. -/
abbrev Row := List (String × Datum)

/-- The rows in sight, each under the name of the table it is from.  Rows of an
inner query come first. -/
abbrev Scope := List (String × Row)

namespace Relation

/-- The rows with the names of their columns. -/
def named (relation : Relation) : List Row :=
  relation.rows.map (fun values => relation.columns.zip values)

/-- A row of nulls. -/
def nullRow (columns : List String) : Row := columns.map (fun column => (column, Datum.null))

end Relation

namespace Scope

/-- The value of a column of the table with a name; null if there is none. -/
def column (scope : Scope) (table name : String) : Datum :=
  ((scope.lookup table).bind (fun row => row.lookup name)).getD .null

/-- The value of a column of the first table that has it. -/
def anyColumn (scope : Scope) (name : String) : Datum :=
  (scope.findSome? (fun (_, row) => row.lookup name)).getD .null

end Scope

namespace Database

/-- The columns and rows of a table; a table that is not there has none. -/
def relation (database : Database) (name : String) : Relation :=
  (database.table? name).getD ⟨[], []⟩

/-- The value of a placeholder; null if it has none. -/
def param (database : Database) (name : String) : Datum :=
  match database.params.get? name with
  | none => .null
  | some value => .ofParam value

/-- An operator between two values. -/
def binary (database : Database) : BinaryOp → Datum → Datum → Truth
  | .equal, a, b => Datum.equal a b
  | .unequal, a, b => Truth.not (Datum.equal a b)
  | .less, a, b => (Datum.order? a b).map Ordering.isLT
  | .greater, a, b => (Datum.order? a b).map Ordering.isGT
  | .lessEqual, a, b => (Datum.order? a b).map Ordering.isLE
  | .greaterEqual, a, b => (Datum.order? a b).map Ordering.isGE
  | .and, a, b => Truth.and a.truth b.truth
  | .or, a, b => Truth.or a.truth b.truth
  | .like, a, b => Datum.textTest database.like a b
  | .regexp, a, b => Datum.textTest database.regexp a b

end Database

/-- The name that a column of a result goes by. -/
def Expr.columnName : Expr → String
  | .column _ name => name
  | _ => ""

/-- The names of the columns of a result; in a union the first branch names them. -/
def Query.columnNames : Query → List String
  | .select columns _ _ _ => columns.map Expr.columnName
  | .unionAll first _ _ => first.columnNames

namespace Source

/-- The name that columns of a source are qualified with. -/
def name : Source → String
  | .table name aliasName => aliasName.getD name
  | .derived _ aliasName => aliasName

def columnNames (database : Database) : Source → List String
  | .table name _ => (database.relation name).columns
  | .derived query _ => query.columnNames

end Source

/-- Each scope with each row of a table added behind it, where the added row
passes a test.  In a left join a scope without any such row gets a row of
nulls. -/
def joinRows (kind : JoinKind) (name : String) (columns : List String) (rows : List Row)
    (passes : Scope → Bool) (scopes : List Scope) : List Scope :=
  scopes.flatMap (fun scope =>
    let extended := (rows.map (fun row => scope ++ [(name, row)])).filter passes
    match kind, extended with
    | .left, [] => [scope ++ [(name, Relation.nullRow columns)]]
    | _, _ => extended)

mutual

/-- The value of an expression. -/
def Expr.value (database : Database) : Expr → Scope → Datum
  | .column none name, scope => scope.anyColumn name
  | .column (some table) name, scope => scope.column table name
  | .int value, _ => .int value
  | .text value, _ => .text value
  | .param name, _ => database.param name
  | .binary op left right, scope =>
    .ofTruth (database.binary op (left.value database scope) (right.value database scope))
  | .likeEscaped subject pattern, scope =>
    .ofTruth (Datum.textTest database.likeEscaped (subject.value database scope)
      (pattern.value database scope))
  | .inList subject values, scope =>
    .ofTruth ((subject.value database scope).among (Expr.values database values scope))
  | .inQuery subject query negated, scope =>
    let found := (subject.value database scope).among
      ((query.rows database scope).map (fun row => row.headD .null))
    .ofTruth (if negated then Truth.not found else found)
  | .notNull subject, scope => .ofTruth (some (subject.value database scope != .null))

/-- The values of expressions. -/
def Expr.values (database : Database) : List Expr → Scope → List Datum
  | [], _ => []
  | expr :: rest, scope => expr.value database scope :: Expr.values database rest scope

/-- The rows of a query; the outer scope is what a query inside an expression
sees beyond its own tables. -/
def Query.rows (database : Database) : Query → Scope → List (List Datum)
  | .select columns source joins condition, outer =>
    let start : List Scope :=
      match source with
      | none => [[]]
      | some source => (source.rows database outer).map (fun row => [(source.name, row)])
    let joined := Join.scopes database joins outer start
    let kept :=
      match condition with
      | none => joined
      | some condition =>
        joined.filter (fun scope => (condition.value database (scope ++ outer)).holds)
    kept.map (fun scope => Expr.values database columns (scope ++ outer))
  | .unionAll first second rest, outer =>
    first.rows database outer ++ second.rows database outer ++ Query.allRows database rest outer

/-- The rows of queries, one query after the other. -/
def Query.allRows (database : Database) : List Query → Scope → List (List Datum)
  | [], _ => []
  | query :: rest, outer => query.rows database outer ++ Query.allRows database rest outer

/-- The rows of a table or of a derived table, with the names of their columns. -/
def Source.rows (database : Database) : Source → Scope → List Row
  | .table name _, _ => (database.relation name).named
  | .derived query _, outer => (Relation.mk query.columnNames (query.rows database outer)).named

/-- Scopes with the rows of one more table. -/
def Join.extend (database : Database) : Join → Scope → List Scope → List Scope
  | .on kind source condition, outer, scopes =>
    joinRows kind source.name (source.columnNames database) (source.rows database outer)
      (fun scope => (condition.value database (scope ++ outer)).holds) scopes

/-- Scopes with the rows of all joined tables. -/
def Join.scopes (database : Database) : List Join → Scope → List Scope → List Scope
  | [], _, scopes => scopes
  | join :: rest, outer, scopes =>
    Join.scopes database rest outer (join.extend database outer scopes)

end

end SegmentPaths
