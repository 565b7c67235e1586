/-
What can go wrong inside the compiler whatever its input is: the conditions it
checks of its own intermediate results.
-/
import SegmentPaths.Sql.Parameters
import SegmentPaths.Sql.Query

namespace SegmentPaths

/-- A broken promise between two parts of the compiler. -/
inductive Fault
  | emptyList
  | emptyUnion
  | conflictingValues (name : String)
deriving DecidableEq

def Fault.message : Fault → String
  | .emptyList => "IN with an empty list"
  | .emptyUnion => "rendering an empty UnionQueryContainer"
  | .conflictingValues name => "parameter \x60" ++ name ++ "\x60 bound to conflicting values"

/-- The text of an expression in which no IN has an empty list. -/
def Expr.render (dialect : Dialect) (expr : Expr) : Except Fault String :=
  if expr.hasEmptyList then .error .emptyList else .ok (expr.sql dialect)

/-- The text of a query in which no IN has an empty list. -/
def Query.render (dialect : Dialect) (query : Query) : Except Fault String :=
  if query.hasEmptyList then .error .emptyList else .ok (query.sql dialect)

/-- All of another map added, or the name that both maps bind differently. -/
def Parameters.merged (params other : Parameters) : Except Fault Parameters :=
  match params.merge other with
  | (result, none) => .ok result
  | (_, some name) => .error (.conflictingValues name)

end SegmentPaths
