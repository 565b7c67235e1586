/-
Running compiled queries on stored tables.  What a query needs is looked up
before it runs: its tables, and a test for regular expressions, which a store
does not have.
-/
import SegmentPaths.Database.Evaluation
import SegmentPaths.Database.Pattern
import SegmentPaths.Database.Table
import SegmentPaths.Segment.Evaluation

namespace SegmentPaths

/-- Something that a query needs of a database. -/
inductive Requirement
  | table (name : String)
  | regexp
deriving DecidableEq

mutual

/-- What an expression needs, in the order in which it is looked up. -/
def Expr.requirements : Expr → List Requirement
  | .column _ _ | .int _ | .text _ | .param _ => []
  | .binary op left right =>
    left.requirements ++ right.requirements ++ (if op = .regexp then [.regexp] else [])
  | .likeEscaped subject pattern => subject.requirements ++ pattern.requirements
  | .inList subject values => subject.requirements ++ Expr.allRequirements values
  | .inQuery subject query _ => subject.requirements ++ query.requirements
  | .notNull subject => subject.requirements

def Expr.allRequirements : List Expr → List Requirement
  | [] => []
  | expr :: rest => expr.requirements ++ Expr.allRequirements rest

/-- What a query needs: tables first, and the last branch of a union first. -/
def Query.requirements : Query → List Requirement
  | .select columns source joins condition =>
    (match source with
      | none => []
      | some source => source.requirements) ++
      Join.allRequirements joins ++ Expr.allRequirements columns ++
      (match condition with
        | none => []
        | some condition => condition.requirements)
  | .unionAll first second rest =>
    Query.allRequirements rest ++ second.requirements ++ first.requirements

def Query.allRequirements : List Query → List Requirement
  | [] => []
  | query :: rest => Query.allRequirements rest ++ query.requirements

def Source.requirements : Source → List Requirement
  | .table name _ => [.table name]
  | .derived query _ => query.requirements

def Join.requirements : Join → List Requirement
  | .on _ source condition => source.requirements ++ condition.requirements

def Join.allRequirements : List Join → List Requirement
  | [] => []
  | join :: rest => join.requirements ++ Join.allRequirements rest

end

namespace Store

/-- The part of a text in front of its first null character, which is all that
LIKE looks at. -/
def visible (source : String) : List Char := source.toList.takeWhile (fun c => c != '\x00')

/-- Whether a text is like a pattern. -/
def isLike (escape : Option Char) (subject pattern : String) : Bool :=
  Pattern.fits Pattern.sameLetter (Pattern.parts escape (visible pattern)) (visible subject)

/-- The stored tables as a database. -/
def database (store : Store) (params : Parameters) : Database where
  table? name := (store.table? name).map (fun table => ⟨table.columnNames, table.rows⟩)
  params := params
  like := isLike none
  likeEscaped := isLike (some Expr.patternEscape)
  regexp _ _ := false

/-- A requirement that the store does not meet, as the reason for not running a
query. -/
def missingTable? (store : Store) : Requirement → Option String
  | .table name => if (store.table? name).isSome then none else some ("no such table: " ++ name)
  | .regexp => none

/-- Why a query cannot run: a table that is missing is found before a function. -/
def refusal? (store : Store) (query : Query) : Option String :=
  let requirements := query.requirements
  match requirements.findSome? store.missingTable? with
  | some reason => some reason
  | none => if requirements.contains .regexp then some "no such function: REGEXP" else none

/-- The contact that a row starts with. -/
def contactId (column : String) (row : List Datum) : Except ExecuteError Int64 :=
  match row.headD .null with
  | .int id => .ok id
  | .null => .error (.sqlite ("Invalid column type Null at index: 0, name: " ++ column))
  | .text _ => .error (.sqlite ("Invalid column type Text at index: 0, name: " ++ column))

/-- The contacts of rows, in order. -/
def contactIds (column : String) : List (List Datum) → Except ExecuteError (List Int64)
  | [] => .ok []
  | row :: rest => do
    let id ← contactId column row
    let ids ← contactIds column rest
    pure (id :: ids)

/-- Runs a query for contacts. -/
def run (store : Store) (query : Query) (params : Parameters) :
    Except ExecuteError (List Int64) :=
  match store.refusal? query with
  | some reason => .error (.sqlite reason)
  | none =>
    contactIds (query.columnNames.headD "") (query.rows (store.database params) [])

/-- The stored tables as something that answers statements. -/
def executor (store : Store) : Executor Unit where
  dialect := .mysql
  run state statement := (store.run statement.query statement.params, state)

end Store

end SegmentPaths
