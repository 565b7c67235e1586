/-
Deciding for one contact whether it matches stored filters, by running the query
of each filter restricted to the contact.
-/
import SegmentPaths.Segment.Compile

namespace SegmentPaths

structure Evaluation where
  evaluated : Bool
  matched : Bool
deriving DecidableEq

/-- A query with its text and its values, as it is handed to a database. -/
structure Statement where
  query : Query
  sql : String
  params : Parameters

/-- Why running a statement failed. -/
inductive ExecuteError
  | backend (reason : String)
  | sqlite (reason : String)
deriving DecidableEq

def ExecuteError.message : ExecuteError → String
  | .backend reason => "Database error: " ++ reason
  | .sqlite reason => "SQLite error: " ++ reason

/-- Something that answers statements with contact ids and goes on in a new
state. -/
structure Executor (State : Type) where
  dialect : Dialect
  run : State → Statement → Except ExecuteError (List Int64) × State

namespace Executor

/-- Answers statements from a list, and with no contacts once it has run out. -/
def scripted (dialect : Dialect) : Executor (List (Except ExecuteError (List Int64))) where
  dialect := dialect
  run replies _ :=
    match replies with
    | [] => (.ok [], [])
    | reply :: rest => (reply, rest)

/-- Keeps the statements that an executor is given, the last one first. -/
def recording {State : Type} (executor : Executor State) :
    Executor (State × List Statement) where
  dialect := executor.dialect
  run state statement :=
    let (answer, next) := executor.run state.1 statement
    (answer, next, statement :: state.2)

end Executor

/-- Why an evaluation ended early. -/
inductive EvaluationError
  | execute (error : ExecuteError)
  | fault (fault : Fault)

/-- Decides filters for contacts. -/
structure Evaluator where
  dispatcher : Dispatcher
  enabled : Bool

namespace Evaluator

/-- The seed of the filter at an index. -/
def filterSeed (index : Nat) : String := seedName "filter" (Decimal.natText index)

/-- The fragments to run for a stored filter; none for a filter of the platform
or one that cannot be compiled. -/
def union? (evaluator : Evaluator) (contact : Int64) (index : Nat) (raw : RawFilter) :
    Option (FragmentUnion × Bool) :=
  match SegmentFilter.ofRaw raw with
  | .error _ => none
  | .ok (.native _) => none
  | .ok filter =>
    match evaluator.dispatcher.build filter (filterSeed index) (.contact contact) with
    | .error _ => none
    | .ok union => some (union, filter.isNegative)

/-- Runs the fragments of a filter: whether any contact is found. -/
def hasRows {State : Type} (executor : Executor State) (state : State) (union : FragmentUnion) :
    Except EvaluationError Bool × State :=
  match union.query, union.render executor.dialect with
  | .ok query, .ok (sql, params) =>
    match executor.run state ⟨query, sql, params⟩ with
    | (.ok ids, next) => (.ok (!ids.isEmpty), next)
    | (.error error, next) => (.error (.execute error), next)
  | .error fault, _ => (.error (.fault fault), state)
  | _, .error fault => (.error (.fault fault), state)

/-- Decides filters one after the other, with their indices counted up.  A
negative filter matches when its query finds nothing. -/
def evaluateFrom {State : Type} (evaluator : Evaluator) (contact : Int64)
    (executor : Executor State) :
    Nat → Evaluation → State → List RawFilter → Except EvaluationError Evaluation × State
  | _, evaluation, state, [] => (.ok evaluation, state)
  | index, evaluation, state, raw :: rest =>
    match evaluator.union? contact index raw with
    | none => evaluateFrom evaluator contact executor (index + 1) evaluation state rest
    | some (union, negative) =>
      match hasRows executor state union with
      | (.error error, next) => (.error error, next)
      | (.ok found, next) =>
        evaluateFrom evaluator contact executor (index + 1)
          ⟨true, evaluation.matched || found != negative⟩ next rest

/-- Decides stored filters for a contact. -/
def evaluate {State : Type} (evaluator : Evaluator) (contact : Int64) (filters : List RawFilter)
    (executor : Executor State) (state : State) : Except EvaluationError Evaluation × State :=
  if evaluator.enabled then
    evaluateFrom evaluator contact executor 0 ⟨false, false⟩ state filters
  else (.ok ⟨false, false⟩, state)

end Evaluator

end SegmentPaths
