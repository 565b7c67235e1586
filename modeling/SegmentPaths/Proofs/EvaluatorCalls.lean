/-
The statements that an evaluator runs.  They are what the compiler makes of the filters, in the
order of the filters and without those that it refuses, up to the first that cannot be run.
-/
import SegmentPaths.Proofs.NoFaults

namespace SegmentPaths

/-- The statement of a compiled filter. -/
def CompiledFilter.statement (compiled : CompiledFilter) : Statement :=
  ⟨compiled.query, compiled.sql, compiled.params⟩

/-- Whether an executor that is given statements one after the other gives these answers and
ends in a state. -/
inductive Executor.Conversation {State : Type} (executor : Executor State) :
    State → List (Statement × Except ExecuteError (List Int64)) → State → Prop
  | nil (state : State) : Conversation executor state [] state
  | cons {state next final : State} {statement : Statement}
      {answer : Except ExecuteError (List Int64)}
      {rest : List (Statement × Except ExecuteError (List Int64))}
      (hrun : executor.run state statement = (answer, next))
      (hrest : Conversation executor next rest final) :
      Conversation executor state ((statement, answer) :: rest) final

/-- Whether a filter holds for the contact whose ids its statement found, or did not find. -/
def CompiledFilter.matchedBy (compiled : CompiledFilter) (ids : List Int64) : Bool :=
  (!ids.isEmpty) != compiled.negated

/-- What an evaluation has come to after some more filters were answered with contact ids. -/
def Evaluation.after (evaluation : Evaluation) (answered : List (CompiledFilter × List Int64)) :
    Evaluation where
  evaluated := evaluation.evaluated || !answered.isEmpty
  matched := evaluation.matched || answered.any fun entry => entry.1.matchedBy entry.2

namespace Evaluator

variable (evaluator : Evaluator) (contact : Int64)

/-- The options under which an evaluator compiles the filter at an index. -/
def options (dialect : Dialect) (index : Nat) : CompileOptions where
  dialect := dialect
  depth := evaluator.dispatcher.compiler.depth
  scope := evaluator.dispatcher.compiler.scope
  seed := filterSeed index
  restriction := .contact contact

/-- What the compiler makes of filters with their indices counted up, without those that it
refuses. -/
def plan (dialect : Dialect) (index : Nat) (filters : List RawFilter) : List CompiledFilter :=
  (filters.zipIdx index).filterMap fun entry =>
    (compileFilter entry.1 evaluator.dispatcher.compiler.metadata
      (evaluator.options contact dialect entry.2)).toOption

section Runs

variable {State : Type} (executor : Executor State)

/-- Whether an evaluation of filters from an index on comes to an end: each statement of the plan
is run and answered with contact ids. -/
def Completes (index : Nat) (filters : List RawFilter) (evaluation : Evaluation) (state : State)
    (log : List Statement) : Prop :=
  ∃ (answered : List (CompiledFilter × List Int64)) (final : State),
    evaluator.plan contact executor.dialect index filters = answered.map Prod.fst ∧
    executor.Conversation state
      (answered.map fun entry => (entry.1.statement, .ok entry.2)) final ∧
    evaluator.evaluateFrom contact executor.recording index evaluation (state, log) filters =
      (.ok (evaluation.after answered), final,
        (answered.map fun entry => entry.1.statement).reverse ++ log)

end Runs

end Evaluator

end SegmentPaths
