/-
The promises between the parts of the compiler are kept.  A stored filter is either
compiled or refused with an error that its author can read, and no evaluation ends in
a fault, whatever the filters, the metadata and the options are.
-/
import SegmentPaths.Proofs.BuiltFilters
import SegmentPaths.Segment.Evaluation

namespace SegmentPaths

namespace BuiltFilter

variable {dispatcher : Dispatcher} (built : BuiltFilter dispatcher)

/-- What a stored filter is compiled to. -/
def compiled (dialect : Dialect) : CompiledFilter where
  sql := built.query.sql dialect
  params := built.params
  query := built.query
  dialect := dialect
  fragments := built.union.count
  negated := built.filter.isNegative

theorem render_query (dialect : Dialect) :
    built.query.render dialect = .ok (built.query.sql dialect) := by
  rw [Query.render, built.hasEmptyList_query]
  exact if_neg Bool.false_ne_true

theorem render_union (dialect : Dialect) :
    built.union.render dialect = .ok (built.query.sql dialect, built.params) := by
  simp only [FragmentUnion.render, built.hasQuery, built.render_query, built.hasParams, bind,
    Except.bind, pure, Except.pure]

end BuiltFilter

section Compiling

variable {raw : RawFilter} {metadata : Metadata} {options : CompileOptions}
  {filter : SegmentFilter}

/-- A stored filter that is built is compiled to what it is built to. -/
theorem compileFilter_of_build (hfilter : SegmentFilter.ofRaw raw = .ok filter)
    {union : FragmentUnion}
    (hbuild : Dispatcher.build ⟨⟨metadata, options.depth, options.scope⟩, none⟩ filter
      options.seed options.restriction = .ok union) :
    ∃ built : BuiltFilter ⟨⟨metadata, options.depth, options.scope⟩, none⟩,
      built.filter = filter ∧ built.seed = options.seed ∧
      built.restriction = options.restriction ∧
      compileFilter raw metadata options = .ok (built.compiled options.dialect) := by
  obtain ⟨built, hrequest, rfl⟩ :=
    BuiltFilter.exists_of_build ⟨filter, "", options.seed, options.restriction⟩ hbuild
  have hsame : built.filter = filter ∧ built.seed = options.seed ∧
      built.restriction = options.restriction := by
    simp [hrequest]
  obtain ⟨rfl, hseed, hrestriction⟩ := hsame
  refine ⟨built, rfl, hseed, hrestriction, ?_⟩
  simp only [compileFilter, hfilter, hbuild, built.hasQuery, built.render_query, built.hasParams,
    CompileError.ofQuery, CompileError.ofFault, Except.mapError, bind, Except.bind, pure,
    Except.pure, BuiltFilter.compiled]

theorem compileFilter_of_ofRaw_error {error : QueryError}
    (hfilter : SegmentFilter.ofRaw raw = .error error) :
    compileFilter raw metadata options = .error (.query error) := by
  rw [compileFilter, hfilter]
  rfl

theorem compileFilter_of_build_error (hfilter : SegmentFilter.ofRaw raw = .ok filter)
    {error : QueryError}
    (hbuild : Dispatcher.build ⟨⟨metadata, options.depth, options.scope⟩, none⟩ filter
      options.seed options.restriction = .error error) :
    compileFilter raw metadata options = .error (.query error) := by
  simp only [compileFilter, hfilter, hbuild, CompileError.ofQuery, Except.mapError, bind,
    Except.bind]

end Compiling

/-- What the compiler answers: an error about the filter, or else what it is built to. -/
theorem compileFilter_cases (raw : RawFilter) (metadata : Metadata) (options : CompileOptions) :
    (∃ error, compileFilter raw metadata options = .error (.query error)) ∨
    ∃ built : BuiltFilter ⟨⟨metadata, options.depth, options.scope⟩, none⟩,
      SegmentFilter.ofRaw raw = .ok built.filter ∧ built.seed = options.seed ∧
      built.restriction = options.restriction ∧
      compileFilter raw metadata options = .ok (built.compiled options.dialect) := by
  cases hfilter : SegmentFilter.ofRaw raw with
  | error error => exact Or.inl ⟨error, compileFilter_of_ofRaw_error hfilter⟩
  | ok filter =>
      cases hbuild : Dispatcher.build ⟨⟨metadata, options.depth, options.scope⟩, none⟩ filter
          options.seed options.restriction with
      | error error => exact Or.inl ⟨error, compileFilter_of_build_error hfilter hbuild⟩
      | ok union =>
          obtain ⟨built, rfl, hrest⟩ := compileFilter_of_build hfilter hbuild
          exact Or.inr ⟨built, rfl, hrest⟩

namespace Evaluator

variable (evaluator : Evaluator) {contact : Int64} {index : Nat} {raw : RawFilter}

/-- What is to be run for a stored filter is what it is built to; a filter of the platform is
refused like any other. -/
theorem union?_eq (contact : Int64) (index : Nat) (raw : RawFilter) :
    evaluator.union? contact index raw = (SegmentFilter.ofRaw raw).toOption.bind fun filter =>
      (evaluator.dispatcher.build filter (filterSeed index) (.contact contact)).toOption.map
        fun union => (union, filter.isNegative) := by
  unfold union?
  rcases SegmentFilter.ofRaw raw with error | filter
  · rfl
  · rcases filter with ⟨glue, filter⟩ | ⟨glue, filter⟩ | native
    · dsimp only [Except.toOption, Option.bind_some]
      cases evaluator.dispatcher.build _ _ _ <;> rfl
    · dsimp only [Except.toOption, Option.bind_some]
      cases evaluator.dispatcher.build _ _ _ <;> rfl
    · rfl

/-- A union that is to be run is one that a filter is built to. -/
theorem exists_built_of_union? {union : FragmentUnion} {negative : Bool}
    (h : evaluator.union? contact index raw = some (union, negative)) :
    ∃ built : BuiltFilter evaluator.dispatcher, built.union = union := by
  rw [union?_eq] at h
  obtain ⟨filter, _, hrest⟩ := Option.bind_eq_some_iff.mp h
  obtain ⟨found, hbuild, hsame⟩ := Option.map_eq_some_iff.mp hrest
  cases hsame
  obtain ⟨built, _, hunion⟩ := BuiltFilter.exists_of_build
    ⟨filter, "", filterSeed index, .contact contact⟩ (eq_ok_of_toOption hbuild)
  exact ⟨built, hunion⟩

/-- Running what a filter is built to is never a fault. -/
theorem hasRows_ne_fault {dispatcher : Dispatcher} (built : BuiltFilter dispatcher)
    {State : Type} (executor : Executor State) (state : State) (fault : Fault) :
    (hasRows executor state built.union).1 ≠ .error (.fault fault) := by
  rw [hasRows, built.hasQuery, built.render_union]
  intro hfault
  dsimp only at hfault
  split at hfault <;> cases hfault

/-- An evaluation from any index on is never a fault. -/
theorem evaluateFrom_ne_fault {State : Type} (executor : Executor State) (filters : List RawFilter)
    (index : Nat) (evaluation : Evaluation) (state : State) (fault : Fault) :
    (evaluator.evaluateFrom contact executor index evaluation state filters).1 ≠
      .error (.fault fault) := by
  induction filters generalizing index evaluation state with
  | nil =>
      intro hfault
      cases hfault
  | cons raw rest ih =>
      rw [evaluateFrom]
      split
      · exact ih _ _ _
      · rename_i union negative hunion
        obtain ⟨built, rfl⟩ := evaluator.exists_built_of_union? hunion
        split
        · rename_i error next hrows
          intro hfault
          apply hasRows_ne_fault built executor state fault
          rw [hrows]
          exact congrArg Except.error (Except.error.inj hfault)
        · exact ih _ _ _

end Evaluator

/-- Compiling never breaks a promise.  Every stored filter is compiled or refused with an
error about the filter, under any metadata and any options; and deciding stored filters for a
contact never ends in a fault, whatever answers the statements. -/
theorem compileFilter_and_evaluate_never_fault :
    (∀ (raw : RawFilter) (metadata : Metadata) (options : CompileOptions),
      (∃ compiled, compileFilter raw metadata options = .ok compiled) ∨
        ∃ error, compileFilter raw metadata options = .error (.query error)) ∧
    ∀ (State : Type) (executor : Executor State) (state : State) (evaluator : Evaluator)
      (contact : Int64) (filters : List RawFilter) (fault : Fault),
      (evaluator.evaluate contact filters executor state).1 ≠ .error (.fault fault) := by
  constructor
  · intro raw metadata options
    rcases compileFilter_cases raw metadata options with herror | ⟨built, _, _, _, hcompiled⟩
    · exact Or.inr herror
    · exact Or.inl ⟨_, hcompiled⟩
  · intro State executor state evaluator contact filters fault
    rw [Evaluator.evaluate]
    split
    · exact evaluator.evaluateFrom_ne_fault executor filters 0 _ state fault
    · intro hfault
      cases hfault

end SegmentPaths
