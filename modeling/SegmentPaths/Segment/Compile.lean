/-
Compiling one stored filter to a statement with the values of its placeholders.
-/
import SegmentPaths.Segment.Query

namespace SegmentPaths

structure CompileOptions where
  dialect : Dialect
  depth : DepthLimit
  scope : AliasScope
  seed : String
  restriction : ContactRestriction

/-- The options where none are given. -/
def CompileOptions.standard : CompileOptions :=
  ⟨.mysql, .standard, .perFragment, "filter_0", .allContacts⟩

structure CompiledFilter where
  sql : String
  params : Parameters
  query : Query
  dialect : Dialect
  fragments : Nat
  negated : Bool

inductive CompileError
  | unreadable
  | query (error : QueryError)
  | fault (fault : Fault)

namespace CompileError

/-- An answer of the compiler with its error as one of compiling. -/
def ofQuery {A : Type} (answer : Except QueryError A) : Except CompileError A :=
  answer.mapError .query

def ofFault {A : Type} (answer : Except Fault A) : Except CompileError A :=
  answer.mapError .fault

end CompileError

/-- Compiles a stored filter. -/
def compileFilter (raw : RawFilter) (metadata : Metadata) (options : CompileOptions) :
    Except CompileError CompiledFilter := do
  let filter ← CompileError.ofQuery (SegmentFilter.ofRaw raw)
  let dispatcher : Dispatcher := ⟨⟨metadata, options.depth, options.scope⟩, none⟩
  let union ← CompileError.ofQuery
    (dispatcher.build filter options.seed options.restriction)
  let query ← CompileError.ofFault union.query
  let sql ← CompileError.ofFault (query.render options.dialect)
  let params ← CompileError.ofFault union.params
  pure
    { sql := sql, params := params, query := query, dialect := options.dialect
      fragments := union.count, negated := filter.isNegative }

/-- Compiles the text of a stored filter. -/
def compileFilterText (source : String) (metadata : Metadata) (options : CompileOptions) :
    Except CompileError CompiledFilter :=
  match RawFilter.read? source with
  | none => .error .unreadable
  | some raw => compileFilter raw metadata options

end SegmentPaths
