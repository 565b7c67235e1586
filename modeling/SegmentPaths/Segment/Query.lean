/-
Segment queries: a query for contacts, and the filters attached to it in groups.
The filters of a group all have to hold, and one group has to.
-/
import SegmentPaths.Segment.Filter

namespace SegmentPaths

/-- Whether a query is about every contact or about one. -/
inductive ContactRestriction
  | allContacts
  | contact (id : Int64)
deriving DecidableEq

/-- A base query with groups of conditions and the values of placeholders. -/
structure SegmentQuery where
  base : Query
  params : Parameters
  groups : List (List Expr)

namespace SegmentQuery

def new (base : Query) : SegmentQuery := ⟨base, .empty, []⟩

/-- Adds a condition to the last group, or to a new one behind it. -/
def extend (glue : Glue) (condition : Expr) : List (List Expr) → List (List Expr)
  | [] => [[condition]]
  | [group] =>
    match glue with
    | .and => [group ++ [condition]]
    | .or => [group, [condition]]
  | group :: next :: rest => group :: extend glue condition (next :: rest)

def addCondition (segment : SegmentQuery) (glue : Glue) (condition : Expr) : SegmentQuery :=
  { segment with groups := extend glue condition segment.groups }

def conditionCount (segment : SegmentQuery) : Nat :=
  segment.groups.flatten.length

/-- Expressions joined by one operator from the left. -/
def joined? (op : BinaryOp) : List Expr → Option Expr
  | [] => none
  | first :: rest => some (rest.foldl (Expr.binary op) first)

/-- The condition of all groups: each group is a conjunction, and they are
alternatives. -/
def condition? (segment : SegmentQuery) : Option Expr :=
  joined? .or (segment.groups.filterMap (joined? .and))

/-- The base query under the condition of all groups. -/
def query (segment : SegmentQuery) : Query :=
  match segment.condition? with
  | some condition => segment.base.addFilter condition
  | none => segment.base

def render (segment : SegmentQuery) (dialect : Dialect) : Except Fault (String × Parameters) :=
  (segment.query.render dialect).map (fun sql => (sql, segment.params))

end SegmentQuery

/-- What the platform does with a filter of its own: it gets the filter, the
alias of the contact table and the segment so far. -/
abbrev NativeHandler := RawFilter → String → SegmentQuery → Except QueryError SegmentQuery

/-- Attaches filters to segment queries. -/
structure Dispatcher where
  compiler : PathCompiler
  native : Option NativeHandler

/-- Why a filter could not be attached. -/
inductive AttachError
  | query (error : QueryError)
  | fault (fault : Fault)

namespace Dispatcher

/-- The fragments of a filter before any restriction. -/
def compile (dispatcher : Dispatcher) (filter : SegmentFilter) (seed : String) :
    Except QueryError FragmentUnion :=
  match filter with
  | .customField _ filter => dispatcher.compiler.compileField filter seed
  | .customItem _ filter => dispatcher.compiler.compileItems filter seed
  | .native raw => .error (.invalidFilter (.platformFilter raw.field raw.object))

/-- The fragments of a filter, for all contacts or for one. -/
def build (dispatcher : Dispatcher) (filter : SegmentFilter) (seed : String)
    (restriction : ContactRestriction) : Except QueryError FragmentUnion := do
  let union ← dispatcher.compile filter seed
  match restriction with
  | .allContacts => pure union
  | .contact id => pure (union.restrictToContact id)

/-- The condition that a contact is among those of a query, or is not. -/
def membership (contactAlias seed : String) (matching : Query) (negative : Bool) : Expr :=
  let unionAlias := seedName seed "union"
  .inQuery (.tableColumn contactAlias "id")
    (.select [.tableColumn unionAlias "contact_id"] (some (.derived matching unionAlias)) [] none)
    negative

/-- Attaches a filter to a segment.  A refused filter changes nothing; when two
values of one placeholder meet, the condition stays and the values up to the
conflict are taken over. -/
def apply (dispatcher : Dispatcher) (filter : SegmentFilter) (segment : SegmentQuery)
    (contactAlias seed : String) (restriction : ContactRestriction) :
    SegmentQuery × Option AttachError :=
  match filter with
  | .native raw =>
    match dispatcher.native with
    | none => (segment, some (.query (.invalidFilter (.noPlatformHandler raw.field))))
    | some handler =>
      match handler raw contactAlias segment with
      | .ok next => (next, none)
      | .error error => (segment, some (.query error))
  | filter =>
    match dispatcher.build filter seed restriction with
    | .error error => (segment, some (.query error))
    | .ok union =>
      match union.query with
      | .error fault => (segment, some (.fault fault))
      | .ok matching =>
        let next := segment.addCondition filter.glue
          (membership contactAlias seed matching filter.isNegative)
        match union.params with
        | .error fault => (next, some (.fault fault))
        | .ok params =>
          match next.params.merge params with
          | (merged, none) => ({ next with params := merged }, none)
          | (merged, some name) =>
            ({ next with params := merged }, some (.fault (.conflictingValues name)))

end Dispatcher

end SegmentPaths
