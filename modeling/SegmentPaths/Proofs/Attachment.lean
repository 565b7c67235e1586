/-
Filters that are attached to a segment: the contacts that one of them selects, and
the condition it becomes.
-/
import SegmentPaths.Proofs.Compilation
import SegmentPaths.Proofs.Grouping

namespace SegmentPaths

/-- A filter that is built for all contacts, with the query and the values of its
union. -/
structure Attachment (dispatcher : Dispatcher) where
  filter : SegmentFilter
  seed : String
  union : FragmentUnion
  query : Query
  params : Parameters
  built : dispatcher.build filter seed .allContacts = .ok union
  hasQuery : union.query = .ok query
  hasParams : union.params = .ok params

namespace Attachment

variable {dispatcher : Dispatcher} (attachment : Attachment dispatcher)

/-- Whether a contact is among the rows of the union of the filter. -/
def selects (database : Database) (contact : Datum) : Bool :=
  (attachment.query.rows (database.withParams attachment.params) []).contains [contact]

/-- Whether a filter holds for a contact: a positive one for those it selects, and a
negative one for the others. -/
def holds (database : Database) (contact : Datum) : Bool :=
  attachment.selects database contact != attachment.filter.isNegative

/-- The condition that the filter becomes. -/
def condition (contactAlias : String) : Expr :=
  Dispatcher.membership contactAlias attachment.seed attachment.query
    attachment.filter.isNegative

/-- Every filter that is built can be attached. -/
theorem exists_of_build {filter : SegmentFilter} {seed : String} {union : FragmentUnion}
    (h : dispatcher.build filter seed .allContacts = .ok union) :
    ∃ attachment : Attachment dispatcher, attachment.filter = filter ∧
      attachment.seed = seed ∧ attachment.union = union := by
  obtain ⟨target, _, hfollows⟩ := Dispatcher.build_follows h
  obtain ⟨query, hquery⟩ := hfollows.exists_query
  obtain ⟨params, hparams, _⟩ := hfollows.exists_params
  exact ⟨⟨filter, seed, union, query, params, h, hquery, hparams⟩, rfl, rfl, rfl⟩

/-- Whether values of placeholders cover those of a filter. -/
def CoveredBy (params : Parameters) : Prop :=
  ∀ fragment ∈ attachment.union.fragments, params.Extends fragment.params

/-- The rows of the union of a filter, one for each contact row that is reached. -/
theorem exists_rows {installation : Installation} {database : Database}
    (hstored : installation.StoredIn dispatcher.compiler.metadata database) :
    ∃ reached : List ContactRow, (∀ row ∈ reached, row ∈ installation.contacts) ∧
      ∀ (params : Parameters) (outer : Scope), attachment.CoveredBy params →
        attachment.query.rows (database.withParams params) outer =
          reached.map fun row => [row.contact] := by
  obtain ⟨target, _, hfollows⟩ := Dispatcher.build_follows attachment.built
  refine ⟨(dispatcher.compiler.paths.flatMap (installation.reached target.source
    (target.accepts database))).filter ContactRestriction.allContacts.allows, ?_, ?_⟩
  · intro row hrow
    obtain ⟨path, _, hpath⟩ := List.mem_flatMap.mp (List.mem_filter.mp hrow).1
    exact Installation.mem_of_mem_reached hpath
  · intro params outer hcovered
    rw [hfollows.rows attachment.hasQuery (hstored.withParams params) hcovered outer,
      target.accepts_withParams]

theorem coveredBy_self : attachment.CoveredBy attachment.params := by
  obtain ⟨target, _, hfollows⟩ := Dispatcher.build_follows attachment.built
  obtain ⟨params, hparams, hextends, _⟩ := hfollows.exists_params
  rw [attachment.hasParams] at hparams
  cases hparams
  exact hextends

/-- The rows of a query that renames the only column of a derived table. -/
theorem rows_derived (database : Database) {query : Query} (aliasName : String)
    (scope : Scope) {values : List Datum} (hcolumns : query.columnNames = ["contact_id"])
    (hrows : query.rows database scope = values.map fun value => [value]) :
    (Query.select [.tableColumn aliasName "contact_id"] (some (.derived query aliasName)) []
      none).rows database scope = values.map fun value => [value] := by
  simp only [Query.rows_select, Query.joined, Source.rows, Source.name, Relation.named, hcolumns,
    hrows, Join.scopes, Query.meets, Option.all_none, List.map_map, List.filter_map,
    Function.comp_def]
  rw [List.filter_eq_self.mpr fun _ _ => rfl]
  refine List.map_congr_left fun value _ => ?_
  have hvalue : (Expr.tableColumn aliasName "contact_id").value database
      ([(aliasName, ["contact_id"].zip [value])] ++ scope) = value :=
    Expr.value_tableColumn List.lookup_cons_self List.lookup_cons_self
  simp only [Expr.values, hvalue]

end Attachment

/-- The condition that a contact is among the rows of a union, or is not, is never unknown. -/
theorem FragmentUnion.Follows.holdsIn_membership {compiler : PathCompiler} {target : Target}
    {seed : String} {allows : ContactRow → Bool} {union : FragmentUnion}
    (hfollows : union.Follows compiler target seed allows) {query : Query}
    (hquery : union.query = .ok query) {installation : Installation} {database : Database}
    (hstored : installation.StoredIn compiler.metadata database)
    (hcontacts : ∀ row ∈ installation.contacts, row.contact ≠ .null)
    (hparams : ∀ fragment ∈ union.fragments, database.params.Extends fragment.params)
    {contactAlias : String} {scope : Scope} (hid : scope.column contactAlias "id" ≠ .null)
    (name : String) (negative : Bool) :
    (Dispatcher.membership contactAlias name query negative).holdsIn database scope =
      (decide ([scope.column contactAlias "id"] ∈ query.rows database []) != negative) := by
  obtain ⟨found, hnull, hrows⟩ : ∃ found : List Datum, (∀ other ∈ found, other ≠ .null) ∧
      ∀ outer, query.rows database outer = found.map fun value => [value] := by
    refine ⟨((compiler.paths.flatMap (installation.reached target.source
      (target.accepts database))).filter allows).map ContactRow.contact, ?_, fun outer => ?_⟩
    · intro other hother
      obtain ⟨row, hrow, rfl⟩ := List.mem_map.mp hother
      obtain ⟨path, _, hpath⟩ := List.mem_flatMap.mp (List.mem_filter.mp hrow).1
      exact hcontacts row (Installation.mem_of_mem_reached hpath)
    · rw [List.map_map]
      exact hfollows.rows hquery hstored hparams outer
  have hderived := Attachment.rows_derived database (seedName name "union") scope
    (hfollows.columnNames hquery) (hrows scope)
  have hmem : [scope.column contactAlias "id"] ∈ query.rows database [] ↔
      scope.column contactAlias "id" ∈ found := by
    simp [hrows]
  rw [decide_eq_decide.mpr hmem]
  exact Expr.holdsIn_inQuery database hid hnull hderived

namespace Attachment

variable {dispatcher : Dispatcher} (attachment : Attachment dispatcher)

/-- The condition of a filter holds in the scopes of the contacts that the filter holds
for, wherever its values are covered. -/
theorem holdsIn_condition {installation : Installation} {database : Database}
    (hstored : installation.StoredIn dispatcher.compiler.metadata database)
    (hcontacts : ∀ row ∈ installation.contacts, row.contact ≠ .null) {params : Parameters}
    (hcovered : attachment.CoveredBy params) {contactAlias : String} {scope : Scope}
    (hid : scope.column contactAlias "id" ≠ .null) :
    (attachment.condition contactAlias).holdsIn (database.withParams params) scope =
      attachment.holds database (scope.column contactAlias "id") := by
  obtain ⟨target, _, hfollows⟩ := Dispatcher.build_follows attachment.built
  obtain ⟨reached, _, hrows⟩ := attachment.exists_rows hstored
  have hsame : attachment.query.rows (database.withParams params) [] =
      attachment.query.rows (database.withParams attachment.params) [] :=
    (hrows params [] hcovered).trans (hrows _ [] attachment.coveredBy_self).symm
  rw [condition, hfollows.holdsIn_membership attachment.hasQuery (hstored.withParams params)
    hcontacts hcovered hid, holds, selects, hsame, List.contains_eq_mem]

end Attachment

end SegmentPaths
