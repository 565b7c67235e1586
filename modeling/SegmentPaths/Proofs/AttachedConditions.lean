/-
Conditions that are attached to a segment.  On a plain SELECT they all stand in the
statement, and the rows meet them.  A union has no place for conditions, so it stays
as it is.
-/
import SegmentPaths.Proofs.BoundPlaceholders
import SegmentPaths.Proofs.SegmentRows

namespace SegmentPaths

theorem Token.mem_of_placeholder {tokens : List Token} {name : String}
    (h : name ∈ tokenPlaceholders tokens) : Token.param name ∈ tokens := by
  obtain ⟨token, htoken, hname⟩ := List.mem_filterMap.mp h
  cases token with
  | param ident =>
      cases hname
      exact htoken
  | _ => cases hname

/-- A token stands in the text of the run that it is part of. -/
theorem Token.chars_infix {tokens : List Token} {token : Token} (h : token ∈ tokens)
    (dialect : Dialect) : token.chars dialect <:+: tokenChars dialect tokens := by
  obtain ⟨before, after, rfl⟩ := List.append_of_mem h
  refine ⟨tokenChars dialect before, tokenChars dialect after, ?_⟩
  rw [tokenChars_append, List.append_assoc]
  rfl

namespace SegmentQuery

variable {base : Query} {calls : List (Glue × Expr)}

/-- Conditions that are attached one after the other. -/
def addConditions (segment : SegmentQuery) (calls : List (Glue × Expr)) : SegmentQuery :=
  calls.foldl (fun segment call => segment.addCondition call.1 call.2) segment

@[simp]
theorem base_addConditions (segment : SegmentQuery) (calls : List (Glue × Expr)) :
    (segment.addConditions calls).base = segment.base := by
  induction calls generalizing segment with
  | nil => rfl
  | cons call rest ih => exact ih (segment.addCondition call.1 call.2)

/-- Attached conditions are grouped by their glue. -/
theorem groups_addConditions (base : Query) (calls : List (Glue × Expr)) :
    ((new base).addConditions calls).groups =
      (Grouping.groups Prod.fst calls).map (List.map Prod.snd) := by
  induction calls using List.reverseRecOn with
  | nil => rfl
  | append_singleton front call ih =>
      rw [addConditions, List.foldl_append, ← addConditions, Grouping.groups_concat,
        ← Grouping.extend_map, ← ih]
      rfl

/-- Every condition stands in one of the groups. -/
theorem flatten_groups_addConditions (base : Query) (calls : List (Glue × Expr)) :
    ((new base).addConditions calls).groups.flatten = calls.map Prod.snd := by
  rw [groups_addConditions, ← List.map_flatten, Grouping.groups, List.flatten_splitBy]

theorem nil_notMem_groups_addConditions (base : Query) (calls : List (Glue × Expr)) :
    [] ∉ ((new base).addConditions calls).groups := by
  rw [groups_addConditions]
  exact Grouping.nil_notMem_map_groups _ _ _

/-- The conditions hold where all of one group do. -/
def Combined (database : Database) (scope : Scope) (calls : List (Glue × Expr)) : Prop :=
  ∃ group ∈ Grouping.groups Prod.fst calls, ∀ call ∈ group,
    call.2.holdsIn database scope = true

/-- The rows of a plain SELECT with attached conditions meet the condition of the base, and the
combination of the attached ones. -/
theorem rows_addConditions (columns : List Expr) (source : Option Source) (joins : List Join)
    (condition : Option Expr) (hcalls : calls ≠ []) (database : Database) (scope : Scope)
    (row : List Datum) :
    row ∈ ((new (.select columns source joins condition)).addConditions calls).query.rows
        database scope ↔
      ∃ inner ∈ Query.joined database source joins scope,
        row = Expr.values database columns (inner ++ scope) ∧
          Query.meets database condition (inner ++ scope) = true ∧
          Combined database (inner ++ scope) calls := by
  rw [rows_query database scope (base_addConditions _ calls)
    (nil_notMem_groups_addConditions _ calls), groups_addConditions]
  have hfull : ((Grouping.groups Prod.fst calls).map (List.map Prod.snd)).isEmpty = false := by
    rw [List.isEmpty_map, Grouping.isEmpty_groups, List.isEmpty_eq_false_iff]
    exact hcalls
  have hcombined : ∀ inner : Scope,
      (((Grouping.groups Prod.fst calls).map (List.map Prod.snd)).any fun group =>
        group.all fun expr => expr.holdsIn database (inner ++ scope)) = true ↔
      Combined database (inner ++ scope) calls := by
    intro inner
    simp [Combined]
  simp only [List.mem_map, List.mem_filter, hfull, Bool.false_or, Bool.and_eq_true, hcombined]
  constructor
  · rintro ⟨inner, ⟨hinner, hmeets⟩, rfl⟩
    exact ⟨inner, hinner, rfl, hmeets⟩
  · rintro ⟨inner, hinner, rfl, hmeets⟩
    exact ⟨inner, ⟨hinner, hmeets⟩, rfl⟩

/-- The placeholders of attached conditions stand in the statement, if that is a plain
SELECT. -/
theorem placeholders_addConditions (hplain : base.isUnion = false)
    (calls : List (Glue × Expr)) :
    ((new base).addConditions calls).query.placeholders =
      base.placeholders ++ calls.flatMap fun call => call.2.placeholders := by
  have hbase : ((new base).addConditions calls).base.isUnion = false := by
    rwa [base_addConditions]
  rw [placeholders_query hbase, flatten_groups_addConditions, base_addConditions,
    List.flatMap_map]
  rfl

/-- A union stays as it is, whatever is attached. -/
theorem query_of_union (segment : SegmentQuery) (hunion : segment.base.isUnion = true) :
    segment.query = segment.base := by
  rw [query]
  cases segment.condition? with
  | none => rfl
  | some condition =>
      cases hbase : segment.base with
      | select => rw [hbase] at hunion; cases hunion
      | unionAll => rfl

/-- No condition that is attached to a plain SELECT is dropped: all placeholders stand in the
statement, and its rows are those of the base that meet the combination of the conditions.
All conditions that are attached to a union are dropped: the statement stays the one of the
base. -/
theorem conditions_of_plain_kept (base : Query) (calls : List (Glue × Expr))
    (hcalls : calls ≠ []) (dialect : Dialect) :
    let final := (new base).addConditions calls
    (∀ columns source joins condition, base = .select columns source joins condition →
      (∀ sql params, final.render dialect = .ok (sql, params) →
        ∀ call ∈ calls, ∀ name ∈ call.2.placeholders,
          dialect.paramChars name <:+: sql.toList) ∧
      ∀ database scope row, row ∈ final.query.rows database scope ↔
        ∃ inner ∈ Query.joined database source joins scope,
          row = Expr.values database columns (inner ++ scope) ∧
            Query.meets database condition (inner ++ scope) = true ∧
            Combined database (inner ++ scope) calls) ∧
    (base.isUnion = true → final.conditionCount = calls.length ∧ final.query = base) := by
  intro final
  constructor
  · rintro columns source joins condition rfl
    refine ⟨fun sql params hrender call hcall name hname => ?_,
      rows_addConditions columns source joins condition hcalls⟩
    obtain ⟨text, htext, hpair⟩ := exists_of_map_ok hrender
    cases hpair
    rw [Query.render] at htext
    split at htext
    · cases htext
    · cases htext
      have hplaceholder : name ∈ final.query.placeholders := by
        rw [placeholders_addConditions rfl]
        exact List.mem_append_right _ (List.mem_flatMap.mpr ⟨call, hcall, hname⟩)
      rw [Query.sql, tokenText, String.toList_ofList]
      exact Token.chars_infix (Token.mem_of_placeholder hplaceholder) dialect
  · intro hunion
    constructor
    · rw [conditionCount, flatten_groups_addConditions, List.length_map]
    · rw [query_of_union final (by rwa [base_addConditions]), base_addConditions]
      rfl

end SegmentQuery

namespace LinkedItems

/-- All contacts. -/
def everyone : Query :=
  .select [.tableColumn "l" "id"] (some (.table "leads" (some "l"))) [] none

/-- All contacts, and all contacts once more. -/
def everyoneTwice : Query := .unionAll everyone everyone []

/-- The contact of a placeholder. -/
def chosen : Expr := .binary .equal (.tableColumn "l" "id") (.param "p")

/-- The contact of a placeholder, or one between the contacts of two others. -/
def chosenOrBetween : List (Glue × Expr) :=
  [(.and, chosen), (.or, .binary .greater (.tableColumn "l" "id") (.param "low")),
   (.and, .binary .less (.tableColumn "l" "id") (.param "high"))]

/-- The placeholders of all conditions stand in the statement, and the rows are those of the
contacts that meet the combination: contact 7 is chosen, contact 8 lies between 7 and 9, and
contact 9 does not. -/
theorem chosen_contact_kept :
    let final := (SegmentQuery.new everyone).addConditions chosenOrBetween
    let filled := database.withParams (.ofList [("p", .int 7), ("low", .int 7), ("high", .int 9)])
    chosenOrBetween ≠ [] ∧
    (∃ sql params, final.render .mysql = .ok (sql, params) ∧
      ∀ name ∈ ["p", "low", "high"], Dialect.mysql.paramChars name <:+: sql.toList) ∧
    final.query.rows filled [] = [[.int 7], [.int 8]] ∧
    SegmentQuery.Combined filled (lead 8) chosenOrBetween ∧
    ¬SegmentQuery.Combined filled (lead 9) chosenOrBetween := by
  intro final filled
  have hcalls : chosenOrBetween ≠ [] := List.cons_ne_nil _ _
  obtain ⟨hplain, _⟩ := SegmentQuery.conditions_of_plain_kept everyone _ hcalls .mysql
  obtain ⟨hnames, hrows⟩ := hplain _ _ _ _ rfl
  have hcomputed : final.query.rows filled [] = [[.int 7], [.int 8]] := by decide
  have hplaceholders : (chosenOrBetween.flatMap fun call => call.2.placeholders) =
      ["p", "low", "high"] := rfl
  refine ⟨hcalls, ⟨_, _, rfl, fun name hname => ?_⟩, hcomputed, ?_, fun hcombined => ?_⟩
  · rw [← hplaceholders] at hname
    obtain ⟨call, hcall, hplaceholder⟩ := List.mem_flatMap.mp hname
    exact hnames _ _ rfl call hcall name hplaceholder
  · have hmem : [.int 8] ∈ final.query.rows filled [] := hcomputed ▸ by decide
    obtain ⟨inner, hinner, hrow, _, hcombined⟩ := (hrows filled [] [.int 8]).mp hmem
    rw [joined_leads] at hinner
    simp only [List.mem_cons, List.not_mem_nil, or_false] at hinner
    rcases hinner with rfl | rfl | rfl
    · exact absurd hrow (by decide)
    · exact hcombined
    · exact absurd hrow (by decide)
  · have hmem : [.int 9] ∈ final.query.rows filled [] :=
      (hrows filled [] [.int 9]).mpr ⟨lead 9, by decide, rfl, rfl, hcombined⟩
    rw [hcomputed] at hmem
    exact absurd hmem (by decide)

/-- A condition on a union of all contacts leaves no trace in the statement, which returns a
contact that does not meet it. -/
theorem chosen_contact_dropped :
    let final := (SegmentQuery.new everyoneTwice).addConditions [(.and, chosen)]
    "p" ∈ chosen.placeholders ∧ final.query.placeholders = [] ∧
      let filled := database.withParams (.ofList [("p", .int 7)])
      [.int 8] ∈ final.query.rows filled [] ∧
        chosen.holdsIn filled [("l", [("id", .int 8)])] = false := by
  refine ⟨by decide, rfl, by decide, by decide⟩

end LinkedItems

end SegmentPaths
