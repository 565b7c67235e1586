/-
The groups of a segment, and what their condition demands.  A group starts at the
first item, and at each item that is joined by OR; the condition holds where all
of one group does.
-/
import Mathlib.Data.List.SplitBy
import SegmentPaths.Proofs.Rows
import SegmentPaths.Segment.Query

namespace SegmentPaths

namespace Grouping

variable {A : Type} (glue : A → Glue)

/-- Items in groups: one that is joined by AND stays with the one in front of it. -/
def groups (items : List A) : List (List A) :=
  items.splitBy fun _ next => decide (glue next = .and)

/-- One more item, in the last group or in a group of its own. -/
def extend (item : A) : List (List A) → List (List A)
  | [] => [[item]]
  | [group] =>
    match glue item with
    | .and => [group ++ [item]]
    | .or => [group, [item]]
  | group :: next :: rest => group :: extend item (next :: rest)

/-- A segment groups the expressions of items like the items. -/
theorem extend_map (expr : A → Expr) (item : A) (parts : List (List A)) :
    SegmentQuery.extend (glue item) (expr item) (parts.map (List.map expr)) =
      (extend glue item parts).map (List.map expr) := by
  induction parts with
  | nil => rfl
  | cons group rest ih =>
      cases rest with
      | nil => cases hglue : glue item <;> simp [SegmentQuery.extend, extend, hglue]
      | cons next rest => exact congrArg (group.map expr :: ·) ih

theorem extend_or {item : A} (hglue : glue item = .or) (parts : List (List A)) :
    extend glue item parts = parts ++ [[item]] := by
  induction parts with
  | nil => rfl
  | cons group rest ih =>
      cases rest with
      | nil => simp [extend, hglue]
      | cons next rest => exact congrArg (group :: ·) ih

theorem extend_and {item : A} (hglue : glue item = .and) (parts : List (List A))
    (last : List A) : extend glue item (parts ++ [last]) = parts ++ [last ++ [item]] := by
  induction parts with
  | nil => simp [extend, hglue]
  | cons group rest ih =>
      cases rest with
      | nil => exact congrArg (group :: ·) ih
      | cons next rest => exact congrArg (group :: ·) ih

/-- An item joined by AND makes the last group longer. -/
theorem groups_concat_and {item : A} (hglue : glue item = .and) {items last : List A}
    {parts : List (List A)} (hgroups : groups glue items = parts ++ [last]) :
    groups glue (items ++ [item]) = parts ++ [last ++ [item]] := by
  obtain ⟨hitems, hfull, hjoined, hapart⟩ := List.splitBy_eq_iff.mp hgroups
  have hlast : last ≠ [] := by
    rintro rfl
    exact hfull (List.mem_append_right parts List.mem_cons_self)
  refine List.splitBy_eq_iff.mpr ⟨?_, ?_, ?_, ?_⟩
  · rw [hitems]
    simp
  · intro hmem
    rcases List.mem_append.mp hmem with hmem | hmem
    · exact hfull (List.mem_append_left _ hmem)
    · simp at hmem
  · intro group hgroup
    rcases List.mem_append.mp hgroup with hgroup | hgroup
    · exact hjoined group (List.mem_append_left _ hgroup)
    · rw [List.mem_singleton.mp hgroup]
      refine List.isChain_append.mpr ⟨hjoined last (by simp), List.isChain_singleton item, ?_⟩
      intro before _ next hnext
      simp only [List.head?_cons, Option.mem_some_iff] at hnext
      rw [← hnext]
      exact decide_eq_true hglue
  · obtain ⟨hparts, _, hborder⟩ := List.isChain_append.mp hapart
    refine List.isChain_append.mpr ⟨hparts, List.isChain_singleton _, ?_⟩
    intro before hbefore next hnext
    obtain ⟨hne, _, hor⟩ := hborder before hbefore last rfl
    simp only [List.head?_cons, Option.mem_some_iff] at hnext
    subst hnext
    refine ⟨hne, by simp, ?_⟩
    rwa [List.head_append_of_ne_nil hlast]

/-- The groups of items with one more item. -/
theorem groups_concat (items : List A) (item : A) :
    groups glue (items ++ [item]) = extend glue item (groups glue items) := by
  cases hglue : glue item with
  | or =>
      rw [extend_or glue hglue]
      refine (List.splitBy_append_cons [] fun _ _ => ?_)
      rw [hglue]
      rfl
  | and =>
      rcases List.eq_nil_or_concat (groups glue items) with hnil | ⟨parts, last, hparts⟩
      · rw [hnil, List.splitBy_eq_nil.mp hnil]
        rfl
      · rw [List.concat_eq_append] at hparts
        rw [hparts, extend_and glue hglue, groups_concat_and glue hglue hparts]

/-- Where every item but the first is joined by OR, each one is a group of its own. -/
theorem groups_of_or {items : List A} (hglue : ∀ item ∈ items.tail, glue item = .or) :
    groups glue items = items.map fun item => [item] := by
  induction items using List.reverseRecOn with
  | nil => rfl
  | append_singleton front item ih =>
      cases front with
      | nil => rfl
      | cons first rest =>
          have hitem : glue item = .or := hglue item (by simp)
          have hfront := ih fun other hother => hglue other (by
            rw [List.cons_append, List.tail_cons]
            exact List.mem_append_left _ hother)
          rw [groups_concat, extend_or glue hitem, hfront, List.map_append]
          rfl

theorem mem_of_mem_groups {items group : List A} {item : A}
    (hgroup : group ∈ groups glue items) (hitem : item ∈ group) : item ∈ items := by
  rw [← List.flatten_splitBy (fun _ next => decide (glue next = .and)) items]
  exact List.mem_flatten_of_mem hgroup hitem

theorem isEmpty_groups (items : List A) : (groups glue items).isEmpty = items.isEmpty := by
  rw [Bool.eq_iff_iff, List.isEmpty_iff, List.isEmpty_iff, groups, List.splitBy_eq_nil]

/-- Tests that agree on all items agree on the groups. -/
theorem any_all_groups (items : List A) {left right : A → Bool}
    (hsame : ∀ item ∈ items, left item = right item) :
    ((groups glue items).any fun group => group.all left) =
      (groups glue items).any fun group => group.all right := by
  rw [Bool.eq_iff_iff]
  simp only [List.any_eq_true, List.all_eq_true]
  refine exists_congr fun group => and_congr_right fun hgroup => ?_
  refine forall₂_congr fun item hitem => ?_
  rw [hsame item (mem_of_mem_groups glue hgroup hitem)]

theorem nil_notMem_groups (items : List A) : [] ∉ groups glue items :=
  List.nil_notMem_splitBy _ items

theorem nil_notMem_map_groups {B : Type} (f : A → B) (items : List A) :
    [] ∉ (groups glue items).map (List.map f) := by
  intro hmem
  obtain ⟨group, hgroup, hempty⟩ := List.mem_map.mp hmem
  rw [List.map_eq_nil_iff.mp hempty] at hgroup
  exact nil_notMem_groups glue items hgroup

end Grouping

namespace SegmentQuery

variable (database : Database) (scope : Scope)

/-- Expressions joined by AND hold where all of them do. -/
theorem holdsIn_joined_and {exprs : List Expr} {whole : Expr}
    (h : joined? .and exprs = some whole) :
    whole.holdsIn database scope = exprs.all fun expr => expr.holdsIn database scope := by
  have hfold : ∀ (rest : List Expr) (first : Expr),
      (rest.foldl (Expr.binary .and) first).holdsIn database scope =
        (first.holdsIn database scope && rest.all fun expr => expr.holdsIn database scope) := by
    intro rest
    induction rest with
    | nil => simp
    | cons next rest ih =>
        intro first
        rw [List.foldl_cons, ih, Expr.holdsIn_and, List.all_cons, Bool.and_assoc]
  cases exprs with
  | nil => cases h
  | cons first rest =>
      cases h
      rw [hfold, List.all_cons]

/-- Expressions joined by OR hold where one of them does. -/
theorem holdsIn_joined_or {exprs : List Expr} {whole : Expr}
    (h : joined? .or exprs = some whole) :
    whole.holdsIn database scope = exprs.any fun expr => expr.holdsIn database scope := by
  have hfold : ∀ (rest : List Expr) (first : Expr),
      (rest.foldl (Expr.binary .or) first).holdsIn database scope =
        (first.holdsIn database scope || rest.any fun expr => expr.holdsIn database scope) := by
    intro rest
    induction rest with
    | nil => simp
    | cons next rest ih =>
        intro first
        rw [List.foldl_cons, ih, Expr.holdsIn_or, List.any_cons, Bool.or_assoc]
  cases exprs with
  | nil => cases h
  | cons first rest =>
      cases h
      rw [hfold, List.any_cons]

/-- A condition for each group, which holds where all expressions of the group do. -/
theorem any_joined_and {parts : List (List Expr)} (hfull : [] ∉ parts) :
    ((parts.filterMap (joined? .and)).any fun expr => expr.holdsIn database scope) =
      parts.any fun group => group.all fun expr => expr.holdsIn database scope := by
  induction parts with
  | nil => rfl
  | cons group rest ih =>
      have hrest := ih fun hmem => hfull (List.mem_cons_of_mem _ hmem)
      cases hgroup : joined? .and group with
      | none =>
          cases group with
          | nil => exact absurd List.mem_cons_self hfull
          | cons first rest => cases hgroup
      | some whole =>
          rw [List.filterMap_cons_some hgroup, List.any_cons, List.any_cons, hrest,
            holdsIn_joined_and database scope hgroup]

/-- The rows of a segment on a plain SELECT: those whose scope meets the condition of the
base, and all of one group of expressions if there are any. -/
theorem rows_query {segment : SegmentQuery} {columns : List Expr} {source : Option Source}
    {joins : List Join} {condition : Option Expr}
    (hbase : segment.base = .select columns source joins condition)
    (hfull : [] ∉ segment.groups) :
    segment.query.rows database scope =
      ((Query.joined database source joins scope).filter fun inner =>
        Query.meets database condition (inner ++ scope) &&
          (segment.groups.isEmpty || segment.groups.any fun group =>
            group.all fun expr => expr.holdsIn database (inner ++ scope))).map fun inner =>
              Expr.values database columns (inner ++ scope) := by
  rw [SegmentQuery.query, hbase]
  cases hwhole : segment.condition? with
  | none =>
      have hempty : segment.groups = [] := by
        cases hgroups : segment.groups with
        | nil => rfl
        | cons group rest =>
            cases group with
            | nil => exact absurd (hgroups ▸ List.mem_cons_self) hfull
            | cons first others =>
                rw [condition?, hgroups] at hwhole
                cases hwhole
      simp only [hempty, List.isEmpty_nil, Bool.true_or, Bool.and_true]
      exact Query.rows_select database columns source joins condition scope
  | some whole =>
      have hsome : segment.groups ≠ [] := by
        rintro hempty
        rw [condition?, hempty] at hwhole
        cases hwhole
      have hany : ∀ inner : Scope, whole.holdsIn database (inner ++ scope) =
          (segment.groups.isEmpty || segment.groups.any fun group =>
            group.all fun expr => expr.holdsIn database (inner ++ scope)) := by
        intro inner
        rw [holdsIn_joined_or database _ hwhole, any_joined_and database _ hfull,
          List.isEmpty_eq_false_iff.mpr hsome, Bool.false_or]
      simp only [Query.rows_addFilter, hany]

end SegmentQuery

end SegmentPaths
