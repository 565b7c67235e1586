/-
What a filter is built to, written out.  A fragment depends on the target of the
filter, the restriction, its path and its seed; its aliases and placeholders are
tags behind the seed, so that they are told apart by tag and seed.
-/
import SegmentPaths.Proofs.Compilation
import SegmentPaths.Proofs.ConditionForm

namespace SegmentPaths

namespace ContactRestriction

/-- What a restriction demands in a fragment with a seed. -/
def demands (seed : String) : ContactRestriction → List Expr
  | .allContacts => []
  | .contact _ =>
    [.binary .equal (.tableColumn (Fragment.contactAliasOf seed) "contact_id")
      (.param (seedName seed "contact_id"))]

/-- What a restriction binds in a fragment with a seed. -/
def bindings (seed : String) : ContactRestriction → List (String × ParamValue)
  | .allContacts => []
  | .contact id => [(seedName seed "contact_id", .int id)]

def tags : ContactRestriction → List Tag
  | .allContacts => []
  | .contact _ => [⟨.contactId, none⟩]

end ContactRestriction

/-- The tags of the tables that are joined along a path. -/
def RelationshipPath.joinTags (path : RelationshipPath) : List Tag :=
  (List.range' 1 path.length).map (fun index => ⟨.link, some index⟩) ++ [⟨.contact, none⟩]

theorem RelationshipPath.joinTags_nodup (path : RelationshipPath) : path.joinTags.Nodup := by
  rw [joinTags, List.nodup_append]
  refine ⟨?_, List.nodup_singleton _, ?_⟩
  · apply List.Nodup.map _ List.nodup_range'
    intro m n hsame
    exact Option.some.inj (Tag.mk.inj hsame).2
  · intro tag htag other hother hsame
    obtain ⟨index, _, rfl⟩ := List.mem_map.mp htag
    rw [List.mem_singleton.mp hother] at hsame
    cases hsame

/-- The tags of the tables that a path from a source reads. -/
def PathSource.aliasTags (source : PathSource) (path : RelationshipPath) : List Tag :=
  source.aliasTag :: path.joinTags

theorem PathSource.aliasTags_nodup (source : PathSource) (path : RelationshipPath) :
    (source.aliasTags path).Nodup := by
  rw [aliasTags, List.nodup_cons]
  refine ⟨fun hmem => ?_, path.joinTags_nodup⟩
  rcases List.mem_append.mp hmem with hmem | hmem
  · obtain ⟨index, _, hsame⟩ := List.mem_map.mp hmem
    cases source <;> cases hsame
  · have hsame := List.mem_singleton.mp hmem
    cases source <;> cases hsame

theorem PathSource.union_notMem_aliasTags (source : PathSource) (path : RelationshipPath) :
    ⟨.union, none⟩ ∉ source.aliasTags path := by
  intro hmem
  rcases List.mem_cons.mp hmem with hsame | hmem
  · cases source <;> cases hsame
  · rcases List.mem_append.mp hmem with hmem | hmem
    · obtain ⟨index, _, hsame⟩ := List.mem_map.mp hmem
      cases hsame
    · have hsame := List.mem_singleton.mp hmem
      cases hsame

namespace Target

/-- The values of the condition, in the form that its type stores. -/
def values (target : Target) : List ParamValue :=
  match target.condition with
  | none => []
  | some (condition, type) => (condition.checkedValues type).toOption.getD []

/-- What the condition demands in a fragment with a seed. -/
def conditionDemands (target : Target) (seed : String) : List Expr :=
  match target.condition with
  | none => []
  | some (condition, type) =>
    [condition.op.form type
      (.tableColumn (seedName seed target.source.aliasSuffix) target.source.comparedColumn)
      (seedName seed target.source.comparedColumn) target.values.length]

/-- What the condition binds in a fragment with a seed. -/
def conditionBindings (target : Target) (seed : String) : List (String × ParamValue) :=
  match target.condition with
  | none => []
  | some (condition, _) =>
    condition.op.bindings (seedName seed target.source.comparedColumn) target.values

def conditionTags (target : Target) : List Tag :=
  match target.condition with
  | none => []
  | some (condition, _) => condition.op.tags target.source.comparedWord target.values.length

/-- What a fragment with a seed demands of its rows: they belong to the field or object,
fit the condition and lead to the contact. -/
def demand (target : Target) (restriction : ContactRestriction) (seed : String) : Expr :=
  (target.conditionDemands seed ++ restriction.demands seed).foldl (.binary .and)
    (.binary .equal
      (.tableColumn (seedName seed target.source.aliasSuffix) target.source.idColumn)
      (.param (seedName seed target.source.idColumn)))

/-- What a fragment with a seed binds: the id of the field or object, the values of the
condition and the contact. -/
def bindings (target : Target) (restriction : ContactRestriction) (seed : String) :
    List (String × ParamValue) :=
  (seedName seed target.source.idColumn, .int target.source.id) ::
    target.conditionBindings seed ++ restriction.bindings seed

/-- The tags of what a fragment binds. -/
def tags (target : Target) (restriction : ContactRestriction) : List Tag :=
  target.source.idTag :: target.conditionTags ++ restriction.tags

/-- The fragment of a path from a target. -/
def fragment (target : Target) (tables : TableNames) (restriction : ContactRestriction)
    (seed : String) (path : RelationshipPath) : Fragment where
  query := .select [.column none "contact_id"]
    (some (Fragment.routeStart tables target.source seed))
    (Fragment.routeJoins tables path target.source seed)
    (some (target.demand restriction seed))
  seed := seed
  params := ValueCondition.bindAll .empty (target.bindings restriction seed)
  sourceAlias := seedName seed target.source.aliasSuffix
  comparedColumn := target.source.comparedColumn

/-- The fragments of all paths from a target. -/
def union (target : Target) (compiler : PathCompiler) (restriction : ContactRestriction)
    (seed : String) : FragmentUnion where
  fragments := compiler.paths.zipIdx.map fun entry =>
    target.fragment compiler.metadata.tables restriction
      (compiler.scope.seedFor seed entry.2) entry.1

/-- Whether the condition fits its type. -/
def Fits (target : Target) : Prop :=
  ∀ condition type, target.condition = some (condition, type) →
    condition.checkedValues type = .ok target.values

/-- A valid condition has the values that its type stores. -/
theorem Valid.fits {target : Target} (h : target.Valid) : target.Fits := by
  intro condition type hcondition
  obtain ⟨values, hvalues, _⟩ := exists_of_map_ok (h condition type hcondition)
  simp [Target.values, hcondition, hvalues, Except.toOption]

section Names

variable {target : Target} (restriction : ContactRestriction) (seed : String)

theorem map_fst_bindings :
    (target.bindings restriction seed).map Prod.fst =
      (target.tags restriction).map (Tag.under seed) := by
  have hcondition : (target.conditionBindings seed).map Prod.fst =
      target.conditionTags.map (Tag.under seed) := by
    unfold conditionBindings conditionTags
    cases target.condition with
    | none => rfl
    | some condition =>
        rw [PathSource.seedName_comparedColumn]
        exact Operator.map_fst_bindings _ _ _ _
  have hrestriction : (restriction.bindings seed).map Prod.fst =
      restriction.tags.map (Tag.under seed) := by
    cases restriction <;> rfl
  simp only [bindings, tags, List.map_cons, List.map_append, List.cons_append, hcondition,
    hrestriction, PathSource.seedName_idColumn]

theorem word_of_mem_conditionTags {tag : Tag} (h : tag ∈ target.conditionTags) :
    tag.word = target.source.comparedWord := by
  unfold conditionTags at h
  split at h
  · cases h
  · exact Operator.word_of_mem_tags h

theorem word_of_mem_restrictionTags {tag : Tag} (h : tag ∈ restriction.tags) :
    tag.word = .contactId := by
  cases restriction with
  | allContacts => cases h
  | contact id => rw [List.mem_singleton.mp h]

/-- The tags of what a fragment binds are all different. -/
theorem tags_nodup (hfits : target.Fits) : (target.tags restriction).Nodup := by
  have hcondition : target.conditionTags.Nodup := by
    unfold conditionTags
    split
    · exact List.nodup_nil
    · rename_i condition type hsome
      exact Operator.tags_nodup (ValueCondition.checkedValues_takes (hfits _ _ hsome)) _
  have hrestriction : restriction.tags.Nodup := by
    cases restriction <;> simp [ContactRestriction.tags]
  -- The id, the values and the contact go by different words.
  have hwords : target.source.idTag.word ≠ target.source.comparedWord ∧
      target.source.idTag.word ≠ .contactId ∧ target.source.comparedWord ≠ .contactId := by
    cases target.source <;> simp [PathSource.idTag, PathSource.comparedWord]
  rw [tags, List.cons_append, List.nodup_cons]
  constructor
  · intro hmem
    rcases List.mem_append.mp hmem with hmem | hmem
    · exact hwords.1 (word_of_mem_conditionTags hmem)
    · exact hwords.2.1 (word_of_mem_restrictionTags restriction hmem)
  · rw [List.nodup_append]
    refine ⟨hcondition, hrestriction, ?_⟩
    intro tag htag other hother hsame
    apply hwords.2.2
    rw [← word_of_mem_conditionTags htag, hsame]
    exact word_of_mem_restrictionTags restriction hother

/-- What the condition demands: nothing, or the form of an operator that takes as many values
as there are. -/
theorem conditionDemands_cases (hfits : target.Fits) :
    (target.conditionDemands seed = [] ∧ target.conditionTags = []) ∨
    ∃ (op : Operator) (type : FieldType), op.Takes target.values.length ∧
      target.conditionDemands seed = [op.form type
        (.tableColumn (seedName seed target.source.aliasSuffix) target.source.comparedColumn)
        (Tag.under seed ⟨target.source.comparedWord, none⟩) target.values.length] ∧
      target.conditionTags = op.tags target.source.comparedWord target.values.length := by
  rw [← PathSource.seedName_comparedColumn]
  unfold conditionDemands conditionTags
  split
  · exact Or.inl ⟨rfl, rfl⟩
  · rename_i condition type hsome
    right
    exact ⟨condition.op, type, ValueCondition.checkedValues_takes (hfits _ _ hsome), rfl, rfl⟩

/-- What stands in a fragment as a placeholder is what it binds. -/
theorem placeholders_demand (hfits : target.Fits) :
    (target.demand restriction seed).placeholders =
      (target.tags restriction).map (Tag.under seed) := by
  have hcondition : (target.conditionDemands seed).flatMap Expr.placeholders =
      target.conditionTags.map (Tag.under seed) := by
    rcases conditionDemands_cases seed hfits with
      ⟨hdemands, htags⟩ | ⟨op, type, htakes, hdemands, htags⟩
    · rw [hdemands, htags]
      rfl
    · rw [hdemands, htags, List.flatMap_singleton]
      exact Operator.placeholders_form type htakes (Expr.placeholders_tableColumn _ _) seed _
  have hrestriction : (restriction.demands seed).flatMap Expr.placeholders =
      restriction.tags.map (Tag.under seed) := by
    cases restriction with
    | allContacts => rfl
    | contact id => simp [ContactRestriction.demands, ContactRestriction.tags,
        Fragment.seedName_contactId]
  rw [demand, Expr.placeholders_foldl, List.flatMap_append, hcondition, hrestriction]
  simp [tags, PathSource.seedName_idColumn]

theorem aliases_demand (hfits : target.Fits) : (target.demand restriction seed).aliases = [] := by
  have hcondition : (target.conditionDemands seed).flatMap Expr.aliases = [] := by
    rcases conditionDemands_cases seed hfits with
      ⟨hdemands, _⟩ | ⟨op, type, htakes, hdemands, _⟩
    · rw [hdemands]
      rfl
    · rw [hdemands, List.flatMap_singleton]
      exact Operator.aliases_form type htakes (Expr.aliases_tableColumn _ _) _
  have hrestriction : (restriction.demands seed).flatMap Expr.aliases = [] := by
    cases restriction <;> simp [ContactRestriction.demands, Expr.aliases]
  rw [demand, Expr.aliases_foldl, List.flatMap_append, hcondition, hrestriction]
  simp [Expr.aliases]

theorem hasEmptyList_demand (hfits : target.Fits) :
    (target.demand restriction seed).hasEmptyList = false := by
  have hcondition : (target.conditionDemands seed).any Expr.hasEmptyList = false := by
    rcases conditionDemands_cases seed hfits with
      ⟨hdemands, _⟩ | ⟨op, type, htakes, hdemands, _⟩
    · rw [hdemands]
      rfl
    · rw [hdemands, List.any_cons, List.any_nil, Bool.or_false]
      exact Operator.hasEmptyList_form type htakes (Expr.hasEmptyList_tableColumn _ _) _
  have hrestriction : (restriction.demands seed).any Expr.hasEmptyList = false := by
    cases restriction <;> simp [ContactRestriction.demands, Expr.hasEmptyList]
  rw [demand, Expr.hasEmptyList_foldl, List.any_append, hcondition, hrestriction]
  simp [Expr.hasEmptyList]

end Names

end Target

/-- Whether a join adds the table under an alias, over two columns that are equal. -/
def Join.Adds (aliasName : String) (join : Join) : Prop :=
  ∃ table left leftName right rightName,
    join = .on .inner (.table table (some aliasName))
      (.binary .equal (.tableColumn left leftName) (.tableColumn right rightName))

namespace Join.Adds

variable {aliasName : String} {join : Join} (h : join.Adds aliasName)
include h

theorem placeholders : tokenPlaceholders join.tokens = [] := by
  obtain ⟨table, left, leftName, right, rightName, rfl⟩ := h
  rw [tokenPlaceholders_table_join]
  simp

theorem aliases : join.aliases = [aliasName] := by
  obtain ⟨table, left, leftName, right, rightName, rfl⟩ := h
  simp [Join.aliases, Source.aliases, Expr.aliases]

theorem hasEmptyList : join.hasEmptyList = false := by
  obtain ⟨table, left, leftName, right, rightName, rfl⟩ := h
  simp [Join.hasEmptyList, Source.hasEmptyList, Expr.hasEmptyList]

end Join.Adds

namespace Fragment

/-- The joins over links add a table for each hop, and end at a column. -/
theorem linkJoins_add (linkTable seed : String) (index : Nat) (path : RelationshipPath)
    (table name : String) :
    List.Forall₂ Join.Adds
      ((List.range' index path.length).map fun index => Tag.under seed ⟨.link, some index⟩)
      (linkJoins linkTable seed index path (.tableColumn table name)).1 ∧
    ∃ lastTable lastName,
      (linkJoins linkTable seed index path (.tableColumn table name)).2 =
        .tableColumn lastTable lastName := by
  induction path generalizing index table name with
  | nil => exact ⟨.nil, table, name, rfl⟩
  | cons direction rest ih =>
      obtain ⟨hjoins, hlast⟩ := ih (index + 1) (linkAlias seed index) direction.toColumn
      refine ⟨.cons ⟨linkTable, linkAlias seed index, direction.fromColumn, table, name, ?_⟩
        hjoins, hlast⟩
      simp only [linkAlias_eq_under]

/-- The joins of a fragment add the tables of its links and of its contacts. -/
theorem routeJoins_add (tables : TableNames) (path : RelationshipPath) (source : PathSource)
    (seed : String) :
    List.Forall₂ Join.Adds (path.joinTags.map (Tag.under seed))
      (routeJoins tables path source seed) := by
  obtain ⟨hjoins, lastTable, lastName, hlast⟩ := linkJoins_add tables.itemItem seed 1 path
    (seedName seed source.aliasSuffix) source.itemColumn
  rw [RelationshipPath.joinTags, List.map_append, List.map_map]
  apply List.rel_append hjoins
  refine .cons ⟨tables.itemContact, lastTable, lastName, contactAliasOf seed,
    "custom_item_id", ?_⟩ .nil
  rw [hlast, contactAliasOf_eq_under]

end Fragment

namespace Target

variable {target : Target} (tables : TableNames) (restriction : ContactRestriction)
  (seed : String) (path : RelationshipPath)

theorem placeholders_fragment (hfits : target.Fits) :
    (target.fragment tables restriction seed path).query.placeholders =
      (target.tags restriction).map (Tag.under seed) := by
  have hjoins : (Fragment.routeJoins tables path target.source seed).flatMap
      (fun join => tokenPlaceholders join.tokens) = [] := by
    rw [List.flatMap_eq_nil_iff]
    intro join hjoin
    obtain ⟨_, hadds⟩ :=
      exists_of_forall₂ (Fragment.routeJoins_add tables path target.source seed) hjoin
    exact hadds.placeholders
  rw [fragment, Query.placeholders_select, hjoins, ← placeholders_demand restriction seed hfits]
  simp [Fragment.routeStart, Source.tokens, tokenPlaceholders_aliasTokens, Expr.placeholders,
    Expr.tokens]

theorem aliases_fragment (hfits : target.Fits) :
    (target.fragment tables restriction seed path).query.aliases =
      (target.source.aliasTags path).map (Tag.under seed) := by
  have hjoins : (Fragment.routeJoins tables path target.source seed).flatMap Join.aliases =
      path.joinTags.map (Tag.under seed) := by
    rw [← List.flatMap_singleton' (path.joinTags.map (Tag.under seed))]
    exact flatMap_of_forall₂ (Fragment.routeJoins_add tables path target.source seed)
      fun _ _ _ hadds => hadds.aliases
  rw [fragment, Query.aliases, Join.listAliases_eq_flatMap, hjoins]
  simp [aliases_demand restriction seed hfits, Expr.listAliases, Expr.aliases,
    Fragment.routeStart, Source.aliases, PathSource.aliasTags, PathSource.seedName_aliasSuffix]

theorem hasEmptyList_fragment (hfits : target.Fits) :
    (target.fragment tables restriction seed path).query.hasEmptyList = false := by
  have hjoins : Join.anyEmptyList (Fragment.routeJoins tables path target.source seed) =
      false := by
    rw [Join.anyEmptyList_eq_any, List.any_eq_false]
    intro join hjoin
    obtain ⟨_, hadds⟩ :=
      exists_of_forall₂ (Fragment.routeJoins_add tables path target.source seed) hjoin
    simp [hadds.hasEmptyList]
  rw [fragment, Query.hasEmptyList, hjoins]
  simp [hasEmptyList_demand restriction seed hfits, Expr.anyEmptyList, Expr.hasEmptyList,
    Fragment.routeStart, Source.hasEmptyList]

/-- A fragment binds just its bindings. -/
theorem get?_fragment (hfits : target.Fits) (name : String) (value : ParamValue) :
    (target.fragment tables restriction seed path).params.get? name = some value ↔
      (name, value) ∈ target.bindings restriction seed := by
  have hnodup : ((target.bindings restriction seed).map Prod.fst).Nodup := by
    rw [map_fst_bindings]
    exact (tags_nodup restriction hfits).map (Tag.under_injective seed)
  refine ⟨fun hname => ?_, ValueCondition.get?_bindAll_of_mem _ _ hnodup⟩
  rcases ValueCondition.get?_bindAll_cases _ _ hname with hmem | hempty
  · obtain ⟨⟨_, bound⟩, hbinding, rfl⟩ := List.mem_map.mp hmem
    have hbound := ValueCondition.get?_bindAll_of_mem .empty _ hnodup hbinding
    rw [fragment, hbound] at hname
    rwa [← Option.some.inj hname]
  · simp at hempty

/-- A compiled fragment is the one of its path. -/
theorem fragment_eq {compiler : PathCompiler} (hfits : target.Fits) {seed : String}
    {path : RelationshipPath} {fragment : Fragment}
    (h : compiler.fragment target.source target.condition seed path = .ok fragment) :
    fragment = target.fragment compiler.metadata.tables .allContacts seed path := by
  obtain ⟨source, condition⟩ := target
  cases condition with
  | none =>
      cases h
      rfl
  | some condition =>
      obtain ⟨condition, type⟩ := condition
      obtain ⟨expr, params, hexpr, rfl⟩ := PathCompiler.fragment_some h
      obtain ⟨values, bindings, hvalues, hexpression, rfl⟩ := ValueCondition.toExpr_eq_ok hexpr
      obtain ⟨rfl, rfl⟩ := ValueCondition.expression_eq hvalues hexpression
      -- The values that were compiled are those of the target, because both were checked.
      rw [hfits condition type rfl] at hvalues
      cases hvalues
      simp [Target.fragment, Fragment.build, Fragment.routeStart, Fragment.routeJoins, demand,
        conditionDemands, bindings, conditionBindings, ContactRestriction.demands,
        ContactRestriction.bindings, Query.addFilter, ValueCondition.bindAll]

/-- A restriction to a contact goes to the demand and to the bindings. -/
theorem restrictToContact_fragment (contact : Int64) :
    (target.fragment tables .allContacts seed path).restrictToContact contact =
      target.fragment tables (.contact contact) seed path := by
  simp [fragment, Fragment.restrictToContact, Fragment.contactAlias, demand, bindings,
    ContactRestriction.demands, ContactRestriction.bindings, Query.addFilter,
    ValueCondition.bindAll]

/-- Compiled fragments are those of their paths, under seeds that are counted. -/
theorem fragments_eq {compiler : PathCompiler} (hfits : target.Fits) {seed : String}
    {paths : List RelationshipPath} {index : Nat} {fragments : List Fragment}
    (h : compiler.fragments target.source target.condition seed index paths = .ok fragments) :
    fragments = (paths.zipIdx index).map fun entry =>
      target.fragment compiler.metadata.tables .allContacts
        (compiler.scope.seedFor seed entry.2) entry.1 := by
  induction paths generalizing index fragments with
  | nil =>
      cases h
      rfl
  | cons path rest ih =>
      obtain ⟨first, hfirst, hrest⟩ := bind_eq_ok h
      obtain ⟨others, hothers, hfragments⟩ := bind_eq_ok hrest
      cases hfragments
      rw [List.zipIdx_cons, List.map_cons, fragment_eq hfits hfirst, ih hothers]

end Target

theorem eq_ok_of_toOption {E A : Type} {answer : Except E A} {value : A}
    (h : answer.toOption = some value) : answer = .ok value := by
  cases answer with
  | error error => cases h
  | ok found =>
      cases h
      rfl

namespace SegmentFilter

/-- The target of a filter on a field: the values of the field are in the table of its type,
and a condition comes with the type. -/
theorem target?_customField {metadata : Metadata} {glue : Glue} {filter : FieldFilter}
    {target : Target} (h : (customField glue filter).target? metadata = some target) :
    ∃ field table, metadata.field filter.field = .ok field ∧
      metadata.valueTable field.typeKey = .ok table ∧
      target.source = .fieldValue table field.id ∧
      ∀ condition, filter.condition = some condition → ∃ type, field.type? = some type ∧
        target.condition = some (condition, type) := by
  obtain ⟨field, hfield, hrest⟩ := Option.bind_eq_some_iff.mp h
  obtain ⟨table, htable, hrest⟩ := Option.bind_eq_some_iff.mp hrest
  refine ⟨field, table, eq_ok_of_toOption hfield, eq_ok_of_toOption htable, ?_⟩
  split at hrest
  · rename_i hnone
    cases hrest
    refine ⟨rfl, fun condition hcondition => ?_⟩
    rw [hnone] at hcondition
    cases hcondition
  · rename_i given hgiven
    obtain ⟨type, htype, htarget⟩ := Option.bind_eq_some_iff.mp hrest
    cases htarget
    refine ⟨rfl, fun condition hcondition => ⟨type, htype, ?_⟩⟩
    rw [hgiven] at hcondition
    cases hcondition
    rfl

/-- The target of a filter on items: a condition is one on their names. -/
theorem target?_customItem {metadata : Metadata} {glue : Glue} {filter : ItemFilter}
    {target : Target} (h : (customItem glue filter).target? metadata = some target) :
    ∃ object, metadata.object filter.object = .ok object ∧
      target = ⟨.objectItem object.id, filter.name.map fun condition => (condition, .text)⟩ := by
  obtain ⟨object, hobject, htarget⟩ := Option.bind_eq_some_iff.mp h
  exact ⟨object, eq_ok_of_toOption hobject, (Option.some.inj htarget).symm⟩

end SegmentFilter

namespace Dispatcher

variable {dispatcher : Dispatcher} {filter : SegmentFilter} {seed : String}
  {restriction : ContactRestriction} {union : FragmentUnion}

/-- What a filter is built to: the fragments of all paths from its target. -/
theorem build_eq (h : dispatcher.build filter seed restriction = .ok union) :
    ∃ target, filter.target? dispatcher.compiler.metadata = some target ∧ target.Fits ∧
      union = target.union dispatcher.compiler restriction seed := by
  obtain ⟨unrestricted, hcompile, hrestricted⟩ := bind_eq_ok h
  obtain ⟨target, htarget, hvalid, _, hunion⟩ := compile_target hcompile
  have hfits := hvalid.fits
  obtain ⟨fragments, hfragments, rfl⟩ := exists_of_map_ok hunion
  refine ⟨target, htarget, hfits, ?_⟩
  rw [Target.fragments_eq hfits hfragments] at hrestricted
  cases restriction with
  | allContacts =>
      cases hrestricted
      rfl
  | contact id =>
      cases hrestricted
      rw [FragmentUnion.restrictToContact, List.map_map, Target.union]
      simp only [Function.comp_def, Target.restrictToContact_fragment]

end Dispatcher

end SegmentPaths
