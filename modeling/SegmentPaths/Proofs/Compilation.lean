/-
What the compiler makes of a filter: one fragment for each path, all of them with
the condition of the filter, and placeholders that go by names of their seeds.
-/
import Mathlib.Data.List.Forall2
import SegmentPaths.Proofs.ConditionMeaning
import SegmentPaths.Proofs.FragmentRows
import SegmentPaths.Segment.Query

namespace SegmentPaths

theorem exists_of_map_ok {E A B : Type} {answer : Except E A} {f : A → B} {result : B}
    (h : answer.map f = .ok result) : ∃ value, answer = .ok value ∧ f value = result := by
  cases answer with
  | error error => cases h
  | ok value =>
      cases h
      exact ⟨value, rfl, rfl⟩

theorem exists_of_forall₂ {A B : Type} {R : A → B → Prop} {xs : List A} {ys : List B}
    (h : List.Forall₂ R xs ys) {y : B} (hy : y ∈ ys) : ∃ x, R x y := by
  induction h with
  | nil => cases hy
  | cons hfirst _ ih =>
      rcases List.mem_cons.mp hy with rfl | hrest
      · exact ⟨_, hfirst⟩
      · exact ih hrest

theorem flatMap_of_forall₂ {A B C : Type} {R : A → B → Prop} {xs : List A} {ys : List B}
    {f : A → List C} {g : B → List C} (h : List.Forall₂ R xs ys)
    (hsame : ∀ x y, y ∈ ys → R x y → g y = f x) : ys.flatMap g = xs.flatMap f := by
  induction h with
  | nil => rfl
  | cons hfirst _ ih =>
      rw [List.flatMap_cons, List.flatMap_cons, hsame _ _ List.mem_cons_self hfirst,
        ih fun x y hy => hsame x y (List.mem_cons_of_mem _ hy)]

/-- What a filter is about: where its paths start, and what it demands there. -/
structure Target where
  source : PathSource
  condition : Option (ValueCondition × FieldType)

/-- Whether a source row belongs to the target and meets the positive form of its
condition. -/
def Target.accepts (target : Target) (database : Database) (row : SourceRow) : Bool :=
  decide (row.owner = .int target.source.id) &&
    target.condition.all fun condition =>
      condition.1.metBy database condition.2 row.compared

/-- Placeholders have no say in which source rows are accepted. -/
theorem Target.accepts_withParams (target : Target) (database : Database)
    (params : Parameters) :
    target.accepts (database.withParams params) = target.accepts database := rfl

/-- The target of a filter: the field or the items that metadata knows it is about, and the
condition just as the filter gives it.  A field with a condition has to be of a known type,
and the names of items are texts. -/
def SegmentFilter.target? (metadata : Metadata) : SegmentFilter → Option Target
  | .customField _ filter => do
    let field ← (metadata.field filter.field).toOption
    let table ← (metadata.valueTable field.typeKey).toOption
    match filter.condition with
    | none => some ⟨.fieldValue table field.id, none⟩
    | some condition => do
      let type ← field.type?
      some ⟨.fieldValue table field.id, some (condition, type)⟩
  | .customItem _ filter => do
    let object ← (metadata.object filter.object).toOption
    some ⟨.objectItem object.id, filter.name.map fun condition => (condition, .text)⟩
  | .native _ => none

/-- Whether the condition of a target passes the check for its type. -/
def Target.Valid (target : Target) : Prop :=
  ∀ condition type, target.condition = some (condition, type) → condition.validate type = .ok ()

namespace Parameters

/-- What extends a map with one more entry extends the map, if the name is new. -/
theorem Extends.of_insert {large small : Parameters} {name : String} {value : ParamValue}
    (h : large.Extends (small.insert name value)) (hfresh : small.get? name = none) :
    large.Extends small ∧ large.get? name = some value := by
  refine ⟨fun other found hfound => ?_, h name value (OrderedMap.get?_insert_self _ _ _)⟩
  have hne : other ≠ name := by
    rintro rfl
    rw [hfresh] at hfound
    cases hfound
  exact h other found ((OrderedMap.get?_insert_of_ne small value hne).trans hfound)

end Parameters

namespace Fragment

/-- Whether a fragment follows a path from a target to the contact rows that are
allowed: its condition says just that wherever its placeholders are bound, and
they go by names of its seed. -/
structure Follows (metadata : Metadata) (target : Target) (path : RelationshipPath)
    (allows : ContactRow → Bool) (fragment : Fragment) : Prop where
  query : ∃ condition,
    fragment.query = .select [.column none "contact_id"]
      (some (routeStart metadata.tables target.source fragment.seed))
      (routeJoins metadata.tables path target.source fragment.seed) (some condition) ∧
    ∀ database : Database, database.params.Extends fragment.params →
      ∀ (scope : Scope) (row : SourceRow) (contact : ContactRow),
        scope.lookup (seedName fragment.seed target.source.aliasSuffix) =
          some (row.named target.source) →
        scope.lookup (contactAliasOf fragment.seed) = some contact.named →
        condition.holdsIn database scope = (target.accepts database row && allows contact)
  names : ∀ name value, fragment.params.get? name = some value →
    ∃ tag : Tag, name = tag.under fragment.seed

theorem Follows.rows {metadata : Metadata} {target : Target} {path : RelationshipPath}
    {allows : ContactRow → Bool} {fragment : Fragment}
    (hfollows : fragment.Follows metadata target path allows) {installation : Installation}
    {database : Database} (hstored : installation.StoredIn metadata database)
    (hknown : target.source.KnownTo metadata)
    (hparams : database.params.Extends fragment.params) (outer : Scope) :
    fragment.query.rows database outer =
      ((installation.reached target.source (target.accepts database) path).filter allows).map
        fun contact => [contact.contact] := by
  obtain ⟨condition, hquery, hcondition⟩ := hfollows.query
  rw [hquery]
  exact rows_route hstored hknown path fragment.seed (hcondition database hparams) outer

/-- The placeholder that a restriction to one contact adds. -/
theorem seedName_contactId (seed : String) :
    seedName seed "contact_id" = Tag.under seed ⟨.contactId, none⟩ := rfl

/-- A fragment that is restricted to one contact allows the rows of that contact
only. -/
theorem Follows.restrict {metadata : Metadata} {target : Target} {path : RelationshipPath}
    {allows : ContactRow → Bool} {fragment : Fragment}
    (hfollows : fragment.Follows metadata target path allows)
    (hfresh : fragment.params.get? (seedName fragment.seed "contact_id") = none)
    (contact : Int64) :
    (fragment.restrictToContact contact).Follows metadata target path fun row =>
      allows row && decide (row.contact = .int contact) := by
  obtain ⟨condition, hquery, hcondition⟩ := hfollows.query
  refine ⟨⟨.binary .and condition (.binary .equal
    (.tableColumn (contactAliasOf fragment.seed) "contact_id")
    (.param (seedName fragment.seed "contact_id"))), ?_, ?_⟩, ?_⟩
  · simp only [restrictToContact, hquery, Query.addFilter, contactAlias]
  · intro database hparams scope row link hrow hlink
    obtain ⟨hextends, hbound⟩ := hparams.of_insert hfresh
    have hcontact : (Expr.tableColumn (contactAliasOf fragment.seed) "contact_id").value
        database scope = link.contact := Expr.value_tableColumn hlink link.lookup_contact
    rw [Expr.holdsIn_and, hcondition database hextends scope row link hrow hlink,
      Expr.holdsIn_equal, hcontact, Expr.value_param hbound]
    simp [Datum.ofParam, Bool.and_assoc]
  · intro name value hname
    by_cases hsame : name = seedName fragment.seed "contact_id"
    · exact ⟨⟨.contactId, none⟩, hsame⟩
    · exact hfollows.names name value
        ((OrderedMap.get?_insert_of_ne _ _ hsame).symm.trans hname)

end Fragment

namespace PathCompiler

variable {compiler : PathCompiler} {target : Target}

/-- The name of a value of a condition, as a tag. -/
theorem tag_of_conditionName {source : PathSource} {seed name : String}
    (h : name = seedName seed source.comparedColumn ∨
      ∃ n, name = ValueCondition.listName (seedName seed source.comparedColumn) n) :
    ∃ index, name = Tag.under seed ⟨source.comparedWord, index⟩ := by
  rw [source.seedName_comparedColumn] at h
  rcases h with rfl | ⟨n, rfl⟩
  · exact ⟨none, rfl⟩
  · exact ⟨some n, (Tag.under_some seed source.comparedWord n).symm⟩

/-- The name of the id of a source is not one of a value of its condition. -/
theorem idColumn_ne_conditionName {source : PathSource} {seed name : String}
    (h : name = seedName seed source.comparedColumn ∨
      ∃ n, name = ValueCondition.listName (seedName seed source.comparedColumn) n) :
    name ≠ seedName seed source.idColumn := by
  obtain ⟨index, rfl⟩ := tag_of_conditionName h
  rw [source.seedName_idColumn]
  intro hsame
  have htag := (Tag.under_inj hsame).2
  cases source <;> cases htag

/-- The fragment of a path under a condition: what it binds depends on its seed,
but not on its path. -/
theorem fragment_some {source : PathSource} {condition : ValueCondition} {type : FieldType}
    {seed : String} {path : RelationshipPath} {fragment : Fragment}
    (h : compiler.fragment source (some (condition, type)) seed path = .ok fragment) :
    ∃ expr params,
      condition.toExpr (.tableColumn (seedName seed source.aliasSuffix) source.comparedColumn)
        type (seedName seed source.comparedColumn)
        (OrderedMap.empty.insert (seedName seed source.idColumn) (.int source.id)) =
          .ok (expr, params) ∧
      fragment = { Fragment.build compiler.metadata.tables path source seed with
        query := (Fragment.build compiler.metadata.tables path source seed).query.addFilter expr
        params := params } := by
  obtain ⟨⟨expr, params⟩, hexpr, hfragment⟩ := bind_eq_ok h
  cases hfragment
  exact ⟨expr, params, hexpr, rfl⟩

theorem fragment_seed {source : PathSource} {condition : Option (ValueCondition × FieldType)}
    {seed : String} {path : RelationshipPath} {fragment : Fragment}
    (h : compiler.fragment source condition seed path = .ok fragment) : fragment.seed = seed := by
  cases condition with
  | none =>
      cases h
      rfl
  | some condition =>
      obtain ⟨expr, params, _, rfl⟩ := fragment_some h
      rfl

/-- Fragments with the same seed bind the same values. -/
theorem fragment_params_eq {source : PathSource}
    {condition : Option (ValueCondition × FieldType)} {seed : String}
    {path other : RelationshipPath} {left right : Fragment}
    (hleft : compiler.fragment source condition seed path = .ok left)
    (hright : compiler.fragment source condition seed other = .ok right) :
    left.params = right.params := by
  cases condition with
  | none =>
      cases hleft
      cases hright
      rfl
  | some condition =>
      obtain ⟨expr, params, hexpr, rfl⟩ := fragment_some hleft
      obtain ⟨expr', params', hexpr', rfl⟩ := fragment_some hright
      rw [hexpr] at hexpr'
      cases hexpr'
      rfl

/-- The condition that a fragment starts out with: the source row belongs to the
field or object. -/
theorem holdsIn_owner {database : Database} {scope : Scope} {source : PathSource}
    {row : SourceRow} {seed : String}
    (hrow : scope.lookup (seedName seed source.aliasSuffix) = some (row.named source))
    (hbound : database.params.get? (seedName seed source.idColumn) = some (.int source.id)) :
    (Expr.binary .equal (.tableColumn (seedName seed source.aliasSuffix) source.idColumn)
        (.param (seedName seed source.idColumn))).holdsIn database scope =
      decide (row.owner = .int source.id) := by
  rw [Expr.holdsIn_equal, Expr.value_tableColumn hrow (row.lookup_idColumn source),
    Expr.value_param hbound]
  simp [Datum.ofParam]

/-- The condition of a compiled fragment accepts the source rows that its target
accepts. -/
theorem fragment_query {seed : String} {path : RelationshipPath} {fragment : Fragment}
    (h : compiler.fragment target.source target.condition seed path = .ok fragment) :
    ∃ condition,
      fragment.query = .select [.column none "contact_id"]
        (some (Fragment.routeStart compiler.metadata.tables target.source seed))
        (Fragment.routeJoins compiler.metadata.tables path target.source seed)
        (some condition) ∧
      ∀ database : Database, database.params.Extends fragment.params →
        ∀ (scope : Scope) (row : SourceRow),
          scope.lookup (seedName seed target.source.aliasSuffix) =
            some (row.named target.source) →
          condition.holdsIn database scope = target.accepts database row := by
  obtain ⟨source, condition⟩ := target
  cases condition with
  | none =>
      cases h
      refine ⟨_, rfl, fun database hparams scope row hrow => ?_⟩
      have hbound := hparams _ _ (OrderedMap.get?_insert_self _ _ _)
      rw [Target.accepts, Option.all_none, Bool.and_true]
      exact holdsIn_owner hrow hbound
  | some condition =>
      obtain ⟨condition, type⟩ := condition
      obtain ⟨expr, params, hexpr, rfl⟩ := fragment_some h
      obtain ⟨values, bindings, hvalues, hexpression, rfl⟩ := ValueCondition.toExpr_eq_ok hexpr
      obtain ⟨hnodup, hnames⟩ := ValueCondition.expression_names hexpression
      refine ⟨_, rfl, fun database hparams scope row hrow => ?_⟩
      have hfresh : seedName seed source.idColumn ∉ bindings.map Prod.fst :=
        fun hmem => idColumn_ne_conditionName (hnames _ hmem) rfl
      have hbound := hparams _ _ ((ValueCondition.get?_bindAll_of_notMem _ bindings hfresh).trans
        (OrderedMap.get?_insert_self _ _ _))
      have hvalue : (Expr.tableColumn (seedName seed source.aliasSuffix)
          source.comparedColumn).value database scope = row.compared :=
        Expr.value_tableColumn hrow (row.lookup_comparedColumn source)
      have hbindings : ∀ binding ∈ bindings,
          database.params.get? binding.1 = some binding.2 :=
        fun binding hbinding => hparams _ _
          (ValueCondition.get?_bindAll_of_mem _ bindings hnodup hbinding)
      rw [Expr.holdsIn_and, Target.accepts, Option.all_some,
        ValueCondition.holdsIn_expression hvalues hexpression hvalue hbindings]
      exact congrArg (· && _) (holdsIn_owner hrow hbound)

/-- A compiled fragment binds the id of its source and values of its condition. -/
theorem fragment_names {seed : String} {path : RelationshipPath} {fragment : Fragment}
    (h : compiler.fragment target.source target.condition seed path = .ok fragment)
    {name : String} {value : ParamValue} (hname : fragment.params.get? name = some value) :
    ∃ tag : Tag, tag.word ≠ .contactId ∧ name = tag.under seed := by
  obtain ⟨source, condition⟩ := target
  have hid : ∀ found, (OrderedMap.empty.insert (seedName seed source.idColumn)
      (ParamValue.int source.id)).get? name = some found →
      ∃ tag : Tag, tag.word ≠ .contactId ∧ name = tag.under seed := by
    intro found hfound
    have hsame : name = seedName seed source.idColumn := by
      by_cases hne : name = seedName seed source.idColumn
      · exact hne
      · rw [OrderedMap.get?_insert_of_ne _ _ hne] at hfound
        cases hfound
    refine ⟨source.idTag, ?_, hsame.trans (source.seedName_idColumn seed)⟩
    cases source <;> simp [PathSource.idTag]
  cases condition with
  | none =>
      cases h
      exact hid value hname
  | some condition =>
      obtain ⟨expr, params, hexpr, rfl⟩ := fragment_some h
      obtain ⟨values, bindings, _, hexpression, rfl⟩ := ValueCondition.toExpr_eq_ok hexpr
      rcases ValueCondition.get?_bindAll_cases _ bindings hname with hmem | hfound
      · obtain ⟨index, htag⟩ :=
          tag_of_conditionName ((ValueCondition.expression_names hexpression).2 name hmem)
        refine ⟨⟨source.comparedWord, index⟩, ?_, htag⟩
        cases source <;> simp [PathSource.comparedWord]
      · exact hid value hfound

theorem fragment_follows {seed : String} {path : RelationshipPath} {fragment : Fragment}
    (h : compiler.fragment target.source target.condition seed path = .ok fragment) :
    fragment.Follows compiler.metadata target path fun _ => true := by
  have hseed := fragment_seed h
  subst hseed
  obtain ⟨condition, hquery, hcondition⟩ := fragment_query h
  refine ⟨⟨condition, hquery, fun database hparams scope row contact hrow _ => ?_⟩, ?_⟩
  · rw [hcondition database hparams scope row hrow, Bool.and_true]
  · intro name value hname
    obtain ⟨tag, _, htag⟩ := fragment_names h hname
    exact ⟨tag, htag⟩

/-- No compiled fragment binds a contact. -/
theorem fragment_contact {seed : String} {path : RelationshipPath} {fragment : Fragment}
    (h : compiler.fragment target.source target.condition seed path = .ok fragment) :
    fragment.params.get? (seedName fragment.seed "contact_id") = none := by
  have hseed := fragment_seed h
  subst hseed
  cases hget : fragment.params.get? (seedName fragment.seed "contact_id") with
  | none => rfl
  | some value =>
      obtain ⟨tag, hword, htag⟩ := fragment_names h hget
      rw [Fragment.seedName_contactId] at htag
      exact absurd (congrArg Tag.word (Tag.under_inj htag).2).symm hword

theorem fragments_follow {seed : String} {paths : List RelationshipPath} {index : Nat}
    {fragments : List Fragment}
    (h : compiler.fragments target.source target.condition seed index paths = .ok fragments) :
    List.Forall₂ (fun path fragment => ∃ n, compiler.fragment target.source target.condition
      (compiler.scope.seedFor seed n) path = .ok fragment) paths fragments := by
  induction paths generalizing index fragments with
  | nil =>
      cases h
      exact .nil
  | cons path rest ih =>
      obtain ⟨first, hfirst, hrest⟩ := bind_eq_ok h
      obtain ⟨others, hothers, hfragments⟩ := bind_eq_ok hrest
      cases hfragments
      exact .cons ⟨index, hfirst⟩ (ih hothers)

end PathCompiler

namespace FragmentUnion

/-- Whether a union follows all paths of a compiler from a target, under seeds
that are made from one seed.  Fragments that share a seed bind the same values. -/
structure Follows (compiler : PathCompiler) (target : Target) (seed : String)
    (allows : ContactRow → Bool) (union : FragmentUnion) : Prop where
  known : target.source.KnownTo compiler.metadata
  fragments : List.Forall₂
    (fun path fragment => Fragment.Follows compiler.metadata target path allows fragment)
    compiler.paths union.fragments
  seeds : ∀ fragment ∈ union.fragments, ∃ n, fragment.seed = compiler.scope.seedFor seed n
  same : ∀ left ∈ union.fragments, ∀ right ∈ union.fragments,
    left.seed = right.seed → left.params = right.params

theorem ofBranches_of_query {union : FragmentUnion} {query : Query}
    (h : union.query = .ok query) :
    Query.ofBranches? (union.fragments.map Fragment.query) = some query := by
  unfold FragmentUnion.query at h
  split at h
  · rename_i hsome
    cases h
    exact hsome
  · cases h

namespace Follows

variable {compiler : PathCompiler} {target : Target} {seed : String}
  {allows : ContactRow → Bool} {union : FragmentUnion}

theorem exists_path (hfollows : union.Follows compiler target seed allows)
    {fragment : Fragment} (hfragment : fragment ∈ union.fragments) :
    ∃ path, fragment.Follows compiler.metadata target path allows :=
  exists_of_forall₂ hfollows.fragments hfragment

/-- There is at least one path. -/
theorem exists_query (hfollows : union.Follows compiler target seed allows) :
    ∃ query, union.query = .ok query := by
  have hpaths : [] ∈ compiler.paths :=
    (RelationshipPath.mem_enumerate [] compiler.depth).mpr compiler.depth.positive
  have hall := hfollows.fragments
  generalize compiler.paths = paths at hall hpaths
  rw [FragmentUnion.query]
  cases hfragments : union.fragments with
  | nil =>
      rw [hfragments] at hall
      cases hall
      cases hpaths
  | cons first rest =>
      cases rest with
      | nil => exact ⟨_, rfl⟩
      | cons second rest => exact ⟨_, rfl⟩

/-- Fragments agree on what they bind. -/
theorem agree (hfollows : union.Follows compiler target seed allows) :
    ∀ left ∈ union.fragments, ∀ right ∈ union.fragments, left.params.Agree right.params := by
  intro left hleft right hright name a b ha hb
  obtain ⟨_, hpath⟩ := hfollows.exists_path hleft
  obtain ⟨_, hother⟩ := hfollows.exists_path hright
  obtain ⟨tag, htag⟩ := hpath.names name a ha
  obtain ⟨other, hname⟩ := hother.names name b hb
  rw [htag] at hname
  rw [hfollows.same left hleft right hright (Tag.under_inj hname).1, hb] at ha
  exact (Option.some.inj ha).symm

/-- The values of a union bind what its fragments bind, and go by names of its
seeds. -/
theorem exists_params (hfollows : union.Follows compiler target seed allows) :
    ∃ params, union.params = .ok params ∧
      (∀ fragment ∈ union.fragments, params.Extends fragment.params) ∧
      ∀ name value, params.get? name = some value →
        ∃ n, ∃ tag : Tag, name = tag.under (compiler.scope.seedFor seed n) := by
  obtain ⟨params, hparams, hbinds⟩ := FragmentUnion.params_of_agree hfollows.agree
  refine ⟨params, hparams, fun fragment hfragment name value hname => ?_, ?_⟩
  · exact (hbinds name value).mpr ⟨fragment, hfragment, hname⟩
  · intro name value hname
    obtain ⟨fragment, hfragment, hbound⟩ := (hbinds name value).mp hname
    obtain ⟨path, hpath⟩ := hfollows.exists_path hfragment
    obtain ⟨tag, htag⟩ := hpath.names name value hbound
    obtain ⟨n, hseed⟩ := hfollows.seeds fragment hfragment
    exact ⟨n, tag, by rw [htag, hseed]⟩

theorem columnNames (hfollows : union.Follows compiler target seed allows) {query : Query}
    (hquery : union.query = .ok query) : query.columnNames = ["contact_id"] := by
  have hbranches := ofBranches_of_query hquery
  cases hfragments : union.fragments with
  | nil =>
      rw [hfragments] at hbranches
      cases hbranches
  | cons first rest =>
      obtain ⟨path, hpath⟩ := hfollows.exists_path (hfragments ▸ List.mem_cons_self)
      obtain ⟨condition, hfirst, _⟩ := hpath.query
      rw [hfragments, List.map_cons] at hbranches
      rw [Query.columnNames_ofBranches? hbranches, hfirst]
      rfl

/-- The rows of a union are those of its paths, one path after the other, wherever
its values are bound. -/
theorem rows (hfollows : union.Follows compiler target seed allows) {query : Query}
    (hquery : union.query = .ok query) {installation : Installation} {database : Database}
    (hstored : installation.StoredIn compiler.metadata database)
    (hparams : ∀ fragment ∈ union.fragments, database.params.Extends fragment.params)
    (outer : Scope) :
    query.rows database outer =
      ((compiler.paths.flatMap (installation.reached target.source
        (target.accepts database))).filter allows).map fun contact => [contact.contact] := by
  rw [Query.rows_ofBranches? (ofBranches_of_query hquery), List.flatMap_map,
    List.filter_flatMap, List.map_flatMap]
  exact flatMap_of_forall₂ hfollows.fragments fun path fragment hfragment hpath =>
    hpath.rows hstored hfollows.known (hparams fragment hfragment) outer

end Follows

end FragmentUnion

/-- The contact rows that a restriction leaves. -/
def ContactRestriction.allows : ContactRestriction → ContactRow → Bool
  | .allContacts => fun _ => true
  | .contact id => fun row => decide (row.contact = .int id)

namespace PathCompiler

/-- A checked condition of a field is the one that is given, if there is one, with the type
of the field. -/
theorem fieldCondition_cases {given : Option ValueCondition} {typeKey : String}
    {checked : Option (ValueCondition × FieldType)}
    (h : fieldCondition given typeKey = .ok checked) :
    (given = none ∧ checked = none) ∨
      ∃ condition type, given = some condition ∧ FieldType.ofKey? typeKey = some type ∧
        condition.validate type = .ok () ∧ checked = some (condition, type) := by
  cases given with
  | none =>
      cases h
      exact Or.inl ⟨rfl, rfl⟩
  | some condition =>
      obtain ⟨type, htype, hrest⟩ := bind_eq_ok h
      obtain ⟨_, hvalid, hchecked⟩ := bind_eq_ok hrest
      cases hchecked
      unfold TableNames.fieldType at htype
      split at htype
      · rename_i hkey
        cases htype
        exact Or.inr ⟨condition, type, rfl, hkey, hvalid, rfl⟩
      · cases htype

theorem valid_of_fieldCondition {given : Option ValueCondition} {typeKey : String}
    {checked : Option (ValueCondition × FieldType)}
    (h : fieldCondition given typeKey = .ok checked) (source : PathSource) :
    Target.Valid ⟨source, checked⟩ := by
  intro condition type hcondition
  rcases fieldCondition_cases h with ⟨_, rfl⟩ | ⟨_, _, _, _, hvalid, rfl⟩
  · cases hcondition
  · cases hcondition
    exact hvalid

/-- A checked condition of an item name is the one that is given, if there is one, with the
type of names. -/
theorem nameCondition_eq_ok {given : Option ValueCondition}
    {checked : Option (ValueCondition × FieldType)} (h : nameCondition given = .ok checked) :
    (∀ condition, given = some condition → condition.validate .text = .ok ()) ∧
      checked = given.map fun condition => (condition, .text) := by
  cases given with
  | none =>
      cases h
      refine ⟨?_, rfl⟩
      rintro _ ⟨⟩
  | some condition =>
      obtain ⟨_, hvalid, hchecked⟩ := bind_eq_ok h
      cases hchecked
      refine ⟨?_, rfl⟩
      rintro _ ⟨⟩
      exact hvalid

theorem valid_of_nameCondition {given : Option ValueCondition}
    {checked : Option (ValueCondition × FieldType)} (h : nameCondition given = .ok checked)
    (source : PathSource) : Target.Valid ⟨source, checked⟩ := by
  intro condition type hcondition
  obtain ⟨hvalid, rfl⟩ := nameCondition_eq_ok h
  obtain ⟨given, hgiven, hsame⟩ := Option.map_eq_some_iff.mp hcondition
  cases hsame
  exact hvalid _ hgiven

variable {compiler : PathCompiler} {target : Target}

theorem union_follows {seed : String} {union : FragmentUnion}
    (h : compiler.union target.source target.condition seed = .ok union)
    (hknown : target.source.KnownTo compiler.metadata) :
    union.Follows compiler target seed ContactRestriction.allContacts.allows := by
  obtain ⟨fragments, hfragments, hunion⟩ := exists_of_map_ok h
  subst hunion
  have hall := fragments_follow hfragments
  refine ⟨hknown, hall.imp fun path fragment ⟨n, hpath⟩ => fragment_follows hpath, ?_, ?_⟩
  · intro fragment hfragment
    obtain ⟨path, n, hpath⟩ := exists_of_forall₂ hall hfragment
    exact ⟨n, fragment_seed hpath⟩
  · intro left hleft right hright hseed
    obtain ⟨path, m, hpath⟩ := exists_of_forall₂ hall hleft
    obtain ⟨other, n, hother⟩ := exists_of_forall₂ hall hright
    rw [fragment_seed hpath, fragment_seed hother] at hseed
    rw [hseed] at hpath
    exact fragment_params_eq hpath hother

/-- A restriction to one contact restricts every fragment. -/
theorem union_restrict_follows {seed : String} {union : FragmentUnion}
    (h : compiler.union target.source target.condition seed = .ok union)
    (hknown : target.source.KnownTo compiler.metadata) (contact : Int64) :
    (union.restrictToContact contact).Follows compiler target seed
      (ContactRestriction.contact contact).allows := by
  have hfollows := union_follows h hknown
  obtain ⟨fragments, hfragments, hunion⟩ := exists_of_map_ok h
  subst hunion
  have hall := fragments_follow hfragments
  refine ⟨hknown, ?_, ?_, ?_⟩
  · refine List.forall₂_map_right_iff.mpr (hall.imp fun path fragment ⟨n, hpath⟩ => ?_)
    have hrestrict := (fragment_follows hpath).restrict (fragment_contact hpath) contact
    simpa only [ContactRestriction.allows, Bool.true_and] using hrestrict
  · intro fragment hfragment
    obtain ⟨original, horiginal, rfl⟩ := List.mem_map.mp hfragment
    exact hfollows.seeds original horiginal
  · intro left hleft right hright hseed
    obtain ⟨first, hfirst, rfl⟩ := List.mem_map.mp hleft
    obtain ⟨second, hsecond, rfl⟩ := List.mem_map.mp hright
    have hparams := hfollows.same first hfirst second hsecond hseed
    simp only [Fragment.restrictToContact] at hseed ⊢
    rw [hseed, hparams]

end PathCompiler

namespace Dispatcher

variable {dispatcher : Dispatcher} {filter : SegmentFilter} {seed : String}

/-- A filter that compiles has a target with a valid condition, and compiles to the fragments
of all paths from it. -/
theorem compile_target {union : FragmentUnion}
    (h : dispatcher.compile filter seed = .ok union) :
    ∃ target, filter.target? dispatcher.compiler.metadata = some target ∧ target.Valid ∧
      target.source.KnownTo dispatcher.compiler.metadata ∧
      dispatcher.compiler.union target.source target.condition seed = .ok union := by
  cases filter with
  | customField glue filter =>
      obtain ⟨_, _, hchecked⟩ := bind_eq_ok h
      obtain ⟨field, hfield, hrest⟩ := bind_eq_ok hchecked
      obtain ⟨table, htable, hrest⟩ := bind_eq_ok hrest
      obtain ⟨checked, hchecked, hunion⟩ := bind_eq_ok hrest
      refine ⟨⟨.fieldValue table field.id, checked⟩, ?_,
        PathCompiler.valid_of_fieldCondition hchecked _, ⟨field.typeKey, htable⟩, hunion⟩
      rcases PathCompiler.fieldCondition_cases hchecked with
        ⟨hnone, rfl⟩ | ⟨condition, type, hsome, htype, _, rfl⟩
      · simp [SegmentFilter.target?, hfield, htable, hnone, Except.toOption]
      · simp [SegmentFilter.target?, hfield, htable, hsome, CustomField.type?, htype,
          Except.toOption]
  | customItem glue filter =>
      obtain ⟨_, _, hchecked⟩ := bind_eq_ok h
      obtain ⟨object, hobject, hrest⟩ := bind_eq_ok hchecked
      obtain ⟨checked, hchecked, hunion⟩ := bind_eq_ok hrest
      refine ⟨⟨.objectItem object.id, checked⟩, ?_,
        PathCompiler.valid_of_nameCondition hchecked _, trivial, hunion⟩
      rw [(PathCompiler.nameCondition_eq_ok hchecked).2]
      simp [SegmentFilter.target?, hobject, Except.toOption]
  | native raw => cases h

/-- What a filter is built to follows all paths from its target, and allows the
contact rows that the restriction leaves. -/
theorem build_follows {restriction : ContactRestriction} {union : FragmentUnion}
    (h : dispatcher.build filter seed restriction = .ok union) :
    ∃ target, filter.target? dispatcher.compiler.metadata = some target ∧
      union.Follows dispatcher.compiler target seed restriction.allows := by
  obtain ⟨unrestricted, hcompile, hrestricted⟩ := bind_eq_ok h
  obtain ⟨target, htarget, _, hknown, hunion⟩ := compile_target hcompile
  refine ⟨target, htarget, ?_⟩
  cases restriction with
  | allContacts =>
      cases hrestricted
      exact PathCompiler.union_follows hunion hknown
  | contact id =>
      cases hrestricted
      exact PathCompiler.union_restrict_follows hunion hknown id

/-- A filter that is built goes to the groups with its condition, and its values are
merged. -/
theorem apply_of_merge {restriction : ContactRestriction} {union : FragmentUnion} {query : Query}
    {params merged : Parameters} (hbuild : dispatcher.build filter seed restriction = .ok union)
    (hquery : union.query = .ok query) (hparams : union.params = .ok params)
    (segment : SegmentQuery) (hmerge : segment.params.merge params = (merged, none))
    (contactAlias : String) :
    dispatcher.apply filter segment contactAlias seed restriction =
      ({ segment.addCondition filter.glue
          (membership contactAlias seed query filter.isNegative) with params := merged },
        none) := by
  cases filter with
  | native raw => cases hbuild
  | customField glue filter =>
      simp only [apply, hbuild, hquery, hparams, SegmentQuery.addCondition]
      rw [hmerge]
  | customItem glue filter =>
      simp only [apply, hbuild, hquery, hparams, SegmentQuery.addCondition]
      rw [hmerge]

/-- A filter is built for one contact exactly if it is for all. -/
theorem build_isOk_iff {union : FragmentUnion} {restriction : ContactRestriction}
    (h : dispatcher.build filter seed restriction = .ok union) (other : ContactRestriction) :
    ∃ restricted, dispatcher.build filter seed other = .ok restricted := by
  obtain ⟨unrestricted, hcompile, _⟩ := bind_eq_ok h
  cases other with
  | allContacts => exact ⟨_, by rw [build, hcompile]; rfl⟩
  | contact id => exact ⟨_, by rw [build, hcompile]; rfl⟩

end Dispatcher

end SegmentPaths
