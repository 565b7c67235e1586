/-
Filters that are built: what stands in the query of one, what it binds, and what
becomes of a segment when built filters are attached to it one after the other.
-/
import SegmentPaths.Proofs.BuiltFragments

namespace SegmentPaths

/-- A request to attach a filter to a segment. -/
structure AttachRequest where
  filter : SegmentFilter
  contactAlias : String
  seed : String
  restriction : ContactRestriction

/-- A request whose filter is built, with its target, and with the query and the values of
what it is built to. -/
structure BuiltFilter (dispatcher : Dispatcher) extends AttachRequest where
  target : Target
  union : FragmentUnion
  query : Query
  params : Parameters
  hasTarget : filter.target? dispatcher.compiler.metadata = some target
  built : dispatcher.build filter seed restriction = .ok union
  hasQuery : union.query = .ok query
  hasParams : union.params = .ok params

namespace BuiltFilter

variable {dispatcher : Dispatcher}

/-- The seeds of a filter: its own one, and those that are counted from it. -/
abbrev seedAt (built : BuiltFilter dispatcher) (index : Nat) : String :=
  dispatcher.compiler.scope.seedFor built.seed index

/-- The condition that a filter becomes in a segment. -/
def condition (built : BuiltFilter dispatcher) : Expr :=
  Dispatcher.membership built.contactAlias built.seed built.query built.filter.isNegative

/-- Every filter that is built has a target, a query and values. -/
theorem exists_of_build (request : AttachRequest) {union : FragmentUnion}
    (h : dispatcher.build request.filter request.seed request.restriction = .ok union) :
    ∃ built : BuiltFilter dispatcher, built.toAttachRequest = request ∧ built.union = union := by
  obtain ⟨target, htarget, hfollows⟩ := Dispatcher.build_follows h
  obtain ⟨query, hquery⟩ := hfollows.exists_query
  obtain ⟨params, hparams, _⟩ := hfollows.exists_params
  exact ⟨⟨request, target, union, query, params, htarget, h, hquery, hparams⟩, rfl, rfl⟩

variable (built : BuiltFilter dispatcher)

theorem fits : built.target.Fits := by
  obtain ⟨target, htarget, hfits, _⟩ := Dispatcher.build_eq built.built
  rw [built.hasTarget] at htarget
  rwa [Option.some.inj htarget]

theorem union_eq :
    built.union = built.target.union dispatcher.compiler built.restriction built.seed := by
  obtain ⟨target, htarget, _, hunion⟩ := Dispatcher.build_eq built.built
  rw [built.hasTarget] at htarget
  rwa [Option.some.inj htarget]

/-- The fragments of a filter, with their paths and indices. -/
theorem eq_fragment_of_mem {fragment : Fragment} (h : fragment ∈ built.union.fragments) :
    ∃ path index, fragment = built.target.fragment dispatcher.compiler.metadata.tables
      built.restriction (built.seedAt index) path := by
  rw [built.union_eq] at h
  obtain ⟨⟨path, index⟩, _, rfl⟩ := List.mem_map.mp h
  exact ⟨path, index, rfl⟩

theorem placeholders_of_mem {fragment : Fragment} (h : fragment ∈ built.union.fragments) :
    fragment.query.placeholders =
      (built.target.tags built.restriction).map (Tag.under fragment.seed) := by
  obtain ⟨path, index, rfl⟩ := built.eq_fragment_of_mem h
  exact Target.placeholders_fragment _ _ _ _ built.fits

theorem get?_of_mem {fragment : Fragment} (h : fragment ∈ built.union.fragments) (name : String)
    (value : ParamValue) :
    fragment.params.get? name = some value ↔
      (name, value) ∈ built.target.bindings built.restriction fragment.seed := by
  obtain ⟨path, index, rfl⟩ := built.eq_fragment_of_mem h
  exact Target.get?_fragment _ _ _ _ built.fits name value

/-- A filter binds what its fragments bind. -/
theorem get?_params (name : String) (value : ParamValue) :
    built.params.get? name = some value ↔ ∃ fragment ∈ built.union.fragments,
      (name, value) ∈ built.target.bindings built.restriction fragment.seed := by
  obtain ⟨_, _, hfollows⟩ := Dispatcher.build_follows built.built
  obtain ⟨params, hparams, hbinds⟩ := FragmentUnion.params_of_agree hfollows.agree
  rw [built.hasParams] at hparams
  cases hparams
  rw [hbinds]
  refine exists_congr fun fragment => and_congr_right fun hfragment => ?_
  exact built.get?_of_mem hfragment name value

/-- The names that a fragment binds are its tags behind its seed. -/
theorem mem_keys_of_mem {fragment : Fragment} (h : fragment ∈ built.union.fragments)
    (name : String) :
    name ∈ fragment.params.keys ↔
      ∃ tag ∈ built.target.tags built.restriction, tag.under fragment.seed = name := by
  rw [OrderedMap.mem_keys_iff, ← List.mem_map, ← Target.map_fst_bindings, List.mem_map]
  simp only [built.get?_of_mem h, Prod.exists, exists_and_right, exists_eq_right]

theorem mem_keys (name : String) :
    name ∈ built.params.keys ↔ ∃ fragment ∈ built.union.fragments,
      name ∈ fragment.params.keys := by
  simp only [OrderedMap.mem_keys_iff, built.get?_params]
  constructor
  · rintro ⟨value, fragment, hfragment, hbinding⟩
    exact ⟨fragment, hfragment, value, (built.get?_of_mem hfragment name value).mpr hbinding⟩
  · rintro ⟨fragment, hfragment, value, hbound⟩
    exact ⟨value, fragment, hfragment, (built.get?_of_mem hfragment name value).mp hbound⟩

/-- The placeholders of a filter are just the names that it binds. -/
theorem mem_placeholders (name : String) :
    name ∈ built.query.placeholders ↔ name ∈ built.params.keys := by
  rw [Query.placeholders_ofBranches? (FragmentUnion.ofBranches_of_query built.hasQuery),
    List.flatMap_map, List.mem_flatMap, built.mem_keys]
  refine exists_congr fun fragment => and_congr_right fun hfragment => ?_
  rw [built.mem_keys_of_mem hfragment, built.placeholders_of_mem hfragment, List.mem_map]

theorem placeholders_condition : built.condition.placeholders = built.query.placeholders := by
  rw [condition, Dispatcher.membership, Expr.placeholders_inQuery, Expr.placeholders_tableColumn,
    Query.placeholders_select]
  simp [Source.tokens, tokenPlaceholders_aliasTokens, Query.placeholders]

/-- No list in the query of a filter is empty. -/
theorem hasEmptyList_query : built.query.hasEmptyList = false := by
  rw [Query.hasEmptyList_ofBranches? (FragmentUnion.ofBranches_of_query built.hasQuery),
    List.any_eq_false]
  intro query hquery
  obtain ⟨fragment, hfragment, rfl⟩ := List.mem_map.mp hquery
  obtain ⟨path, index, rfl⟩ := built.eq_fragment_of_mem hfragment
  rw [Target.hasEmptyList_fragment _ _ _ _ built.fits]
  exact Bool.false_ne_true

/-- Whether a name is made from a seed of the filter. -/
def Owns (name : String) : Prop :=
  ∃ index, ∃ tag : Tag, tag.under (built.seedAt index) = name

theorem owns_of_mem_keys {name : String} (h : name ∈ built.params.keys) : built.Owns name := by
  obtain ⟨fragment, hfragment, hname⟩ := (built.mem_keys name).mp h
  obtain ⟨tag, _, htag⟩ := (built.mem_keys_of_mem hfragment name).mp hname
  obtain ⟨path, index, rfl⟩ := built.eq_fragment_of_mem hfragment
  exact ⟨index, tag, htag⟩

section Apart

variable {left right : BuiltFilter dispatcher}
  (hapart : AliasScope.Apart left.seed right.seed)
include hapart

/-- Filters under seeds that are apart own no name together. -/
theorem not_owns_of_apart {name : String} (h : left.Owns name) : ¬right.Owns name := by
  intro hright
  obtain ⟨m, tag, htag⟩ := h
  obtain ⟨n, other, hother⟩ := hright
  apply AliasScope.seedFor_ne hapart dispatcher.compiler.scope m n
  exact (Tag.under_inj (htag.trans hother.symm)).1

theorem keys_disjoint : List.Disjoint left.params.keys right.params.keys := by
  intro name hleft hright
  exact not_owns_of_apart hapart (left.owns_of_mem_keys hleft) (right.owns_of_mem_keys hright)

end Apart

end BuiltFilter

/-- Maps that bind different names agree. -/
theorem Parameters.agree_of_disjoint {left right : Parameters}
    (h : List.Disjoint left.keys right.keys) : left.Agree right := by
  intro name a b ha hb
  exact absurd ((right.mem_keys_iff name).mpr ⟨b, hb⟩) (h ((left.mem_keys_iff name).mpr ⟨a, ha⟩))

namespace Dispatcher

variable {dispatcher : Dispatcher}

/-- What becomes of a segment under a request, and what is wrong with the request. -/
def answer (dispatcher : Dispatcher) (segment : SegmentQuery) (request : AttachRequest) :
    SegmentQuery × Option AttachError :=
  dispatcher.apply request.filter segment request.contactAlias request.seed request.restriction

/-- Requests that are answered one after the other. -/
def run (dispatcher : Dispatcher) (segment : SegmentQuery) (requests : List AttachRequest) :
    SegmentQuery :=
  requests.foldl (fun segment request => (dispatcher.answer segment request).1) segment

/-- A built filter that binds no name of a segment is attached with its condition, and the
segment binds what one of them binds. -/
theorem answer_of_disjoint (built : BuiltFilter dispatcher) {segment : SegmentQuery}
    (h : List.Disjoint segment.params.keys built.params.keys) :
    ∃ merged : Parameters,
      dispatcher.answer segment built.toAttachRequest =
        ({ segment.addCondition built.filter.glue built.condition with params := merged },
          none) ∧
      ∀ name value, merged.get? name = some value ↔
        segment.params.get? name = some value ∨ built.params.get? name = some value := by
  obtain ⟨merged, hmerge, hbinds⟩ := Parameters.merge_of_agree (Parameters.agree_of_disjoint h)
  refine ⟨merged, ?_, hbinds⟩
  exact apply_of_merge built.built built.hasQuery built.hasParams segment hmerge _

end Dispatcher

end SegmentPaths
