/-
Names that never meet.  Filters whose seeds are apart bind different names, and with a
seed for each fragment no alias stands for two tables.  Attaching such filters one after
the other therefore never meets a conflict, and keeps every value that is bound.
-/
import SegmentPaths.Proofs.BuiltFilters
import SegmentPaths.Proofs.SegmentRows

namespace SegmentPaths

/-- The first fragment of a filter keeps the seed it is given. -/
theorem AliasScope.seedFor_zero (scope : AliasScope) (seed : String) :
    scope.seedFor seed 0 = seed := by
  cases scope <;> rfl

/-- With a seed for each fragment, the index can be read back from a seed. -/
theorem AliasScope.seedFor_perFragment_inj {seed : String} {m n : Nat}
    (h : perFragment.seedFor seed m = perFragment.seedFor seed n) : m = n := by
  rcases m with _ | m <;> rcases n with _ | n
  · rfl
  · exact absurd h.symm (Names.seedName_ne_self _ _)
  · exact absurd h (Names.seedName_ne_self _ _)
  · exact (Names.numbered_inj h).2

namespace BuiltFilter

variable {dispatcher : Dispatcher} (built : BuiltFilter dispatcher)

/-- The aliases of a fragment are the tags of its path behind its seed. -/
theorem aliases_of_mem {fragment : Fragment} (h : fragment ∈ built.union.fragments) :
    ∃ path, fragment.query.aliases =
      (built.target.source.aliasTags path).map (Tag.under fragment.seed) := by
  obtain ⟨path, index, rfl⟩ := built.eq_fragment_of_mem h
  exact ⟨path, Target.aliases_fragment _ _ _ _ built.fits⟩

theorem exists_tag_of_alias {fragment : Fragment} (h : fragment ∈ built.union.fragments)
    {name : String} (hname : name ∈ fragment.query.aliases) :
    ∃ path, ∃ tag ∈ built.target.source.aliasTags path, tag.under fragment.seed = name := by
  obtain ⟨path, haliases⟩ := built.aliases_of_mem h
  rw [haliases] at hname
  exact ⟨path, List.mem_map.mp hname⟩

/-- The aliases of a condition are those of its fragments, and that of the union. -/
theorem aliases_condition :
    built.condition.aliases = (built.union.fragments.flatMap fun fragment =>
      fragment.query.aliases) ++ [Tag.under built.seed ⟨.union, none⟩] := by
  have hquery : built.query.aliases = built.union.fragments.flatMap fun fragment =>
      fragment.query.aliases := by
    rw [Query.aliases_ofBranches? (FragmentUnion.ofBranches_of_query built.hasQuery),
      List.flatMap_map]
  have hunion : Tag.under built.seed ⟨.union, none⟩ = seedName built.seed "union" := rfl
  simp [condition, Dispatcher.membership, Expr.aliases, Query.aliases, Expr.listAliases,
    Source.aliases, Join.listAliases, hquery, hunion]

theorem owns_of_mem_aliases {name : String} (h : name ∈ built.condition.aliases) :
    built.Owns name := by
  rw [aliases_condition] at h
  rcases List.mem_append.mp h with h | h
  · obtain ⟨fragment, hfragment, hname⟩ := List.mem_flatMap.mp h
    obtain ⟨path, tag, _, htag⟩ := built.exists_tag_of_alias hfragment hname
    obtain ⟨_, index, rfl⟩ := built.eq_fragment_of_mem hfragment
    exact ⟨index, tag, htag⟩
  · refine ⟨0, ⟨.union, none⟩, ?_⟩
    rw [List.mem_singleton.mp h, seedAt, AliasScope.seedFor_zero]

/-- With a seed for each fragment, the fragments of a filter have different seeds. -/
theorem pairwise_seed_ne (hscope : dispatcher.compiler.scope = .perFragment) :
    built.union.fragments.Pairwise fun left right => left.seed ≠ right.seed := by
  have hindices : (dispatcher.compiler.paths.zipIdx.map Prod.snd).Nodup := by
    rw [List.zipIdx_map_snd]
    exact List.nodup_range'
  rw [built.union_eq, Target.union, List.pairwise_map]
  apply (List.pairwise_map.mp hindices).imp
  intro left right hne hseed
  apply hne
  rw [hscope] at hseed
  exact AliasScope.seedFor_perFragment_inj hseed

/-- With a seed for each fragment, every alias of a condition stands for one table. -/
theorem nodup_aliases (hscope : dispatcher.compiler.scope = .perFragment) :
    built.condition.aliases.Nodup := by
  rw [aliases_condition, List.nodup_append, List.nodup_flatMap]
  refine ⟨⟨?_, ?_⟩, List.nodup_singleton _, ?_⟩
  · intro fragment hfragment
    obtain ⟨path, haliases⟩ := built.aliases_of_mem hfragment
    rw [haliases]
    exact (PathSource.aliasTags_nodup _ _).map (Tag.under_injective _)
  · apply (built.pairwise_seed_ne hscope).imp_of_mem
    intro left right hleft hright hseed name hname hother
    obtain ⟨_, tag, _, htag⟩ := built.exists_tag_of_alias hleft hname
    obtain ⟨_, other, _, hsame⟩ := built.exists_tag_of_alias hright hother
    exact hseed (Tag.under_inj (htag.trans hsame.symm)).1
  -- The alias of the union may have the seed of a fragment, so only the tag tells them apart.
  · intro name hname other hother hsame
    obtain ⟨fragment, hfragment, halias⟩ := List.mem_flatMap.mp hname
    obtain ⟨path, tag, htag, hunder⟩ := built.exists_tag_of_alias hfragment halias
    rw [List.mem_singleton.mp hother, ← hunder] at hsame
    rw [(Tag.under_inj hsame).2] at htag
    exact PathSource.union_notMem_aliasTags _ _ htag

/-- Conditions of filters under seeds that are apart share no alias. -/
theorem aliases_disjoint {left right : BuiltFilter dispatcher}
    (hapart : AliasScope.Apart left.seed right.seed) :
    List.Disjoint left.condition.aliases right.condition.aliases := by
  intro name hleft hright
  exact not_owns_of_apart hapart (left.owns_of_mem_aliases hleft)
    (right.owns_of_mem_aliases hright)

/-- With a seed for each fragment, different fragments of a filter bind different names. -/
theorem pairwise_keys_disjoint (hscope : dispatcher.compiler.scope = .perFragment) :
    built.union.fragments.Pairwise fun left right =>
      List.Disjoint left.params.keys right.params.keys := by
  apply (built.pairwise_seed_ne hscope).imp_of_mem
  intro left right hleft hright hseed name hname hother
  obtain ⟨tag, _, htag⟩ := (built.mem_keys_of_mem hleft name).mp hname
  obtain ⟨other, _, hsame⟩ := (built.mem_keys_of_mem hright name).mp hother
  exact hseed (Tag.under_inj (htag.trans hsame.symm)).1

/-- Requests whose filters are built. -/
theorem exists_list_of_build {requests : List AttachRequest}
    (h : ∀ request ∈ requests, ∃ union,
      dispatcher.build request.filter request.seed request.restriction = .ok union) :
    ∃ filters : List (BuiltFilter dispatcher),
      filters.map BuiltFilter.toAttachRequest = requests := by
  induction requests with
  | nil => exact ⟨[], rfl⟩
  | cons request rest ih =>
      obtain ⟨union, hbuild⟩ := h request List.mem_cons_self
      obtain ⟨built, hrequest, _⟩ := exists_of_build request hbuild
      obtain ⟨filters, hfilters⟩ := ih fun other hother => h other (List.mem_cons_of_mem _ hother)
      exact ⟨built :: filters, by rw [List.map_cons, hrequest, hfilters]⟩

end BuiltFilter

namespace Dispatcher

variable {dispatcher : Dispatcher}

/-- After a run of filters that bind different names, the segment binds what it bound before
and what the filters bind. -/
theorem get?_run {filters : List (BuiltFilter dispatcher)}
    (hdisjoint : filters.Pairwise fun left right =>
      List.Disjoint left.params.keys right.params.keys)
    {segment : SegmentQuery}
    (hfresh : ∀ filter ∈ filters, List.Disjoint segment.params.keys filter.params.keys)
    (name : String) (value : ParamValue) :
    (dispatcher.run segment (filters.map BuiltFilter.toAttachRequest)).params.get? name =
        some value ↔
      segment.params.get? name = some value ∨
        ∃ filter ∈ filters, filter.params.get? name = some value := by
  induction filters generalizing segment with
  | nil => simp [run]
  | cons filter rest ih =>
      obtain ⟨hhead, htail⟩ := List.pairwise_cons.mp hdisjoint
      obtain ⟨merged, hanswer, hbinds⟩ :=
        answer_of_disjoint filter (hfresh filter List.mem_cons_self)
      -- What is bound by now is apart from the rest, whichever of the two it comes from.
      have hnext : ∀ other ∈ rest, List.Disjoint merged.keys other.params.keys := by
        intro other hother bound hbound
        obtain ⟨found, hfound⟩ := (merged.mem_keys_iff bound).mp hbound
        rcases (hbinds bound found).mp hfound with hfound | hfound
        · exact hfresh other (List.mem_cons_of_mem _ hother)
            ((OrderedMap.mem_keys_iff _ _).mpr ⟨found, hfound⟩)
        · exact hhead other hother ((OrderedMap.mem_keys_iff _ _).mpr ⟨found, hfound⟩)
      rw [List.map_cons, run, List.foldl_cons, hanswer]
      refine (ih htail hnext).trans ?_
      simp only [hbinds, List.mem_cons, exists_eq_or_imp, or_assoc]

end Dispatcher

/-- Names of different filters never meet.  Take filters that are built under seeds of which
none is another one, or another one with a number; those of an evaluator are such seeds.
With a seed for each fragment, every alias in their conditions stands for one table, and
different fragments bind different names.  Different filters bind different names in any
case.  Attaching all of them to a segment that binds nothing meets no conflict: each
attachment adds what its filter binds to what is bound already, and in the end the segment
binds just what the filters bind. -/
theorem BuiltFilter.exists_apart {dispatcher : Dispatcher} {requests : List AttachRequest}
    (hbuild : ∀ request ∈ requests, ∃ union,
      dispatcher.build request.filter request.seed request.restriction = .ok union)
    (hapart : (requests.map AttachRequest.seed).Pairwise AliasScope.Apart) :
    (∀ m n, m ≠ n → AliasScope.Apart (Evaluator.filterSeed m) (Evaluator.filterSeed n)) ∧
    ∃ filters : List (BuiltFilter dispatcher),
      filters.map BuiltFilter.toAttachRequest = requests ∧
      (dispatcher.compiler.scope = .perFragment →
        (filters.flatMap fun filter => filter.condition.aliases).Nodup ∧
        (filters.flatMap fun filter => filter.union.fragments).Pairwise fun left right =>
          List.Disjoint left.params.keys right.params.keys) ∧
      (filters.Pairwise fun left right => List.Disjoint left.params.keys right.params.keys) ∧
      ∀ segment : SegmentQuery, segment.params = .empty →
        (∀ before filter after, filters = before ++ filter :: after →
          let current := dispatcher.run segment (before.map BuiltFilter.toAttachRequest)
          let answer := dispatcher.answer current filter.toAttachRequest
          answer.2 = none ∧ ∀ name value, answer.1.params.get? name = some value ↔
            current.params.get? name = some value ∨ filter.params.get? name = some value) ∧
        ∀ name value, (dispatcher.run segment requests).params.get? name = some value ↔
          ∃ filter ∈ filters, filter.params.get? name = some value := by
  obtain ⟨filters, rfl⟩ := exists_list_of_build hbuild
  have hseeds : filters.Pairwise fun left right => AliasScope.Apart left.seed right.seed := by
    rw [List.map_map] at hapart
    exact List.pairwise_map.mp hapart
  have hdisjoint : filters.Pairwise fun left right =>
      List.Disjoint left.params.keys right.params.keys := hseeds.imp keys_disjoint
  refine ⟨fun m n => Evaluator.filterSeed_apart, filters, rfl, ?_, hdisjoint, ?_⟩
  · intro hscope
    constructor
    · rw [List.nodup_flatMap]
      exact ⟨fun filter _ => filter.nodup_aliases hscope, hseeds.imp aliases_disjoint⟩
    · rw [List.pairwise_flatMap]
      refine ⟨fun filter _ => filter.pairwise_keys_disjoint hscope, ?_⟩
      apply hdisjoint.imp
      intro left right hkeys first hfirst second hsecond name hname hother
      exact hkeys ((left.mem_keys name).mpr ⟨first, hfirst, hname⟩)
        ((right.mem_keys name).mpr ⟨second, hsecond, hother⟩)
  · intro segment hempty
    have hfresh : ∀ filter ∈ filters, List.Disjoint segment.params.keys filter.params.keys := by
      intro filter _
      rw [hempty]
      exact List.disjoint_nil_left _
    constructor
    · intro before filter after hfilters current answer
      subst hfilters
      rw [List.pairwise_append] at hdisjoint
      obtain ⟨hbefore, _, hacross⟩ := hdisjoint
      have hcurrent : List.Disjoint current.params.keys filter.params.keys := by
        intro name hname
        obtain ⟨value, hvalue⟩ := (OrderedMap.mem_keys_iff _ _).mp hname
        rcases (Dispatcher.get?_run hbefore (fun other hother => hfresh other
          (List.mem_append_left _ hother)) name value).mp hvalue with hold | ⟨other, hother, hnew⟩
        · simp [hempty] at hold
        · exact hacross other hother filter List.mem_cons_self
            ((OrderedMap.mem_keys_iff _ _).mpr ⟨value, hnew⟩)
      obtain ⟨merged, hanswer, hbinds⟩ := Dispatcher.answer_of_disjoint filter hcurrent
      have hparams : answer.1.params = merged :=
        congrArg (fun result => result.1.params) hanswer
      refine ⟨congrArg Prod.snd hanswer, fun name value => ?_⟩
      rw [hparams]
      exact hbinds name value
    · intro name value
      rw [Dispatcher.get?_run hdisjoint hfresh, hempty]
      simp

namespace LinkedItems

/-- The two filters, each for all contacts of a table. -/
def requests : List AttachRequest :=
  calls.map fun call => ⟨call.1, "l", call.2, .allContacts⟩

/-- The two filters share no alias, and attaching them keeps what both bind. -/
theorem two_filters_apart :
    ∃ filters : List (BuiltFilter dispatcher),
      filters.map BuiltFilter.toAttachRequest = requests ∧
      (filters.flatMap fun filter => filter.condition.aliases).Nodup ∧
      ∀ base name value,
        (dispatcher.run (SegmentQuery.new base) requests).params.get? name = some value ↔
          ∃ filter ∈ filters, filter.params.get? name = some value := by
  have hbuild : ∀ request ∈ requests, ∃ union,
      dispatcher.build request.filter request.seed request.restriction = .ok union := by
    intro request hrequest
    simp only [requests, calls, List.map_cons, List.map_nil, List.mem_cons, List.not_mem_nil,
      or_false] at hrequest
    rcases hrequest with rfl | rfl
    · exact ⟨_, rfl⟩
    · exact ⟨_, rfl⟩
  obtain ⟨_, filters, hfilters, hnames, _, hrun⟩ := BuiltFilter.exists_apart hbuild calls_apart
  refine ⟨filters, hfilters, (hnames rfl).1, fun base => ?_⟩
  exact (hrun (SegmentQuery.new base) rfl).2

end LinkedItems

end SegmentPaths
