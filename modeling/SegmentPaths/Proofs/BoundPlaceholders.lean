/-
Placeholders and what is bound.  The names that stand in the query of a filter are just
those that it binds, each to the value that is meant; and attaching filters to a segment
keeps this balance.
-/
import SegmentPaths.Proofs.BuiltFilters
import SegmentPaths.Proofs.Catalogs
import SegmentPaths.Proofs.SegmentRows

namespace SegmentPaths

namespace SegmentQuery

/-- Whether the placeholders of a segment are just the names that it binds. -/
def Closed (segment : SegmentQuery) : Prop :=
  ∀ name, name ∈ segment.query.placeholders ↔ name ∈ segment.params.keys

theorem placeholders_joined? (op : BinaryOp) (exprs : List Expr) :
    (joined? op exprs).toList.flatMap Expr.placeholders = exprs.flatMap Expr.placeholders := by
  cases exprs with
  | nil => rfl
  | cons first rest =>
      rw [joined?, Option.toList_some, List.flatMap_singleton, Expr.placeholders_foldl,
        List.flatMap_cons]

theorem flatten_extend (glue : Glue) (condition : Expr) (groups : List (List Expr)) :
    (extend glue condition groups).flatten = groups.flatten ++ [condition] := by
  induction groups with
  | nil => rfl
  | cons group rest ih =>
      cases rest with
      | nil => cases glue <;> simp [extend]
      | cons next rest =>
          rw [extend, List.flatten_cons, ih, List.flatten_cons, List.flatten_cons]
          simp

theorem placeholders_groups (groups : List (List Expr)) :
    (groups.filterMap (joined? .and)).flatMap Expr.placeholders =
      groups.flatten.flatMap Expr.placeholders := by
  induction groups with
  | nil => rfl
  | cons group rest ih =>
      rw [List.flatten_cons, List.flatMap_append, ← ih, ← placeholders_joined? .and group]
      cases hgroup : joined? .and group with
      | none => simp [hgroup]
      | some condition => simp [hgroup]

/-- The placeholders of a segment are those of its base and of its conditions. -/
theorem placeholders_query {segment : SegmentQuery} (hplain : segment.base.isUnion = false) :
    segment.query.placeholders =
      segment.base.placeholders ++ segment.groups.flatten.flatMap Expr.placeholders := by
  have hgroups : segment.condition?.toList.flatMap Expr.placeholders =
      segment.groups.flatten.flatMap Expr.placeholders := by
    rw [condition?, placeholders_joined?, placeholders_groups]
  rw [← hgroups, query]
  cases segment.condition? with
  | none => simp
  | some condition => simp [Query.placeholders_addFilter hplain]

/-- One more condition adds its placeholders. -/
theorem placeholders_addCondition {segment : SegmentQuery}
    (hplain : segment.base.isUnion = false) (glue : Glue) (condition : Expr) :
    (segment.addCondition glue condition).query.placeholders =
      segment.query.placeholders ++ condition.placeholders := by
  have hnext : (segment.addCondition glue condition).base.isUnion = false := hplain
  rw [placeholders_query hnext, placeholders_query hplain]
  simp [addCondition, flatten_extend]

/-- Attaching a filter that is built keeps the balance, if the segment binds none of its
names. -/
theorem Closed.answer {dispatcher : Dispatcher} {segment : SegmentQuery} (hclosed : segment.Closed)
    (hplain : segment.base.isUnion = false) (built : BuiltFilter dispatcher)
    (hfresh : List.Disjoint segment.params.keys built.params.keys) :
    ∃ next, dispatcher.answer segment built.toAttachRequest = (next, none) ∧
      next.base = segment.base ∧ next.Closed ∧
      ∀ name, name ∈ next.params.keys ↔ name ∈ segment.params.keys ∨ name ∈ built.params.keys := by
  obtain ⟨merged, hanswer, hbinds⟩ := Dispatcher.answer_of_disjoint built hfresh
  have hkeys : ∀ name, name ∈ merged.keys ↔
      name ∈ segment.params.keys ∨ name ∈ built.params.keys := by
    intro name
    simp only [OrderedMap.mem_keys_iff, hbinds, exists_or]
  refine ⟨_, hanswer, rfl, ?_, hkeys⟩
  intro name
  change name ∈ (segment.addCondition built.filter.glue built.condition).query.placeholders ↔ _
  rw [placeholders_addCondition hplain, List.mem_append, built.placeholders_condition,
    built.mem_placeholders, hclosed name]
  exact (hkeys name).symm

end SegmentQuery

/-- Whether a name is bound by one of the requested filters. -/
def Dispatcher.Reserved (dispatcher : Dispatcher) (requests : List AttachRequest)
    (name : String) : Prop :=
  ∃ built : BuiltFilter dispatcher, built.toAttachRequest ∈ requests ∧ name ∈ built.params.keys

/-- Whether a handler of the platform keeps segments on plain SELECTs in balance, and binds
no reserved name of its own. -/
def NativeHandler.Keeps (handler : NativeHandler) (reserved : String → Prop) : Prop :=
  ∀ raw contactAlias segment next, handler raw contactAlias segment = .ok next →
    segment.base.isUnion = false → segment.Closed →
      next.base.isUnion = false ∧ next.Closed ∧
        ∀ name ∈ next.params.keys, name ∈ segment.params.keys ∨ ¬reserved name

/-- Whether requests can go on: the segment is a plain SELECT in balance, and binds no name of
the requested filters. -/
structure Dispatcher.Ready (dispatcher : Dispatcher) (requests : List AttachRequest)
    (segment : SegmentQuery) : Prop where
  plain : segment.base.isUnion = false
  closed : segment.Closed
  fresh : ∀ name ∈ segment.params.keys, ¬dispatcher.Reserved requests name

namespace Dispatcher

variable {dispatcher : Dispatcher} {request : AttachRequest} {rest : List AttachRequest}
  {segment : SegmentQuery}

theorem Reserved.cons {name : String} (h : dispatcher.Reserved rest name) :
    dispatcher.Reserved (request :: rest) name := by
  obtain ⟨built, hmem, hname⟩ := h
  exact ⟨built, List.mem_cons_of_mem _ hmem, hname⟩

theorem Ready.tail (h : dispatcher.Ready (request :: rest) segment) :
    dispatcher.Ready rest segment :=
  ⟨h.plain, h.closed, fun name hname hreserved => h.fresh name hname hreserved.cons⟩

/-- A handler that keeps away from all names keeps away from those of fewer filters. -/
theorem keeps_tail {handler : NativeHandler}
    (h : handler.Keeps (dispatcher.Reserved (request :: rest))) :
    handler.Keeps (dispatcher.Reserved rest) := by
  intro raw contactAlias current next hnext hplain hclosed
  obtain ⟨hstill, hbalance, hnames⟩ := h raw contactAlias current next hnext hplain hclosed
  refine ⟨hstill, hbalance, fun name hname => ?_⟩
  exact (hnames name hname).imp id fun hfree hreserved => hfree hreserved.cons

/-- After one answer, requests can still go on: a filter that is built under a seed apart from
the others is attached, one that is refused changes nothing, and one of the platform is
handled. -/
theorem Ready.answer (hready : dispatcher.Ready (request :: rest) segment)
    (hapart : ∀ other ∈ rest, AliasScope.Apart request.seed other.seed)
    (hnative : ∀ handler, dispatcher.native = some handler →
      handler.Keeps (dispatcher.Reserved (request :: rest))) :
    dispatcher.Ready rest (dispatcher.answer segment request).1 := by
  by_cases hcustom : request.filter.IsCustom
  · cases hbuild : dispatcher.build request.filter request.seed request.restriction with
    | error error =>
        rw [Dispatcher.answer, apply_of_build_error hcustom hbuild]
        exact hready.tail
    | ok union =>
        obtain ⟨built, rfl, _⟩ := BuiltFilter.exists_of_build request hbuild
        have hfresh : List.Disjoint segment.params.keys built.params.keys := by
          intro name hname hbuilt
          exact hready.fresh name hname ⟨built, List.mem_cons_self, hbuilt⟩
        obtain ⟨next, hanswer, hbase, hclosed, hkeys⟩ :=
          hready.closed.answer hready.plain built hfresh
        rw [hanswer]
        refine ⟨hbase ▸ hready.plain, hclosed, ?_⟩
        intro name hname hreserved
        rcases (hkeys name).mp hname with hold | hnew
        · exact hready.tail.fresh name hold hreserved
        -- A name of the filter itself is none of a later one, because their seeds are apart.
        · obtain ⟨other, hother, hbound⟩ := hreserved
          exact BuiltFilter.keys_disjoint (hapart _ hother) hnew hbound
  · obtain ⟨raw, hraw⟩ := not_forall_not.mp hcustom
    rw [Dispatcher.answer, hraw, apply]
    cases hhandler : dispatcher.native with
    | none => exact hready.tail
    | some handler =>
        dsimp only
        cases hnext : handler raw request.contactAlias segment with
        | error error => exact hready.tail
        | ok next =>
            obtain ⟨hplain, hclosed, hnames⟩ := keeps_tail (hnative handler hhandler) raw
              request.contactAlias segment next hnext hready.plain hready.closed
            refine ⟨hplain, hclosed, fun name hname hreserved => ?_⟩
            rcases hnames name hname with hold | hfree
            · exact hready.tail.fresh name hold hreserved
            · exact hfree hreserved

/-- A run of requests keeps a segment in balance. -/
theorem Ready.run {requests : List AttachRequest} (hready : dispatcher.Ready requests segment)
    (hapart : (requests.map AttachRequest.seed).Pairwise AliasScope.Apart)
    (hnative : ∀ handler, dispatcher.native = some handler →
      handler.Keeps (dispatcher.Reserved requests)) :
    (dispatcher.run segment requests).Closed := by
  induction requests generalizing segment with
  | nil => exact hready.closed
  | cons request rest ih =>
      obtain ⟨hhead, htail⟩ := List.pairwise_cons.mp hapart
      have hseeds : ∀ other ∈ rest, AliasScope.Apart request.seed other.seed :=
        fun other hother => hhead other.seed (List.mem_map_of_mem hother)
      have hrest : ∀ handler, dispatcher.native = some handler →
          handler.Keeps (dispatcher.Reserved rest) :=
        fun handler hhandler => keeps_tail (hnative handler hhandler)
      exact ih (hready.answer hseeds hnative) htail hrest

end Dispatcher

/-- Every placeholder is bound, and everything that is bound stands somewhere.  The
placeholders of what a filter is built to are just the names that it binds.  Under a catalog,
each of its fragments binds the id of the field or object that the filter is about, the
values of its condition in the form that the type stores, or the pattern that is made of a
value for texts that start with it, end with it or contain it, and the contact of the
restriction; and nothing else is bound.  Requests under seeds of which none is another one,
or another one with a number, keep a segment over a plain SELECT in balance. -/
theorem FragmentUnion.placeholders_bound {objects : List CustomObject} {tables : TableNames}
    {catalog : Catalog} (hcatalog : Catalog.new objects tables = .ok catalog) (depth : DepthLimit)
    (scope : AliasScope) (native : Option NativeHandler) :
    let dispatcher : Dispatcher := ⟨⟨catalog.metadata, depth, scope⟩, native⟩
    (∀ (filter : SegmentFilter) (seed : String) (restriction : ContactRestriction)
      (union : FragmentUnion), dispatcher.build filter seed restriction = .ok union →
      ∃ target query params, filter.target? catalog.metadata = some target ∧
        union.query = .ok query ∧ union.params = .ok params ∧
        (∀ name, name ∈ query.placeholders ↔ name ∈ params.keys) ∧
        filter.id? = some target.source.id ∧ target.Fits ∧
        ∀ name value, params.get? name = some value ↔ ∃ fragment ∈ union.fragments,
          (name, value) ∈ target.bindings restriction fragment.seed) ∧
    ∀ (segment : SegmentQuery) (requests : List AttachRequest),
      dispatcher.Ready requests segment →
      (requests.map AttachRequest.seed).Pairwise AliasScope.Apart →
      (∀ handler, native = some handler → handler.Keeps (dispatcher.Reserved requests)) →
        (dispatcher.run segment requests).Closed := by
  intro dispatcher
  constructor
  · intro filter seed restriction union hbuild
    obtain ⟨built, hrequest, rfl⟩ :=
      BuiltFilter.exists_of_build ⟨filter, "", seed, restriction⟩ hbuild
    have hfilter : built.filter = filter := congrArg AttachRequest.filter hrequest
    have hrestriction : built.restriction = restriction :=
      congrArg AttachRequest.restriction hrequest
    have htarget := built.hasTarget
    have hbinds := built.get?_params
    rw [hfilter] at htarget
    rw [hrestriction] at hbinds
    exact ⟨built.target, built.query, built.params, htarget, built.hasQuery, built.hasParams,
      built.mem_placeholders, SegmentFilter.id?_of_target? hcatalog htarget, built.fits, hbinds⟩
  · intro segment requests hready hapart hnative
    exact hready.run hapart hnative

namespace Products

/-- Compares the email address of contacts. -/
def emailHandler : NativeHandler := fun raw contactAlias segment =>
  let address :=
    match raw.filter with
    | .text value => value
    | _ => ""
  .ok { segment.addCondition raw.glue
          (.binary .like (.tableColumn contactAlias "email") (.param "email")) with
        params := segment.params.insert "email" (.text address) }

/-- The placeholder of the address has no seed, so it is none of a filter. -/
theorem emailHandler_keeps (dispatcher : Dispatcher) (requests : List AttachRequest) :
    emailHandler.Keeps (dispatcher.Reserved requests) := by
  intro raw contactAlias segment next hnext hplain hclosed
  cases hnext
  refine ⟨hplain, fun name => ?_, fun name hname => ?_⟩
  · change name ∈ (segment.addCondition _ _).query.placeholders ↔ _
    rw [SegmentQuery.placeholders_addCondition hplain, OrderedMap.mem_keys_insert,
      ← hclosed name]
    simp
  · rcases (OrderedMap.mem_keys_insert _ _ _ _).mp hname with hold | rfl
    · exact Or.inl hold
    · right
      rintro ⟨built, _, hbound⟩
      obtain ⟨index, tag, hunder⟩ := built.owns_of_mem_keys hbound
      have hlist := congrArg String.toList hunder
      rw [Tag.under, Names.toList_seedName] at hlist
      have hmem : '_' ∈ "email".toList := by simp [← hlist]
      revert hmem
      decide

def dispatcher : Dispatcher := ⟨⟨catalog.metadata, direct, .perFragment⟩, some emailHandler⟩

/-- The color starts with ab. -/
def colorCondition : ValueCondition := ⟨.startsWith, .single (.text "ab")⟩

def colorFilter : SegmentFilter := .customField .and ⟨11, some colorCondition⟩

/-- What is bound need not be a value of the condition: for texts that start with a value it
is a pattern. -/
theorem color_not_bound_to_value :
    Catalog.new [product] ⟨""⟩ = .ok catalog ∧
    ∃ union params, dispatcher.build colorFilter "f" .allContacts = .ok union ∧
      union.params = .ok params ∧ colorCondition.checkedValues .text = .ok [.text "ab"] ∧
      params.get? (seedName "f" "value") = some (.text "ab%") ∧
      params.get? (seedName "f" "value") ≠ some (.text "ab") := by
  refine ⟨rfl, _, _, rfl, rfl, rfl, ?_⟩
  decide +kernel

/-- An email address, and the color of a product of one contact. -/
def requests : List AttachRequest :=
  [⟨.native ⟨.and, "email", "lead", "", "like", .text "%@x.org"⟩, "l", Evaluator.filterSeed 0,
      .allContacts⟩,
    ⟨colorFilter, "l", Evaluator.filterSeed 1, .contact 7⟩]

/-- A segment of all contacts. -/
def everyone : SegmentQuery :=
  .new (.select [.tableColumn "l" "id"] (some (.table "leads" (some "l"))) [] none)

/-- The color filter is in balance, and so is the segment that both are attached to.  Its target
is the table of texts, with the condition that it gives. -/
theorem color_bound :
    let target : Target := ⟨.fieldValue "custom_field_value_text" 11, some (colorCondition, .text)⟩
    colorFilter.target? catalog.metadata = some target ∧
    (∃ union query params,
      dispatcher.build colorFilter "f" (.contact 7) = .ok union ∧ union.query = .ok query ∧
      union.params = .ok params ∧ (∀ name, name ∈ query.placeholders ↔ name ∈ params.keys) ∧
      params.keys = ["f_contact_id", "f_custom_field_id", "f_value"] ∧
      ∀ name value, params.get? name = some value ↔ ∃ fragment ∈ union.fragments,
        (name, value) ∈ target.bindings (.contact 7) fragment.seed) ∧
    (dispatcher.run everyone requests).Closed := by
  intro target
  obtain ⟨hunions, hruns⟩ :=
    FragmentUnion.placeholders_bound new_product direct .perFragment (some emailHandler)
  have htarget : colorFilter.target? catalog.metadata = some target := rfl
  have hready : dispatcher.Ready requests everyone := by
    refine ⟨rfl, fun name => Iff.rfl, fun name hname => ?_⟩
    cases hname
  have hapart : (requests.map AttachRequest.seed).Pairwise AliasScope.Apart :=
    Evaluator.filterSeeds_apart (by decide : [0, 1].Nodup)
  refine ⟨htarget, ?_, ?_⟩
  · obtain ⟨union, hbuild⟩ :
        ∃ union, dispatcher.build colorFilter "f" (.contact 7) = .ok union := ⟨_, rfl⟩
    obtain ⟨found, query, params, hfound, hquery, hparams, hnames, _, _, hbinds⟩ :=
      hunions _ _ _ _ hbuild
    obtain rfl : target = found := Option.some.inj (htarget.symm.trans hfound)
    have hkeys : params.keys = ["f_contact_id", "f_custom_field_id", "f_value"] := by
      cases hbuild
      cases hparams
      decide +kernel
    exact ⟨union, query, params, hbuild, hquery, hparams, hnames, hkeys, hbinds⟩
  · apply hruns everyone requests hready hapart
    intro handler hhandler
    cases hhandler
    exact emailHandler_keeps dispatcher requests

end Products

end SegmentPaths
