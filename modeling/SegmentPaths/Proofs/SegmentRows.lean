/-
The meaning of a whole segment.  Filters are attached one call after the other; what
is attached so far is the invariant of the run, and the rows of the final query follow
from it.
-/
import SegmentPaths.Proofs.Attachment
import SegmentPaths.Proofs.Catalogs
import SegmentPaths.Proofs.UnionRows

namespace SegmentPaths

/-- A filter that is to be attached, and its seed. -/
abbrev AttachCall := SegmentFilter × String

def Attachment.call {dispatcher : Dispatcher} (attachment : Attachment dispatcher) : AttachCall :=
  (attachment.filter, attachment.seed)

/-- Whether attached filters let a contact pass: all of one group hold for it, or none is
attached. -/
def Attachment.pass {dispatcher : Dispatcher} (database : Database)
    (attachments : List (Attachment dispatcher)) (contact : Datum) : Bool :=
  attachments.isEmpty ||
    (Grouping.groups (fun attachment => attachment.filter.glue) attachments).any fun group =>
      group.all fun attachment => attachment.holds database contact

/-- Whether a filter is one on a custom field or on custom items. -/
def SegmentFilter.IsCustom (filter : SegmentFilter) : Prop := ∀ raw, filter ≠ .native raw

/-- Filters at different indices have seeds that are apart. -/
theorem Evaluator.filterSeed_apart {m n : Nat} (h : m ≠ n) :
    AliasScope.Apart (filterSeed m) (filterSeed n) := by
  refine ⟨fun hsame => h (Names.numbered_inj hsame).2, fun index => ⟨fun hsame => ?_, ?_⟩⟩
  · exact Names.seedName_ne_self _ _ (Names.numbered_inj hsame).1.symm
  · exact fun hsame => Names.seedName_ne_self _ _ (Names.numbered_inj hsame).1.symm

theorem Evaluator.filterSeeds_apart {indices : List Nat} (h : indices.Nodup) :
    (indices.map filterSeed).Pairwise AliasScope.Apart :=
  List.pairwise_map.mpr (h.imp filterSeed_apart)

namespace Dispatcher

/-- Attaches filters for all contacts, one call after the other, and keeps the calls that
were not refused. -/
def applyAll (dispatcher : Dispatcher) (contactAlias : String) :
    SegmentQuery → List AttachCall → SegmentQuery × List AttachCall
  | segment, [] => (segment, [])
  | segment, call :: rest =>
    match dispatcher.apply call.1 segment contactAlias call.2 .allContacts with
    | (next, none) =>
      let (final, attached) := applyAll dispatcher contactAlias next rest
      (final, call :: attached)
    | (next, some _) => applyAll dispatcher contactAlias next rest

variable {dispatcher : Dispatcher} {contactAlias : String}

/-- Whether the filter of a call is built. -/
def builds (dispatcher : Dispatcher) (call : AttachCall) : Bool :=
  (dispatcher.build call.1 call.2 .allContacts).isOk

/-- What is attached to a segment so far: the conditions of its groups are those of the
attachments, and its placeholders are theirs. -/
structure Attached (dispatcher : Dispatcher) (contactAlias : String) (base : Query)
    (segment : SegmentQuery) (attachments : List (Attachment dispatcher)) : Prop where
  base : segment.base = base
  groups : segment.groups = (Grouping.groups (fun attachment => attachment.filter.glue)
    attachments).map (List.map fun attachment => attachment.condition contactAlias)
  covered : ∀ attachment ∈ attachments, attachment.CoveredBy segment.params
  names : ∀ name value, segment.params.get? name = some value →
    ∃ attachment ∈ attachments, ∃ n, ∃ tag : Tag,
      name = tag.under (dispatcher.compiler.scope.seedFor attachment.seed n)

theorem attached_new (base : Query) :
    Attached dispatcher contactAlias base (SegmentQuery.new base) [] := by
  refine ⟨rfl, rfl, fun attachment hmem => absurd hmem List.not_mem_nil, ?_⟩
  intro name value hname
  cases hname

/-- A filter that is not built changes nothing. -/
theorem apply_of_build_error {filter : SegmentFilter} (hcustom : filter.IsCustom)
    {seed : String} {restriction : ContactRestriction} {error : QueryError}
    (h : dispatcher.build filter seed restriction = .error error) (segment : SegmentQuery) :
    dispatcher.apply filter segment contactAlias seed restriction =
      (segment, some (.query error)) := by
  cases filter with
  | native raw => exact absurd rfl (hcustom raw)
  | customField glue filter => simp only [apply, h]
  | customItem glue filter => simp only [apply, h]

/-- The values of a filter go by names of its seeds. -/
theorem names_of_attachment (attachment : Attachment dispatcher) {name : String}
    {value : ParamValue} (hname : attachment.params.get? name = some value) :
    ∃ n, ∃ tag : Tag,
      name = tag.under (dispatcher.compiler.scope.seedFor attachment.seed n) := by
  obtain ⟨target, _, hfollows⟩ := Dispatcher.build_follows attachment.built
  obtain ⟨params, hparams, _, hnames⟩ := hfollows.exists_params
  rw [attachment.hasParams] at hparams
  cases hparams
  exact hnames name value hname

/-- One more attachment under a seed apart from those so far is never a fault. -/
theorem Attached.apply {base : Query} {segment : SegmentQuery}
    {attachments : List (Attachment dispatcher)}
    (hattached : Attached dispatcher contactAlias base segment attachments)
    (attachment : Attachment dispatcher)
    (hapart : ∀ other ∈ attachments, AliasScope.Apart other.seed attachment.seed) :
    ∃ next, dispatcher.apply attachment.filter segment contactAlias attachment.seed
        .allContacts = (next, none) ∧
      Attached dispatcher contactAlias base next (attachments ++ [attachment]) := by
  have hagree : segment.params.Agree attachment.params := by
    intro name a b ha hb
    obtain ⟨other, hother, m, tag, hname⟩ := hattached.names name a ha
    obtain ⟨n, tag', hname'⟩ := names_of_attachment attachment hb
    rw [hname] at hname'
    exact absurd (Tag.under_inj hname').1
      (AliasScope.seedFor_ne (hapart other hother) dispatcher.compiler.scope m n)
  obtain ⟨merged, hmerge, hbinds⟩ := Parameters.merge_of_agree hagree
  have hleft : merged.Extends segment.params :=
    fun name value hname => (hbinds name value).mpr (Or.inl hname)
  have hright : merged.Extends attachment.params :=
    fun name value hname => (hbinds name value).mpr (Or.inr hname)
  have happly := apply_of_merge attachment.built attachment.hasQuery attachment.hasParams segment
    hmerge contactAlias
  refine ⟨_, happly, hattached.base, ?_, ?_, ?_⟩
  · rw [Grouping.groups_concat, ← Grouping.extend_map]
    simp only [SegmentQuery.addCondition, hattached.groups]
    rfl
  · intro other hother fragment hfragment name value hname
    rcases List.mem_append.mp hother with hother | hother
    · exact hleft name value (hattached.covered other hother fragment hfragment name value hname)
    · rw [List.mem_singleton.mp hother] at hfragment
      exact hright name value (attachment.coveredBy_self fragment hfragment name value hname)
  · intro name value hname
    rcases (hbinds name value).mp hname with hname | hname
    · obtain ⟨other, hother, hrest⟩ := hattached.names name value hname
      exact ⟨other, List.mem_append_left _ hother, hrest⟩
    · exact ⟨attachment, List.mem_append_right _ List.mem_cons_self,
        names_of_attachment attachment hname⟩

/-- A call attaches its filter if that is built, and leaves the segment as it is
otherwise. -/
theorem Attached.call {base : Query} {segment : SegmentQuery}
    {attachments : List (Attachment dispatcher)}
    (hattached : Attached dispatcher contactAlias base segment attachments)
    (call : AttachCall) (hcustom : call.1.IsCustom)
    (hapart : ∀ other ∈ attachments, AliasScope.Apart other.seed call.2) :
    (dispatcher.builds call = true ∧ ∃ attachment : Attachment dispatcher,
      attachment.call = call ∧
      ∃ next, dispatcher.apply call.1 segment contactAlias call.2 .allContacts = (next, none) ∧
        Attached dispatcher contactAlias base next (attachments ++ [attachment])) ∨
      dispatcher.builds call = false ∧ ∃ error,
        dispatcher.apply call.1 segment contactAlias call.2 .allContacts =
          (segment, some error) := by
  obtain ⟨filter, seed⟩ := call
  cases hbuild : dispatcher.build filter seed .allContacts with
  | error error =>
      refine Or.inr ⟨by rw [builds, hbuild]; rfl, .query error, ?_⟩
      exact apply_of_build_error hcustom hbuild segment
  | ok union =>
      obtain ⟨attachment, rfl, rfl, _⟩ := Attachment.exists_of_build hbuild
      refine Or.inl ⟨by rw [builds, hbuild]; rfl, attachment, rfl, ?_⟩
      exact hattached.apply attachment hapart

/-- What is attached after a run of calls: the filters of those that were not refused, in
their order, and those are the calls whose filters are built. -/
theorem Attached.applyAll {base : Query} {segment : SegmentQuery}
    {attachments : List (Attachment dispatcher)}
    (hattached : Attached dispatcher contactAlias base segment attachments)
    {calls : List AttachCall} (hcustom : ∀ call ∈ calls, call.1.IsCustom)
    (hapart : (calls.map Prod.snd).Pairwise AliasScope.Apart)
    (hfresh : ∀ attachment ∈ attachments, ∀ call ∈ calls,
      AliasScope.Apart attachment.seed call.2) :
    ∃ more : List (Attachment dispatcher),
      Attached dispatcher contactAlias base
        (dispatcher.applyAll contactAlias segment calls).1 (attachments ++ more) ∧
      more.map Attachment.call = (dispatcher.applyAll contactAlias segment calls).2 ∧
      (dispatcher.applyAll contactAlias segment calls).2 = calls.filter dispatcher.builds := by
  induction calls generalizing segment attachments with
  | nil => exact ⟨[], by simpa [Dispatcher.applyAll] using hattached, rfl, rfl⟩
  | cons call rest ih =>
      obtain ⟨hhead, htail⟩ := List.pairwise_cons.mp hapart
      have hcustomRest : ∀ other ∈ rest, other.1.IsCustom :=
        fun other hother => hcustom other (List.mem_cons_of_mem _ hother)
      have hfreshRest : ∀ attachment ∈ attachments, ∀ other ∈ rest,
          AliasScope.Apart attachment.seed other.2 := fun attachment hmem other hother =>
        hfresh attachment hmem other (List.mem_cons_of_mem _ hother)
      rcases hattached.call call (hcustom call List.mem_cons_self)
          (fun other hother => hfresh other hother call List.mem_cons_self) with
        ⟨hbuilds, attachment, rfl, next, happly, hnext⟩ | ⟨hbuilds, error, happly⟩
      · have hfreshNext : ∀ other ∈ attachments ++ [attachment], ∀ later ∈ rest,
            AliasScope.Apart other.seed later.2 := by
          intro other hother later hlater
          rcases List.mem_append.mp hother with hother | hother
          · exact hfreshRest other hother later hlater
          · rw [List.mem_singleton.mp hother]
            exact hhead later.2 (List.mem_map_of_mem hlater)
        obtain ⟨more, hfinal, hmore, hkept⟩ := ih hnext hcustomRest htail hfreshNext
        refine ⟨attachment :: more, ?_, ?_, ?_⟩
        · simp only [Dispatcher.applyAll, happly]
          simpa using hfinal
        · simp only [Dispatcher.applyAll, happly, List.map_cons, hmore]
        · simp only [Dispatcher.applyAll, happly, List.filter_cons_of_pos hbuilds, hkept]
      · obtain ⟨more, hfinal, hmore, hkept⟩ := ih hattached hcustomRest htail hfreshRest
        have hskip : ¬dispatcher.builds call = true := by simp [hbuilds]
        simp only [Dispatcher.applyAll, happly, List.filter_cons_of_neg hskip]
        exact ⟨more, hfinal, hmore, hkept⟩

/-- The groups of a segment hold in the scopes of the contacts that its attachments let pass,
wherever its values are covered. -/
theorem Attached.groups_hold {base : Query} {segment : SegmentQuery}
    {attachments : List (Attachment dispatcher)}
    (hattached : Attached dispatcher contactAlias base segment attachments)
    {installation : Installation} {database : Database}
    (hstored : installation.StoredIn dispatcher.compiler.metadata database)
    (hcontacts : ∀ row ∈ installation.contacts, row.contact ≠ .null) {params : Parameters}
    (hparams : params.Extends segment.params) {scope : Scope}
    (hid : scope.column contactAlias "id" ≠ .null) :
    (segment.groups.isEmpty || segment.groups.any fun group =>
        group.all fun expr => expr.holdsIn (database.withParams params) scope) =
      Attachment.pass database attachments (scope.column contactAlias "id") := by
  have hholds : ∀ attachment ∈ attachments,
      (attachment.condition contactAlias).holdsIn (database.withParams params) scope =
        attachment.holds database (scope.column contactAlias "id") := by
    intro attachment hmem
    refine attachment.holdsIn_condition hstored hcontacts ?_ hid
    exact fun fragment hfragment name value hname =>
      hparams _ _ (hattached.covered attachment hmem fragment hfragment name value hname)
  rw [hattached.groups, List.isEmpty_map, Grouping.isEmpty_groups, List.any_map,
    Attachment.pass, ← Grouping.any_all_groups _ attachments hholds]
  simp only [Function.comp_def, List.all_map]

theorem Attached.nil_notMem_groups {base : Query} {segment : SegmentQuery}
    {attachments : List (Attachment dispatcher)}
    (hattached : Attached dispatcher contactAlias base segment attachments) :
    [] ∉ segment.groups := by
  rw [hattached.groups]
  exact Grouping.nil_notMem_map_groups _ _ _

end Dispatcher

/-- The meaning of a whole segment.  A call that is refused leaves the segment exactly as it
was, and just the calls whose filters are built are not refused.  The final query returns the
base rows that meet the condition of the base and whose contact the filters of these calls let
pass: a positive filter holds for the contacts that its own union returns, a negative one for
the others, and all filters of one group have to hold.  Without any attached filter nothing
more is demanded. -/
theorem SegmentQuery.rows_of_calls {dispatcher : Dispatcher} {contactAlias : String}
    {calls : List AttachCall} (hcustom : ∀ call ∈ calls, call.1.IsCustom)
    (hapart : (calls.map Prod.snd).Pairwise AliasScope.Apart)
    (columns : List Expr) (source : Option Source) (joins : List Join) (condition : Option Expr)
    {installation : Installation} {database : Database}
    (hstored : installation.StoredIn dispatcher.compiler.metadata database)
    (hcontacts : ∀ row ∈ installation.contacts, row.contact ≠ .null) :
    let start := SegmentQuery.new (.select columns source joins condition)
    let final := dispatcher.applyAll contactAlias start calls
    (∀ before call after, calls = before ++ call :: after →
      let segment := (dispatcher.applyAll contactAlias start before).1
      let answer := dispatcher.apply call.1 segment contactAlias call.2 .allContacts
      answer.2 ≠ none → answer.1 = segment) ∧
    final.2 = calls.filter dispatcher.builds ∧
    ∃ attachments : List (Attachment dispatcher), attachments.map Attachment.call = final.2 ∧
      ∀ params : Parameters, params.Extends final.1.params →
        (∀ scope ∈ Query.joined (database.withParams params) source joins [],
          Query.meets (database.withParams params) condition scope = true →
            scope.column contactAlias "id" ≠ .null) →
        final.1.query.rows (database.withParams params) [] =
          ((Query.joined (database.withParams params) source joins []).filter fun scope =>
            Query.meets (database.withParams params) condition scope &&
              Attachment.pass database attachments (scope.column contactAlias "id")).map
            fun scope => Expr.values (database.withParams params) columns scope := by
  intro start final
  have hstart : Dispatcher.Attached dispatcher contactAlias
      (.select columns source joins condition) start [] := Dispatcher.attached_new _
  obtain ⟨attachments, hfinal, hcall, hkept⟩ := hstart.applyAll hcustom hapart
    fun attachment hmem => absurd hmem List.not_mem_nil
  refine ⟨?refused, hkept, attachments, hcall, ?rows⟩
  case refused =>
    intro before call after hcalls segment answer hrefused
    subst hcalls
    rw [List.map_append, List.pairwise_append] at hapart
    obtain ⟨hbefore, _, hacross⟩ := hapart
    obtain ⟨attachments, hsegment, hcall, hkept⟩ := hstart.applyAll
      (fun other hother => hcustom other (List.mem_append_left _ hother)) hbefore
      fun attachment hmem => absurd hmem List.not_mem_nil
    have hseeds : ∀ other ∈ [] ++ attachments, AliasScope.Apart other.seed call.2 := by
      intro other hother
      have hmem : other.call ∈ before.filter dispatcher.builds := by
        rw [← hkept, ← hcall]
        exact List.mem_map_of_mem hother
      exact hacross other.seed (List.mem_map_of_mem (List.mem_filter.mp hmem).1) call.2 (by simp)
    rcases hsegment.call call (hcustom call (by simp)) hseeds with
      ⟨_, _, _, next, happly, _⟩ | ⟨_, error, happly⟩
    · exact absurd (congrArg Prod.snd happly) hrefused
    · exact congrArg Prod.fst happly
  case rows =>
    intro params hparams hid
    rw [List.nil_append] at hfinal
    rw [SegmentQuery.rows_query _ _ hfinal.base hfinal.nil_notMem_groups]
    simp only [List.append_nil]
    refine congrArg (List.map _) (List.filter_congr fun scope hscope => ?_)
    cases hmeets : Query.meets (database.withParams params) condition scope with
    | false => rw [Bool.false_and, Bool.false_and]
    | true => rw [hfinal.groups_hold hstored hcontacts hparams (hid scope hscope hmeets)]

namespace LinkedItems

/-- The price is 5, or it is not 6. -/
def calls : List AttachCall :=
  [(filter, Evaluator.filterSeed 0),
   (.customField .or ⟨3, some ⟨.neq, .single (.int 6)⟩⟩, Evaluator.filterSeed 1)]

theorem calls_apart : (calls.map Prod.snd).Pairwise AliasScope.Apart :=
  Evaluator.filterSeeds_apart (by decide : [0, 1].Nodup)

/-- The price is 5 and not 6, or the name of the item starts with cu and the price is not 5.
The second call searches in a number, which is refused, and it starts no group. -/
def pricedOrNamed : List AttachCall :=
  [(filter, Evaluator.filterSeed 0),
   (.customField .or ⟨3, some ⟨.contains, .single (.text "5")⟩⟩, Evaluator.filterSeed 1),
   (.customField .and ⟨3, some ⟨.neq, .single (.int 6)⟩⟩, Evaluator.filterSeed 2),
   (.customItem .or ⟨1, some ⟨.startsWith, .single (.text "cu")⟩⟩, Evaluator.filterSeed 3),
   (.customField .and ⟨3, some notFive⟩, Evaluator.filterSeed 4)]

theorem pricedOrNamed_custom : ∀ call ∈ pricedOrNamed, call.1.IsCustom := by
  intro call hcall raw
  simp only [pricedOrNamed, List.mem_cons, List.not_mem_nil, or_false] at hcall
  rcases hcall with rfl | rfl | rfl | rfl | rfl <;> exact fun h => by cases h

def directly : Dispatcher := within Products.direct

/-- The contacts 7 and 9. -/
def baseCondition : Expr :=
  .binary .or (.binary .equal (.tableColumn "l" "id") (.int 7))
    (.binary .equal (.tableColumn "l" "id") (.int 9))

/-- A contact in sight. -/
def lead (contact : Int64) : Scope := [("l", [("id", .int contact)])]

theorem joined_leads (params : Parameters) :
    Query.joined (database.withParams params) (some (.table "leads" (some "l"))) [] [] =
      [lead 7, lead 8, lead 9] := rfl

/-- All calls but the refused one are attached.  Contact 7 is returned, as the first group lets
it pass.  Contact 8 passes the second group, but is not in the base, and contact 9 passes
neither group. -/
theorem rows_of_prices_and_names :
    let start := SegmentQuery.new (.select [.tableColumn "l" "id"]
      (some (.table "leads" (some "l"))) [] (some baseCondition))
    let final := directly.applyAll "l" start pricedOrNamed
    final.2 = pricedOrNamed.eraseIdx 1 ∧
    final.1.query.rows (database.withParams final.1.params) [] = [[.int 7]] ∧
    ∃ attachments : List (Attachment directly), attachments.map Attachment.call = final.2 ∧
      Attachment.pass database attachments (.int 7) = true ∧
      Attachment.pass database attachments (.int 9) = false := by
  intro start final
  have hapart : (pricedOrNamed.map Prod.snd).Pairwise AliasScope.Apart :=
    Evaluator.filterSeeds_apart (by decide : [0, 1, 2, 3, 4].Nodup)
  have hbuilds : pricedOrNamed.filter directly.builds = pricedOrNamed.eraseIdx 1 := rfl
  have hcomputed : final.1.query.rows (database.withParams final.1.params) [] = [[.int 7]] := by
    decide +kernel
  have hid : ∀ scope ∈ [lead 7, lead 8, lead 9], scope.column "l" "id" ≠ .null := by decide
  obtain ⟨_, hkept, attachments, hcall, hrows⟩ :=
    @SegmentQuery.rows_of_calls directly "l" pricedOrNamed pricedOrNamed_custom hapart
      [.tableColumn "l" "id"] (some (.table "leads" (some "l"))) [] (some baseCondition)
      installation database storedIn (by decide)
  refine ⟨hkept.trans hbuilds, hcomputed, attachments, hcall, ?_⟩
  -- Which contacts pass is read off the returned rows.
  have hpass := hrows final.1.params (.refl _) fun scope hscope _ =>
    hid scope (joined_leads _ ▸ hscope)
  rw [joined_leads, hcomputed] at hpass
  have hcolumn : ∀ contact, (lead contact).column "l" "id" = .int contact := fun _ => rfl
  have hvalues : ∀ params contact, Expr.values (database.withParams params)
      [.tableColumn "l" "id"] (lead contact) = [.int contact] := fun _ _ => rfl
  have hmeets : ∀ params, Query.meets (database.withParams params) (some baseCondition)
      (lead 7) = true ∧ Query.meets (database.withParams params) (some baseCondition)
      (lead 8) = false ∧ Query.meets (database.withParams params) (some baseCondition)
      (lead 9) = true := fun _ => ⟨rfl, rfl, rfl⟩
  simp only [List.filter_cons, hcolumn, hmeets, Bool.true_and, Bool.false_and] at hpass
  revert hpass
  cases Attachment.pass database attachments (.int 7) <;>
    cases Attachment.pass database attachments (.int 9) <;> simp [hvalues]

end LinkedItems

end SegmentPaths
