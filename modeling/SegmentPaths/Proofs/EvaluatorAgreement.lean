/-
The evaluator decides for one contact what the segment query decides for all.  Both
pass over the same stored filters; the evaluator asks whether a restricted union has
rows, the segment whether the contact is among those of the whole union.
-/
import SegmentPaths.Proofs.NoFaults
import SegmentPaths.Proofs.SegmentRows
import SegmentPaths.Segment.Attach

namespace SegmentPaths

/-- Whether an executor that answers a statement does so with the contacts that its query
returns from a database. -/
def Executor.Answers {State : Type} (executor : Executor State) (database : Database) : Prop :=
  ∀ (state next : State) (statement : Statement) (ids : List Int64),
    statement.query.render executor.dialect = .ok statement.sql →
    executor.run state statement = (.ok ids, next) →
    (ids.map Datum.int).Perm ((statement.query.rows (database.withParams statement.params)
      []).map fun row => row.headD .null)

/-- A union that is restricted to a contact has rows exactly if the contact is among those of
the whole union. -/
theorem Attachment.restricted_rows {dispatcher : Dispatcher} (attachment : Attachment dispatcher)
    {contact : Int64} {restricted : FragmentUnion}
    (hbuild : dispatcher.build attachment.filter attachment.seed (.contact contact) =
      .ok restricted)
    {installation : Installation} {database : Database}
    (hstored : installation.StoredIn dispatcher.compiler.metadata database) {query : Query}
    (hquery : restricted.query = .ok query) {params : Parameters}
    (hparams : restricted.params = .ok params) :
    (query.rows (database.withParams params) []).isEmpty =
      !attachment.selects database (.int contact) := by
  obtain ⟨target, htarget, hwhole⟩ := Dispatcher.build_follows attachment.built
  obtain ⟨other, hother, hfollows⟩ := Dispatcher.build_follows hbuild
  rw [htarget] at hother
  cases hother
  obtain ⟨bound, hbound, hextends, _⟩ := hfollows.exists_params
  rw [hparams] at hbound
  cases hbound
  rw [Attachment.selects, hfollows.rows hquery (hstored.withParams _) hextends,
    hwhole.rows attachment.hasQuery (hstored.withParams _) attachment.coveredBy_self,
    target.accepts_withParams, target.accepts_withParams, Bool.eq_iff_iff]
  simp only [ContactRestriction.allows, List.isEmpty_map, List.isEmpty_iff,
    List.filter_eq_nil_iff, decide_eq_true_eq, Bool.not_eq_true', List.contains_eq_mem,
    decide_eq_false_iff_not, List.mem_map, List.mem_filter, and_true, List.cons.injEq, not_exists,
    not_and]

/-- The calls that attach stored filters, each under the seed of its index.  Filters that are
refused and filters of the platform are passed over. -/
def attachCalls : Nat → List RawFilter → List AttachCall
  | _, [] => []
  | index, raw :: rest =>
    match SegmentFilter.ofRaw raw with
    | .error _ => attachCalls (index + 1) rest
    | .ok (.native _) => attachCalls (index + 1) rest
    | .ok filter => (filter, Evaluator.filterSeed index) :: attachCalls (index + 1) rest

/-- A stored filter is passed over, or it is one on a custom field or custom items that keeps
its glue. -/
theorem attachCalls_cons (index : Nat) (raw : RawFilter) (rest : List RawFilter) :
    ((∀ filter, SegmentFilter.ofRaw raw = .ok filter → ∃ native, filter = .native native) ∧
        attachCalls index (raw :: rest) = attachCalls (index + 1) rest) ∨
      ∃ filter, SegmentFilter.ofRaw raw = .ok filter ∧ filter.IsCustom ∧
        attachCalls index (raw :: rest) =
          (filter, Evaluator.filterSeed index) :: attachCalls (index + 1) rest := by
  cases hraw : SegmentFilter.ofRaw raw with
  | error error => exact Or.inl ⟨fun filter h => (by cases h), by simp only [attachCalls, hraw]⟩
  | ok filter =>
      cases filter with
      | native native =>
          refine Or.inl ⟨fun filter h => ⟨native, ?_⟩, by simp only [attachCalls, hraw]⟩
          cases h
          rfl
      | customField glue filter =>
          exact Or.inr ⟨_, rfl, fun native h => (by cases h), by simp only [attachCalls, hraw]⟩
      | customItem glue filter =>
          exact Or.inr ⟨_, rfl, fun native h => (by cases h), by simp only [attachCalls, hraw]⟩

theorem attachCalls_custom {index : Nat} {raws : List RawFilter} :
    ∀ call ∈ attachCalls index raws, call.1.IsCustom := by
  induction raws generalizing index with
  | nil => exact fun call hcall => absurd hcall List.not_mem_nil
  | cons raw rest ih =>
      rcases attachCalls_cons index raw rest with ⟨_, hskip⟩ | ⟨filter, _, hcustom, hcall⟩
      · rw [hskip]
        exact ih
      · rw [hcall]
        exact List.forall_mem_cons.mpr ⟨hcustom, ih⟩

theorem attachCalls_seed {index : Nat} {raws : List RawFilter} :
    ∀ call ∈ attachCalls index raws, ∃ n, index ≤ n ∧ call.2 = Evaluator.filterSeed n := by
  induction raws generalizing index with
  | nil => exact fun call hcall => absurd hcall List.not_mem_nil
  | cons raw rest ih =>
      have hrest : ∀ call ∈ attachCalls (index + 1) rest,
          ∃ n, index ≤ n ∧ call.2 = Evaluator.filterSeed n := by
        intro call hcall
        obtain ⟨n, hn, hseed⟩ := ih call hcall
        exact ⟨n, Nat.le_of_succ_le hn, hseed⟩
      rcases attachCalls_cons index raw rest with ⟨_, hskip⟩ | ⟨filter, _, _, hcall⟩
      · rw [hskip]
        exact hrest
      · rw [hcall]
        exact List.forall_mem_cons.mpr ⟨⟨index, Nat.le_refl index, rfl⟩, hrest⟩

theorem attachCalls_apart (index : Nat) (raws : List RawFilter) :
    ((attachCalls index raws).map Prod.snd).Pairwise AliasScope.Apart := by
  induction raws generalizing index with
  | nil => exact .nil
  | cons raw rest ih =>
      rcases attachCalls_cons index raw rest with ⟨_, hskip⟩ | ⟨filter, _, _, hcall⟩
      · rw [hskip]
        exact ih (index + 1)
      · rw [hcall, List.map_cons]
        refine .cons (fun seed hseed => ?_) (ih (index + 1))
        obtain ⟨call, hmem, rfl⟩ := List.mem_map.mp hseed
        obtain ⟨n, hn, hother⟩ := attachCalls_seed call hmem
        rw [hother]
        exact Evaluator.filterSeed_apart (by omega)

/-- A stored filter keeps its glue. -/
theorem SegmentFilter.glue_of_ofRaw {raw : RawFilter} {filter : SegmentFilter}
    (h : ofRaw raw = .ok filter) : filter.glue = raw.glue := by
  unfold ofRaw at h
  split at h
  · cases h
    rfl
  · split at h
    · obtain ⟨field, _, hrest⟩ := bind_eq_ok h
      obtain ⟨condition, _, hfilter⟩ := bind_eq_ok hrest
      cases hfilter
      rfl
    · split at h
      · obtain ⟨object, _, hrest⟩ := bind_eq_ok h
        obtain ⟨condition, _, hfilter⟩ := bind_eq_ok hrest
        cases hfilter
        rfl
      · cases h

theorem attachCalls_glue {index : Nat} {raws : List RawFilter}
    (hglue : ∀ raw ∈ raws, raw.glue = .or) :
    ∀ call ∈ attachCalls index raws, call.1.glue = .or := by
  induction raws generalizing index with
  | nil => exact fun call hcall => absurd hcall List.not_mem_nil
  | cons raw rest ih =>
      obtain ⟨hfirst, hrest⟩ := List.forall_mem_cons.mp hglue
      rcases attachCalls_cons index raw rest with ⟨_, hskip⟩ | ⟨filter, hraw, _, hcall⟩
      · rw [hskip]
        exact ih hrest
      · rw [hcall]
        exact List.forall_mem_cons.mpr
          ⟨(SegmentFilter.glue_of_ofRaw hraw).trans hfirst, ih hrest⟩

/-- What is attached behind the first attachment comes from filters behind the first one. -/
theorem glue_of_attachments {dispatcher : Dispatcher} {raws : List RawFilter}
    (hglue : ∀ raw ∈ raws.tail, raw.glue = .or) {index : Nat}
    {attachments : List (Attachment dispatcher)}
    (hcalls : attachments.map Attachment.call =
      (attachCalls index raws).filter dispatcher.builds) :
    ∀ attachment ∈ attachments.tail, attachment.filter.glue = .or := by
  cases raws with
  | nil =>
      rw [attachCalls, List.filter_nil, List.map_eq_nil_iff] at hcalls
      rw [hcalls]
      exact fun attachment hmem => absurd hmem List.not_mem_nil
  | cons raw rest =>
      have hrest : ∀ others : List (Attachment dispatcher),
          others.map Attachment.call =
            (attachCalls (index + 1) rest).filter dispatcher.builds →
          ∀ attachment ∈ others, attachment.filter.glue = .or := by
        intro others hothers attachment hmem
        have hcall : attachment.call ∈ attachCalls (index + 1) rest := by
          refine List.mem_of_mem_filter (p := dispatcher.builds) ?_
          rw [← hothers]
          exact List.mem_map_of_mem hmem
        exact attachCalls_glue hglue attachment.call hcall
      rcases attachCalls_cons index raw rest with ⟨_, hskip⟩ | ⟨filter, _, _, hcall⟩
      · rw [hskip] at hcalls
        exact fun attachment hmem => hrest _ hcalls attachment (List.mem_of_mem_tail hmem)
      · rw [hcall, List.filter_cons] at hcalls
        split at hcalls
        · obtain ⟨first, others, rfl, _, hothers⟩ := List.map_eq_cons_iff.mp hcalls
          exact hrest others hothers
        · exact fun attachment hmem => hrest _ hcalls attachment (List.mem_of_mem_tail hmem)

/-- Attachments that are all joined by OR let the contacts pass that one of them holds for. -/
theorem Attachment.pass_of_or {dispatcher : Dispatcher} {database : Database}
    {attachments : List (Attachment dispatcher)} (hfull : attachments.isEmpty = false)
    (hglue : ∀ attachment ∈ attachments.tail, attachment.filter.glue = .or) (contact : Datum) :
    Attachment.pass database attachments contact =
      attachments.any fun attachment => attachment.holds database contact := by
  rw [Attachment.pass, hfull, Bool.false_or, Grouping.groups_of_or _ hglue, List.any_map]
  simp only [Function.comp_def, List.all_cons, List.all_nil, Bool.and_true]

/-- Whether there is nothing that handles filters of the platform, as far as such filters
are among those that are stored. -/
def Dispatcher.PassesNative (dispatcher : Dispatcher) (raws : List RawFilter) : Prop :=
  ∀ raw ∈ raws, ∀ native, SegmentFilter.ofRaw raw = .ok (.native native) →
    dispatcher.native = none

/-- Attaching stored filters comes down to a run of calls, if the platform handles none. -/
theorem Dispatcher.attachFrom_eq_applyAll {dispatcher : Dispatcher} {raws : List RawFilter}
    (hnative : dispatcher.PassesNative raws) (contactAlias : String) (index : Nat)
    (segment : SegmentQuery) :
    (dispatcher.attachFrom contactAlias .allContacts index segment raws).1 =
      (dispatcher.applyAll contactAlias segment (attachCalls index raws)).1 := by
  induction raws generalizing index segment with
  | nil => rfl
  | cons raw rest ih =>
      have ih := ih fun other hother => hnative other (List.mem_cons_of_mem raw hother)
      rcases attachCalls_cons index raw rest with ⟨hpassed, hskip⟩ | ⟨filter, hraw, _, hcall⟩
      · have hsame : (dispatcher.attach contactAlias .allContacts (Evaluator.filterSeed index)
            segment raw).1 = segment := by
          unfold Dispatcher.attach
          cases hraw : SegmentFilter.ofRaw raw with
          | error error => rfl
          | ok filter =>
              obtain ⟨native, rfl⟩ := hpassed filter hraw
              simp only [Dispatcher.apply, hnative raw List.mem_cons_self native hraw]
        simp only [Dispatcher.attachFrom, hskip, hsame, ih]
      · rw [hcall, Dispatcher.applyAll]
        simp only [Dispatcher.attachFrom, Dispatcher.attach, hraw, ih]
        cases dispatcher.apply filter segment contactAlias (Evaluator.filterSeed index)
            .allContacts with
        | mk next error => cases error <;> rfl

namespace Evaluator

variable {State : Type} {evaluator : Evaluator} {executor : Executor State}
  {database : Database} {installation : Installation}

/-- An answer to whether a filter has rows is the one of the database. -/
theorem found_of_hasRows (hexecutor : executor.Answers database) {union : FragmentUnion}
    {state next : State} {found : Bool} (h : hasRows executor state union = (.ok found, next)) :
    ∃ query params, union.query = .ok query ∧ union.params = .ok params ∧
      found = !(query.rows (database.withParams params) []).isEmpty := by
  unfold hasRows at h
  split at h
  · rename_i query sql params hquery hrender
    obtain ⟨rendered, hrendered, hrest⟩ := bind_eq_ok hrender
    obtain ⟨text, htext, hrest⟩ := bind_eq_ok hrest
    obtain ⟨bound, hbound, hsame⟩ := bind_eq_ok hrest
    rw [hquery] at hrendered
    cases hrendered
    cases hsame
    split at h
    · rename_i ids after hrun
      cases h
      have hperm := hexecutor state next ⟨query, sql, params⟩ ids htext hrun
      refine ⟨query, params, hquery, hbound, congrArg (!·) ?_⟩
      rw [← List.isEmpty_map (f := Datum.int), hperm.isEmpty_eq, List.isEmpty_map]
    · cases h
  · cases h
  · cases h

theorem union?_of_passed {contact : Int64} {index : Nat} {raw : RawFilter}
    (h : ∀ filter, SegmentFilter.ofRaw raw = .ok filter → ∃ native, filter = .native native) :
    evaluator.union? contact index raw = none := by
  unfold union?
  cases hraw : SegmentFilter.ofRaw raw with
  | error error => rfl
  | ok filter =>
      obtain ⟨native, rfl⟩ := h filter hraw
      rfl

/-- The evaluator runs a filter exactly if that can be attached as well. -/
theorem union?_of_ofRaw {contact : Int64} {index : Nat} {raw : RawFilter}
    {filter : SegmentFilter} (hraw : SegmentFilter.ofRaw raw = .ok filter) :
    (evaluator.dispatcher.builds (filter, filterSeed index) = false ∧
        evaluator.union? contact index raw = none) ∨
      evaluator.dispatcher.builds (filter, filterSeed index) = true ∧ ∃ union,
        evaluator.dispatcher.build filter (filterSeed index) (.contact contact) = .ok union ∧
        evaluator.union? contact index raw = some (union, filter.isNegative) := by
  have hunion : evaluator.union? contact index raw =
      (evaluator.dispatcher.build filter (filterSeed index) (.contact contact)).toOption.map
        (fun union => (union, filter.isNegative)) := by
    rw [union?_eq, hraw]
    rfl
  rw [hunion, Dispatcher.builds]
  cases hall : evaluator.dispatcher.build filter (filterSeed index) .allContacts with
  | ok whole =>
      obtain ⟨union, hbuild⟩ := Dispatcher.build_isOk_iff hall (.contact contact)
      exact Or.inr ⟨rfl, union, hbuild, by rw [hbuild]; rfl⟩
  | error error =>
      refine Or.inl ⟨rfl, ?_⟩
      cases hbuild : evaluator.dispatcher.build filter (filterSeed index) (.contact contact) with
      | error error => rfl
      | ok union =>
          obtain ⟨whole, hwhole⟩ := Dispatcher.build_isOk_iff hbuild .allContacts
          rw [hall] at hwhole
          cases hwhole

/-- What the evaluator answers after passing over filters: it has matched as soon as one of
those that are built holds for the contact. -/
theorem evaluateFrom_ok
    (hstored : installation.StoredIn evaluator.dispatcher.compiler.metadata database)
    (hexecutor : executor.Answers database) {contact : Int64} {raws : List RawFilter}
    {attachments : List (Attachment evaluator.dispatcher)} {index : Nat}
    (hcalls : attachments.map Attachment.call =
      (attachCalls index raws).filter evaluator.dispatcher.builds)
    {evaluation result : Evaluation} {state final : State}
    (h : evaluateFrom evaluator contact executor index evaluation state raws =
      (.ok result, final)) :
    result.evaluated = (evaluation.evaluated || !attachments.isEmpty) ∧
      result.matched = (evaluation.matched ||
        attachments.any fun attachment => attachment.holds database (.int contact)) := by
  induction raws generalizing index evaluation state attachments with
  | nil =>
      rw [attachCalls, List.filter_nil, List.map_eq_nil_iff] at hcalls
      cases h
      simp [hcalls]
  | cons raw rest ih =>
      rw [evaluateFrom] at h
      rcases attachCalls_cons index raw rest with ⟨hpassed, hskip⟩ | ⟨filter, hraw, _, hcall⟩
      · rw [union?_of_passed hpassed] at h
        rw [hskip] at hcalls
        exact ih hcalls h
      · rw [hcall] at hcalls
        rcases union?_of_ofRaw hraw with
          ⟨hbuilds, hunion⟩ | ⟨hbuilds, union, hbuild, hunion⟩
        · rw [hunion] at h
          rw [List.filter_cons_of_neg (by simp [hbuilds])] at hcalls
          exact ih hcalls h
        · rw [hunion] at h
          rw [List.filter_cons_of_pos hbuilds] at hcalls
          obtain ⟨attachment, others, rfl, hfirst, hothers⟩ := List.map_eq_cons_iff.mp hcalls
          obtain ⟨rfl, hseed⟩ := Prod.mk.inj hfirst
          rw [← hseed] at hbuild
          simp only at h
          split at h
          · cases h
          · rename_i found next hfound
            obtain ⟨query, params, hquery, hparams, rfl⟩ := found_of_hasRows hexecutor hfound
            obtain ⟨hevaluated, hmatched⟩ := ih hothers h
            have hholds := attachment.restricted_rows hbuild hstored hquery hparams
            rw [hevaluated, hmatched, hholds]
            simp [Attachment.holds, Bool.or_assoc]

/-- The query for all contacts. -/
def contactBase : Query :=
  .select [.tableColumn "l" "id"] (some (.table "leads" (some "l"))) [] none

/-- The evaluator agrees with the segment.  If it answers that filters of which all but the
first are joined by OR were evaluated, then it has found a match exactly if the contact is
among the rows of the segment query with the same filters attached, whatever the database
holds and whatever LIKE and REGEXP mean.  Filters that are refused, and those of the
platform, are passed over on both sides. -/
theorem matched_iff_mem_rows {contact : Int64} {raws : List RawFilter}
    (hnative : evaluator.dispatcher.PassesNative raws)
    (hstored : installation.StoredIn evaluator.dispatcher.compiler.metadata database)
    (hcontacts : ∀ row ∈ installation.contacts, Schema.itemContact.Admits row.row)
    (hexecutor : executor.Answers database)
    (hcontact : [.int contact] ∈ contactBase.rows database [])
    (hglue : ∀ raw ∈ raws.tail, raw.glue = .or) {state final : State} {matched : Bool}
    (h : evaluator.evaluate contact raws executor state = (.ok ⟨true, matched⟩, final)) :
    let segment := (evaluator.dispatcher.attachAll "l" .allContacts
      (SegmentQuery.new contactBase) raws).1
    matched = true ↔
      [.int contact] ∈ segment.query.rows (database.withParams segment.params) [] := by
  have hnull : ∀ row ∈ installation.contacts, row.contact ≠ .null :=
    fun row hrow => ContactRow.contact_ne_null (hcontacts row hrow)
  obtain ⟨attachments, hattached, hmap, hkept⟩ :=
    (Dispatcher.attached_new contactBase).applyAll attachCalls_custom (attachCalls_apart 0 raws)
      fun attachment hmem => absurd hmem List.not_mem_nil
  have hcalls := hmap.trans hkept
  -- The evaluator has gone through the same attachments.
  obtain ⟨hevaluated, hmatched⟩ : true = !attachments.isEmpty ∧ matched =
      attachments.any fun attachment => attachment.holds database (.int contact) := by
    unfold evaluate at h
    split at h
    · simpa only [Bool.false_or] using evaluateFrom_ok hstored hexecutor hcalls h
    · cases h
  have hpass : Attachment.pass database attachments (.int contact) =
      attachments.any fun attachment => attachment.holds database (.int contact) :=
    Attachment.pass_of_or (by simpa using hevaluated.symm) (glue_of_attachments hglue hcalls) _
  rw [Dispatcher.attachAll, Dispatcher.attachFrom_eq_applyAll hnative]
  intro segment
  have hgroups : ∀ scope : Scope, scope.column "l" "id" = .int contact →
      (segment.groups.isEmpty || segment.groups.any fun group =>
          group.all fun expr => expr.holdsIn (database.withParams segment.params) scope) =
        Attachment.pass database attachments (.int contact) := by
    intro scope hid
    rw [← hid]
    exact hattached.groups_hold hstored hnull (.refl _) (by simp [hid])
  rw [SegmentQuery.rows_query _ _ hattached.base hattached.nil_notMem_groups, hmatched, ← hpass]
  simp only [List.append_nil, List.mem_map, List.mem_filter, Query.meets, Option.all_none,
    Bool.true_and]
  constructor
  · intro hholds
    rw [contactBase, Query.rows_select] at hcontact
    obtain ⟨scope, hscope, hrow⟩ := List.mem_map.mp hcontact
    rw [List.append_nil] at hrow
    have hid : scope.column "l" "id" = .int contact := (List.cons.inj hrow).1
    exact ⟨scope, ⟨(List.mem_filter.mp hscope).1, (hgroups scope hid).trans hholds⟩, hrow⟩
  · rintro ⟨scope, ⟨_, hholds⟩, hrow⟩
    have hid : scope.column "l" "id" = .int contact := (List.cons.inj hrow).1
    exact (hgroups scope hid).symm.trans hholds

end Evaluator

/-- A database as something that answers statements. -/
def Database.executor (database : Database) : Executor Unit where
  dialect := .mysql
  run state statement :=
    (Store.contactIds "contact_id"
      (statement.query.rows (database.withParams statement.params) []), state)

theorem Store.contactIds_ok {column : String} {rows : List (List Datum)} {ids : List Int64}
    (h : contactIds column rows = .ok ids) :
    ids.map Datum.int = rows.map fun row => row.headD .null := by
  induction rows generalizing ids with
  | nil =>
      cases h
      rfl
  | cons row rest ih =>
      obtain ⟨id, hid, hrest⟩ := bind_eq_ok h
      obtain ⟨others, hothers, hids⟩ := bind_eq_ok hrest
      cases hids
      have hhead : Datum.int id = row.headD .null := by
        unfold contactId at hid
        split at hid
        · rename_i hdatum
          cases hid
          exact hdatum.symm
        · cases hid
        · cases hid
      rw [List.map_cons, List.map_cons, hhead, ih hothers]

theorem Database.executor_answers (database : Database) : database.executor.Answers database := by
  intro state next statement ids _ hrun
  exact .of_eq (Store.contactIds_ok (congrArg Prod.fst hrun))

namespace LinkedItems

/-- A filter of the platform, which is passed over; a price above 100, which no item has; or no
price of 6. -/
def raws : List RawFilter :=
  [⟨.and, "email", "lead", "email", "eq", .text "a"⟩,
   ⟨.or, "cmf_3", "custom_object", "int", "gt", .text "100"⟩,
   ⟨.or, "cmf_3", "custom_object", "int", "neq", .text " 6 "⟩]

def evaluator : Evaluator := ⟨dispatcher, true⟩

/-- Contact 7 matches the negative filter and is in the segment.  Contact 8 has an item with the
price 6, so it neither matches nor is in the segment. -/
theorem matched_and_in_segment :
    let segment := (evaluator.dispatcher.attachAll "l" .allContacts
      (SegmentQuery.new Evaluator.contactBase) raws).1
    let rows := segment.query.rows (database.withParams segment.params) []
    (evaluator.evaluate 7 raws database.executor () = (.ok ⟨true, true⟩, ()) ∧
      [.int 7] ∈ rows) ∧
    evaluator.evaluate 8 raws database.executor () = (.ok ⟨true, false⟩, ()) ∧
      [.int 8] ∉ rows := by
  intro segment rows
  have hagrees : ∀ contact matched, [.int contact] ∈ Evaluator.contactBase.rows database [] →
      evaluator.evaluate contact raws database.executor () = (.ok ⟨true, matched⟩, ()) →
        (matched = true ↔ [.int contact] ∈ rows) := fun contact matched hcontact hrun =>
    Evaluator.matched_iff_mem_rows (fun _ _ _ _ => rfl) storedIn (by decide)
      database.executor_answers hcontact (by decide) hrun
  have hseven : evaluator.evaluate 7 raws database.executor () = (.ok ⟨true, true⟩, ()) := rfl
  have height : evaluator.evaluate 8 raws database.executor () = (.ok ⟨true, false⟩, ()) := rfl
  have hmatched := hagrees 7 true (by decide) hseven
  have hunmatched := hagrees 8 false (by decide) height
  refine ⟨⟨hseven, hmatched.mp rfl⟩, height, fun hmem => ?_⟩
  cases hunmatched.mpr hmem

end LinkedItems

end SegmentPaths
