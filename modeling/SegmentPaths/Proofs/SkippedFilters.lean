/-
Filters that are passed over.  What is attached is grouped by its own glue alone: a
filter that is refused leaves nothing behind, not even the start of a group that it
asks for.
-/
import SegmentPaths.Proofs.BoundPlaceholders
import SegmentPaths.Proofs.EvaluatorAgreement

namespace SegmentPaths

namespace Grouping

variable {A : Type} (glue : A → Glue)

/-- Whether two items are in one group. -/
def Together (items : List A) (first second : A) : Prop :=
  ∃ group ∈ groups glue items, first ∈ group ∧ second ∈ group

/-- The group that the next item can join. -/
def lastGroup (items : List A) : List A := (groups glue items).getLast?.getD []

variable {glue} {items : List A} {item first second : A}

/-- One more item starts a group, or it joins the last one. -/
theorem groups_concat_cases (glue : A → Glue) (items : List A) (item : A) :
    (glue item = .or ∧ groups glue (items ++ [item]) = groups glue items ++ [[item]]) ∨
      (items = [] ∧ groups glue (items ++ [item]) = [[item]]) ∨
      glue item = .and ∧ ∃ parts last, groups glue items = parts ++ [last] ∧
        groups glue (items ++ [item]) = parts ++ [last ++ [item]] := by
  cases hglue : glue item with
  | or =>
      left
      refine ⟨rfl, ?_⟩
      rw [groups_concat, extend_or glue hglue]
  | and =>
      right
      rcases List.eq_nil_or_concat (groups glue items) with hnil | ⟨parts, last, hparts⟩
      · obtain rfl := List.splitBy_eq_nil.mp hnil
        exact Or.inl ⟨rfl, rfl⟩
      · rw [List.concat_eq_append] at hparts
        exact Or.inr ⟨rfl, parts, last, hparts, groups_concat_and glue hglue hparts⟩

/-- The last group ends with the last item, and no other group holds it. -/
theorem exists_last_group (glue : A → Glue) (hitem : item ∉ items) :
    ∃ parts last, groups glue (items ++ [item]) = parts ++ [last ++ [item]] ∧
      ∀ group ∈ parts, item ∉ group := by
  have hold : ∀ group ∈ groups glue items, item ∉ group :=
    fun group hgroup hmem => hitem (mem_of_mem_groups glue hgroup hmem)
  rcases groups_concat_cases glue items item with
    ⟨_, hgroups⟩ | ⟨_, hgroups⟩ | ⟨_, parts, last, hitems, hgroups⟩
  · exact ⟨groups glue items, [], hgroups, hold⟩
  · exact ⟨[], [], hgroups, fun group hgroup => absurd hgroup List.not_mem_nil⟩
  · refine ⟨parts, last, hgroups, fun group hgroup => hold group ?_⟩
    rw [hitems]
    exact List.mem_append_left _ hgroup

theorem mem_lastGroup_concat :
    first ∈ lastGroup glue (items ++ [item]) ↔
      first = item ∨ (glue item = .and ∧ first ∈ lastGroup glue items) := by
  unfold lastGroup
  rcases groups_concat_cases glue items item with
    ⟨hglue, hgroups⟩ | ⟨rfl, hgroups⟩ | ⟨hglue, parts, last, hitems, hgroups⟩
  · rw [hgroups]
    simp [hglue]
  · rw [hgroups]
    simp [groups]
  · rw [hgroups, hitems]
    simp [hglue, or_comm]

/-- The last item is together with the items of the last group. -/
theorem together_last (hitem : item ∉ items) :
    Together glue (items ++ [item]) first item ↔ first ∈ lastGroup glue (items ++ [item]) := by
  obtain ⟨parts, last, hgroups, hparts⟩ := exists_last_group glue hitem
  unfold Together lastGroup
  rw [hgroups]
  simp only [List.getLast?_append, List.getLast?_singleton, Option.some_or, Option.getD_some]
  constructor
  · rintro ⟨group, hgroup, hfirst, hsecond⟩
    rcases List.mem_append.mp hgroup with hgroup | hgroup
    · exact absurd hsecond (hparts group hgroup)
    · rwa [List.mem_singleton.mp hgroup] at hfirst
  · intro hfirst
    exact ⟨last ++ [item], by simp, hfirst, by simp⟩

/-- One more item does not change which of the others are together. -/
theorem together_concat (hfirst : first ≠ item) (hsecond : second ≠ item) :
    Together glue (items ++ [item]) first second ↔ Together glue items first second := by
  unfold Together
  rcases groups_concat_cases glue items item with
    ⟨_, hgroups⟩ | ⟨rfl, hgroups⟩ | ⟨_, parts, last, hitems, hgroups⟩
  · rw [hgroups]
    simp [or_and_right, exists_or, hfirst]
  · rw [hgroups]
    simp [groups, hfirst]
  · rw [hgroups, hitems]
    simp [or_and_right, exists_or, hfirst, hsecond]

section Ascending

variable {key : A → Nat}

/-- The last group starts where no item behind asks for a group of its own. -/
theorem mem_lastGroup_iff (hascending : items.Pairwise fun a b => key a < key b)
    (hfirst : first ∈ items) :
    first ∈ lastGroup glue items ↔ ∀ item ∈ items, key first < key item → glue item = .and := by
  induction items using List.reverseRecOn with
  | nil => cases hfirst
  | append_singleton items item ih =>
      obtain ⟨hitems, _, hborder⟩ := List.pairwise_append.mp hascending
      rw [mem_lastGroup_concat]
      rcases List.mem_append.mp hfirst with hold | hnew
      · have hbefore : key first < key item := hborder first hold item List.mem_cons_self
        have hne : first ≠ item := by
          rintro rfl
          exact Nat.lt_irrefl _ hbefore
        simp [hne, ih hitems hold, hbefore, or_imp, forall_and, and_comm]
      · rw [List.mem_singleton.mp hnew]
        refine iff_of_true (Or.inl rfl) fun other hother hlater => ?_
        rcases List.mem_append.mp hother with hother | hother
        · exact absurd hlater (Nat.lt_asymm (hborder other hother item List.mem_cons_self))
        · exact absurd hlater (by rw [List.mem_singleton.mp hother]; exact Nat.lt_irrefl _)

/-- Two items are together if no item behind the first one, up to the second one, asks for a
group of its own. -/
theorem together_iff (hascending : items.Pairwise fun a b => key a < key b)
    (hfirst : first ∈ items) (hsecond : second ∈ items) (hbefore : key first < key second) :
    Together glue items first second ↔
      ∀ item ∈ items, key first < key item → key item ≤ key second → glue item = .and := by
  -- Groups grow at their end: an item behind both changes nothing, and if the last item is
  -- the second one, the question is which items the last group holds.
  induction items using List.reverseRecOn with
  | nil => cases hfirst
  | append_singleton items item ih =>
      obtain ⟨hitems, _, hborder⟩ := List.pairwise_append.mp hascending
      have hlast : ∀ other ∈ items, key other < key item :=
        fun other hother => hborder other hother item List.mem_cons_self
      have hnew : item ∉ items := fun hmem => Nat.lt_irrefl _ (hlast item hmem)
      rcases List.mem_append.mp hsecond with hold | hsame
      · have hlater : key second < key item := hlast second hold
        have hother : first ∈ items := by
          rcases List.mem_append.mp hfirst with hmem | hmem
          · exact hmem
          · rw [List.mem_singleton.mp hmem] at hbefore
            omega
        rw [together_concat (ne_of_mem_of_not_mem hother hnew)
          (ne_of_mem_of_not_mem hold hnew), ih hitems hother hold]
        simp [or_imp, forall_and, Nat.not_le.mpr hlater]
      · obtain rfl := List.mem_singleton.mp hsame
        rw [together_last hnew, mem_lastGroup_iff hascending hfirst]
        refine forall₂_congr fun other hother => ?_
        have hupper : key other ≤ key second := by
          rcases List.mem_append.mp hother with hmem | hmem
          · exact Nat.le_of_lt (hlast other hmem)
          · rw [List.mem_singleton.mp hmem]
        simp [hupper]

end Ascending

end Grouping

/-- Whether an error refuses a filter, so that nothing of it is attached. -/
def AttachError.isRefusal : AttachError → Bool
  | .query _ => true
  | .fault _ => false

/-- Whether a handler of the platform adds one condition for each filter that it takes, in
the place that the glue of the filter asks for. -/
def NativeHandler.AddsOne (handler : NativeHandler) : Prop :=
  ∀ raw contactAlias segment next, handler raw contactAlias segment = .ok next →
    ∃ condition, next.groups = SegmentQuery.extend raw.glue condition segment.groups

/-- A filter that is attached: the index that it is stored at, its glue, and the condition
that it becomes. -/
structure Placed where
  index : Nat
  glue : Glue
  condition : Expr

/-- Whether no stored filter behind an index, up to another one, asks for a group of its own. -/
def RawFilter.StayTogether (raws : List RawFilter) (first second : Nat) : Prop :=
  ∀ index raw, first < index → index ≤ second → raws[index]? = some raw → raw.glue = .and

namespace Dispatcher

/-- The indices of the filters that are attached, counted like the ones that are passed
over. -/
def attachedFrom (dispatcher : Dispatcher) (contactAlias : String)
    (restriction : ContactRestriction) : Nat → SegmentQuery → List RawFilter → List Nat
  | _, _, [] => []
  | index, segment, raw :: rest =>
    let (next, error) :=
      dispatcher.attach contactAlias restriction (Evaluator.filterSeed index) segment raw
    let attached := attachedFrom dispatcher contactAlias restriction (index + 1) next rest
    if error.any AttachError.isRefusal then attached else index :: attached

variable {dispatcher : Dispatcher} {contactAlias : String} {restriction : ContactRestriction}

/-- A filter that is built becomes one condition, even if its values are in conflict with
those of the segment. -/
theorem groups_apply {filter : SegmentFilter} {seed : String} {union : FragmentUnion}
    (hbuild : dispatcher.build filter seed restriction = .ok union) (segment : SegmentQuery) :
    (dispatcher.apply filter segment contactAlias seed restriction).2.any
        AttachError.isRefusal = false ∧
      ∃ condition, (dispatcher.apply filter segment contactAlias seed restriction).1.groups =
        SegmentQuery.extend filter.glue condition segment.groups := by
  obtain ⟨built, _, rfl⟩ :=
    BuiltFilter.exists_of_build ⟨filter, contactAlias, seed, restriction⟩ hbuild
  cases filter with
  | native raw => cases hbuild
  | customField glue filter =>
      simp only [apply, hbuild, built.hasQuery, built.hasParams]
      split <;> exact ⟨rfl, _, rfl⟩
  | customItem glue filter =>
      simp only [apply, hbuild, built.hasQuery, built.hasParams]
      split <;> exact ⟨rfl, _, rfl⟩

/-- A stored filter is refused and changes nothing, or it adds one condition in the place
that its glue asks for. -/
theorem attach_cases (hnative : ∀ handler, dispatcher.native = some handler → handler.AddsOne)
    (contactAlias : String) (restriction : ContactRestriction) (seed : String)
    (segment : SegmentQuery) (raw : RawFilter) :
    (∃ error, dispatcher.attach contactAlias restriction seed segment raw =
        (segment, some (.query error))) ∨
      (dispatcher.attach contactAlias restriction seed segment raw).2.any
          AttachError.isRefusal = false ∧
        ∃ condition, (dispatcher.attach contactAlias restriction seed segment raw).1.groups =
          SegmentQuery.extend raw.glue condition segment.groups := by
  unfold attach
  cases hraw : SegmentFilter.ofRaw raw with
  | error error => exact Or.inl ⟨error, rfl⟩
  | ok filter =>
      dsimp only
      rw [← SegmentFilter.glue_of_ofRaw hraw]
      by_cases hcustom : filter.IsCustom
      · cases hbuild : dispatcher.build filter seed restriction with
        | error error => exact Or.inl ⟨error, apply_of_build_error hcustom hbuild segment⟩
        | ok union => exact Or.inr (groups_apply hbuild segment)
      · obtain ⟨native, rfl⟩ := not_forall_not.mp hcustom
        rw [apply]
        cases hhandler : dispatcher.native with
        | none => exact Or.inl ⟨_, rfl⟩
        | some handler =>
            dsimp only
            cases hnext : handler native contactAlias segment with
            | error error => exact Or.inl ⟨error, rfl⟩
            | ok next => exact Or.inr ⟨rfl, hnative handler hhandler _ _ _ _ hnext⟩

/-- Where the filters that are attached so far stand in a segment: in the groups that their
own glue makes, in the order that they are stored in. -/
structure Places (dispatcher : Dispatcher) (contactAlias : String)
    (restriction : ContactRestriction) (raws : List RawFilter) (segment : SegmentQuery)
    (placed : List Placed) : Prop where
  groups : segment.groups =
    (Grouping.groups Placed.glue placed).map (List.map Placed.condition)
  ascending : placed.Pairwise fun first second => first.index < second.index
  stored : ∀ filter ∈ placed, ∃ raw before, raws[filter.index]? = some raw ∧
    raw.glue = filter.glue ∧
    (dispatcher.attach contactAlias restriction (Evaluator.filterSeed filter.index) before
      raw).1.groups = SegmentQuery.extend filter.glue filter.condition before.groups

theorem places_new (base : Query) :
    Places dispatcher contactAlias restriction [] (SegmentQuery.new base) [] :=
  ⟨rfl, .nil, fun _ hfilter => absurd hfilter List.not_mem_nil⟩

namespace Places

variable {raws : List RawFilter} {segment : SegmentQuery} {placed : List Placed}

theorem lt_length (h : Places dispatcher contactAlias restriction raws segment placed)
    {filter : Placed} (hfilter : filter ∈ placed) : filter.index < raws.length := by
  obtain ⟨raw, _, hraw, _⟩ := h.stored filter hfilter
  exact (List.getElem?_eq_some_iff.mp hraw).1

theorem stored_append (h : Places dispatcher contactAlias restriction raws segment placed)
    (rest : List RawFilter) :
    ∀ filter ∈ placed, ∃ raw before, (raws ++ rest)[filter.index]? = some raw ∧
      raw.glue = filter.glue ∧
      (dispatcher.attach contactAlias restriction (Evaluator.filterSeed filter.index) before
        raw).1.groups = SegmentQuery.extend filter.glue filter.condition before.groups := by
  intro filter hfilter
  obtain ⟨raw, before, hraw, hrest⟩ := h.stored filter hfilter
  refine ⟨raw, before, ?_, hrest⟩
  rw [List.getElem?_append_left (h.lt_length hfilter), hraw]

/-- A filter that is refused leaves everything where it is. -/
theorem skip (h : Places dispatcher contactAlias restriction raws segment placed)
    (raw : RawFilter) : Places dispatcher contactAlias restriction (raws ++ [raw]) segment placed :=
  ⟨h.groups, h.ascending, h.stored_append [raw]⟩

/-- A filter that is attached takes the place that its glue asks for. -/
theorem place (h : Places dispatcher contactAlias restriction raws segment placed)
    {raw : RawFilter} {next : SegmentQuery} {condition : Expr}
    (hnext : (dispatcher.attach contactAlias restriction (Evaluator.filterSeed raws.length)
      segment raw).1 = next)
    (hgroups : next.groups = SegmentQuery.extend raw.glue condition segment.groups) :
    Places dispatcher contactAlias restriction (raws ++ [raw]) next
      (placed ++ [⟨raws.length, raw.glue, condition⟩]) := by
  refine ⟨?_, ?_, ?_⟩
  · rw [hgroups, h.groups, Grouping.groups_concat, ← Grouping.extend_map]
  · refine List.pairwise_append.mpr ⟨h.ascending, List.pairwise_singleton _ _, ?_⟩
    intro filter hfilter last hlast
    rw [List.mem_singleton.mp hlast]
    exact h.lt_length hfilter
  · intro filter hfilter
    rcases List.mem_append.mp hfilter with hold | hnew
    · exact h.stored_append [raw] filter hold
    · rw [List.mem_singleton.mp hnew]
      exact ⟨raw, segment, by simp, rfl, by rw [hnext, hgroups]⟩

/-- A run over stored filters places those that it attaches. -/
theorem attachFrom (hnative : ∀ handler, dispatcher.native = some handler → handler.AddsOne)
    (h : Places dispatcher contactAlias restriction raws segment placed)
    (rest : List RawFilter) :
    ∃ more : List Placed,
      more.map Placed.index =
        dispatcher.attachedFrom contactAlias restriction raws.length segment rest ∧
      Places dispatcher contactAlias restriction (raws ++ rest)
        (dispatcher.attachFrom contactAlias restriction raws.length segment rest).1
        (placed ++ more) := by
  induction rest generalizing raws segment placed with
  | nil =>
      refine ⟨[], rfl, ?_⟩
      simpa [Dispatcher.attachFrom] using h
  | cons raw rest ih =>
      have hlength : raws.length + 1 = (raws ++ [raw]).length := by simp
      have happend : raws ++ raw :: rest = raws ++ [raw] ++ rest := by simp
      simp only [Dispatcher.attachFrom, attachedFrom, hlength, happend]
      rcases attach_cases hnative contactAlias restriction (Evaluator.filterSeed raws.length)
        segment raw with
        ⟨error, hrefused⟩ | ⟨herror, condition, hgroups⟩
      · simp only [hrefused, Option.any_some, AttachError.isRefusal, if_true]
        exact ih (h.skip raw)
      · rw [herror]
        obtain ⟨more, hindices, hmore⟩ := ih (h.place rfl hgroups)
        refine ⟨⟨raws.length, raw.glue, condition⟩ :: more, ?_, ?_⟩
        · rw [List.map_cons, hindices]
          rfl
        · rwa [List.append_assoc placed] at hmore

/-- Filters that no stored filter between them asks to part are together. -/
theorem glue_of_stayTogether (h : Places dispatcher contactAlias restriction raws segment placed)
    {first second : Nat} (hstay : RawFilter.StayTogether raws first second) {filter : Placed}
    (hfilter : filter ∈ placed) (hlower : first < filter.index)
    (hupper : filter.index ≤ second) : filter.glue = .and := by
  obtain ⟨raw, _, hraw, hglue, _⟩ := h.stored filter hfilter
  rw [← hglue]
  exact hstay filter.index raw hlower hupper hraw

end Places

end Dispatcher

/-- The groups of a segment are those of the filters that are attached to it.  Two of them
are in one group exactly if none of those that are attached behind the first one, up to the
second one, is joined by OR.  A filter that is refused does not count, so this agrees with
what the stored filters ask for unless only refused ones of them are joined by OR. -/
theorem SegmentQuery.together_of_attached {dispatcher : Dispatcher}
    (hnative : ∀ handler, dispatcher.native = some handler → handler.AddsOne)
    (contactAlias : String) (restriction : ContactRestriction) (base : Query)
    (raws : List RawFilter) :
    let start := SegmentQuery.new base
    let final := (dispatcher.attachAll contactAlias restriction start raws).1
    ∃ placed : List Placed,
      placed.map Placed.index = dispatcher.attachedFrom contactAlias restriction 0 start raws ∧
      dispatcher.Places contactAlias restriction raws final placed ∧
      ∀ first ∈ placed, ∀ second ∈ placed, first.index < second.index →
        (Grouping.Together Placed.glue placed first second ↔
          ∀ filter ∈ placed, first.index < filter.index → filter.index ≤ second.index →
            filter.glue = .and) ∧
        ((Grouping.Together Placed.glue placed first second ↔
            RawFilter.StayTogether raws first.index second.index) ↔
          RawFilter.StayTogether raws first.index second.index ∨
            ∃ filter ∈ placed, first.index < filter.index ∧ filter.index ≤ second.index ∧
              filter.glue = .or) := by
  intro start final
  have hstart : dispatcher.Places contactAlias restriction [] start [] :=
    Dispatcher.places_new base
  obtain ⟨placed, hindices, hplaces⟩ := hstart.attachFrom hnative raws
  rw [List.nil_append, List.nil_append] at hplaces
  refine ⟨placed, hindices, hplaces, fun first hfirst second hsecond hbefore => ?_⟩
  have htogether : Grouping.Together Placed.glue placed first second ↔
      ∀ filter ∈ placed, first.index < filter.index → filter.index ≤ second.index →
        filter.glue = .and :=
    Grouping.together_iff hplaces.ascending hfirst hsecond hbefore
  refine ⟨htogether, ?_⟩
  rw [htogether]
  by_cases hstay : RawFilter.StayTogether raws first.index second.index
  · have hand : ∀ filter ∈ placed, first.index < filter.index → filter.index ≤ second.index →
        filter.glue = .and :=
      fun filter hfilter => hplaces.glue_of_stayTogether hstay hfilter
    exact iff_of_true (iff_of_true hand hstay) (Or.inl hstay)
  · simp only [hstay, iff_false, false_or]
    push Not
    refine exists_congr fun filter => and_congr_right fun _ => and_congr_right fun _ =>
      and_congr_right fun _ => ?_
    cases filter.glue <;> decide

namespace Products

theorem emailHandler_addsOne : emailHandler.AddsOne := by
  intro raw contactAlias segment next hnext
  cases hnext
  exact ⟨_, rfl⟩

/-- The price is 5, or an unknown field is 6 and the price is 7. -/
def skippedOr : List RawFilter :=
  [⟨.and, "cmf_3", "custom_object", "", "eq", .ofInt64 5⟩,
    ⟨.or, "cmf_99", "custom_object", "", "eq", .ofInt64 6⟩,
    ⟨.and, "cmf_3", "custom_object", "", "eq", .ofInt64 7⟩]

/-- The two filters on the price are in one group if the second one does not start another. -/
theorem prices_together :
    ∃ placed : List Placed, placed.map Placed.index = [0, 2] ∧
      ∀ first ∈ placed, ∀ second ∈ placed, first.index < second.index →
        (Grouping.Together Placed.glue placed first second ↔
          ∀ filter ∈ placed, first.index < filter.index → filter.index ≤ second.index →
            filter.glue = .and) := by
  have hnative : ∀ handler, dispatcher.native = some handler → handler.AddsOne := by
    intro handler hhandler
    cases hhandler
    exact emailHandler_addsOne
  obtain ⟨placed, hindices, _, htogether⟩ :=
    SegmentQuery.together_of_attached hnative "l" .allContacts
      (.select [.tableColumn "l" "id"] (some (.table "leads" (some "l"))) [] none) skippedOr
  exact ⟨placed, hindices, fun first hfirst second hsecond hbefore =>
    (htogether first hfirst second hsecond hbefore).1⟩

/-- A filter that is joined by OR is passed over, and the filters around it are left in one
group. -/
theorem skipped_or_starts_no_group :
    let final := dispatcher.attachAll "l" .allContacts everyone skippedOr
    final.2 = [1] ∧ final.1.groups.map List.length = [2] ∧
      ¬RawFilter.StayTogether skippedOr 0 2 := by
  refine ⟨rfl, rfl, fun hstay => ?_⟩
  have hand := hstay 1 ⟨.or, "cmf_99", "custom_object", "", "eq", .ofInt64 6⟩ (by decide)
    (by decide) rfl
  cases hand

end Products

end SegmentPaths
