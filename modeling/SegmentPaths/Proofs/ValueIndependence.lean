/-
What a statement does not depend on.  The query of a filter is the same for all values,
ids and contacts: two filters of one form are compiled to one text, and differ only in
what is bound.
-/
import SegmentPaths.Proofs.Catalogs
import SegmentPaths.Proofs.NoFaults

namespace SegmentPaths

/-- The form of a source: the table of its values if it is a field. -/
def PathSource.form? : PathSource → Option String
  | .fieldValue table _ => some table
  | .objectItem _ => none

/-- What does not depend on the id is the same for sources of one form. -/
theorem PathSource.congr_form {A : Type} {left right : PathSource} (h : left.form? = right.form?)
    (f : PathSource → A)
    (hvalues : ∀ table first second, f (.fieldValue table first) = f (.fieldValue table second))
    (hitems : ∀ first second, f (.objectItem first) = f (.objectItem second)) :
    f left = f right := by
  cases left with
  | fieldValue table first =>
      cases right with
      | fieldValue other second =>
          cases h
          exact hvalues table first second
      | objectItem second => cases h
  | objectItem first =>
      cases right with
      | fieldValue other second => cases h
      | objectItem second => exact hitems first second

namespace Target

/-- The form of a condition: its operator, its type and the number of its values. -/
def conditionForm? (target : Target) : Option (Operator × FieldType × Nat) :=
  target.condition.map fun condition => (condition.1.op, condition.2, target.values.length)

/-- Whether two targets differ at most in their values and in the id of their field or
object. -/
structure SameForm (left right : Target) : Prop where
  source : left.source.form? = right.source.form?
  condition : left.conditionForm? = right.conditionForm?

namespace SameForm

variable {left right : Target} (h : left.SameForm right) (seed : String)
include h

theorem conditionDemands_eq : left.conditionDemands seed = right.conditionDemands seed := by
  have hsuffix : left.source.aliasSuffix = right.source.aliasSuffix :=
    PathSource.congr_form h.source _ (fun _ _ _ => rfl) fun _ _ => rfl
  have hcolumn : left.source.comparedColumn = right.source.comparedColumn :=
    PathSource.congr_form h.source _ (fun _ _ _ => rfl) fun _ _ => rfl
  have hcondition := h.condition
  unfold conditionForm? at hcondition
  unfold conditionDemands
  cases hleft : left.condition with
  | none =>
      rw [hleft] at hcondition
      rw [Option.map_eq_none_iff.mp hcondition.symm]
  | some condition =>
      rw [hleft] at hcondition
      obtain ⟨other, hright, hsame⟩ := Option.map_eq_some_iff.mp hcondition.symm
      obtain ⟨hop, hrest⟩ := Prod.mk.inj hsame
      obtain ⟨htype, hlength⟩ := Prod.mk.inj hrest
      rw [hright]
      simp only [hsuffix, hcolumn, hop, htype, hlength]

/-- Fragments of targets of one form have the same query. -/
theorem query_fragment_eq {first second : ContactRestriction}
    (hdemands : first.demands seed = second.demands seed) (tables : TableNames)
    (path : RelationshipPath) :
    (left.fragment tables first seed path).query =
      (right.fragment tables second seed path).query := by
  have howner : Expr.binary .equal
        (.tableColumn (seedName seed left.source.aliasSuffix) left.source.idColumn)
        (.param (seedName seed left.source.idColumn)) =
      .binary .equal
        (.tableColumn (seedName seed right.source.aliasSuffix) right.source.idColumn)
        (.param (seedName seed right.source.idColumn)) :=
    PathSource.congr_form h.source (fun source => Expr.binary .equal
      (.tableColumn (seedName seed source.aliasSuffix) source.idColumn)
      (.param (seedName seed source.idColumn))) (fun _ _ _ => rfl) fun _ _ => rfl
  have hstart : Fragment.routeStart tables left.source seed =
      Fragment.routeStart tables right.source seed :=
    PathSource.congr_form h.source (fun source => Fragment.routeStart tables source seed)
      (fun _ _ _ => rfl) fun _ _ => rfl
  have hjoins : Fragment.routeJoins tables path left.source seed =
      Fragment.routeJoins tables path right.source seed :=
    PathSource.congr_form h.source (fun source => Fragment.routeJoins tables path source seed)
      (fun _ _ _ => rfl) fun _ _ => rfl
  simp only [fragment, demand, h.conditionDemands_eq, hdemands, howner, hstart, hjoins]

end SameForm

end Target

namespace BuiltFilter

theorem sameForm_of_filter_eq {dispatcher : Dispatcher} {left right : BuiltFilter dispatcher}
    (h : left.filter = right.filter) : left.target.SameForm right.target := by
  have htarget := left.hasTarget
  rw [h, right.hasTarget] at htarget
  rw [Option.some.inj htarget]
  exact ⟨rfl, rfl⟩

/-- Filters whose targets have one form are built to the same query. -/
theorem query_eq {dispatcher : Dispatcher} {left right : BuiltFilter dispatcher}
    (hform : left.target.SameForm right.target) (hseed : left.seed = right.seed)
    (hdemands : ∀ seed, left.restriction.demands seed = right.restriction.demands seed) :
    left.query = right.query ∧ left.union.count = right.union.count := by
  have hqueries : left.union.fragments.map Fragment.query =
      right.union.fragments.map Fragment.query := by
    rw [left.union_eq, right.union_eq, Target.union, Target.union, List.map_map, List.map_map,
      hseed]
    apply List.map_congr_left
    intro entry _
    exact hform.query_fragment_eq _ (hdemands _) _ _
  constructor
  · have hleft := FragmentUnion.ofBranches_of_query left.hasQuery
    rw [hqueries, FragmentUnion.ofBranches_of_query right.hasQuery] at hleft
    exact (Option.some.inj hleft).symm
  · have hlength := congrArg List.length hqueries
    rwa [List.length_map, List.length_map] at hlength

end BuiltFilter

/-- What a stored filter is about: the values of fields of a type, or items. -/
inductive Subject
  | values (typeKey : String)
  | items

/-- What the subject of a filter says about its target: where its paths start, and the type
of its condition. -/
def Subject.Fixes (metadata : Metadata) : Subject → PathSource → FieldType → Prop
  | .values typeKey, source, type =>
    TableNames.fieldType typeKey = .ok type ∧
      ∃ table field, metadata.valueTable typeKey = .ok table ∧ source = .fieldValue table field
  | .items, source, type => type = .text ∧ ∃ object, source = .objectItem object

theorem Subject.Fixes.unique {metadata : Metadata} {subject : Subject} {left right : PathSource}
    {leftType rightType : FieldType} (hleft : subject.Fixes metadata left leftType)
    (hright : subject.Fixes metadata right rightType) :
    left.form? = right.form? ∧ leftType = rightType := by
  cases subject with
  | values typeKey =>
      obtain ⟨htype, table, _, htable, rfl⟩ := hleft
      obtain ⟨hother, other, _, hsame, rfl⟩ := hright
      rw [htype] at hother
      rw [htable] at hsame
      cases hother
      cases hsame
      exact ⟨rfl, rfl⟩
  | items =>
      obtain ⟨rfl, _, rfl⟩ := hleft
      obtain ⟨rfl, _, rfl⟩ := hright
      exact ⟨rfl, rfl⟩

namespace SegmentFilter

/-- What a filter is about, if metadata knows its field. -/
def subject? (metadata : Metadata) : SegmentFilter → Option Subject
  | .customField _ filter =>
    (metadata.field filter.field).toOption.map fun field => .values field.typeKey
  | .customItem _ _ => some .items
  | .native _ => none

/-- What a stored filter is read as: one of the platform, or one on a custom field or on
custom items with the condition that was read. -/
theorem ofRaw_cases {raw : RawFilter} {filter : SegmentFilter} (h : ofRaw raw = .ok filter) :
    filter = .native raw ∨ ∃ condition, readCondition raw = .ok condition ∧
      ((∃ field, filter = .customField raw.glue ⟨field, some condition⟩) ∨
        ∃ object, filter = .customItem raw.glue ⟨object, some condition⟩) := by
  unfold ofRaw at h
  split at h
  · cases h
    exact Or.inl rfl
  · right
    split at h
    · obtain ⟨field, _, hrest⟩ := bind_eq_ok h
      obtain ⟨condition, hcondition, hfilter⟩ := bind_eq_ok hrest
      cases hfilter
      exact ⟨condition, hcondition, Or.inl ⟨field, rfl⟩⟩
    · split at h
      · obtain ⟨object, _, hrest⟩ := bind_eq_ok h
        obtain ⟨condition, hcondition, hfilter⟩ := bind_eq_ok hrest
        cases hfilter
        exact ⟨condition, hcondition, Or.inr ⟨object, rfl⟩⟩
      · cases h

/-- A stored filter with a target has a subject that fixes it, and the condition that was
read. -/
theorem target_of_ofRaw {metadata : Metadata} {raw : RawFilter} {filter : SegmentFilter}
    {target : Target} (hraw : ofRaw raw = .ok filter)
    (htarget : filter.target? metadata = some target) :
    ∃ condition type subject, readCondition raw = .ok condition ∧
      target.condition = some (condition, type) ∧ filter.isNegative = condition.isNegative ∧
      filter.subject? metadata = some subject ∧ subject.Fixes metadata target.source type := by
  rcases ofRaw_cases hraw with rfl | ⟨condition, hread, ⟨field, rfl⟩ | ⟨object, rfl⟩⟩
  · cases htarget
  · obtain ⟨field, table, hfield, htable, hsource, hcondition⟩ := target?_customField htarget
    obtain ⟨type, hkey, hsome⟩ := hcondition condition rfl
    have htype : TableNames.fieldType field.typeKey = .ok type := by
      rw [CustomField.type?] at hkey
      rw [TableNames.fieldType, hkey]
    refine ⟨condition, type, .values field.typeKey, hread, hsome, rfl, ?_, htype, table, field.id,
      htable, hsource⟩
    rw [subject?, hfield]
    rfl
  · obtain ⟨object, _, rfl⟩ := target?_customItem htarget
    exact ⟨condition, .text, .items, hread, rfl, rfl, rfl, rfl, object.id, rfl⟩

/-- The operator of a condition that was read, and its value if it takes one. -/
theorem readCondition_cases {raw : RawFilter} {condition : ValueCondition}
    (h : readCondition raw = .ok condition) :
    Operator.ofKey? raw.operator = some condition.op ∧
      (condition.op.takesNoValue = false →
        FilterValue.ofJson raw.filter = .ok condition.value) := by
  unfold readCondition at h
  split at h
  · cases h
  · rename_i op hop
    split at h
    · rename_i hnone
      cases h
      refine ⟨hop, fun hvalue => ?_⟩
      rw [hnone] at hvalue
      cases hvalue
    · obtain ⟨value, hvalue, hcondition⟩ := exists_of_map_ok h
      cases hcondition
      exact ⟨hop, fun _ => hvalue⟩

end SegmentFilter

/-- How many values a stored filter gives: those of a list, or one. -/
def RawFilter.valueCount (raw : RawFilter) : Nat :=
  match raw.filter with
  | .array items => items.length
  | _ => 1

theorem FilterValue.scalarsOfJson_length {items : List Json} {values : List ParamValue}
    (h : scalarsOfJson items = .ok values) : values.length = items.length := by
  induction items generalizing values with
  | nil =>
      cases h
      rfl
  | cons item rest ih =>
      obtain ⟨value, _, hrest⟩ := bind_eq_ok h
      obtain ⟨others, hothers, hvalues⟩ := bind_eq_ok hrest
      cases hvalues
      rw [List.length_cons, List.length_cons, ih hothers]

/-- What a value is read as: nothing, a list of equally many values, or a single value. -/
theorem FilterValue.ofJson_cases {json : Json} {value : FilterValue} (h : ofJson json = .ok value) :
    value = .none ∨
      (∃ items values, json = .array items ∧ value = .list values ∧
        values.length = items.length) ∨
      ∃ scalar, (∀ items, json ≠ .array items) ∧ value = .single scalar := by
  unfold ofJson at h
  split at h
  · cases h
    exact Or.inl rfl
  · rename_i items
    obtain ⟨values, hvalues, rfl⟩ := exists_of_map_ok h
    exact Or.inr (Or.inl ⟨items, values, rfl, rfl, scalarsOfJson_length hvalues⟩)
  · rename_i harray
    obtain ⟨scalar, _, rfl⟩ := exists_of_map_ok h
    exact Or.inr (Or.inr ⟨scalar, harray, rfl⟩)

/-- A list operator binds as many values as the stored filter gives. -/
theorem ValueCondition.length_of_readCondition {raw : RawFilter} {condition : ValueCondition}
    {type : FieldType} {values : List ParamValue}
    (hread : SegmentFilter.readCondition raw = .ok condition)
    (hvalues : condition.checkedValues type = .ok values)
    (hlist : condition.op.takesList = true) : values.length = raw.valueCount := by
  obtain ⟨given, hgiven, hstored⟩ := checkedValues_operands hvalues
  obtain ⟨op, value⟩ := condition
  have hnone := Operator.takesNoValue_of_takesList hlist
  have hjson := (SegmentFilter.readCondition_cases hread).2 hnone
  dsimp only at hlist hnone hjson
  simp only [operands, hnone, hlist, Bool.false_eq_true, if_true, if_false] at hgiven
  rw [← hstored.length_eq, RawFilter.valueCount]
  rcases FilterValue.ofJson_cases hjson with
    rfl | ⟨items, values, hitems, rfl, hcount⟩ | ⟨scalar, hsingle, rfl⟩
  · cases hgiven
  · rw [hitems]
    dsimp only at hgiven
    split at hgiven
    · cases hgiven
    · cases hgiven
      exact hcount
  · cases hgiven
    split
    · rename_i items hitems
      exact absurd hitems (hsingle items)
    · rfl

/-- Two stored filters of one subject and operator have targets of one form, if their list
operators are given equally many values. -/
theorem BuiltFilter.sameForm_of_ofRaw {dispatcher : Dispatcher}
    {left right : BuiltFilter dispatcher} {leftRaw rightRaw : RawFilter}
    (hleft : SegmentFilter.ofRaw leftRaw = .ok left.filter)
    (hright : SegmentFilter.ofRaw rightRaw = .ok right.filter)
    (hop : Operator.ofKey? leftRaw.operator = Operator.ofKey? rightRaw.operator)
    (hsubject : left.filter.subject? dispatcher.compiler.metadata =
      right.filter.subject? dispatcher.compiler.metadata)
    (hcount : ∀ op, Operator.ofKey? leftRaw.operator = some op → op.takesList = true →
      leftRaw.valueCount = rightRaw.valueCount) :
    left.target.SameForm right.target ∧ left.filter.isNegative = right.filter.isNegative := by
  obtain ⟨condition, type, subject, hread, hcondition, hnegative, hfilter, hfixes⟩ :=
    SegmentFilter.target_of_ofRaw hleft left.hasTarget
  obtain ⟨other, otherType, otherSubject, hreadOther, hconditionOther, hnegativeOther,
    hfilterOther, hfixesOther⟩ := SegmentFilter.target_of_ofRaw hright right.hasTarget
  obtain ⟨hkey, _⟩ := SegmentFilter.readCondition_cases hread
  obtain ⟨hkeyOther, _⟩ := SegmentFilter.readCondition_cases hreadOther
  have hsameOp : condition.op = other.op := by
    rw [hkey, hkeyOther] at hop
    exact Option.some.inj hop
  have hsameSubject : subject = otherSubject := by
    rw [hfilter, hfilterOther] at hsubject
    exact Option.some.inj hsubject
  subst hsameSubject
  obtain ⟨hsource, rfl⟩ := hfixes.unique hfixesOther
  have hvalues := left.fits _ _ hcondition
  have hvaluesOther := right.fits _ _ hconditionOther
  have hlength : left.target.values.length = right.target.values.length := by
    have htakes := ValueCondition.checkedValues_takes hvalues
    have htakesOther := ValueCondition.checkedValues_takes hvaluesOther
    rw [← hsameOp] at htakesOther
    -- Only a list operator leaves it open how many values there are.
    cases hlist : condition.op.takesList with
    | true =>
        rw [ValueCondition.length_of_readCondition hread hvalues hlist,
          ValueCondition.length_of_readCondition hreadOther hvaluesOther (hsameOp ▸ hlist)]
        exact hcount _ hkey hlist
    | false => exact htakes.unique htakesOther hlist
  refine ⟨⟨hsource, ?_⟩, ?_⟩
  · simp [Target.conditionForm?, hcondition, hconditionOther, hsameOp, hlength]
  · rw [hnegative, hnegativeOther, ValueCondition.isNegative, ValueCondition.isNegative, hsameOp]

/-- What a stored filter is about, if metadata knows its field. -/
def RawFilter.subject? (metadata : Metadata) (raw : RawFilter) : Option Subject :=
  (SegmentFilter.ofRaw raw).toOption.bind (SegmentFilter.subject? metadata)

/-- The contact of a restriction has no say in the text. -/
theorem compileFilter_hides_contact (raw : RawFilter) (metadata : Metadata)
    (options : CompileOptions) (first second : Int64) :
    (compileFilter raw metadata { options with restriction := .contact first }).map
        CompiledFilter.sql =
      (compileFilter raw metadata { options with restriction := .contact second }).map
        CompiledFilter.sql := by
  cases hfilter : SegmentFilter.ofRaw raw with
  | error error =>
      rw [compileFilter_of_ofRaw_error hfilter, compileFilter_of_ofRaw_error hfilter]
  | ok filter =>
      cases hcompile : Dispatcher.compile ⟨⟨metadata, options.depth, options.scope⟩, none⟩ filter
          options.seed with
      | error error =>
          have hbuild : ∀ restriction,
              Dispatcher.build ⟨⟨metadata, options.depth, options.scope⟩, none⟩ filter
                options.seed restriction = .error error := by
            intro restriction
            rw [Dispatcher.build, hcompile]
            rfl
          have herror : ∀ contact, compileFilter raw metadata
              { options with restriction := .contact contact } = .error (.query error) :=
            fun contact => compileFilter_of_build_error hfilter (hbuild (.contact contact))
          rw [herror, herror]
      | ok union =>
          -- The restriction comes last, so both contacts are built from the same fragments.
          have hbuild : ∀ contact,
              Dispatcher.build ⟨⟨metadata, options.depth, options.scope⟩, none⟩ filter
                options.seed (.contact contact) = .ok (union.restrictToContact contact) := by
            intro contact
            rw [Dispatcher.build, hcompile]
            rfl
          obtain ⟨left, hleft, hseed, hcontact, hcompiled⟩ := @compileFilter_of_build raw metadata
            { options with restriction := .contact first } filter hfilter _ (hbuild first)
          obtain ⟨right, hright, hother, hcontactOther, hcompiledOther⟩ :=
            @compileFilter_of_build raw metadata
              { options with restriction := .contact second } filter hfilter _ (hbuild second)
          have hform := BuiltFilter.sameForm_of_filter_eq (hleft.trans hright.symm)
          obtain ⟨hquery, _⟩ := BuiltFilter.query_eq hform (hseed.trans hother.symm)
            fun seed => by rw [hcontact, hcontactOther]; rfl
          rw [hcompiled, hcompiledOther]
          simp only [Except.map, BuiltFilter.compiled, hquery]

/-- Values have no say in the text of a statement.  Take two stored filters that are compiled
under the same options, with one operator and one subject: fields of the same type, or items;
and with equally many values where the operator takes a list.  Their texts are the same, in
any dialect since their queries are, and so are the names that they bind, the number of their
fragments and whether they are negated.  The contact of a restriction has no say either. -/
theorem compileFilter_hides_values (metadata : Metadata) (options : CompileOptions) :
    (∀ (left right : RawFilter) (first second : CompiledFilter),
      compileFilter left metadata options = .ok first →
      compileFilter right metadata options = .ok second →
      Operator.ofKey? left.operator = Operator.ofKey? right.operator →
      left.subject? metadata = right.subject? metadata →
      (∀ op, Operator.ofKey? left.operator = some op → op.takesList = true →
        left.valueCount = right.valueCount) →
      first.sql = second.sql ∧ first.query = second.query ∧
        (∀ name, name ∈ first.params.keys ↔ name ∈ second.params.keys) ∧
        first.fragments = second.fragments ∧ first.negated = second.negated) ∧
    ∀ (raw : RawFilter) (first second : Int64),
      (compileFilter raw metadata { options with restriction := .contact first }).map
          CompiledFilter.sql =
        (compileFilter raw metadata { options with restriction := .contact second }).map
          CompiledFilter.sql := by
  constructor
  · intro leftRaw rightRaw first second hfirst hsecond hop hsubject hcount
    rcases compileFilter_cases leftRaw metadata options with
      ⟨error, herror⟩ | ⟨left, hleft, hseed, hrestriction, hcompiled⟩
    · rw [hfirst] at herror
      cases herror
    rcases compileFilter_cases rightRaw metadata options with
      ⟨error, herror⟩ | ⟨right, hright, hother, hrestrictionOther, hcompiledOther⟩
    · rw [hsecond] at herror
      cases herror
    rw [RawFilter.subject?, RawFilter.subject?, hleft, hright] at hsubject
    obtain ⟨hform, hnegative⟩ :=
      BuiltFilter.sameForm_of_ofRaw hleft hright hop hsubject hcount
    obtain ⟨hquery, hfragments⟩ := BuiltFilter.query_eq hform (hseed.trans hother.symm)
      fun seed => by rw [hrestriction, hrestrictionOther]
    rw [hcompiled] at hfirst
    rw [hcompiledOther] at hsecond
    cases hfirst
    cases hsecond
    refine ⟨?_, hquery, ?_, hfragments, hnegative⟩
    · simp only [BuiltFilter.compiled, hquery]
    · intro name
      rw [BuiltFilter.compiled, BuiltFilter.compiled, ← left.mem_placeholders,
        ← right.mem_placeholders, hquery]
  · intro raw first second
    exact compileFilter_hides_contact raw metadata options first second

namespace Products

/-- The price is 5 or 6. -/
def priceIn : RawFilter :=
  ⟨.and, "cmf_3", "custom_object", "", "in", .array [.ofInt64 5, .ofInt64 6]⟩

/-- The weight is 7 or 8. -/
def weightIn : RawFilter :=
  ⟨.or, "cmf_4", "custom_object", "", "in", .array [.text "7", .ofInt64 8]⟩

def options : CompileOptions := ⟨.mysql, direct, .perFragment, "f", .allContacts⟩

/-- A price and a weight among two values give the same text and bind the same names. -/
theorem price_and_weight_same_text :
    ∃ first second, compileFilter priceIn catalog.metadata options = .ok first ∧
      compileFilter weightIn catalog.metadata options = .ok second ∧ first.sql = second.sql ∧
      ∀ name, name ∈ first.params.keys ↔ name ∈ second.params.keys := by
  obtain ⟨first, hfirst⟩ : ∃ first, compileFilter priceIn catalog.metadata options = .ok first :=
    ⟨_, rfl⟩
  obtain ⟨second, hsecond⟩ :
      ∃ second, compileFilter weightIn catalog.metadata options = .ok second := ⟨_, rfl⟩
  obtain ⟨hsql, _, hnames, _⟩ := (compileFilter_hides_values catalog.metadata options).1
    priceIn weightIn first second hfirst hsecond rfl rfl fun _ _ _ => rfl
  exact ⟨first, second, hfirst, hsecond, hsql, hnames⟩

end Products

end SegmentPaths
