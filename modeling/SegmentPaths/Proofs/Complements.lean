/-
Negative filters.  A negative operator is compiled to the query of the operator that it negates,
and the segment takes the contacts that the query does not find.  No value is unknown on the way,
so the two operators divide the contacts of a segment between them.
-/
import SegmentPaths.Proofs.Attachment
import SegmentPaths.Proofs.Interchange
import SegmentPaths.Segment.Attach

namespace SegmentPaths

/-- The negative operators, each with the operator that it negates. -/
inductive Operator.Negates : Operator → Operator → Prop
  | eq : Negates .neq .eq
  | notEmpty : Negates .empty .notEmpty
  | like : Negates .notLike .like
  | oneOf : Negates .noneOf .oneOf
  | regexp : Negates .notRegexp .regexp

theorem Operator.Negates.positive_eq {negative positive : Operator} (h : negative.Negates positive) :
    positive = negative.positive := by
  cases h <;> rfl

theorem Operator.Negates.isNegative {negative positive : Operator} (h : negative.Negates positive) :
    negative.isNegative = true ∧ positive.isNegative = false := by
  cases h <;> exact ⟨rfl, rfl⟩

/-- Whether two stored filters only differ in their operators, and one negates the other. -/
structure RawFilter.Negates (negative positive : RawFilter) : Prop where
  same : negative = { positive with operator := negative.operator }
  operators : ∃ first second : Operator, Operator.ofKey? negative.operator = some first ∧
    Operator.ofKey? positive.operator = some second ∧ first.Negates second

/-- A stored filter can stand in for the one that it negates, but for its sign. -/
theorem RawFilter.Negates.interchangeable {negative positive : RawFilter}
    (h : negative.Negates positive) : negative.Interchangeable positive := by
  obtain ⟨hsame, first, second, hfirst, hsecond, hnegates⟩ := h
  obtain rfl := hnegates.positive_eq
  have hfilter : negative.filter = positive.filter := by rw [hsame]
  refine ⟨by rw [hsame], by rw [hsame], ?_⟩
  simp only [SegmentFilter.readCondition, hfirst, hsecond, first.takesNoValue_positive, hfilter]
  split
  · exact .ok (ValueCondition.interchangeable_positive first .none)
  · apply (Alike.refl (fun _ => rfl) (FilterValue.ofJson positive.filter)).map
    rintro value _ rfl
    exact ValueCondition.interchangeable_positive first value

namespace BuiltFilter

variable {dispatcher : Dispatcher} (built : BuiltFilter dispatcher)

/-- What binds all that a filter binds, binds all that its fragments do. -/
theorem extends_of_mem {params : Parameters} (h : params.Extends built.params)
    {fragment : Fragment} (hfragment : fragment ∈ built.union.fragments) :
    params.Extends fragment.params := by
  intro name value hbound
  apply h name value
  rw [built.get?_params]
  exact ⟨fragment, hfragment, (built.get?_of_mem hfragment name value).mp hbound⟩

/-- The condition of a filter is never unknown: it holds for a contact if the contact is among the
rows of the query, against the sign of the filter. -/
theorem holdsIn_condition {installation : Installation} {database : Database}
    (hstored : installation.StoredIn dispatcher.compiler.metadata database)
    (hcontacts : ∀ row ∈ installation.contacts, row.contact ≠ .null)
    (hparams : database.params.Extends built.params) {scope : Scope}
    (hid : scope.column built.contactAlias "id" ≠ .null) :
    built.condition.holdsIn database scope =
      (decide ([scope.column built.contactAlias "id"] ∈ built.query.rows database []) !=
        built.filter.isNegative) := by
  obtain ⟨target, _, hfollows⟩ := Dispatcher.build_follows built.built
  exact hfollows.holdsIn_membership built.hasQuery hstored hcontacts
    (fun fragment hfragment => built.extends_of_mem hparams hfragment) hid _ _

end BuiltFilter

/-- The rows of a plain SELECT in the scopes that meet its condition and are chosen. -/
def Query.chosenRows (database : Database) (columns : List Expr) (source : Option Source)
    (joins : List Join) (condition : Option Expr) (chosen : Scope → Bool) : List (List Datum) :=
  ((Query.joined database source joins []).filter fun scope =>
    Query.meets database condition scope && chosen scope).map fun scope =>
      Expr.values database columns scope

section ChosenRows

variable (database : Database) (columns : List Expr) (source : Option Source)
  (joins : List Join) (condition : Option Expr)

/-- Only the scopes that meet the condition have to be told apart. -/
theorem Query.chosenRows_congr {chosen other : Scope → Bool}
    (h : ∀ scope ∈ Query.joined database source joins [],
      Query.meets database condition scope = true → chosen scope = other scope) :
    chosenRows database columns source joins condition chosen =
      chosenRows database columns source joins condition other := by
  unfold chosenRows
  congr 1
  apply List.filter_congr
  intro scope hscope
  cases hmeets : Query.meets database condition scope with
  | false => rfl
  | true => rw [h scope hscope hmeets]

/-- What is chosen and what is not are all rows of the SELECT. -/
theorem Query.rows_perm_chosenRows (chosen : Scope → Bool) :
    ((Query.select columns source joins condition).rows database []).Perm
      (chosenRows database columns source joins condition chosen ++
        chosenRows database columns source joins condition fun scope => !chosen scope) := by
  have hsplit : ∀ choose : Scope → Bool, ((Query.joined database source joins []).filter fun scope =>
      Query.meets database condition scope && choose scope) =
      ((Query.joined database source joins []).filter fun scope =>
        Query.meets database condition scope).filter choose := by
    intro choose
    rw [List.filter_filter]
    simp only [Bool.and_comm]
  rw [Query.rows_select, chosenRows, chosenRows, hsplit, hsplit, ← List.map_append]
  simp only [List.append_nil]
  exact ((List.filter_append_perm chosen _).symm).map _

/-- A single condition chooses the rows of a segment on a plain SELECT. -/
theorem SegmentQuery.rows_single (params : Parameters) (added : Expr) :
    (SegmentQuery.query ⟨.select columns source joins condition, params, [[added]]⟩).rows
        database [] =
      Query.chosenRows database columns source joins condition fun scope =>
        added.holdsIn database scope := by
  change ((Query.select columns source joins condition).addFilter added).rows database [] = _
  rw [Query.rows_addFilter]
  simp only [Query.chosenRows, List.append_nil]

end ChosenRows

section Spliced

variable {raw : RawFilter} {metadata : Metadata} {options : CompileOptions}
  {compiled : CompiledFilter}

/-- A stored filter that is compiled is built alike for a segment, whatever the platform does with
filters of its own. -/
theorem exists_built_of_compileFilter (h : compileFilter raw metadata options = .ok compiled)
    (native : Option NativeHandler) (contactAlias : String) :
    ∃ built : BuiltFilter ⟨⟨metadata, options.depth, options.scope⟩, native⟩,
      SegmentFilter.ofRaw raw = .ok built.filter ∧ built.contactAlias = contactAlias ∧
      built.seed = options.seed ∧ built.restriction = options.restriction ∧
      built.query = compiled.query ∧ built.params = compiled.params ∧
      built.filter.isNegative = compiled.negated := by
  rcases compileFilter_cases raw metadata options with
    ⟨error, herror⟩ | ⟨built, hfilter, hseed, hrestriction, hcompiled⟩
  · rw [herror] at h
    cases h
  · rw [hcompiled] at h
    cases h
    exact ⟨⟨⟨built.filter, contactAlias, built.seed, built.restriction⟩, built.target,
      built.union, built.query, built.params, built.hasTarget, built.built, built.hasQuery,
      built.hasParams⟩, hfilter, rfl, hseed, hrestriction, rfl, rfl, rfl⟩

/-- A stored filter that is compiled is attached to a segment without filters with its condition,
and its values become those of the segment. -/
theorem attach_of_compileFilter (h : compileFilter raw metadata options = .ok compiled)
    {merged : Parameters} (hmerge : Parameters.merge .empty compiled.params = (merged, none))
    (native : Option NativeHandler) (contactAlias : String) (base : Query) :
    ∃ built : BuiltFilter ⟨⟨metadata, options.depth, options.scope⟩, native⟩,
      built.contactAlias = contactAlias ∧ built.query = compiled.query ∧
      built.params = compiled.params ∧ built.filter.isNegative = compiled.negated ∧
      Dispatcher.attach ⟨⟨metadata, options.depth, options.scope⟩, native⟩ contactAlias
        options.restriction options.seed (.new base) raw =
          (⟨base, merged, [[built.condition]]⟩, none) := by
  obtain ⟨built, hfilter, halias, hseed, hrestriction, hquery, hparams, hnegated⟩ :=
    exists_built_of_compileFilter h native contactAlias
  refine ⟨built, halias, hquery, hparams, hnegated, ?_⟩
  rw [← hparams] at hmerge
  have happly := Dispatcher.apply_of_merge built.built built.hasQuery built.hasParams
    (.new base) hmerge contactAlias
  rw [hseed, hrestriction] at happly
  rw [Dispatcher.attach, hfilter]
  dsimp only
  rw [happly, BuiltFilter.condition, halias, hseed]
  rfl

end Spliced

/-- Whether two conditions divide contacts between them: of each contact just one holds, and the
second one for the contacts that a statement finds.  So the rows of a plain SELECT are divided
between the segments with one of these conditions. -/
structure DivideContacts (database : Database) (contactAlias : String) (statement : Query)
    (without within : Expr) : Prop where
  within_holds : ∀ scope : Scope, scope.column contactAlias "id" ≠ .null →
    within.holdsIn database scope =
      decide ([scope.column contactAlias "id"] ∈ statement.rows database [])
  without_holds : ∀ scope : Scope, scope.column contactAlias "id" ≠ .null →
    without.holdsIn database scope = !within.holdsIn database scope
  rows : ∀ columns source joins condition params,
    (∀ scope ∈ Query.joined database source joins [],
      Query.meets database condition scope = true → scope.column contactAlias "id" ≠ .null) →
    let base : Query := .select columns source joins condition
    let selected := (SegmentQuery.query ⟨base, params, [[within]]⟩).rows database []
    let others := (SegmentQuery.query ⟨base, params, [[without]]⟩).rows database []
    selected = Query.chosenRows database columns source joins condition (fun scope =>
      decide ([scope.column contactAlias "id"] ∈ statement.rows database [])) ∧
    others = Query.chosenRows database columns source joins condition (fun scope =>
      !decide ([scope.column contactAlias "id"] ∈ statement.rows database [])) ∧
    (base.rows database []).Perm (selected ++ others)

theorem divideContacts_of_holds {database : Database} {contactAlias : String} {statement : Query}
    {without within : Expr}
    (hwithin : ∀ scope : Scope, scope.column contactAlias "id" ≠ .null →
      within.holdsIn database scope =
        decide ([scope.column contactAlias "id"] ∈ statement.rows database []))
    (hwithout : ∀ scope : Scope, scope.column contactAlias "id" ≠ .null →
      without.holdsIn database scope = !within.holdsIn database scope) :
    DivideContacts database contactAlias statement without within := by
  refine ⟨hwithin, hwithout, ?_⟩
  intro columns source joins condition params hid base selected others
  have hselected : selected = Query.chosenRows database columns source joins condition
      (fun scope => decide ([scope.column contactAlias "id"] ∈ statement.rows database [])) := by
    apply (SegmentQuery.rows_single database columns source joins condition params within).trans
    apply Query.chosenRows_congr
    intro scope hscope hmeets
    exact hwithin scope (hid scope hscope hmeets)
  have hothers : others = Query.chosenRows database columns source joins condition
      (fun scope => !decide ([scope.column contactAlias "id"] ∈ statement.rows database [])) := by
    apply (SegmentQuery.rows_single database columns source joins condition params without).trans
    apply Query.chosenRows_congr
    intro scope hscope hmeets
    rw [hwithout scope (hid scope hscope hmeets), hwithin scope (hid scope hscope hmeets)]
  refine ⟨hselected, hothers, ?_⟩
  rw [hselected, hothers]
  exact Query.rows_perm_chosenRows database columns source joins condition _

/-- Filters with one query and one set of values, of which one is negative, divide contacts. -/
theorem BuiltFilter.divideContacts {dispatcher : Dispatcher}
    {without within : BuiltFilter dispatcher} (halias : without.contactAlias = within.contactAlias)
    (hquery : without.query = within.query) (hparams : without.params = within.params)
    (hwithout : without.filter.isNegative = true) (hwithin : within.filter.isNegative = false)
    {installation : Installation} {database : Database}
    (hstored : installation.StoredIn dispatcher.compiler.metadata database)
    (hcontacts : ∀ row ∈ installation.contacts, row.contact ≠ .null)
    (hbound : database.params.Extends within.params) :
    DivideContacts database within.contactAlias within.query without.condition
      within.condition := by
  have hcondition : ∀ scope : Scope, scope.column within.contactAlias "id" ≠ .null →
      within.condition.holdsIn database scope =
        decide ([scope.column within.contactAlias "id"] ∈ within.query.rows database []) := by
    intro scope hid
    rw [within.holdsIn_condition hstored hcontacts hbound hid, hwithin, Bool.bne_false]
  apply divideContacts_of_holds hcondition
  intro scope hid
  rw [hcondition scope hid]
  rw [← halias] at hid ⊢
  rw [without.holdsIn_condition hstored hcontacts (hparams ▸ hbound) hid, hquery, hwithout,
    Bool.bne_true]

/-- Both filters are compiled to the same but for the sign. -/
theorem RawFilter.Negates.compiled_eq {negative positive : RawFilter}
    (h : negative.Negates positive) {metadata : Metadata} {options : CompileOptions}
    {left right : CompiledFilter} (hleft : compileFilter negative metadata options = .ok left)
    (hright : compileFilter positive metadata options = .ok right) :
    left.negated = true ∧ right = { left with negated := false } := by
  have hanswers := compileFilter_interchange h.interchangeable metadata options
  rw [hleft, hright] at hanswers
  obtain ⟨hsame⟩ := hanswers
  obtain ⟨first, second, hfirst, hsecond, hnegates⟩ := h.operators
  obtain ⟨op, hop, hnegative⟩ := negated_of_compileFilter hleft
  obtain ⟨other, hother, hpositive⟩ := negated_of_compileFilter hright
  rw [hfirst] at hop
  rw [hsecond] at hother
  obtain ⟨rfl, rfl⟩ : first = op ∧ second = other :=
    ⟨Option.some.inj hop, Option.some.inj hother⟩
  rw [hnegates.isNegative.1] at hnegative
  rw [hpositive, hnegates.isNegative.2] at hsame
  exact ⟨hnegative, hsame⟩

/-- A negative filter is the complement of the filter that it negates.  Both are compiled or both
refused, to the same statement with the same values and the same fragments, and only the negative
one is negated.  Attached to a segment on any base, they become conditions that divide the contacts
of every installation in which no contact is null. -/
theorem compileFilter_complement {negative positive : RawFilter} (h : negative.Negates positive)
    (metadata : Metadata) (options : CompileOptions) :
    ((∃ compiled, compileFilter negative metadata options = .ok compiled) ↔
      ∃ compiled, compileFilter positive metadata options = .ok compiled) ∧
    ∀ left right, compileFilter negative metadata options = .ok left →
      compileFilter positive metadata options = .ok right →
      (left.sql = right.sql ∧ left.params = right.params ∧ left.fragments = right.fragments ∧
        left.negated = true ∧ right.negated = false) ∧
      ∀ (native : Option NativeHandler) (contactAlias : String) (base : Query),
        let dispatcher : Dispatcher := ⟨⟨metadata, options.depth, options.scope⟩, native⟩
        ∃ (params : Parameters) (without within : Expr),
          dispatcher.attach contactAlias options.restriction options.seed (.new base) negative =
            (⟨base, params, [[without]]⟩, none) ∧
          dispatcher.attach contactAlias options.restriction options.seed (.new base) positive =
            (⟨base, params, [[within]]⟩, none) ∧
          ∀ (installation : Installation) (database : Database),
            installation.StoredIn metadata database →
            (∀ row ∈ installation.contacts, row.contact ≠ .null) →
            database.params.Extends params →
            DivideContacts database contactAlias right.query without within := by
  constructor
  · have hanswers := compileFilter_interchange h.interchangeable metadata options
    generalize compileFilter negative metadata options = first at hanswers ⊢
    generalize compileFilter positive metadata options = second at hanswers ⊢
    rcases hanswers with _ | _ <;> simp
  · intro left right hleft hright
    obtain ⟨hnegated, rfl⟩ := h.compiled_eq hleft hright
    refine ⟨⟨rfl, rfl, rfl, hnegated, rfl⟩, ?_⟩
    intro native contactAlias base dispatcher
    have hagree : Parameters.Agree .empty left.params := by
      intro name a b ha _
      cases ha
    obtain ⟨merged, hmerge, hbinds⟩ := Parameters.merge_of_agree hagree
    obtain ⟨without, halias, hquery, hparams, hsign, hwithout⟩ :=
      attach_of_compileFilter hleft hmerge native contactAlias base
    obtain ⟨within, rfl, hfound, hbound, hpositive, hwithin⟩ :=
      attach_of_compileFilter hright hmerge native contactAlias base
    refine ⟨merged, without.condition, within.condition, hwithout, hwithin, ?_⟩
    intro installation database hstored hcontacts hextends
    have hcovered : database.params.Extends within.params := by
      intro name value hname
      rw [hbound] at hname
      exact hextends name value ((hbinds name value).mpr (Or.inr hname))
    have hdivide := BuiltFilter.divideContacts halias (hquery.trans hfound.symm)
      (hparams.trans hbound.symm) (hsign.trans hnegated) hpositive hstored hcontacts hcovered
    rwa [hfound] at hdivide

namespace PricedItems

/-- The price of one item is 5, the price of another one is not known.  Contacts 7 and 8 have one
item each, and contact 9 has none. -/
def installation : Installation where
  items := [⟨.int 1, .int 1, .text "bag"⟩, ⟨.int 2, .int 1, .text "box"⟩]
  contacts := [⟨.int 1, .int 7⟩, ⟨.int 2, .int 8⟩]
  links := []
  values table :=
    if table = "custom_field_value_int" then
      [⟨.int 1, .int 3, .int 5⟩, ⟨.int 2, .int 3, .null⟩]
    else []

def metadata : Metadata where
  valueTable := Schema.tables.valueTable
  field id := .ok ⟨id, 1, "Price", "price", "int"⟩
  object id := .ok (.new id "product" "Product")
  tables := Schema.tables

def options : CompileOptions := ⟨.mysql, Products.direct, .perFragment, "f", .allContacts⟩

/-- The rows, with the values of the filters below. -/
def database : Database :=
  (installation.database Schema.tables [.int 7, .int 8, .int 9]).withParams
    (.ofList [("f_custom_field_id", .int 3), ("f_value", .int 5)])

/-- The price is 5. -/
def isFive : RawFilter := ⟨.and, "cmf_3", "custom_object", "", "=", .ofInt64 5⟩

/-- The price is not 5. -/
def isNotFive : RawFilter := ⟨.and, "cmf_3", "custom_object", "", "neq", .ofInt64 5⟩

def everyone : Query :=
  .select [.tableColumn "l" "id"] (some (.table "leads" (some "l"))) [] none

theorem isNotFive_negates : isNotFive.Negates isFive := by
  refine ⟨rfl, .neq, .eq, ?_, ?_, .eq⟩ <;> decide

/-- The contact with the price of 5 goes to one segment, the contact with an unknown price and the
contact without an item to the other one. -/
theorem contacts_divided :
    isNotFive.Negates isFive ∧ ∃ params without within,
      Dispatcher.attach ⟨⟨metadata, options.depth, options.scope⟩, none⟩ "l" .allContacts "f"
        (.new everyone) isNotFive = (⟨everyone, params, [[without]]⟩, none) ∧
      Dispatcher.attach ⟨⟨metadata, options.depth, options.scope⟩, none⟩ "l" .allContacts "f"
        (.new everyone) isFive = (⟨everyone, params, [[within]]⟩, none) ∧
      (SegmentQuery.query ⟨everyone, params, [[within]]⟩).rows database [] = [[.int 7]] ∧
      (SegmentQuery.query ⟨everyone, params, [[without]]⟩).rows database [] =
        [[.int 8], [.int 9]] := by
  obtain ⟨_, hcomplement⟩ := compileFilter_complement isNotFive_negates metadata options
  obtain ⟨left, hleft⟩ : ∃ left, compileFilter isNotFive metadata options = .ok left := ⟨_, rfl⟩
  obtain ⟨right, hright⟩ : ∃ right, compileFilter isFive metadata options = .ok right := ⟨_, rfl⟩
  obtain ⟨_, hspliced⟩ := hcomplement left right hleft hright
  obtain ⟨params, without, within, hwithout, hwithin, hdivide⟩ := hspliced none "l" everyone
  have hrows : right.query.rows database [] = [[.int 7]] := by
    have hfound : (compileFilter isFive metadata options).toOption.map
        (fun compiled => compiled.query.rows database []) = some [[.int 7]] := by decide
    rw [hright] at hfound
    exact Option.some.inj hfound
  have hparams : params = database.params := by
    have hbound : (Dispatcher.attach ⟨⟨metadata, options.depth, options.scope⟩, none⟩ "l"
        .allContacts "f" (.new everyone) isFive).1.params = database.params := by decide
    rw [← hbound]
    exact (congrArg (fun answer => answer.1.params) hwithin).symm
  have hstored : installation.StoredIn metadata database :=
    (installation.storedIn_database rfl _).withParams _
  have hid : ∀ scope ∈ Query.joined database (some (.table "leads" (some "l"))) [] [],
      Query.meets database none scope = true → scope.column "l" "id" ≠ .null := by decide
  obtain ⟨hselected, hothers, _⟩ := (hdivide installation database hstored (by decide)
    (hparams ▸ .refl _)).rows [.tableColumn "l" "id"] (some (.table "leads" (some "l"))) [] none
      params hid
  refine ⟨isNotFive_negates, params, without, within, hwithout, hwithin, ?_, ?_⟩
  · apply hselected.trans
    rw [hrows]
    decide
  · apply hothers.trans
    rw [hrows]
    decide

end PricedItems

end SegmentPaths
