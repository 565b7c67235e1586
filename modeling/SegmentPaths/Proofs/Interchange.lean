/-
Conditions that can stand in for each other.  The compiler looks at the positive form of an
operator and at the values in the form that the field stores.  Conditions that agree in these
are compiled to the same fragments, or are both refused, and so are the filters around them.
-/
import SegmentPaths.Proofs.FilterReaders
import SegmentPaths.Proofs.NoFaults
import SegmentPaths.Proofs.ValueIndependence

namespace SegmentPaths

section Answers

variable {E F A B C D : Type}

/-- What is left of two steps in a row without the errors. -/
theorem toOption_bind (answer : Except E A) (next : A → Except E B) :
    (answer >>= next).toOption = answer.toOption.bind fun value => (next value).toOption := by
  cases answer <;> rfl

theorem toOption_map (answer : Except E A) (f : A → B) :
    (answer.map f).toOption = answer.toOption.map f := by
  cases answer <;> rfl

/-- Whether two answers are errors, of whatever kind, or values that are related. -/
inductive Alike (R : A → B → Prop) : Except E A → Except F B → Prop
  | ok {value : A} {other : B} (h : R value other) : Alike R (.ok value) (.ok other)
  | error (error : E) (other : F) : Alike R (.error error) (.error other)

namespace Alike

variable {R : A → B → Prop} {S : C → D → Prop}

theorem refl {R : A → A → Prop} (h : ∀ value, R value value) (answer : Except E A) :
    Alike R answer answer := by
  rcases answer with error | value
  · exact .error error error
  · exact .ok (h value)

theorem map {left : Except E A} {right : Except F B} {f : A → C} {g : B → D}
    (h : Alike R left right) (hnext : ∀ value other, R value other → S (f value) (g other)) :
    Alike S (left.map f) (right.map g) := by
  rcases h with ⟨h⟩ | ⟨error, other⟩
  · exact .ok (hnext _ _ h)
  · exact .error error other

theorem bind {left : Except E A} {right : Except F B} {next : A → Except E C}
    {other : B → Except F D} (h : Alike R left right)
    (hnext : ∀ value found, R value found → Alike S (next value) (other found)) :
    Alike S (left >>= next) (right >>= other) := by
  rcases h with ⟨h⟩ | ⟨first, second⟩
  · exact hnext _ _ h
  · exact .error first second

theorem mapError {left : Except E A} {right : Except F B} (h : Alike R left right)
    {E' F' : Type} (f : E → E') (g : F → F') : Alike R (left.mapError f) (right.mapError g) := by
  rcases h with ⟨h⟩ | ⟨error, other⟩
  · exact .ok h
  · exact .error (f error) (g other)

/-- Lists are worked through with answers that are alike item by item. -/
theorem mapM {f : A → Except E C} {g : B → Except F D} {items : List A} {others : List B}
    (h : List.Forall₂ R items others)
    (hitem : ∀ item other, R item other → Alike S (f item) (g other)) :
    Alike (List.Forall₂ S) (items.mapM f) (others.mapM g) := by
  induction h with
  | nil => exact .ok .nil
  | cons hfirst _ ih =>
      rw [List.mapM_cons, List.mapM_cons]
      apply (hitem _ _ hfirst).bind
      intro value other hvalue
      apply ih.bind
      intro values others hvalues
      exact .ok (.cons hvalue hvalues)

/-- Answers that are the same without their errors are alike. -/
theorem of_toOption_eq {left right : Except E A} (h : left.toOption = right.toOption) :
    Alike Eq left right := by
  rcases left with error | value
  · rcases right with other | value
    · exact .error error other
    · cases h
  · rw [eq_ok_of_toOption h.symm]
    exact .ok rfl

end Alike

end Answers

/-- Whether two conditions have one positive form and, for each type, the same values or
none. -/
structure ValueCondition.Interchangeable (left right : ValueCondition) : Prop where
  positive : left.op.positive = right.op.positive
  values : ∀ type, (left.checkedValues type).toOption = (right.checkedValues type).toOption

namespace ValueCondition.Interchangeable

variable {left right : ValueCondition} (h : left.Interchangeable right)
include h

theorem validate (type : FieldType) :
    (left.validate type).toOption = (right.validate type).toOption := by
  rw [ValueCondition.validate, ValueCondition.validate, toOption_map, toOption_map, h.values]

theorem expression (column : Expr) (type : FieldType) (stem : String) (values : List ParamValue) :
    left.expression column type stem values = right.expression column type stem values := by
  rw [ValueCondition.expression, ValueCondition.expression, h.positive]

theorem toExpr (column : Expr) (type : FieldType) (stem : String) (params : Parameters) :
    (left.toExpr column type stem params).toOption =
      (right.toExpr column type stem params).toOption := by
  rw [ValueCondition.toExpr, ValueCondition.toExpr, toOption_bind, toOption_bind, h.values]
  simp only [h.expression]

end ValueCondition.Interchangeable

namespace Operator

variable (op : Operator)

theorem positive_positive : op.positive.positive = op.positive := by
  cases op <;> rfl

theorem takesNoValue_positive : op.positive.takesNoValue = op.takesNoValue := by
  cases op <;> rfl

theorem takesList_positive : op.positive.takesList = op.takesList := by
  cases op <;> rfl

/-- Every type that allows an operator allows its positive form, and the other way round. -/
theorem supports_positive (type : FieldType) : type.supports op.positive = type.supports op := by
  cases type <;> cases op <;> decide

end Operator

namespace ValueCondition

theorem operands_positive (op : Operator) (value : FilterValue) :
    (operands ⟨op.positive, value⟩).toOption = (operands ⟨op, value⟩).toOption := by
  simp only [operands, op.takesNoValue_positive, op.takesList_positive]
  by_cases hnone : op.takesNoValue = true
  · rw [if_pos hnone, if_pos hnone]
  · rw [if_neg hnone, if_neg hnone]
    rcases value with _ | single | values
    · rfl
    · rfl
    · dsimp only
      split
      · split <;> rfl
      · rfl

/-- A condition and its positive form can stand in for each other. -/
theorem interchangeable_positive (op : Operator) (value : FilterValue) :
    Interchangeable ⟨op, value⟩ ⟨op.positive, value⟩ := by
  constructor
  · exact op.positive_positive.symm
  · intro type
    simp only [checkedValues, op.supports_positive]
    split
    · rw [values, values, toOption_bind, toOption_bind, operands_positive]
    · rfl

end ValueCondition

namespace PathCompiler

variable {left right : ValueCondition} (h : left.Interchangeable right)
  (compiler : PathCompiler)
include h

theorem fragment_interchange (type : FieldType) (source : PathSource) (seed : String)
    (path : RelationshipPath) :
    (compiler.fragment source (some (left, type)) seed path).toOption =
      (compiler.fragment source (some (right, type)) seed path).toOption := by
  simp only [fragment, Fragment.applyCondition, toOption_bind, h.toExpr]

theorem fragments_interchange (type : FieldType) (source : PathSource) (seed : String)
    (index : Nat) (paths : List RelationshipPath) :
    (compiler.fragments source (some (left, type)) seed index paths).toOption =
      (compiler.fragments source (some (right, type)) seed index paths).toOption := by
  induction paths generalizing index with
  | nil => rfl
  | cons path rest ih =>
      simp only [fragments, toOption_bind, compiler.fragment_interchange h, ih]

theorem union_interchange (type : FieldType) (source : PathSource) (seed : String) :
    (compiler.union source (some (left, type)) seed).toOption =
      (compiler.union source (some (right, type)) seed).toOption := by
  rw [union, union, toOption_map, toOption_map, compiler.fragments_interchange h]

/-- A filter on a field is compiled alike under both conditions. -/
theorem compileField_interchange (field : Int64) (seed : String) :
    (compiler.compileField ⟨field, some left⟩ seed).toOption =
      (compiler.compileField ⟨field, some right⟩ seed).toOption := by
  simp only [compileField, fieldCondition, toOption_bind, h.validate, Option.bind_assoc]
  have hunion : ∀ (type : FieldType) (source : PathSource),
      (compiler.union source (some (left, type)) seed).toOption =
        (compiler.union source (some (right, type)) seed).toOption :=
    fun type source => compiler.union_interchange h type source seed
  simp only [pure, Except.pure, Except.toOption, Option.bind_some] at hunion ⊢
  simp only [hunion]

/-- A filter on items is compiled alike under both conditions. -/
theorem compileItems_interchange (object : Int64) (seed : String) :
    (compiler.compileItems ⟨object, some left⟩ seed).toOption =
      (compiler.compileItems ⟨object, some right⟩ seed).toOption := by
  simp only [compileItems, nameCondition, toOption_bind, h.validate, Option.bind_assoc]
  have hunion : ∀ source : PathSource,
      (compiler.union source (some (left, .text)) seed).toOption =
        (compiler.union source (some (right, .text)) seed).toOption :=
    fun source => compiler.union_interchange h .text source seed
  simp only [pure, Except.pure, Except.toOption, Option.bind_some] at hunion ⊢
  simp only [hunion]

end PathCompiler

/-- Whether two filters are on one field, or on the items of one object, under conditions that
can stand in for each other. -/
inductive SegmentFilter.Interchangeable : SegmentFilter → SegmentFilter → Prop
  | customField (first second : Glue) (field : Int64) {left right : ValueCondition}
      (h : left.Interchangeable right) :
      Interchangeable (.customField first ⟨field, some left⟩)
        (.customField second ⟨field, some right⟩)
  | customItem (first second : Glue) (object : Int64) {left right : ValueCondition}
      (h : left.Interchangeable right) :
      Interchangeable (.customItem first ⟨object, some left⟩)
        (.customItem second ⟨object, some right⟩)

namespace SegmentFilter.Interchangeable

variable {left right : SegmentFilter} (h : left.Interchangeable right)
include h

theorem compile (dispatcher : Dispatcher) (seed : String) :
    (dispatcher.compile left seed).toOption = (dispatcher.compile right seed).toOption := by
  cases h with
  | customField _ _ field h => exact dispatcher.compiler.compileField_interchange h field seed
  | customItem _ _ object h => exact dispatcher.compiler.compileItems_interchange h object seed

/-- Both filters are built to the same fragments, or neither is. -/
theorem build (dispatcher : Dispatcher) (seed : String) (restriction : ContactRestriction) :
    (dispatcher.build left seed restriction).toOption =
      (dispatcher.build right seed restriction).toOption := by
  rw [Dispatcher.build, Dispatcher.build, toOption_bind, toOption_bind, h.compile]

end SegmentFilter.Interchangeable

/-- Whether two stored filters are on the same field, or on the items of the same object, and
their conditions, as far as they can be read, can stand in for each other. -/
structure RawFilter.Interchangeable (left right : RawFilter) : Prop where
  object : left.object = right.object
  field : left.field = right.field
  condition : Alike ValueCondition.Interchangeable
    (SegmentFilter.readCondition left) (SegmentFilter.readCondition right)

/-- Custom filters are read as filters that can stand in for each other, or none is read. -/
theorem SegmentFilter.ofRaw_interchange {left right : RawFilter} (h : left.Interchangeable right)
    (hcustom : left.object = "custom_object") :
    Alike Interchangeable (ofRaw left) (ofRaw right) := by
  rw [Aim.ofRaw_custom hcustom, Aim.ofRaw_custom (h.object ▸ hcustom), h.field]
  apply (Alike.refl (fun _ => rfl) (Aim.read right.field)).bind
  rintro aim _ rfl
  apply h.condition.map
  intro condition other hsame
  rcases aim with id | object
  · exact .customField left.glue right.glue id hsame
  · exact .customItem left.glue right.glue object hsame

section Compiling

variable {left right raw : RawFilter} {metadata : Metadata} {options : CompileOptions}
  {compiled : CompiledFilter}

/-- A compiled filter is negated if the operator that is named in it is. -/
theorem negated_of_compileFilter (h : compileFilter raw metadata options = .ok compiled) :
    ∃ op, Operator.ofKey? raw.operator = some op ∧ compiled.negated = op.isNegative := by
  rcases compileFilter_cases raw metadata options with
    ⟨error, herror⟩ | ⟨built, hfilter, _, _, hcompiled⟩
  · rw [herror] at h
    cases h
  · rw [hcompiled] at h
    cases h
    obtain ⟨condition, _, _, hread, _, hnegative, _⟩ :=
      SegmentFilter.target_of_ofRaw hfilter built.hasTarget
    exact ⟨condition.op, (SegmentFilter.readCondition_cases hread).1, hnegative⟩

theorem compileFilter_of_native (hnative : raw.object ≠ "custom_object") :
    compileFilter raw metadata options =
      .error (.query (.invalidFilter (.platformFilter raw.field raw.object))) :=
  compileFilter_of_build_error (Aim.ofRaw_native hnative) rfl

/-- Stored filters that can stand in for each other are compiled to the same statement and the
same fragments, or both refused; only their signs may differ. -/
theorem compileFilter_interchange (h : left.Interchangeable right) (metadata : Metadata)
    (options : CompileOptions) :
    Alike (fun compiled other => other = { compiled with negated := other.negated })
      (compileFilter left metadata options) (compileFilter right metadata options) := by
  by_cases hcustom : left.object = "custom_object"
  · rw [compileFilter, compileFilter]
    apply ((SegmentFilter.ofRaw_interchange h hcustom).mapError _ _).bind
    intro filter other hsame
    have hbuild := Alike.of_toOption_eq (hsame.build ⟨⟨metadata, options.depth, options.scope⟩, none⟩
      options.seed options.restriction)
    apply (hbuild.mapError _ _).bind
    rintro union _ rfl
    -- The fragments are the same from here on, and so is all that is made of them.
    apply (Alike.refl (fun _ => rfl) (CompileError.ofFault union.query)).bind
    rintro query _ rfl
    apply (Alike.refl (fun _ => rfl) (CompileError.ofFault (query.render options.dialect))).bind
    rintro sql _ rfl
    apply (Alike.refl (fun _ => rfl) (CompileError.ofFault union.params)).bind
    rintro params _ rfl
    exact .ok rfl
  · rw [compileFilter_of_native hcustom, compileFilter_of_native (h.object ▸ hcustom)]
    exact .error _ _

/-- Stored filters that can stand in for each other and name one operator are compiled to the
same, or both refused. -/
theorem toOption_compileFilter_interchange (h : left.Interchangeable right)
    (hop : left.operator = right.operator) (metadata : Metadata) (options : CompileOptions) :
    (compileFilter left metadata options).toOption =
      (compileFilter right metadata options).toOption := by
  have hanswers := compileFilter_interchange h metadata options
  generalize hleft : compileFilter left metadata options = first at hanswers ⊢
  generalize hright : compileFilter right metadata options = second at hanswers ⊢
  rcases hanswers with @⟨compiled, other, hsame⟩ | _
  · obtain ⟨op, hkey, hnegated⟩ := negated_of_compileFilter hleft
    obtain ⟨second, hother, hnegatedOther⟩ := negated_of_compileFilter hright
    rw [← hop, hkey] at hother
    rw [hnegatedOther, ← Option.some.inj hother, ← hnegated] at hsame
    rw [hsame]
  · rfl

end Compiling

end SegmentPaths
