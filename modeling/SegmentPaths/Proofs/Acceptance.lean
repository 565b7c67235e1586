/-
Which stored filters are compiled.  A filter has to meet a number of demands, one after
the other, and the first one that it does not meet is what it is refused for.  Paths,
dialect, aliases and contact have no say in it.
-/
import SegmentPaths.Proofs.CatalogLookups
import SegmentPaths.Proofs.FilterReaders
import SegmentPaths.Proofs.NoFaults

namespace SegmentPaths

namespace ValueCondition

variable {condition : ValueCondition} {type : FieldType}

/-- Every operator has an expression for its positive form. -/
theorem exists_expression (condition : ValueCondition) (column : Expr) (type : FieldType)
    (stem : String) (values : List ParamValue) :
    ∃ result, condition.expression column type stem values = .ok result := by
  obtain ⟨op, value⟩ := condition
  cases op
  case empty | notEmpty =>
    simp only [expression, Operator.positive]
    cases type.valueKind <;> exact ⟨_, rfl⟩
  all_goals exact ⟨_, rfl⟩

/-- A condition that fits its type has an expression. -/
theorem exists_toExpr (h : condition.validate type = .ok ()) (column : Expr) (stem : String)
    (params : Parameters) : ∃ result, condition.toExpr column type stem params = .ok result := by
  obtain ⟨values, hvalues, _⟩ := exists_of_map_ok h
  obtain ⟨⟨expr, bindings⟩, hexpression⟩ := condition.exists_expression column type stem values
  refine ⟨(expr, bindAll params bindings), ?_⟩
  rw [toExpr, hvalues]
  change (condition.expression column type stem values >>= _) = _
  rw [hexpression]
  rfl

theorem supports_iff {op : Operator} : type.supports op = true ↔ op ∈ type.operators := by
  rw [FieldType.supports, List.contains_iff_mem]

theorem validate_of_unavailable (h : condition.op ∉ type.operators) :
    condition.validate type = .error (.invalidFilter (.notAvailable condition.op type.key)) := by
  rw [validate, checkedValues, if_neg (fun hsupports => h (supports_iff.mp hsupports))]
  rfl

theorem validate_of_operands_error (hop : condition.op ∈ type.operators) {error : QueryError}
    (h : condition.operands = .error error) : condition.validate type = .error error := by
  rw [validate, checkedValues, if_pos (supports_iff.mpr hop), values, h]
  rfl

/-- Values of the right shape only have to be integers, and only for fields of integers. -/
theorem validate_of_operands (hop : condition.op ∈ type.operators) {values : List ParamValue}
    (h : condition.operands = .ok values) :
    condition.validate type =
      if type = .int then (asInts values).map (fun _ => ()) else .ok () := by
  rw [validate, checkedValues, if_pos (supports_iff.mpr hop), ValueCondition.values, h]
  cases type <;> rfl

/-- A stored condition without a value compares with none. -/
theorem GivenBy.operands {raw : RawFilter} (h : condition.GivenBy raw)
    (hshape : condition.HasShape) : condition.operands = .ok condition.given := by
  rw [operands_of_hasShape hshape]
  split
  · rename_i hnone
    have hvalue := h.2
    rw [if_pos hnone] at hvalue
    rw [given, hvalue]
  · rfl

end ValueCondition

namespace PathCompiler

variable (compiler : PathCompiler) {condition : ValueCondition} {type : FieldType}

/-- A path from a source is compiled under every condition that fits its type. -/
theorem exists_fragment (h : condition.validate type = .ok ()) (source : PathSource)
    (seed : String) (path : RelationshipPath) :
    ∃ fragment, compiler.fragment source (some (condition, type)) seed path = .ok fragment := by
  let built := Fragment.build compiler.metadata.tables path source seed
  obtain ⟨⟨expr, params⟩, hexpr⟩ := ValueCondition.exists_toExpr h
    (.tableColumn built.sourceAlias built.comparedColumn)
    (seedName built.seed built.comparedColumn) built.params
  refine ⟨{ built with query := built.query.addFilter expr, params := params }, ?_⟩
  change built.applyCondition condition type = _
  rw [Fragment.applyCondition, hexpr]
  rfl

theorem exists_fragments (h : condition.validate type = .ok ()) (source : PathSource)
    (seed : String) (index : Nat) (paths : List RelationshipPath) :
    ∃ fragments, compiler.fragments source (some (condition, type)) seed index paths =
      .ok fragments := by
  induction paths generalizing index with
  | nil => exact ⟨[], rfl⟩
  | cons path rest ih =>
      obtain ⟨others, hothers⟩ := ih (index + 1)
      obtain ⟨first, hfirst⟩ :=
        compiler.exists_fragment h source (compiler.scope.seedFor seed index) path
      refine ⟨first :: others, ?_⟩
      rw [fragments, hfirst]
      change (fragments compiler source _ seed (index + 1) rest >>= _) = _
      rw [hothers]
      rfl

theorem exists_union (h : condition.validate type = .ok ()) (source : PathSource)
    (seed : String) :
    ∃ union, compiler.union source (some (condition, type)) seed = .ok union := by
  obtain ⟨fragments, hfragments⟩ :=
    compiler.exists_fragments h source seed 0 compiler.paths
  exact ⟨⟨fragments⟩, by rw [union, hfragments]; rfl⟩

/-- Behind its condition, a filter on a field is only checked for its type. -/
theorem map_fieldCondition {tables : TableNames} (condition : ValueCondition) (key : String)
    (field : Int64) (seed : String) :
    (tables.valueTable key >>= fun table => fieldCondition (some condition) key >>= fun checked =>
      (compiler.union (.fieldValue table field) checked seed).map fun _ => ()) =
      (TableNames.fieldType key >>= fun type => condition.validate type) := by
  rw [TableNames.valueTable, fieldCondition]
  cases TableNames.fieldType key with
  | error => rfl
  | ok type =>
      dsimp only [Except.map, bind, Except.bind]
      cases hvalid : condition.validate type with
      | error => rfl
      | ok =>
          obtain ⟨union, hunion⟩ := compiler.exists_union hvalid
            (.fieldValue (tables.values type.valueKind) field) seed
          dsimp only [pure, Except.pure]
          rw [hunion]

theorem map_nameCondition (condition : ValueCondition) (object : Int64) (seed : String) :
    (nameCondition (some condition) >>= fun checked =>
      (compiler.union (.objectItem object) checked seed).map fun _ => ()) =
      condition.validate .text := by
  rw [nameCondition]
  cases hvalid : condition.validate .text with
  | error => rfl
  | ok =>
      obtain ⟨union, hunion⟩ := compiler.exists_union hvalid (.objectItem object) seed
      change (compiler.union (.objectItem object) (some (condition, .text)) seed).map _ = _
      rw [hunion]
      rfl

end PathCompiler

namespace Aim

/-- The type of what is compared: the one of a field, and texts for the names of items. -/
def type (metadata : Metadata) : Aim → Except QueryError FieldType
  | .field id => metadata.field id >>= fun field => TableNames.fieldType field.typeKey
  | .items object => (metadata.object object).map fun _ => .text

end Aim

/-- What is checked of a stored filter before anything is built, in order. -/
def RawFilter.check (raw : RawFilter) (metadata : Metadata) (seed : String) :
    Except QueryError Unit :=
  if raw.object = "custom_object" then do
    let aim ← Aim.read raw.field
    let condition ← SegmentFilter.readCondition raw
    checkSeed seed
    let type ← aim.type metadata
    condition.validate type
  else .error (.invalidFilter (.platformFilter raw.field raw.object))

theorem map_of_bind {E A B C : Type} (answer : Except E A) (next : A → Except E B)
    (f : B → C) : (answer >>= next).map f = answer >>= fun value => (next value).map f := by
  cases answer <;> rfl

namespace Dispatcher

variable {dispatcher : Dispatcher}

/-- A filter compiles exactly if its checks pass, and fails with what they find wrong. -/
theorem compile_filter
    (htables : dispatcher.compiler.metadata.valueTable =
      dispatcher.compiler.metadata.tables.valueTable)
    (aim : Aim) (glue : Glue) (condition : ValueCondition) (seed : String) :
    (dispatcher.compile (aim.filter glue condition) seed).map (fun _ => ()) =
      (checkSeed seed >>= fun _ => aim.type dispatcher.compiler.metadata >>= fun type =>
        condition.validate type) := by
  cases aim with
  | field id =>
      simp only [compile, Aim.filter, PathCompiler.compileField, map_of_bind, htables,
        PathCompiler.map_fieldCondition, Aim.type, bind_assoc]
  | items object =>
      simp only [compile, Aim.filter, PathCompiler.compileItems, map_of_bind,
        PathCompiler.map_nameCondition, Aim.type]
      cases dispatcher.compiler.metadata.object object <;> rfl

/-- The checks of a stored filter stand for reading and compiling it. -/
theorem check_eq (dispatcher : Dispatcher)
    (htables : dispatcher.compiler.metadata.valueTable =
      dispatcher.compiler.metadata.tables.valueTable) (raw : RawFilter) (seed : String) :
    raw.check dispatcher.compiler.metadata seed =
      (SegmentFilter.ofRaw raw >>= fun filter =>
        (dispatcher.compile filter seed).map fun _ => ()) := by
  by_cases hcustom : raw.object = "custom_object"
  · rw [RawFilter.check, if_pos hcustom, Aim.ofRaw_custom hcustom]
    cases Aim.read raw.field with
    | error => rfl
    | ok aim =>
        cases SegmentFilter.readCondition raw with
        | error => rfl
        | ok condition => exact (compile_filter htables aim raw.glue condition seed).symm
  · rw [RawFilter.check, if_neg hcustom, Aim.ofRaw_native hcustom]
    rfl

theorem build_of_compile_error {filter : SegmentFilter} {seed : String} {error : QueryError}
    (h : dispatcher.compile filter seed = .error error) (restriction : ContactRestriction) :
    dispatcher.build filter seed restriction = .error error := by
  rw [build, h]
  rfl

theorem exists_build_of_compile {filter : SegmentFilter} {seed : String} {union : FragmentUnion}
    (h : dispatcher.compile filter seed = .ok union) (restriction : ContactRestriction) :
    ∃ built, dispatcher.build filter seed restriction = .ok built := by
  rw [build, h]
  cases restriction <;> exact ⟨_, rfl⟩

end Dispatcher

section Compiling

variable {metadata : Metadata} {raw : RawFilter} {options : CompileOptions}

/-- A stored filter is compiled if its checks pass. -/
theorem compileFilter_of_check (htables : metadata.valueTable = metadata.tables.valueTable)
    (h : raw.check metadata options.seed = .ok ()) :
    ∃ compiled, compileFilter raw metadata options = .ok compiled := by
  rw [Dispatcher.check_eq ⟨⟨metadata, options.depth, options.scope⟩, none⟩ htables] at h
  obtain ⟨filter, hfilter, hrest⟩ := bind_eq_ok h
  obtain ⟨union, hunion, _⟩ := exists_of_map_ok hrest
  obtain ⟨built, hbuild⟩ := Dispatcher.exists_build_of_compile hunion options.restriction
  obtain ⟨_, _, _, _, hcompiled⟩ := compileFilter_of_build hfilter hbuild
  exact ⟨_, hcompiled⟩

/-- A stored filter is refused with what its checks find wrong. -/
theorem compileFilter_of_check_error (htables : metadata.valueTable = metadata.tables.valueTable)
    {error : QueryError} (h : raw.check metadata options.seed = .error error) :
    compileFilter raw metadata options = .error (.query error) := by
  rw [Dispatcher.check_eq ⟨⟨metadata, options.depth, options.scope⟩, none⟩ htables] at h
  cases hfilter : SegmentFilter.ofRaw raw with
  | error other =>
      rw [hfilter] at h
      cases h
      exact compileFilter_of_ofRaw_error hfilter
  | ok filter =>
      rw [hfilter] at h
      change (Dispatcher.compile _ filter options.seed).map _ = _ at h
      cases hcompile : Dispatcher.compile ⟨⟨metadata, options.depth, options.scope⟩, none⟩ filter
          options.seed with
      | error other =>
          rw [hcompile] at h
          cases h
          exact compileFilter_of_build_error hfilter
            (Dispatcher.build_of_compile_error hcompile options.restriction)
      | ok union =>
          rw [hcompile] at h
          cases h

end Compiling

namespace FieldType

theorem ofKey?_eq_some_iff (key : String) (type : FieldType) :
    ofKey? key = some type ↔ key = type.key := by
  constructor
  · intro h
    have hkey := List.find?_some h
    exact (beq_iff_eq.mp hkey).symm
  · rintro rfl
    exact ofKey?_key type

end FieldType

namespace Aim

/-- Whether a field or object is among objects. -/
def KnownTo (objects : List CustomObject) : Aim → Prop
  | .field id => ∃ object ∈ objects, ∃ field ∈ object.fields, field.id = id
  | .items id => ∃ object ∈ objects, object.id = id

/-- Whether what an aim compares with has a type: the type of a field, and texts for the names
of items. -/
def HasType (objects : List CustomObject) : Aim → FieldType → Prop
  | .field id, type =>
    ∃ object ∈ objects, ∃ field ∈ object.fields, field.id = id ∧ field.typeKey = type.key
  | .items _, type => type = .text

/-- The error for a field or object that is not known. -/
def unknown : Aim → QueryError
  | .field id => .unknownField id
  | .items object => .unknownObject object

section Types

variable {objects : List CustomObject} {tables : TableNames} {catalog : Catalog}
  (hcatalog : Catalog.new objects tables = .ok catalog)
include hcatalog

theorem metadata_field_of_mem {object : CustomObject} {field : CustomField}
    (hobject : object ∈ objects) (hfield : field ∈ object.fields) :
    catalog.metadata.field field.id = .ok { field with objectId := object.id } := by
  have hfound := (Catalog.field?_eq_some_iff hcatalog field.id _).mpr
    ⟨object, hobject, field, hfield, rfl, rfl⟩
  rw [Catalog.metadata]
  simp only [hfound]

theorem type_of_hasType {aim : Aim} {type : FieldType} (hknown : aim.KnownTo objects)
    (h : aim.HasType objects type) : aim.type catalog.metadata = .ok type := by
  cases aim with
  | field id =>
      obtain ⟨object, hobject, field, hfield, rfl, hkey⟩ := h
      rw [Aim.type, metadata_field_of_mem hcatalog hobject hfield]
      change TableNames.fieldType field.typeKey = _
      rw [TableNames.fieldType, hkey, FieldType.ofKey?_key]
  | items id =>
      obtain rfl : type = .text := h
      obtain ⟨object, hobject, rfl⟩ := hknown
      have hfound := (Catalog.object?_eq_some_iff hcatalog object.id _).mpr
        ⟨object, hobject, rfl, rfl⟩
      rw [Aim.type, Catalog.metadata]
      simp only [hfound]
      rfl

theorem type_of_unknown {aim : Aim} (h : ¬aim.KnownTo objects) :
    aim.type catalog.metadata = .error aim.unknown := by
  cases aim with
  | field id =>
      have hnone : catalog.field? id = none := by
        rw [Option.eq_none_iff_forall_ne_some]
        intro found hfound
        obtain ⟨object, hobject, field, hfield, hid, _⟩ :=
          (Catalog.field?_eq_some_iff hcatalog id found).mp hfound
        exact h ⟨object, hobject, field, hfield, hid⟩
      rw [Aim.type, Catalog.metadata]
      simp only [hnone]
      rfl
  | items id =>
      have hnone : catalog.object? id = none := by
        rw [Option.eq_none_iff_forall_ne_some]
        intro found hfound
        obtain ⟨object, hobject, hid, _⟩ :=
          (Catalog.object?_eq_some_iff hcatalog id found).mp hfound
        exact h ⟨object, hobject, hid⟩
      rw [Aim.type, Catalog.metadata]
      simp only [hnone]
      rfl

/-- Only fields can have types that are not known. -/
theorem type_of_unregistered {aim : Aim} (hknown : aim.KnownTo objects)
    (h : ∀ type, ¬aim.HasType objects type) :
    ∃ id, aim = .field id ∧ ∃ object ∈ objects, ∃ field ∈ object.fields, field.id = id ∧
      aim.type catalog.metadata = .error (.unsupportedFieldType field.typeKey) := by
  cases aim with
  | field id =>
      obtain ⟨object, hobject, field, hfield, rfl⟩ := hknown
      refine ⟨field.id, rfl, object, hobject, field, hfield, rfl, ?_⟩
      have hkey : FieldType.ofKey? field.typeKey = none := by
        rw [Option.eq_none_iff_forall_ne_some]
        intro type htype
        exact h type ⟨object, hobject, field, hfield, rfl,
          (FieldType.ofKey?_eq_some_iff _ _).mp htype⟩
      rw [Aim.type, metadata_field_of_mem hcatalog hobject hfield]
      change TableNames.fieldType field.typeKey = _
      rw [TableNames.fieldType, hkey]
  | items id => exact absurd rfl (h .text)

end Types

end Aim

/-- What a stored filter has to meet to be compiled. -/
inductive Demand
  | custom
  | field
  | operator
  | value
  | seed
  | known
  | registered
  | available
  | shape
  | integers
deriving DecidableEq

namespace Demand

/-- The demands in the order in which they are made. -/
def all : List Demand :=
  [.custom, .field, .operator, .value, .seed, .known, .registered, .available, .shape, .integers]

/-- The demands that are made before one. -/
def earlier (demand : Demand) : List Demand := all.takeWhile fun other => other ≠ demand

theorem mem_all (demand : Demand) : demand ∈ all := by
  cases demand <;> decide

/-- Whether a stored filter meets a demand, under a seed and for a catalog of objects. -/
def Met (objects : List CustomObject) (seed : String) (raw : RawFilter) : Demand → Prop
  | .custom => raw.object = "custom_object"
  | .field => ∃ aim : Aim, aim.NamedBy raw.field
  | .operator => ∃ op : Operator, op.NamedBy raw.operator
  | .value => ∃ condition : ValueCondition, condition.GivenBy raw
  | .seed => IsIdentifier seed
  | .known => ∃ aim : Aim, aim.NamedBy raw.field ∧ aim.KnownTo objects
  | .registered => ∃ (aim : Aim) (type : FieldType), aim.NamedBy raw.field ∧
      aim.HasType objects type
  | .available => ∃ (aim : Aim) (type : FieldType) (condition : ValueCondition),
      aim.NamedBy raw.field ∧ aim.HasType objects type ∧ condition.GivenBy raw ∧
        condition.op ∈ type.operators
  | .shape => ∃ condition : ValueCondition, condition.GivenBy raw ∧ condition.HasShape
  | .integers => ∃ (aim : Aim) (type : FieldType) (condition : ValueCondition),
      aim.NamedBy raw.field ∧ aim.HasType objects type ∧ condition.GivenBy raw ∧
        (type = .int → ∀ value ∈ condition.given, value.IsInteger)

/-- The errors that stand for a demand that is not met. -/
def Refuses (objects : List CustomObject) (seed : String) (raw : RawFilter) :
    Demand → QueryError → Prop
  | .custom, error => error = .invalidFilter (.platformFilter raw.field raw.object)
  | .field, error => (Aim.Marked raw.field ∧ error = .invalidFilter (.noId raw.field)) ∨
      ¬Aim.Marked raw.field ∧ error = .invalidFilter (.notCustom raw.field)
  | .operator, error => error = .invalidFilter (.unknownOperator raw.operator)
  | .value, error => ∃ problem, FilterValue.Unreadable raw.filter problem ∧
      error = .invalidFilter problem
  | .seed, error => error = .invalidFilter (.seedNotName seed)
  | .known, error => ∃ aim : Aim, aim.NamedBy raw.field ∧ error = aim.unknown
  | .registered, error => ∃ id, (Aim.field id).NamedBy raw.field ∧ ∃ object ∈ objects,
      ∃ field ∈ object.fields, field.id = id ∧ error = .unsupportedFieldType field.typeKey
  | .available, error => ∃ (aim : Aim) (type : FieldType) (condition : ValueCondition),
      aim.NamedBy raw.field ∧ aim.HasType objects type ∧ condition.GivenBy raw ∧
        error = .invalidFilter (.notAvailable condition.op type.key)
  | .shape, error => ∃ (condition : ValueCondition) (problem : FilterProblem),
      condition.GivenBy raw ∧ condition.WrongShape problem ∧ error = .invalidFilter problem
  | .integers, error => ∃ (condition : ValueCondition) (front back : List ParamValue)
      (text : String), condition.GivenBy raw ∧ condition.given = front ++ .text text :: back ∧
        (∀ value ∈ front, value.IsInteger) ∧ ¬(ParamValue.text text).IsInteger ∧
        error = .invalidFilter (.notInteger text)

/-- The first demand that is not met, if not all of them are. -/
theorem exists_first_unmet {P : Demand → Prop} (h : ¬∀ demand, P demand) :
    ∃ demand, (∀ other ∈ demand.earlier, P other) ∧ ¬P demand := by
  have hall : ¬∀ demand ∈ all, P demand := fun hmet => h fun demand => hmet demand demand.mem_all
  obtain ⟨front, demand, back, hsplit, hfront, hdemand⟩ := exists_first_not hall
  refine ⟨demand, ?_, hdemand⟩
  have hne : ∀ other ∈ front, decide (other ≠ demand) = true := by
    intro other hother
    apply decide_eq_true
    rintro rfl
    exact hdemand (hfront other hother)
  rw [earlier, hsplit, List.takeWhile_append_of_pos hne, List.takeWhile_cons_of_neg (by simp),
    List.append_nil]
  exact hfront

section Checks

variable {objects : List CustomObject} {tables : TableNames} {catalog : Catalog}
  {metadata : Metadata} {seed : String} {raw : RawFilter} {aim : Aim}
  {condition : ValueCondition} {type : FieldType}

/-- What is left to check of a filter whose aim is read. -/
theorem check_of_aim (hcustom : raw.object = "custom_object") (haim : aim.NamedBy raw.field) :
    raw.check metadata seed =
      (SegmentFilter.readCondition raw >>= fun condition => checkSeed seed >>= fun _ =>
        aim.type metadata >>= fun type => condition.validate type) := by
  rw [RawFilter.check, if_pos hcustom, (Aim.read_eq_ok_iff _ _).mpr haim]
  rfl

theorem check_of_condition (hcustom : raw.object = "custom_object")
    (haim : aim.NamedBy raw.field) (hcondition : condition.GivenBy raw) :
    raw.check metadata seed = (checkSeed seed >>= fun _ =>
      aim.type metadata >>= fun type => condition.validate type) := by
  rw [check_of_aim hcustom haim, (ValueCondition.readCondition_eq_ok_iff _ _).mpr hcondition]
  rfl

theorem check_of_seed (hcustom : raw.object = "custom_object") (haim : aim.NamedBy raw.field)
    (hcondition : condition.GivenBy raw) (hseed : IsIdentifier seed) :
    raw.check metadata seed =
      (aim.type metadata >>= fun type => condition.validate type) := by
  rw [check_of_condition hcustom haim hcondition, checkSeed, if_pos ((isSeed_iff seed).mpr hseed)]
  rfl

theorem check_of_type (hcustom : raw.object = "custom_object") (haim : aim.NamedBy raw.field)
    (hcondition : condition.GivenBy raw) (hseed : IsIdentifier seed)
    (htype : aim.type metadata = .ok type) :
    raw.check metadata seed = condition.validate type := by
  rw [check_of_seed hcustom haim hcondition hseed, htype]
  rfl

theorem aim_unique {other : Aim} (haim : aim.NamedBy raw.field)
    (hother : other.NamedBy raw.field) : other = aim := by
  rw [← Aim.read_eq_ok_iff] at haim hother
  rw [haim] at hother
  cases hother
  rfl

theorem condition_unique {other : ValueCondition} (hcondition : condition.GivenBy raw)
    (hother : other.GivenBy raw) : other = condition := by
  rw [← ValueCondition.readCondition_eq_ok_iff] at hcondition hother
  rw [hcondition] at hother
  cases hother
  rfl

theorem type_unique (hcatalog : Catalog.new objects tables = .ok catalog) {other : FieldType}
    (hknown : aim.KnownTo objects) (htype : aim.HasType objects type)
    (hother : aim.HasType objects other) : other = type := by
  have hfirst := Aim.type_of_hasType hcatalog hknown htype
  rw [Aim.type_of_hasType hcatalog hknown hother] at hfirst
  cases hfirst
  rfl

/-- What a stored filter is made of, as far as the catalog and the seed are concerned: the
demands on its operator and on its values are about these parts. -/
structure Parts (objects : List CustomObject) (raw : RawFilter) (aim : Aim) (type : FieldType)
    (condition : ValueCondition) : Prop where
  named : aim.NamedBy raw.field
  known : aim.KnownTo objects
  typed : aim.HasType objects type
  given : condition.GivenBy raw

theorem exists_parts (hknown : Met objects seed raw .known)
    (hregistered : Met objects seed raw .registered) (hvalue : Met objects seed raw .value) :
    ∃ aim type condition, Parts objects raw aim type condition := by
  obtain ⟨aim, haim, hknown⟩ := hknown
  obtain ⟨other, type, hother, htype⟩ := hregistered
  obtain ⟨condition, hcondition⟩ := hvalue
  rw [aim_unique haim hother] at htype
  exact ⟨aim, type, condition, haim, hknown, htype, hcondition⟩

section Parts

variable (hcatalog : Catalog.new objects tables = .ok catalog)
  (hparts : Parts objects raw aim type condition)

include hparts

theorem met_shape_iff : Met objects seed raw .shape ↔ condition.HasShape := by
  constructor
  · rintro ⟨other, hother, hshape⟩
    rwa [condition_unique hparts.given hother] at hshape
  · intro hshape
    exact ⟨condition, hparts.given, hshape⟩

include hcatalog

theorem met_available_iff :
    Met objects seed raw .available ↔ condition.op ∈ type.operators := by
  constructor
  · rintro ⟨other, otherType, otherCondition, hother, hotherType, hotherCondition, hop⟩
    rw [aim_unique hparts.named hother] at hotherType
    rwa [type_unique hcatalog hparts.known hparts.typed hotherType,
      condition_unique hparts.given hotherCondition] at hop
  · intro hop
    exact ⟨aim, type, condition, hparts.named, hparts.typed, hparts.given, hop⟩

theorem met_integers_iff :
    Met objects seed raw .integers ↔
      (type = .int → ∀ value ∈ condition.given, value.IsInteger) := by
  constructor
  · rintro ⟨other, otherType, otherCondition, hother, hotherType, hotherCondition, hints⟩
    rw [aim_unique hparts.named hother] at hotherType
    rwa [type_unique hcatalog hparts.known hparts.typed hotherType,
      condition_unique hparts.given hotherCondition] at hints
  · intro hints
    exact ⟨aim, type, condition, hparts.named, hparts.typed, hparts.given, hints⟩

theorem check_of_parts (hcustom : raw.object = "custom_object") (hseed : IsIdentifier seed) :
    raw.check catalog.metadata seed = condition.validate type :=
  check_of_type hcustom hparts.named hparts.given hseed
    (Aim.type_of_hasType hcatalog hparts.known hparts.typed)

end Parts

/-- The checks pass if all demands are met. -/
theorem check_of_met (hcatalog : Catalog.new objects tables = .ok catalog)
    (h : ∀ demand, Met objects seed raw demand) : raw.check catalog.metadata seed = .ok () := by
  obtain ⟨aim, type, condition, hparts⟩ := exists_parts (h .known) (h .registered) (h .value)
  have hop := (met_available_iff hcatalog hparts).mp (h .available)
  have hshape := (met_shape_iff hparts).mp (h .shape)
  have hints := (met_integers_iff hcatalog hparts).mp (h .integers)
  rw [check_of_parts hcatalog hparts (h .custom) (h .seed),
    ValueCondition.validate_of_operands hop (hparts.given.operands hshape)]
  split
  · rename_i hint
    rcases asInts_cases condition.given with ⟨_, found, hfound⟩ | ⟨_, _, _, hgiven, _, hnot, _⟩
    · rw [hfound]
      rfl
    · exact absurd (hints hint _ (by simp [hgiven])) hnot
  · rfl

/-- The checks find the first demand that is not met. -/
theorem check_of_unmet (hcatalog : Catalog.new objects tables = .ok catalog) {demand : Demand}
    (hearlier : ∀ other ∈ demand.earlier, Met objects seed raw other)
    (hunmet : ¬Met objects seed raw demand) :
    ∃ error, Refuses objects seed raw demand error ∧
      raw.check catalog.metadata seed = .error error := by
  cases demand with
  | custom => exact ⟨_, rfl, if_neg hunmet⟩
  | field =>
      have hcustom : raw.object = "custom_object" := hearlier .custom (by decide)
      rw [RawFilter.check, if_pos hcustom]
      rcases Aim.read_of_not (not_exists.mp hunmet) with ⟨hmarked, hread⟩ | ⟨hmarked, hread⟩
      · exact ⟨_, Or.inl ⟨hmarked, rfl⟩, by rw [hread]; rfl⟩
      · exact ⟨_, Or.inr ⟨hmarked, rfl⟩, by rw [hread]; rfl⟩
  | operator =>
      obtain ⟨aim, haim⟩ := hearlier .field (by decide)
      refine ⟨_, rfl, ?_⟩
      rw [check_of_aim (hearlier .custom (by decide)) haim,
        ValueCondition.readCondition_of_unnamed (not_exists.mp hunmet)]
      rfl
  | value =>
      obtain ⟨aim, haim⟩ := hearlier .field (by decide)
      obtain ⟨op, hop⟩ := hearlier .operator (by decide)
      obtain ⟨problem, hproblem, hread⟩ :=
        ValueCondition.readCondition_of_not hop (not_exists.mp hunmet)
      refine ⟨_, ⟨problem, hproblem, rfl⟩, ?_⟩
      rw [check_of_aim (hearlier .custom (by decide)) haim, hread]
      rfl
  | seed =>
      obtain ⟨aim, haim⟩ := hearlier .field (by decide)
      obtain ⟨condition, hcondition⟩ := hearlier .value (by decide)
      refine ⟨_, rfl, ?_⟩
      have hseed : ¬isSeed seed = true := fun h => hunmet ((isSeed_iff seed).mp h)
      rw [check_of_condition (hearlier .custom (by decide)) haim hcondition, checkSeed,
        if_neg hseed]
      rfl
  | known =>
      obtain ⟨aim, haim⟩ := hearlier .field (by decide)
      obtain ⟨condition, hcondition⟩ := hearlier .value (by decide)
      have hunknown : ¬aim.KnownTo objects := fun hknown => hunmet ⟨aim, haim, hknown⟩
      refine ⟨_, ⟨aim, haim, rfl⟩, ?_⟩
      rw [check_of_seed (hearlier .custom (by decide)) haim hcondition
        (hearlier .seed (by decide)), Aim.type_of_unknown hcatalog hunknown]
      rfl
  | registered =>
      obtain ⟨aim, haim, hknown⟩ := hearlier .known (by decide)
      obtain ⟨condition, hcondition⟩ := hearlier .value (by decide)
      obtain ⟨id, rfl, object, hobject, field, hfield, hid, htype⟩ :=
        Aim.type_of_unregistered hcatalog hknown fun type htype => hunmet ⟨aim, type, haim, htype⟩
      refine ⟨_, ⟨id, haim, object, hobject, field, hfield, hid, rfl⟩, ?_⟩
      rw [check_of_seed (hearlier .custom (by decide)) haim hcondition
        (hearlier .seed (by decide)), htype]
      rfl
  | available =>
      obtain ⟨aim, type, condition, hparts⟩ := exists_parts (hearlier .known (by decide))
        (hearlier .registered (by decide)) (hearlier .value (by decide))
      rw [met_available_iff hcatalog hparts] at hunmet
      refine ⟨_, ⟨aim, type, condition, hparts.named, hparts.typed, hparts.given, rfl⟩, ?_⟩
      rw [check_of_parts hcatalog hparts (hearlier .custom (by decide))
        (hearlier .seed (by decide)), ValueCondition.validate_of_unavailable hunmet]
  | shape =>
      obtain ⟨aim, type, condition, hparts⟩ := exists_parts (hearlier .known (by decide))
        (hearlier .registered (by decide)) (hearlier .value (by decide))
      have hop := (met_available_iff hcatalog hparts).mp (hearlier .available (by decide))
      rw [met_shape_iff hparts] at hunmet
      obtain ⟨problem, hproblem, herror⟩ := ValueCondition.operands_of_not hunmet
      refine ⟨_, ⟨condition, problem, hparts.given, hproblem, rfl⟩, ?_⟩
      rw [check_of_parts hcatalog hparts (hearlier .custom (by decide))
        (hearlier .seed (by decide)), ValueCondition.validate_of_operands_error hop herror]
  | integers =>
      obtain ⟨aim, type, condition, hparts⟩ := exists_parts (hearlier .known (by decide))
        (hearlier .registered (by decide)) (hearlier .value (by decide))
      have hop := (met_available_iff hcatalog hparts).mp (hearlier .available (by decide))
      have hshape := (met_shape_iff hparts).mp (hearlier .shape (by decide))
      rw [met_integers_iff hcatalog hparts, Classical.not_imp] at hunmet
      obtain ⟨hint, hnot⟩ := hunmet
      obtain ⟨front, text, back, hgiven, hfront, htext, herror⟩ :=
        (asInts_cases condition.given).resolve_left fun h => hnot h.1
      refine ⟨_, ⟨condition, front, back, text, hparts.given, hgiven, hfront, htext, rfl⟩, ?_⟩
      rw [check_of_parts hcatalog hparts (hearlier .custom (by decide))
        (hearlier .seed (by decide)),
        ValueCondition.validate_of_operands hop (hparts.given.operands hshape), if_pos hint,
        herror]
      rfl

end Checks

end Demand

/-- Which stored filters are compiled, and what the others are refused with.  Under a catalog
of objects, a stored filter is compiled exactly if it meets all demands: it is a custom one,
its field is the mark of fields or items with an id behind it, its operator is known, its
value can be read, the seed is an identifier, the catalog has the field or object, the type
of the field is known, the operator is one of the type, the value has the shape that the
operator takes, and values for integers are integers.  A filter that does not meet them all
fails with the error of the first one that it does not meet.  Depth, dialect, aliases and
contact have no say in it. -/
theorem compileFilter_accepts_iff {objects : List CustomObject} {tables : TableNames}
    {catalog : Catalog} (hcatalog : Catalog.new objects tables = .ok catalog) (raw : RawFilter)
    (options : CompileOptions) :
    ((∃ compiled, compileFilter raw catalog.metadata options = .ok compiled) ↔
      ∀ demand, Demand.Met objects options.seed raw demand) ∧
    ∀ demand : Demand, (∀ other ∈ demand.earlier, other.Met objects options.seed raw) →
      ¬demand.Met objects options.seed raw → ∃ error,
        demand.Refuses objects options.seed raw error ∧
          compileFilter raw catalog.metadata options = .error (.query error) := by
  have hunmet : ∀ demand : Demand, (∀ other ∈ demand.earlier,
      other.Met objects options.seed raw) → ¬demand.Met objects options.seed raw → ∃ error,
        demand.Refuses objects options.seed raw error ∧
          compileFilter raw catalog.metadata options = .error (.query error) := by
    intro demand hearlier hdemand
    obtain ⟨error, hrefuses, hcheck⟩ := Demand.check_of_unmet hcatalog hearlier hdemand
    exact ⟨error, hrefuses, compileFilter_of_check_error rfl hcheck⟩
  refine ⟨⟨fun hcompiled => ?_, fun hall => ?_⟩, hunmet⟩
  · by_contra hsome
    obtain ⟨demand, hearlier, hdemand⟩ := Demand.exists_first_unmet hsome
    obtain ⟨error, _, herror⟩ := hunmet demand hearlier hdemand
    obtain ⟨compiled, hcompiled⟩ := hcompiled
    rw [herror] at hcompiled
    cases hcompiled
  · exact compileFilter_of_check rfl (Demand.check_of_met hcatalog hall)

namespace Products

/-- The price is 5 or 6, one of them as a text. -/
def priceAmong : RawFilter :=
  ⟨.and, "cmf_+03", "custom_object", "", "in", .array [.ofInt64 5, .text " 6 "]⟩

/-- Options for direct paths. -/
def directOptions : CompileOptions := ⟨.mysql, direct, .perFragment, "f", .allContacts⟩

/-- A filter that is compiled meets all demands. -/
theorem price_meets_demands :
    Catalog.new [product] ⟨""⟩ = .ok catalog ∧
      (∃ compiled, compileFilter priceAmong catalog.metadata directOptions = .ok compiled) ∧
      ∀ demand, Demand.Met [product] "f" priceAmong demand := by
  have hcompiled :
      ∃ compiled, compileFilter priceAmong catalog.metadata directOptions = .ok compiled :=
    ⟨_, rfl⟩
  obtain ⟨haccepts, _⟩ := compileFilter_accepts_iff new_product priceAmong directOptions
  exact ⟨new_product, hcompiled, haccepts.mp hcompiled⟩

end Products

end SegmentPaths
