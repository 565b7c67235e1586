/-
Which fields can be used.  The check of a catalog goes through all fields, a report through
those of its object, and the compiler finds a field by its id, through its owner; all of
them take a field just if its type is known, and find its values in the same table.
-/
import SegmentPaths.CommandLine.Run
import SegmentPaths.Proofs.Acceptance
import SegmentPaths.Proofs.ReportColumns

namespace SegmentPaths

namespace Catalog

/-- A compiler for the fields of a catalog. -/
def compiler (catalog : Catalog) (depth : DepthLimit) (scope : AliasScope) : PathCompiler :=
  ⟨catalog.metadata, depth, scope⟩

/-- Whether a filter on a field compiles, whatever the seed, the depth and the scope. -/
def Compiles (catalog : Catalog) (filter : FieldFilter) : Prop :=
  ∀ seed depth scope, isSeed seed = true →
    ∃ union, (catalog.compiler depth scope).compileField filter seed = .ok union

end Catalog

/-- Whether a fragment starts at the rows of a table. -/
def Fragment.StartsIn (fragment : Fragment) (table : String) : Prop :=
  ∃ columns joins condition, fragment.query =
    .select columns (some (.table table (some fragment.sourceAlias))) joins condition

section Check

variable {catalog : Catalog}

/-- A field is listed by the check just if its type has no table, with the reason. -/
theorem Catalog.mem_unusable_iff (field : CustomField) (error : QueryError) :
    (field, error) ∈ catalog.unusable ↔
      field ∈ catalog.fields ∧ catalog.valueTable field.typeKey = .error error := by
  rw [unusable, List.mem_filterMap]
  constructor
  · rintro ⟨other, hother, hlisted⟩
    split at hlisted
    · cases hlisted
    · rename_i found hfound
      cases hlisted
      exact ⟨hother, hfound⟩
  · rintro ⟨hfield, herror⟩
    exact ⟨field, hfield, by rw [herror]⟩

theorem Catalog.checked_code_iff :
    catalog.checked.code = 0 ↔
      ∀ field ∈ catalog.fields, ∃ table, catalog.valueTable field.typeKey = .ok table := by
  have hcode : catalog.checked.code = 0 ↔ catalog.unusable = [] := by
    unfold checked
    split
    · rename_i hnone
      exact iff_of_true rfl hnone
    · rename_i hsome
      exact iff_of_false Nat.one_ne_zero hsome
  rw [hcode, List.eq_nil_iff_forall_not_mem]
  constructor
  · intro hnone field hfield
    cases htable : catalog.valueTable field.typeKey with
    | ok table => exact ⟨table, rfl⟩
    | error error => exact absurd ((mem_unusable_iff field error).mpr ⟨hfield, htable⟩) (hnone _)
  · rintro hall ⟨field, error⟩ hlisted
    obtain ⟨hfield, herror⟩ := (mem_unusable_iff field error).mp hlisted
    obtain ⟨table, htable⟩ := hall field hfield
    rw [htable] at herror
    cases herror

end Check

namespace Report

variable {tables : TableNames}

/-- What the join of each field has, the joins of fields have, in order. -/
theorem forall₂_of_fieldJoins {fields : List CustomField} {joins : List FieldJoin}
    (h : fieldJoins tables fields = .ok joins) {P : CustomField → FieldJoin → Prop}
    (hjoin : ∀ field ∈ fields, ∀ join, fieldJoin tables field = .ok join → P field join) :
    List.Forall₂ P fields joins := by
  induction fields generalizing joins with
  | nil =>
      cases h
      exact .nil
  | cons field rest ih =>
      obtain ⟨first, hfirst, hrest⟩ := bind_eq_ok h
      obtain ⟨others, hothers, hjoins⟩ := bind_eq_ok hrest
      cases hjoins
      obtain ⟨hfield, hrest⟩ := List.forall_mem_cons.mp hjoin
      exact .cons (hfield first hfirst) (ih hothers hrest)

theorem exists_fieldJoins_iff (fields : List CustomField) :
    (∃ joins, fieldJoins tables fields = .ok joins) ↔
      ∀ field ∈ fields, ∃ table, tables.valueTable field.typeKey = .ok table := by
  induction fields with
  | nil => simp [fieldJoins]
  | cons field rest ih =>
      rw [List.forall_mem_cons, ← ih]
      constructor
      · rintro ⟨joins, hjoins⟩
        obtain ⟨first, hfirst, hrest⟩ := bind_eq_ok hjoins
        obtain ⟨others, hothers, _⟩ := bind_eq_ok hrest
        obtain ⟨table, htable, _⟩ := exists_of_map_ok hfirst
        exact ⟨⟨table, htable⟩, others, hothers⟩
      · rintro ⟨⟨table, htable⟩, others, hothers⟩
        refine ⟨⟨fieldAlias field.id, table, field.id⟩ :: others, ?_⟩
        rw [fieldJoins, fieldJoin, htable, hothers]
        rfl

/-- An object has a report just if the types of all its fields have tables. -/
theorem exists_ofObject_iff (object : CustomObject) :
    (∃ report, ofObject object tables = .ok report) ↔
      ∀ field ∈ object.fields, ∃ table, tables.valueTable field.typeKey = .ok table := by
  rw [← exists_fieldJoins_iff]
  constructor
  · rintro ⟨report, hreport⟩
    obtain ⟨joins, hjoins, _⟩ := exists_of_map_ok hreport
    exact ⟨joins, hjoins⟩
  · rintro ⟨joins, hjoins⟩
    exact ⟨_, by rw [ofObject, hjoins]; rfl⟩

end Report

namespace PathCompiler

variable (compiler : PathCompiler) {seed : String} {field : CustomField}

/-- Without a condition every path from a source is compiled. -/
theorem exists_fragments_none (source : PathSource) (seed : String) (index : Nat)
    (paths : List RelationshipPath) :
    ∃ fragments, compiler.fragments source none seed index paths = .ok fragments := by
  induction paths generalizing index with
  | nil => exact ⟨[], rfl⟩
  | cons path rest ih =>
      obtain ⟨others, hothers⟩ := ih (index + 1)
      refine ⟨Fragment.build compiler.metadata.tables path source
        (compiler.scope.seedFor seed index) :: others, ?_⟩
      rw [fragments, hothers]
      rfl

/-- What is left to compile of a filter on a field that is found. -/
theorem compileField_eq (hseed : isSeed seed = true)
    (hfield : compiler.metadata.field field.id = .ok field)
    (condition : Option ValueCondition) :
    compiler.compileField ⟨field.id, condition⟩ seed =
      (compiler.metadata.valueTable field.typeKey >>= fun table =>
        fieldCondition condition field.typeKey >>= fun checked =>
          compiler.union (.fieldValue table field.id) checked seed) := by
  rw [compileField, checkSeed, if_pos hseed, hfield]
  rfl

/-- The fragments of a filter on a field, one for each path, start in the table of its values. -/
theorem startsIn_of_compileField {compiler : PathCompiler}
    (hfield : compiler.metadata.field field.id = .ok field)
    {table : String} (htable : compiler.metadata.valueTable field.typeKey = .ok table)
    {condition : Option ValueCondition} {union : FragmentUnion}
    (h : compiler.compileField ⟨field.id, condition⟩ seed = .ok union) :
    union.count = compiler.paths.length ∧
      ∀ fragment ∈ union.fragments, fragment.StartsIn table := by
  obtain ⟨_, _, hrest⟩ := bind_eq_ok h
  obtain ⟨found, hfound, hrest⟩ := bind_eq_ok hrest
  rw [hfield] at hfound
  cases hfound
  obtain ⟨other, hother, hrest⟩ := bind_eq_ok hrest
  rw [htable] at hother
  cases hother
  obtain ⟨checked, hchecked, hunion⟩ := bind_eq_ok hrest
  obtain ⟨fragments, hfragments, rfl⟩ := exists_of_map_ok hunion
  let target : Target := ⟨.fieldValue table field.id, checked⟩
  have hfits : target.Fits := (valid_of_fieldCondition hchecked _).fits
  have hall := Target.fragments_eq hfits hfragments
  refine ⟨by rw [FragmentUnion.count, hall, List.length_map, List.length_zipIdx], ?_⟩
  intro fragment hfragment
  rw [hall] at hfragment
  obtain ⟨⟨path, index⟩, _, rfl⟩ := List.mem_map.mp hfragment
  exact ⟨_, _, _, rfl⟩

end PathCompiler

/-- Every field type takes one integer as the value of each of its operators. -/
theorem ValueCondition.validate_zero {type : FieldType} {op : Operator} (h : op ∈ type.operators) :
    validate ⟨op, .single (.int 0)⟩ type = .ok () := by
  have hoperands : operands ⟨op, .single (.int 0)⟩ =
      .ok (if op.takesNoValue then [] else [.int 0]) := by
    rw [operands]
    split <;> rfl
  rw [validate_of_operands h hoperands]
  split
  · split <;> rfl
  · rfl

namespace Catalog

variable {objects : List CustomObject} {tables : TableNames} {catalog : Catalog}

/-- The compiler finds each field of a catalog under its id. -/
theorem metadata_field_of_mem_fields (h : new objects tables = .ok catalog) {field : CustomField}
    (hfield : field ∈ catalog.fields) : catalog.metadata.field field.id = .ok field := by
  obtain ⟨holder, hholder, hmem⟩ := List.mem_flatMap.mp hfield
  obtain ⟨object, hobject, rfl⟩ := List.mem_map.mp ((objects_perm h).mem_iff.mp hholder)
  obtain ⟨stored, hstored, rfl⟩ := List.mem_map.mp hmem
  have hfound : catalog.metadata.field stored.id = .ok { stored with objectId := object.id } :=
    Aim.metadata_field_of_mem h hobject hstored
  exact hfound

/-- Without a condition, a filter on a field compiles just if the type of the field has a
table; if it has none, the filter is refused with the reason. -/
theorem compileField_none (h : new objects tables = .ok catalog) {field : CustomField}
    (hfield : field ∈ catalog.fields) {seed : String} (hseed : isSeed seed = true)
    (depth : DepthLimit) (scope : AliasScope) :
    ((catalog.compiler depth scope).compileField ⟨field.id, none⟩ seed).map (fun _ => ()) =
      (catalog.valueTable field.typeKey).map fun _ => () := by
  rw [PathCompiler.compileField_eq (catalog.compiler depth scope) hseed
    (metadata_field_of_mem_fields h hfield)]
  change (catalog.valueTable field.typeKey >>= _).map _ = _
  cases htable : catalog.valueTable field.typeKey with
  | error error => rfl
  | ok table =>
      obtain ⟨fragments, hfragments⟩ :=
        (catalog.compiler depth scope).exists_fragments_none (.fieldValue table field.id) seed 0
          (catalog.compiler depth scope).paths
      change ((catalog.compiler depth scope).union _ none seed).map _ = _
      rw [PathCompiler.union, hfragments]
      rfl

/-- Under a condition, a filter on a field of a known type compiles just if the condition fits
the type. -/
theorem compileField_some (h : new objects tables = .ok catalog) {field : CustomField}
    (hfield : field ∈ catalog.fields) {type : FieldType} (htype : field.type? = some type)
    (condition : ValueCondition) {seed : String} (hseed : isSeed seed = true)
    (depth : DepthLimit) (scope : AliasScope) :
    ((catalog.compiler depth scope).compileField ⟨field.id, some condition⟩ seed).map
      (fun _ => ()) = condition.validate type := by
  rw [PathCompiler.compileField_eq (catalog.compiler depth scope) hseed
    (metadata_field_of_mem_fields h hfield)]
  have hkey : FieldType.ofKey? field.typeKey = some type := htype
  have hknown : TableNames.fieldType field.typeKey = .ok type := by
    rw [TableNames.fieldType, hkey]
  simp only [map_of_bind]
  refine ((catalog.compiler depth scope).map_fieldCondition condition field.typeKey field.id
    seed).trans ?_
  rw [hknown]
  rfl

/-- What the check of a catalog, the reports on its objects and the compiler of filters on its
fields have to do with each other. -/
structure AgreesOnFields (catalog : Catalog) : Prop where
  /-- The check succeeds just if there is a report on every object. -/
  reports : catalog.checked.code = 0 ↔
    ∀ object ∈ catalog.objects, ∃ report, Report.ofObject object catalog.tables = .ok report
  /-- It succeeds just if filters on all fields compile. -/
  compiled : catalog.checked.code = 0 ↔
    ∀ field ∈ catalog.fields, catalog.Compiles ⟨field.id, none⟩
  /-- A field that the check lists is refused by the others, for the same reason. -/
  refused : ∀ field ∈ catalog.fields, ∀ error,
    ((field, error) ∈ catalog.unusable ↔
      Report.fieldJoin catalog.tables field = .error error) ∧
    ((field, error) ∈ catalog.unusable ↔ ∀ seed depth scope, isSeed seed = true →
      (catalog.compiler depth scope).compileField ⟨field.id, none⟩ seed = .error error)
  /-- A report joins the table that the fragment of each path starts in, whatever the
  condition on the field. -/
  tables : ∀ object ∈ catalog.objects, ∀ report,
    Report.ofObject object catalog.tables = .ok report →
    List.Forall₂ (fun field join => join.field = field.id ∧
        ∀ condition seed depth scope union,
          (catalog.compiler depth scope).compileField ⟨field.id, condition⟩ seed = .ok union →
          union.count = (RelationshipPath.enumerate depth).length ∧
            ∀ fragment ∈ union.fragments, fragment.StartsIn join.table)
      object.fields report.joins
  /-- The operators of the type of a field are those that some value makes compile. -/
  operators : catalog.checked.code = 0 → ∀ field ∈ catalog.fields, ∃ type,
    field.type? = some type ∧ ∀ op, op ∈ type.operators ↔
      ∃ value, catalog.Compiles ⟨field.id, some ⟨op, value⟩⟩

theorem exists_ok_iff {E A B : Type} {left : Except E A} {right : Except E B}
    (h : left.map (fun _ => ()) = right.map fun _ => ()) :
    (∃ value, left = .ok value) ↔ ∃ value, right = .ok value := by
  cases left <;> cases right <;> simp [Except.map] at h ⊢

theorem error_iff {E A B : Type} {left : Except E A} {right : Except E B}
    (h : left.map (fun _ => ()) = right.map fun _ => ()) (error : E) :
    left = .error error ↔ right = .error error := by
  cases left <;> cases right <;> simp_all [Except.map]

theorem exists_type_of_valueTable {field : CustomField} {table : String}
    (h : tables.valueTable field.typeKey = .ok table) : ∃ type, field.type? = some type := by
  obtain ⟨type, htype, _⟩ := exists_of_map_ok h
  unfold TableNames.fieldType at htype
  split at htype
  · rename_i found hfound
    exact ⟨found, hfound⟩
  · cases htype

/-- The check, the reports and the compiler agree on the fields of every catalog, under every
prefix of its tables. -/
theorem agrees_on_fields (h : new objects tables = .ok catalog) : catalog.AgreesOnFields := by
  have hseed : isSeed "f" = true := by decide
  have hcompiles : ∀ field ∈ catalog.fields, (catalog.Compiles ⟨field.id, none⟩ ↔
      ∃ table, catalog.valueTable field.typeKey = .ok table) := by
    intro field hfield
    constructor
    · intro hall
      exact (exists_ok_iff (compileField_none h hfield hseed .standard .shared)).mp
        (hall "f" .standard .shared hseed)
    · intro htable seed depth scope hseed
      exact (exists_ok_iff (compileField_none h hfield hseed depth scope)).mpr htable
  refine ⟨?_, ?_, ?_, ?_, ?_⟩
  · rw [checked_code_iff]
    simp only [Report.exists_ofObject_iff]
    exact List.forall_mem_flatMap
  · rw [checked_code_iff]
    exact forall₂_congr fun field hfield => (hcompiles field hfield).symm
  · intro field hfield error
    rw [mem_unusable_iff]
    refine ⟨?_, ?_⟩
    · rw [and_iff_right hfield, Report.fieldJoin]
      change catalog.tables.valueTable field.typeKey = .error error ↔ _
      cases catalog.tables.valueTable field.typeKey <;> simp [Except.map]
    · constructor
      · rintro ⟨_, herror⟩ seed depth scope hseed
        exact (error_iff (compileField_none h hfield hseed depth scope) error).mpr herror
      · intro hall
        exact ⟨hfield, (error_iff (compileField_none h hfield hseed .standard .shared) error).mp
          (hall "f" .standard .shared hseed)⟩
  · intro object hobject report hreport
    obtain ⟨joins, hjoins, rfl⟩ := exists_of_map_ok hreport
    refine Report.forall₂_of_fieldJoins hjoins fun field hmem join hjoin => ?_
    obtain ⟨table, htable, rfl⟩ := exists_of_map_ok hjoin
    refine ⟨rfl, fun condition seed depth scope union hunion => ?_⟩
    exact PathCompiler.startsIn_of_compileField
      (metadata_field_of_mem_fields h (List.mem_flatMap_of_mem hobject hmem)) htable hunion
  · intro hcode field hfield
    obtain ⟨table, htable⟩ := checked_code_iff.mp hcode field hfield
    obtain ⟨type, htype⟩ := exists_type_of_valueTable htable
    refine ⟨type, htype, fun op => ⟨fun hop => ⟨.single (.int 0), ?_⟩, ?_⟩⟩
    · intro seed depth scope hseed
      have hcompile := compileField_some h hfield htype ⟨op, .single (.int 0)⟩ hseed depth scope
      rw [ValueCondition.validate_zero hop] at hcompile
      obtain ⟨union, hunion, _⟩ := exists_of_map_ok hcompile
      exact ⟨union, hunion⟩
    · rintro ⟨value, hall⟩
      obtain ⟨union, hunion⟩ := hall "f" .standard .shared hseed
      have hcompile := compileField_some h hfield htype ⟨op, value⟩ hseed .standard .shared
      by_contra hop
      rw [hunion, ValueCondition.validate_of_unavailable hop] at hcompile
      cases hcompile

end Catalog

namespace Products

/-- Products with a field of a type that no table is for. -/
def weighed : CustomObject where
  id := 2
  aliasName := "parcel"
  nameSingular := "Parcel"
  namePlural := "Parcels"
  kind := .master
  masterObject := none
  relationshipObject := none
  fields := [⟨22, 2, "Weight", "weight", "float"⟩]

def weighedCatalog : Catalog where
  index := ⟨.ofList [(1, product), (2, weighed)], .ofList [(3, 1), (4, 1), (11, 1), (22, 2)]⟩
  tables := ⟨"shop_"⟩

/-- All fields of products can be used, and the weight of parcels cannot. -/
theorem fields_agreed_on :
    (Catalog.new [product] ⟨""⟩ = .ok catalog ∧ catalog.AgreesOnFields ∧
      catalog.checked.code = 0) ∧
    Catalog.new [weighed, product] ⟨"shop_"⟩ = .ok weighedCatalog ∧
      weighedCatalog.AgreesOnFields ∧ weighedCatalog.checked.code = 1 :=
  have hweighed : Catalog.new [weighed, product] ⟨"shop_"⟩ = .ok weighedCatalog := rfl
  ⟨⟨new_product, Catalog.agrees_on_fields new_product, by decide⟩,
    hweighed, Catalog.agrees_on_fields hweighed, by decide⟩

end Products

end SegmentPaths
