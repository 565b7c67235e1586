/-
Values that are spelled in different ways.  Segments write an integer as a number or as the text
of its digits, a truth value as such or as one or zero, and a list of one value as that value.
The compiler makes no difference between them.
-/
import Mathlib.Logic.Relation
import SegmentPaths.Proofs.Interchange

namespace SegmentPaths

/-- A scalar and another spelling of it: an integer by the text of its digits, and a truth value
by one or zero. -/
inductive Json.Respelled : Json → Json → Prop
  | digits (n : Int64) : Respelled (.ofInt64 n) (.text (Decimal.text n))
  | truth (value : Bool) : Respelled (.bool value) (.ofInt64 (if value then 1 else 0))

/-- Whether a value is a text, a truth value or a number. -/
def Json.IsScalar : Json → Prop
  | .text _ | .bool _ | .number _ => True
  | .null | .array _ | .object _ => False

theorem Json.Respelled.isScalar {json other : Json} (h : json.Respelled other) :
    json.IsScalar ∧ other.IsScalar := by
  rcases h with _ | _ <;> exact ⟨trivial, trivial⟩

/-- One change of spelling in the value of a filter: of the value itself, of an item of a list,
or, for an operator that compares with a list, of a scalar to the list of this scalar. -/
inductive Json.Respelling (operator : String) : Json → Json → Prop
  | alone {json other : Json} (h : json.Respelled other) : Respelling operator json other
  | inside (front : List Json) {json other : Json} (back : List Json) (h : json.Respelled other) :
      Respelling operator (.array (front ++ json :: back)) (.array (front ++ other :: back))
  | wrapped {json : Json} (hlist : operator = "in" ∨ operator = "!in") (h : json.IsScalar) :
      Respelling operator json (.array [json])

namespace ParamValue

/-- Whether two values are stored alike in fields of every kind: they have one text, and are one
integer or none. -/
structure SameStored (left right : ParamValue) : Prop where
  text : left.asText = right.asText
  int : (left.asInt).toOption = (right.asInt).toOption

theorem SameStored.refl (value : ParamValue) : value.SameStored value := ⟨rfl, rfl⟩

/-- An integer is stored as the text of its digits is. -/
theorem sameStored_digits (n : Int64) : SameStored (.int n) (.text (Decimal.text n)) := by
  have hread := Decimal.read?_text n
  obtain ⟨hne, hsolid⟩ := ((Decimal.read?_eq_some_iff _ _).mp hread).solid
  have htrim : trimBlanks (Decimal.text n) = Decimal.text n := by
    apply String.toList_injective
    exact trimBlanks_surrounded (by simp) (List.forall_mem_nil _) (List.forall_mem_nil _) hne
      hsolid
  constructor
  · rfl
  · rw [asInt, asInt, htrim, hread]

theorem asTexts_of_sameStored {values others : List ParamValue}
    (h : List.Forall₂ SameStored values others) : values.map asText = others.map asText := by
  induction h with
  | nil => rfl
  | cons hfirst _ ih => rw [List.map_cons, List.map_cons, hfirst.text, ih]

theorem asInts_of_sameStored {values others : List ParamValue}
    (h : List.Forall₂ SameStored values others) :
    (asInts values).toOption = (asInts others).toOption := by
  induction h with
  | nil => rfl
  | cons hfirst _ ih => simp only [asInts, toOption_bind, hfirst.int, ih]

end ParamValue

/-- Whether two values of a filter stand for the same, under operators that compare with lists
or under the others: they are values, or lists of values, that are stored alike, or a value and
the list of it. -/
inductive FilterValue.Interchangeable (takesList : Bool) : FilterValue → FilterValue → Prop
  | single {value other : ParamValue} (h : value.SameStored other) :
      Interchangeable takesList (.single value) (.single other)
  | list {values others : List ParamValue} (h : List.Forall₂ ParamValue.SameStored values others) :
      Interchangeable takesList (.list values) (.list others)
  | wrapped (hlist : takesList = true) (value : ParamValue) :
      Interchangeable takesList (.single value) (.list [value])

namespace ValueCondition

/-- Conditions that compare with values that are stored alike can stand in for each other. -/
theorem interchangeable_of_operands {op : Operator} {value other : FilterValue}
    (h : Alike (List.Forall₂ ParamValue.SameStored) (operands ⟨op, value⟩)
      (operands ⟨op, other⟩)) : Interchangeable ⟨op, value⟩ ⟨op, other⟩ := by
  constructor
  · rfl
  · intro type
    simp only [checkedValues]
    split
    · simp only [values, toOption_bind]
      generalize operands ⟨op, value⟩ = left at h ⊢
      generalize operands ⟨op, other⟩ = right at h ⊢
      rcases h with ⟨h⟩ | _
      · have htext := ParamValue.asTexts_of_sameStored h
        have hint := ParamValue.asInts_of_sameStored h
        cases type.valueKind
        case int => exact hint
        all_goals simp only [Except.toOption, Option.bind_some, htext]
      · rfl
    · rfl

/-- Values that stand for the same under an operator are compared with alike. -/
theorem operands_alike {op : Operator} {value other : FilterValue}
    (h : value.Interchangeable op.takesList other) :
    Alike (List.Forall₂ ParamValue.SameStored) (operands ⟨op, value⟩)
      (operands ⟨op, other⟩) := by
  simp only [operands]
  by_cases hnone : op.takesNoValue = true
  · rw [if_pos hnone, if_pos hnone]
    exact .ok .nil
  · rw [if_neg hnone, if_neg hnone]
    rcases h with ⟨h⟩ | ⟨h⟩ | ⟨hlist, value⟩
    · exact .ok (.cons h .nil)
    · dsimp only
      split
      · rcases h with _ | ⟨hfirst, hrest⟩
        · exact .error _ _
        · exact .ok (.cons hfirst hrest)
      · exact .error _ _
    · rw [hlist]
      exact .ok (.cons (.refl value) .nil)

end ValueCondition

namespace FilterValue

/-- Another spelling of a scalar is read as a value that is stored alike. -/
theorem scalarOfJson_respelled {json other : Json} (h : json.Respelled other) :
    Alike ParamValue.SameStored (scalarOfJson json) (scalarOfJson other) := by
  rcases h with n | value
  · rw [(scalarOfJson_eq_ok_iff _ _).mpr (.int n), (scalarOfJson_eq_ok_iff _ _).mpr (.text _)]
    exact .ok (ParamValue.sameStored_digits n)
  · rw [(scalarOfJson_eq_ok_iff _ _).mpr (.bool value), (scalarOfJson_eq_ok_iff _ _).mpr (.int _)]
    exact .ok (.refl _)

theorem ofJson_scalar {json : Json} (h : json.IsScalar) :
    ofJson json = (scalarOfJson json).map .single := by
  apply ofJson_single
  · rintro rfl
    exact h
  · rintro items rfl
    exact h

/-- A value in another spelling is read as one that stands for the same. -/
theorem ofJson_respelling {operator : String} {json other : Json} {op : Operator}
    (hop : Operator.ofKey? operator = some op) (h : Json.Respelling operator json other) :
    Alike (Interchangeable op.takesList) (ofJson json) (ofJson other) := by
  rcases h with ⟨h⟩ | ⟨front, back, h⟩ | ⟨hlist, h⟩
  · rw [ofJson_scalar h.isScalar.1, ofJson_scalar h.isScalar.2]
    exact (scalarOfJson_respelled h).map fun _ _ => .single
  · have hsame : ∀ items : List Json, ∀ item ∈ items,
        Alike ParamValue.SameStored (scalarOfJson item) (scalarOfJson item) :=
      fun _ item _ => .refl .refl (scalarOfJson item)
    have hitems : List.Forall₂ (fun item other =>
        Alike ParamValue.SameStored (scalarOfJson item) (scalarOfJson other))
        (front ++ _ :: back) (front ++ _ :: back) :=
      List.rel_append (List.forall₂_same.mpr (hsame _))
        (.cons (scalarOfJson_respelled h) (List.forall₂_same.mpr (hsame _)))
    rw [ofJson, ofJson, scalarsOfJson_eq_mapM, scalarsOfJson_eq_mapM]
    exact (Alike.mapM hitems fun _ _ => id).map fun _ _ => .list
  · have htakes : op.takesList = true := by
      rcases hlist with rfl | rfl
      · cases hop
        rfl
      · cases hop
        rfl
    rw [ofJson_scalar h, ofJson, scalarsOfJson, scalarsOfJson]
    rcases scalarOfJson json with error | value
    · exact .error error error
    · exact .ok (.wrapped htakes value)

end FilterValue

namespace RawFilter

/-- A stored filter with its value in another spelling can stand in for the filter. -/
theorem interchangeable_of_respelling {raw : RawFilter} {json other : Json}
    (h : Json.Respelling raw.operator json other) :
    Interchangeable { raw with filter := json } { raw with filter := other } := by
  refine ⟨rfl, rfl, ?_⟩
  simp only [SegmentFilter.readCondition]
  cases hop : Operator.ofKey? raw.operator with
  | none => exact .error _ _
  | some op =>
      dsimp only
      split
      · apply Alike.ok
        exact ⟨rfl, fun _ => rfl⟩
      · apply (FilterValue.ofJson_respelling hop h).map
        intro value found hvalue
        exact ValueCondition.interchangeable_of_operands (ValueCondition.operands_alike hvalue)

end RawFilter

/-- Loose spellings make no difference.  A stored filter whose value is spelled in another way,
by any number of changes at any place, compiles exactly if the filter does, and to the same
statement with the same values, as many fragments and the same sign, under any metadata and any
options. -/
theorem compileFilter_respelled (raw : RawFilter) (json : Json)
    (h : Relation.ReflTransGen (Json.Respelling raw.operator) raw.filter json)
    (metadata : Metadata) (options : CompileOptions) :
    (compileFilter { raw with filter := json } metadata options).toOption =
      (compileFilter raw metadata options).toOption := by
  induction h with
  | refl => rfl
  | @tail json other _ hstep ih =>
      rw [← ih]
      exact (toOption_compileFilter_interchange (RawFilter.interchangeable_of_respelling hstep) rfl
        metadata options).symm

namespace Products

/-- The price is not the smallest integer there is. -/
def notSmallest : RawFilter :=
  ⟨.and, "cmf_3", "custom_object", "", "!in", .ofInt64 Int64.minValue⟩

/-- A single number, and the list of the text of its digits. -/
theorem smallest_price_as_text :
    Relation.ReflTransGen (Json.Respelling "!in") (.ofInt64 Int64.minValue)
        (.array [.text "-9223372036854775808"]) ∧
      ∃ compiled,
        compileFilter notSmallest catalog.metadata
          ⟨.mysql, direct, .perFragment, "f", .allContacts⟩ = .ok compiled ∧
        compileFilter { notSmallest with filter := .array [.text "-9223372036854775808"] }
          catalog.metadata ⟨.mysql, direct, .perFragment, "f", .allContacts⟩ = .ok compiled := by
  have hdigits : Decimal.text Int64.minValue = "-9223372036854775808" := by decide
  have hsteps : Relation.ReflTransGen (Json.Respelling "!in") (.ofInt64 Int64.minValue)
      (.array [.text "-9223372036854775808"]) := by
    rw [← hdigits]
    exact .tail (.single (.wrapped (.inr rfl) trivial))
      (.inside [] [] (.digits Int64.minValue))
  obtain ⟨compiled, hcompiled⟩ : ∃ compiled, compileFilter notSmallest catalog.metadata
      ⟨.mysql, direct, .perFragment, "f", .allContacts⟩ = .ok compiled := ⟨_, rfl⟩
  refine ⟨hsteps, compiled, hcompiled, ?_⟩
  apply eq_ok_of_toOption
  rw [compileFilter_respelled notSmallest _ hsteps, hcompiled]
  rfl

end Products

end SegmentPaths
