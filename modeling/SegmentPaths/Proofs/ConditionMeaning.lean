/-
What conditions demand of a stored value, told from the operator and the values that
they give and not from how they are compiled, and that the expressions they compile to
say the same.
-/
import Mathlib.Data.List.Forall2
import SegmentPaths.Path.Fragment
import SegmentPaths.Proofs.Bindings
import SegmentPaths.Proofs.Names
import SegmentPaths.Proofs.Rows

namespace SegmentPaths

/-- What two steps in a row answer is what the second one makes of the answer of the
first one. -/
theorem bind_eq_ok {E A B : Type} {answer : Except E A} {next : A → Except E B} {result : B}
    (h : (answer >>= next) = .ok result) :
    ∃ value, answer = .ok value ∧ next value = .ok result := by
  cases answer with
  | error error => cases h
  | ok value => exact ⟨value, rfl, h⟩

/-- Whether a stored value passes an operator that compares it with a value, or the one
that the operator negates.  Null passes none. -/
def Operator.passes (database : Database) (stored : Datum) (op : Operator)
    (operand : ParamValue) : Bool :=
  let pattern (before after : List Char) :=
    Datum.textTest database.likeEscaped stored
      (.text (patternAround before after operand.display)) == some true
  match op with
  | .eq | .neq | .oneOf | .noneOf => stored == .ofParam operand
  | .gt => Datum.order? stored (.ofParam operand) == some .gt
  | .gte => (Datum.order? stored (.ofParam operand)).any Ordering.isGE
  | .lt => Datum.order? stored (.ofParam operand) == some .lt
  | .lte => (Datum.order? stored (.ofParam operand)).any Ordering.isLE
  | .like | .notLike => Datum.textTest database.like stored (.ofParam operand) == some true
  | .regexp | .notRegexp =>
    Datum.textTest database.regexp stored (.ofParam operand) == some true
  | .startsWith => pattern [] ['%']
  | .endsWith => pattern ['%'] []
  | .contains => pattern ['%'] ['%']
  | .empty | .notEmpty => false

theorem Operator.passes_positive (database : Database) (stored : Datum) (op : Operator) :
    op.positive.passes database stored = op.passes database stored := by
  cases op <;> rfl

theorem Operator.positive_of_takesNoValue {op : Operator} (h : op.takesNoValue = true) :
    op.positive = .notEmpty := by
  revert h
  cases op <;> decide

theorem Operator.positive_of_takesList {op : Operator} (h : op.takesList = true) :
    op.positive = .oneOf := by
  revert h
  cases op <;> decide

/-- Whether a stored value counts as there: not null, and for texts and options
not blank either. -/
def FieldType.filled (type : FieldType) (stored : Datum) : Bool :=
  stored != .null &&
    match type.valueKind with
    | .int | .datetime => true
    | .text | .option => stored != .text ""

/-- What a field of a type stores for a value: a field of integers the integer that it is or
that its text spells between blanks, any other field its text. -/
def FieldType.operand? (type : FieldType) (value : ParamValue) : Option ParamValue :=
  match type.valueKind, value with
  | .int, .int n => some (.int n)
  | .int, .text source => (Decimal.read? (trimBlanks source)).map .int
  | _, value => some (.text value.display)

namespace ValueCondition

/-- The values of a condition. -/
def given (condition : ValueCondition) : List ParamValue :=
  match condition.value with
  | .none => []
  | .single value => [value]
  | .list values => values

/-- Whether a stored value meets the positive form of a condition: it is there, or it passes
the operator with one of the values of the condition. -/
def metBy (database : Database) (condition : ValueCondition) (type : FieldType)
    (stored : Datum) : Bool :=
  if condition.op = .empty ∨ condition.op = .notEmpty then type.filled stored
  else condition.given.any fun value =>
    (type.operand? value).any (condition.op.passes database stored)

/-- The values that operators compare with, by the kind of the operator. -/
theorem operands_cases {condition : ValueCondition} {values : List ParamValue}
    (h : condition.operands = .ok values) :
    (condition.op.takesNoValue = true ∧ values = []) ∨ condition.op.takesList = true ∨
      ∃ value, values = [value] := by
  unfold operands at h
  simp only at h
  split at h
  · rename_i hnone
    cases h
    exact Or.inl ⟨hnone, rfl⟩
  · split at h
    · cases h
    · cases h
      exact Or.inr (Or.inr ⟨_, rfl⟩)
    · split at h
      · rename_i hlist
        exact Or.inr (Or.inl hlist)
      · cases h

theorem operands_given {condition : ValueCondition} {values : List ParamValue}
    (h : condition.operands = .ok values) (hop : condition.op.takesNoValue = false) :
    values = condition.given := by
  obtain ⟨op, value⟩ := condition
  dsimp only at hop
  simp only [operands, hop, Bool.false_eq_true, if_false] at h
  cases value with
  | none => cases h
  | single value =>
      cases h
      rfl
  | list given =>
      dsimp only at h
      split at h
      · split at h
        · cases h
        · exact (Except.ok.inj h).symm
      · cases h

theorem operand?_of_asInt {type : FieldType} (hkind : type.valueKind = .int)
    {value found : ParamValue} (h : value.asInt = .ok found) :
    type.operand? value = some found := by
  unfold FieldType.operand?
  rw [hkind]
  cases value with
  | int n =>
      cases h
      rfl
  | text source =>
      rw [ParamValue.asInt] at h
      split at h
      · rename_i n hread
        cases h
        exact congrArg (Option.map ParamValue.int) hread
      · cases h

theorem operand?_of_asInts {type : FieldType} (hkind : type.valueKind = .int)
    {values ints : List ParamValue} (h : asInts values = .ok ints) :
    List.Forall₂ (fun value int => type.operand? value = some int) values ints := by
  induction values generalizing ints with
  | nil =>
      cases h
      exact .nil
  | cons value rest ih =>
      obtain ⟨int, hint, hrest⟩ := bind_eq_ok h
      obtain ⟨others, hothers, hints⟩ := bind_eq_ok hrest
      cases hints
      exact .cons (operand?_of_asInt hkind hint) (ih hothers)

/-- The values that a type stores are those that the condition gives, each as the type
stores it. -/
theorem checkedValues_operands {condition : ValueCondition} {type : FieldType}
    {values : List ParamValue} (h : condition.checkedValues type = .ok values) :
    ∃ given, condition.operands = .ok given ∧
      List.Forall₂ (fun value operand => type.operand? value = some operand) given values := by
  unfold checkedValues at h
  split at h
  · obtain ⟨given, hgiven, hvalues⟩ := bind_eq_ok h
    refine ⟨given, hgiven, ?_⟩
    have htext : type.valueKind ≠ .int →
        List.Forall₂ (fun value operand => type.operand? value = some operand) given
          (given.map ParamValue.asText) := by
      intro hkind
      refine List.forall₂_map_right_iff.mpr (List.forall₂_same.mpr fun value _ => ?_)
      unfold FieldType.operand?
      split
      · exact absurd ‹_› hkind
      · exact absurd ‹_› hkind
      · rfl
    cases hkind : type.valueKind <;> rw [hkind] at hvalues htext
    case int => exact operand?_of_asInts hkind hvalues
    all_goals
      cases hvalues
      exact htext (by decide)
  · cases h

/-- An operator that is about a value, but not about a list, compares with
exactly one. -/
theorem checkedValues_single {condition : ValueCondition} {type : FieldType}
    {values : List ParamValue} (h : condition.checkedValues type = .ok values)
    (hlist : condition.op.positive ≠ .oneOf) (hempty : condition.op.positive ≠ .notEmpty) :
    ∃ value, values = [value] := by
  obtain ⟨given, hgiven, hvalues⟩ := checkedValues_operands h
  rcases operands_cases hgiven with ⟨hnone, _⟩ | htakes | ⟨value, rfl⟩
  · exact absurd (Operator.positive_of_takesNoValue hnone) hempty
  · exact absurd (Operator.positive_of_takesList htakes) hlist
  · exact List.length_eq_one_iff.mp hvalues.length_eq.symm

theorem any_operand? {type : FieldType} {given values : List ParamValue}
    (h : List.Forall₂ (fun value operand => type.operand? value = some operand) given values)
    (passes : ParamValue → Bool) :
    (given.any fun value => (type.operand? value).any passes) = values.any passes := by
  induction h with
  | nil => rfl
  | cons hfirst _ ih => rw [List.any_cons, List.any_cons, hfirst, ih, Option.any_some]

/-- A condition that fits its type is met by what passes the positive form of its operator
with one of the values that the type stores. -/
theorem metBy_of_checkedValues {condition : ValueCondition} {type : FieldType}
    {values : List ParamValue} (h : condition.checkedValues type = .ok values)
    (database : Database) (stored : Datum) :
    condition.metBy database type stored =
      if condition.op.positive = .notEmpty then type.filled stored
      else values.any (condition.op.positive.passes database stored) := by
  obtain ⟨given, hgiven, hvalues⟩ := checkedValues_operands h
  have hempty : (condition.op = .empty ∨ condition.op = .notEmpty) ↔
      condition.op.positive = .notEmpty := by
    cases condition.op <;> decide
  simp only [metBy, hempty]
  split
  · rfl
  · rename_i hvalue
    have htakes : condition.op.takesNoValue = false :=
      Bool.eq_false_iff.mpr fun hnone => hvalue (Operator.positive_of_takesNoValue hnone)
    rw [← operands_given hgiven htakes, any_operand? hvalues, Operator.passes_positive]

end ValueCondition

namespace Expr

variable {database : Database} {scope : Scope} {column : Expr} {stored : Datum}

theorem value_param {name : String} {value : ParamValue}
    (hbound : database.params.get? name = some value) :
    (Expr.param name).value database scope = .ofParam value := by
  rw [Expr.value, Database.param_of_get? hbound]

/-- The value of a comparison is that of its operator. -/
theorem holdsIn_comparison (hcolumn : column.value database scope = stored) {name : String}
    {operand : ParamValue} (hbound : database.params.get? name = some operand)
    {op : Operator} {comparison : BinaryOp} (hop : op.comparison? = some comparison) :
    holdsIn database (.binary comparison column (.param name)) scope =
      op.passes database stored operand := by
  have hoperand : Datum.ofParam operand ≠ .null := by cases operand <;> simp [Datum.ofParam]
  cases op <;> cases hop
  case eq =>
    rw [holdsIn_equal, hcolumn, value_param hbound, Bool.eq_iff_iff]
    simp [Operator.passes, hoperand]
  all_goals
    simp only [holdsIn, Expr.value, Database.binary, hcolumn, Database.param_of_get? hbound,
      Datum.holds_ofTruth, Operator.passes]
  all_goals
    cases Datum.order? stored (.ofParam operand) with
    | none => rfl
    | some order => cases order <;> rfl

theorem holdsIn_likeEscaped (hcolumn : column.value database scope = stored) {name : String}
    {pattern : String} (hbound : database.params.get? name = some (.text pattern)) :
    holdsIn database (.likeEscaped column (.param name)) scope =
      (Datum.textTest database.likeEscaped stored (.text pattern) == some true) := by
  simp only [holdsIn, Expr.value, hcolumn, Database.param_of_get? hbound, Datum.holds_ofTruth,
    Datum.ofParam]

/-- A list of placeholders has the values that are bound to them. -/
theorem values_params {bindings : List (String × ParamValue)}
    (hbound : ∀ binding ∈ bindings, database.params.get? binding.1 = some binding.2) :
    Expr.values database (bindings.map fun binding => .param binding.1) scope =
      bindings.map fun binding => Datum.ofParam binding.2 := by
  induction bindings with
  | nil => rfl
  | cons binding rest ih =>
      have hrest := ih fun other hother => hbound other (List.mem_cons_of_mem _ hother)
      simp only [List.map_cons, Expr.values, hrest, value_param (hbound binding List.mem_cons_self)]

theorem holdsIn_inList (hcolumn : column.value database scope = stored)
    {bindings : List (String × ParamValue)}
    (hbound : ∀ binding ∈ bindings, database.params.get? binding.1 = some binding.2) :
    holdsIn database (.inList column (bindings.map fun binding => .param binding.1)) scope =
      (bindings.map Prod.snd).any (Operator.oneOf.passes database stored) := by
  have hequal : ∀ operand : ParamValue,
      Datum.equal stored (.ofParam operand) = some true ↔
        Operator.oneOf.passes database stored operand = true := by
    intro operand
    rw [Datum.equal_eq_true_iff]
    cases operand <;> simp [Operator.passes, Datum.ofParam]
  rw [holdsIn, Expr.value, hcolumn, values_params hbound, Datum.holds_ofTruth, Datum.among,
    Bool.eq_iff_iff, beq_iff_eq, Truth.any_eq_true]
  simp only [List.map_map, List.mem_map, List.any_map, List.any_eq_true, Function.comp_apply,
    hequal]

theorem holdsIn_notNull (hcolumn : column.value database scope = stored) :
    holdsIn database (.notNull column) scope = (stored != .null) := by
  simp only [holdsIn, Expr.value, hcolumn, Datum.holds_ofTruth]
  cases stored <;> rfl

theorem holdsIn_notBlank (hcolumn : column.value database scope = stored) :
    holdsIn database (.binary .and (.notNull column) (.binary .unequal column (.text ""))) scope =
      (stored != .null && stored != .text "") := by
  rw [holdsIn_and, holdsIn_notNull hcolumn]
  cases hnull : stored with
  | null => rfl
  | int value => simp [holdsIn, Expr.value, Database.binary, hcolumn, hnull,
      Datum.equal_of_ne_null, Truth.not]
  | text value =>
      rw [Bool.eq_iff_iff]
      simp [holdsIn, Expr.value, Database.binary, hcolumn, hnull, Datum.equal_of_ne_null,
        Truth.not]

end Expr

namespace ValueCondition

theorem map_snd_listBindings (stem : String) (index : Nat) (values : List ParamValue) :
    (listBindings stem index values).map Prod.snd = values := by
  induction values generalizing index with
  | nil => rfl
  | cons value rest ih => simp only [listBindings, List.map_cons, ih]

theorem mem_listBindings {stem name : String} {index : Nat} {values : List ParamValue}
    (h : name ∈ (listBindings stem index values).map Prod.fst) :
    ∃ n, index ≤ n ∧ name = listName stem n := by
  induction values generalizing index with
  | nil => cases h
  | cons value rest ih =>
      simp only [listBindings, List.map_cons, List.mem_cons] at h
      rcases h with h | h
      · exact ⟨index, Nat.le_refl index, h⟩
      · obtain ⟨n, hn, hname⟩ := ih h
        exact ⟨n, Nat.le_of_succ_le hn, hname⟩

theorem listBindings_nodup (stem : String) (index : Nat) (values : List ParamValue) :
    ((listBindings stem index values).map Prod.fst).Nodup := by
  induction values generalizing index with
  | nil => exact List.nodup_nil
  | cons value rest ih =>
      refine List.nodup_cons.mpr ⟨fun hmem => ?_, ih (index + 1)⟩
      obtain ⟨n, hn, hname⟩ := mem_listBindings hmem
      have hsame := (Names.numbered_inj hname).2
      omega

/-- What a condition binds goes by the stem, or by the stem and a number, and no
name comes twice. -/
theorem expression_names {condition : ValueCondition} {column expr : Expr} {type : FieldType}
    {stem : String} {values : List ParamValue} {bindings : List (String × ParamValue)}
    (h : condition.expression column type stem values = .ok (expr, bindings)) :
    (bindings.map Prod.fst).Nodup ∧
      ∀ name ∈ bindings.map Prod.fst, name = stem ∨ ∃ n, name = listName stem n := by
  have hone : ∀ value : ParamValue, ([(stem, value)].map Prod.fst).Nodup ∧
      ∀ name ∈ [(stem, value)].map Prod.fst, name = stem ∨ ∃ n, name = listName stem n := by
    intro value
    exact ⟨List.pairwise_singleton _ _, fun name hname => Or.inl (List.mem_singleton.mp hname)⟩
  unfold expression at h
  cases hop : condition.op.positive <;> rw [hop] at h
  case notEmpty =>
    cases hkind : type.valueKind <;> rw [hkind] at h <;> cases h
    all_goals exact ⟨List.nodup_nil, fun name hname => absurd hname List.not_mem_nil⟩
  case oneOf =>
    cases h
    refine ⟨listBindings_nodup stem 0 values, fun name hname => Or.inr ?_⟩
    obtain ⟨n, _, hname⟩ := mem_listBindings hname
    exact ⟨n, hname⟩
  case neq | empty | notLike | noneOf | notRegexp => cases h
  all_goals
    cases h
    exact hone _

/-- The parts of a condition that compiles. -/
theorem toExpr_eq_ok {condition : ValueCondition} {column expr : Expr} {type : FieldType}
    {stem : String} {params bound : Parameters}
    (h : condition.toExpr column type stem params = .ok (expr, bound)) :
    ∃ values bindings, condition.checkedValues type = .ok values ∧
      condition.expression column type stem values = .ok (expr, bindings) ∧
      bound = bindAll params bindings := by
  unfold toExpr at h
  obtain ⟨values, hvalues, hrest⟩ := bind_eq_ok h
  obtain ⟨⟨expr, bindings⟩, hexpr, hbound⟩ := bind_eq_ok hrest
  cases hbound
  exact ⟨values, bindings, hvalues, hexpr, rfl⟩

/-- The expression of a condition holds of the stored values that meet it, as long
as its placeholders are bound as it says. -/
theorem holdsIn_expression {condition : ValueCondition} {column expr : Expr}
    {type : FieldType} {stem : String} {values : List ParamValue}
    {bindings : List (String × ParamValue)} {database : Database} {scope : Scope}
    {stored : Datum} (hvalues : condition.checkedValues type = .ok values)
    (hexpr : condition.expression column type stem values = .ok (expr, bindings))
    (hcolumn : column.value database scope = stored)
    (hbound : ∀ binding ∈ bindings, database.params.get? binding.1 = some binding.2) :
    expr.holdsIn database scope = condition.metBy database type stored := by
  have hsingle := checkedValues_single hvalues
  rw [metBy_of_checkedValues hvalues]
  unfold expression at hexpr
  cases hop : condition.op.positive <;> rw [hop] at hexpr hsingle
  case notEmpty =>
    cases hkind : type.valueKind <;> rw [hkind] at hexpr <;> cases hexpr
    all_goals simp [FieldType.filled, hkind, Expr.holdsIn_notNull hcolumn,
      Expr.holdsIn_notBlank hcolumn]
  case oneOf =>
    cases hexpr
    rw [Expr.holdsIn_inList hcolumn hbound, map_snd_listBindings, if_neg (by decide)]
  case neq | empty | notLike | noneOf | notRegexp => cases hexpr
  all_goals
    obtain ⟨value, rfl⟩ := hsingle (by decide) (by decide)
    cases hexpr
    have hvalue := hbound _ List.mem_cons_self
    rw [if_neg (by decide), List.any_cons, List.any_nil, Bool.or_false]
  case startsWith | endsWith | contains => exact Expr.holdsIn_likeEscaped hcolumn hvalue
  all_goals exact Expr.holdsIn_comparison hcolumn hvalue rfl

end ValueCondition

end SegmentPaths
