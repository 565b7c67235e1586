/-
What is bound while the expression of a condition is made.  Each placeholder in the expression
is bound, nothing else is, and a condition that is refused leaves all bindings as they were.
-/
import SegmentPaths.Proofs.Acceptance
import SegmentPaths.Proofs.Interchange

namespace SegmentPaths

/-- Work that binds placeholders and may fail.  What it has bound by then stays bound. -/
abbrev Binding := ExceptT QueryError (StateM Parameters)

namespace ValueCondition

/-- Binds a value to a placeholder. -/
def bindParam (name : String) (value : ParamValue) : Binding Expr := do
  modify fun params => params.insert name value
  pure (.param name)

/-- Binds the values of a list to numbered placeholders, counted from an index. -/
def bindList (stem : String) : Nat → List ParamValue → Binding (List Expr)
  | _, [] => pure []
  | index, value :: rest => do
    let first ← bindParam (listName stem index) value
    let others ← bindList stem (index + 1) rest
    pure (first :: others)

/-- The expression of a condition, made in place: a value is bound as soon as its
placeholder is made, and stays bound whatever comes behind it. -/
def bindExpr (condition : ValueCondition) (column : Expr) (type : FieldType) (stem : String) :
    Binding Expr := do
  ofExcept (condition.validate type)
  let values ← ofExcept (condition.values type)
  let text := (values.head?.map ParamValue.display).getD ""
  let search (before after : List Char) : Binding Expr := do
    let pattern ← bindParam stem (.text (patternAround before after text))
    pure (.likeEscaped column pattern)
  match condition.op.positive with
  | .notEmpty =>
    match type.valueKind with
    | .int | .datetime => pure (.notNull column)
    | .text | .option => pure (.binary .and (.notNull column) (.binary .unequal column (.text "")))
  | .oneOf => do
    let placeholders ← bindList stem 0 values
    pure (.inList column placeholders)
  | .startsWith => search [] ['%']
  | .endsWith => search ['%'] []
  | .contains => search ['%'] ['%']
  | op => do
    let placeholder ← bindParam stem (values.head?.getD (.int 0))
    match op.comparison? with
    | some comparison => pure (.binary comparison column placeholder)
    | none => throw (.invalidFilter (.noPositiveForm op))

end ValueCondition

/-- Whether work that is begun with some bindings ends with an answer and with others. -/
def Binding.Ends {A : Type} (work : Binding A) (params : Parameters) (answer : Except QueryError A)
    (bound : Parameters) : Prop :=
  work.run.run params = (answer, bound)

namespace Binding.Ends

variable {A B : Type} {params between bound : Parameters}

theorem ofExcept {given answer : Except QueryError A} (h : given = answer) :
    Binding.Ends (MonadExcept.ofExcept given) params answer params := by
  subst h
  cases given <;> rfl

/-- Work behind other work goes on with what that has bound. -/
theorem bind {work : Binding A} {next : A → Binding B} {value : A} {answer : Except QueryError B}
    (hwork : work.Ends params (.ok value) between)
    (hnext : (next value).Ends between answer bound) :
    Binding.Ends (work >>= next) params answer bound := by
  unfold Binding.Ends at *
  rw [ExceptT.run_bind, StateT.run_bind, hwork]
  exact hnext

theorem bind_error {work : Binding A} {error : QueryError}
    (hwork : work.Ends params (.error error) bound) (next : A → Binding B) :
    Binding.Ends (work >>= next) params (.error error) bound := by
  unfold Binding.Ends at *
  rw [ExceptT.run_bind, StateT.run_bind, hwork]
  rfl

theorem unique {work : Binding A} {answer other : Except QueryError A} {second : Parameters}
    (h : work.Ends params answer bound) (hother : work.Ends params other second) :
    answer = other ∧ bound = second :=
  Prod.mk.inj (h.symm.trans hother)

end Binding.Ends

namespace ValueCondition

open Binding (Ends)

theorem bindParam_ends (name : String) (value : ParamValue) (params : Parameters) :
    (bindParam name value).Ends params (.ok (.param name)) (params.insert name value) := rfl

/-- The values of a list are bound one after the other. -/
theorem bindList_ends (stem : String) (index : Nat) (values : List ParamValue)
    (params : Parameters) :
    (bindList stem index values).Ends params
      (.ok ((listBindings stem index values).map fun binding => .param binding.1))
      (bindAll params (listBindings stem index values)) := by
  induction values generalizing index params with
  | nil => rfl
  | cons value rest ih =>
      apply Ends.bind (bindParam_ends _ value params)
      apply Ends.bind (ih (index + 1) _)
      rfl

variable {condition : ValueCondition} {type : FieldType}

/-- A refused condition is refused before anything is bound. -/
theorem bindExpr_of_refused {error : QueryError} (h : condition.validate type = .error error)
    (column : Expr) (stem : String) (params : Parameters) :
    (condition.bindExpr column type stem).Ends params (.error error) params :=
  (Ends.ofExcept h).bind_error _

theorem values_of_checkedValues {values : List ParamValue}
    (h : condition.checkedValues type = .ok values) : condition.values type = .ok values := by
  unfold checkedValues at h
  split at h
  · exact h
  · cases h

/-- A condition that fits its type becomes its expression, and what it binds stays bound. -/
theorem bindExpr_of_expression {column expr : Expr} {stem : String} {values : List ParamValue}
    {bindings : List (String × ParamValue)} (hvalues : condition.checkedValues type = .ok values)
    (hexpr : condition.expression column type stem values = .ok (expr, bindings))
    (params : Parameters) :
    (condition.bindExpr column type stem).Ends params (.ok expr) (bindAll params bindings) := by
  have hvalid : condition.validate type = .ok () := by
    rw [validate, hvalues]
    rfl
  have htakes := checkedValues_takes hvalues
  rw [bindExpr]
  apply (Ends.ofExcept hvalid).bind
  apply (Ends.ofExcept (values_of_checkedValues hvalues)).bind
  obtain ⟨op, value⟩ := condition
  cases op
  case empty | notEmpty =>
    simp only [expression, Operator.positive] at hexpr ⊢
    cases hkind : type.valueKind <;> rw [hkind] at hexpr <;> cases hexpr <;> rfl
  case oneOf | noneOf =>
    cases hexpr
    apply (bindList_ends stem 0 values params).bind
    rfl
  all_goals
    obtain ⟨value, rfl⟩ : ∃ value, values = [value] := List.length_eq_one_iff.mp htakes
    cases hexpr
    rfl

/-- The expression made in place is the one that is made with its bindings apart: with one
answer, and with the bindings as they were if the condition is refused. -/
theorem bindExpr_ends (condition : ValueCondition) (column : Expr) (type : FieldType)
    (stem : String) (params : Parameters) :
    (∃ expr bound, condition.toExpr column type stem params = .ok (expr, bound) ∧
      (condition.bindExpr column type stem).Ends params (.ok expr) bound) ∨
    ∃ error, condition.toExpr column type stem params = .error error ∧
      condition.validate type = .error error ∧
      (condition.bindExpr column type stem).Ends params (.error error) params := by
  cases hvalues : condition.checkedValues type with
  | error error =>
      have hrefused : condition.validate type = .error error := by
        rw [validate, hvalues]
        rfl
      refine Or.inr ⟨error, ?_, hrefused, bindExpr_of_refused hrefused column stem params⟩
      rw [toExpr, hvalues]
      rfl
  | ok values =>
      obtain ⟨⟨expr, bindings⟩, hexpr⟩ := condition.exists_expression column type stem values
      refine Or.inl ⟨expr, bindAll params bindings, ?_,
        bindExpr_of_expression hvalues hexpr params⟩
      simp only [toExpr, hvalues, hexpr, bind, Except.bind, pure, Except.pure]

end ValueCondition

/-- Whether a value is in the form in which a kind of values is stored. -/
def ParamValue.Fits (value : ParamValue) (kind : ValueKind) : Prop :=
  match value with
  | .int _ => kind = .int
  | .text _ => kind ≠ .int

theorem ParamValue.fits_of_asInt {value found : ParamValue} (h : value.asInt = .ok found) :
    found.Fits .int := by
  unfold asInt at h
  split at h
  · cases h
    rfl
  · split at h
    · cases h
      rfl
    · cases h

/-- The values of a condition are in the form that the field stores. -/
theorem ValueCondition.fits_of_values {condition : ValueCondition} {type : FieldType}
    {values : List ParamValue} (h : condition.values type = .ok values) :
    ∀ value ∈ values, value.Fits type.valueKind := by
  intro value hvalue
  obtain ⟨given, _, hrest⟩ := bind_eq_ok h
  have htext : ∀ kind : ValueKind, kind ≠ .int → given.map ParamValue.asText = values →
      value.Fits kind := by
    rintro kind hkind rfl
    obtain ⟨original, _, rfl⟩ := List.mem_map.mp hvalue
    exact hkind
  cases hkind : type.valueKind <;> rw [hkind] at hrest
  case int =>
    rw [asInts_eq_mapM, mapM_eq_ok_iff] at hrest
    obtain ⟨original, hfound⟩ := exists_of_forall₂ hrest hvalue
    exact ParamValue.fits_of_asInt hfound
  all_goals exact htext _ (by decide) (Except.ok.inj hrest)

namespace Operator

/-- The operators that search in texts are none of those of integer fields. -/
theorem bound_of_int {op : Operator} {type : FieldType} (h : type.supports op = true)
    (hkind : type.valueKind = .int) (value : ParamValue) : op.bound value = value := by
  obtain rfl : type = .int := by
    revert hkind
    cases type <;> decide
  revert h
  cases op <;> simp [bound, FieldType.supports, FieldType.operators, FieldType.numberOperators]

theorem fits_bound {op : Operator} {type : FieldType} (h : type.supports op = true)
    {value : ParamValue} (hvalue : value.Fits type.valueKind) :
    (op.bound value).Fits type.valueKind := by
  by_cases hkind : type.valueKind = .int
  · rwa [bound_of_int h hkind]
  · cases op
    case startsWith | endsWith | contains => exact hkind
    all_goals exact hvalue

theorem bindings_of_list {op : Operator} (h : op.takesList = true) (stem : String)
    (values : List ParamValue) :
    op.bindings stem values = values.zipIdx.map fun entry =>
      (ValueCondition.listName stem entry.2, entry.1) :=
  if_pos h

theorem bindings_of_single {op : Operator} (h : op.takesList = false) (stem : String)
    (value : ParamValue) : op.bindings stem [value] = [(stem, op.bound value)] :=
  if_neg (by simp [h])

/-- The names that an operator binds are the stem, or the stem with the numbers of its tags. -/
theorem names_bindings (op : Operator) (stem : String) (word : TagWord)
    (values : List ParamValue) :
    (op.bindings stem values).map Prod.fst = (op.tags word values.length).map fun tag =>
      (tag.index.map (ValueCondition.listName stem)).getD stem := by
  by_cases hlist : op.takesList = true
  · rw [bindings_of_list hlist, tags, if_pos hlist, List.map_map, List.map_map,
      List.range_eq_range', ← List.zipIdx_map_snd, List.map_map]
    rfl
  · rw [bindings, tags, if_neg hlist, if_neg hlist, List.map_map, List.map_replicate,
      ← List.map_const]
    rfl

/-- The expression of an operator mentions what the operator binds, in order. -/
theorem placeholders_form_eq {op : Operator} (type : FieldType) {column : Expr} (stem : String)
    {values : List ParamValue} (h : op.Takes values.length) (hcolumn : column.placeholders = []) :
    (op.form type column stem values.length).placeholders =
      (op.bindings stem values).map Prod.fst := by
  rw [op.names_bindings stem .value]
  rcases form_cases type h column stem .value with
    ⟨htags, hform | hform⟩ | ⟨_, htags, hform⟩ | ⟨htags, hform | ⟨comparison, hform⟩⟩
  · simp [hform, htags, hcolumn]
  · simp [hform, htags, hcolumn]
  · rw [hform, htags, Expr.placeholders_inList, hcolumn, List.nil_append, List.map_map,
      List.map_map, List.flatMap_map]
    simp [← List.map_eq_flatMap]
  · simp [hform, htags, hcolumn]
  · simp [hform, htags, hcolumn]

end Operator

namespace ValueCondition

open Binding (Ends)

/-- Whether an expression on a column comes with bindings that were made from others by writing
the values of a condition, and nothing else, to the placeholders that the expression mentions. -/
structure Writes (condition : ValueCondition) (column : Expr) (type : FieldType) (stem : String)
    (params : Parameters) (expr : Expr) (bound : Parameters) (values : List ParamValue)
    (written : List (String × ParamValue)) : Prop where
  normalized : condition.values type = .ok values
  made : bound = bindAll params written
  mentioned : expr.placeholders = written.map Prod.fst
  distinct : (written.map Prod.fst).Nodup
  found : ∀ entry ∈ written, bound.get? entry.1 = some entry.2
  kept : ∀ name, name ∉ expr.placeholders → bound.get? name = params.get? name
  stored : ∀ entry ∈ written, entry.2.Fits type.valueKind
  nothing : condition.op.takesNoValue = true → written = []
  single : condition.op.takesNoValue = false → condition.op.takesList = false →
    ∃ value, values = [value] ∧ written = [(stem, condition.op.bound value)]
  list : condition.op.takesList = true → ∃ placeholders, expr = .inList column placeholders ∧
    placeholders.length = values.length ∧ written.length = values.length ∧
    ∀ (index : Nat) (value : ParamValue), values[index]? = some value →
      placeholders[index]? = some (.param (stem ++ "_" ++ Decimal.natText index)) ∧
      written[index]? = some (stem ++ "_" ++ Decimal.natText index, value)

theorem supports_of_checkedValues {condition : ValueCondition} {type : FieldType}
    {values : List ParamValue} (h : condition.checkedValues type = .ok values) :
    type.supports condition.op = true := by
  unfold checkedValues at h
  split at h
  · assumption
  · cases h

/-- A condition that fits its type writes its values to what its expression mentions. -/
theorem writes_of_checkedValues {condition : ValueCondition} {type : FieldType}
    {values : List ParamValue} (hvalues : condition.checkedValues type = .ok values)
    {column : Expr} (hcolumn : column.placeholders = []) (stem : String) (params : Parameters) :
    condition.Writes column type stem params
      (condition.op.form type column stem values.length)
      (bindAll params (condition.op.bindings stem values)) values
      (condition.op.bindings stem values) := by
  have htakes := checkedValues_takes hvalues
  have hread := values_of_checkedValues hvalues
  have hmentioned := Operator.placeholders_form_eq type stem htakes hcolumn
  have hdistinct : ((condition.op.bindings stem values).map Prod.fst).Nodup := by
    obtain ⟨⟨expr, bindings⟩, hexpr⟩ := condition.exists_expression column type stem values
    obtain ⟨_, rfl⟩ := expression_eq hvalues hexpr
    exact (expression_names hexpr).1
  constructor
  case normalized => exact hread
  case made => rfl
  case mentioned => exact hmentioned
  case distinct => exact hdistinct
  case found => exact fun entry hentry => get?_bindAll_of_mem params _ hdistinct hentry
  case kept =>
    intro name hname
    rw [hmentioned] at hname
    exact get?_bindAll_of_notMem params _ hname
  case stored =>
    have hfits := fits_of_values hread
    intro entry hentry
    by_cases hlist : condition.op.takesList = true
    · rw [Operator.bindings_of_list hlist] at hentry
      obtain ⟨⟨value, index⟩, hvalue, rfl⟩ := List.mem_map.mp hentry
      exact hfits value (List.fst_mem_of_mem_zipIdx hvalue)
    · rw [Operator.bindings, if_neg hlist] at hentry
      obtain ⟨value, hvalue, rfl⟩ := List.mem_map.mp hentry
      exact Operator.fits_bound (supports_of_checkedValues hvalues) (hfits value hvalue)
  case nothing =>
    intro hnone
    rw [Operator.Takes, if_pos hnone] at htakes
    rw [List.length_eq_zero_iff.mp htakes]
    unfold Operator.bindings
    split <;> rfl
  case single =>
    intro hnone hlist
    rw [Operator.Takes, if_neg (by simp [hnone]), if_neg (by simp [hlist])] at htakes
    obtain ⟨value, rfl⟩ := List.length_eq_one_iff.mp htakes
    exact ⟨value, rfl, Operator.bindings_of_single hlist stem value⟩
  case list =>
    intro hlist
    rw [Operator.bindings_of_list hlist, Operator.form, Operator.positive_of_takesList hlist]
    refine ⟨_, rfl, by simp, by simp, fun index value hvalue => ?_⟩
    obtain ⟨hindex, rfl⟩ := List.getElem?_eq_some_iff.mp hvalue
    simp [hindex, listName]

/-- A condition and its positive form become one expression with one set of bindings. -/
theorem bindExpr_ends_positive_iff (condition : ValueCondition) (column : Expr) (type : FieldType)
    (stem : String) (params : Parameters) (expr : Expr) (bound : Parameters) :
    (condition.bindExpr column type stem).Ends params (.ok expr) bound ↔
      (bindExpr ⟨condition.op.positive, condition.value⟩ column type stem).Ends params
        (.ok expr) bound := by
  have hends : ∀ condition : ValueCondition,
      (condition.bindExpr column type stem).Ends params (.ok expr) bound ↔
        (condition.toExpr column type stem params).toOption = some (expr, bound) := by
    intro condition
    rcases condition.bindExpr_ends column type stem params with
      ⟨other, written, hexpr, hends⟩ | ⟨error, hexpr, _, hends⟩
    · rw [hexpr, Except.toOption, Option.some_inj, Prod.mk.injEq]
      constructor
      · intro h
        obtain ⟨hsame, hbound⟩ := hends.unique h
        exact ⟨Except.ok.inj hsame, hbound⟩
      · rintro ⟨rfl, rfl⟩
        exact hends
    · rw [hexpr]
      constructor
      · intro h
        cases (hends.unique h).1
      · intro h
        cases h
  rw [hends, hends, (interchangeable_positive condition.op condition.value).toExpr]

/-- What the check of a condition finds wrong is never the lack of a positive form. -/
theorem validate_ne_noPositiveForm (condition : ValueCondition) (type : FieldType)
    (op : Operator) :
    condition.validate type ≠ .error (.invalidFilter (.noPositiveForm op)) := by
  intro h
  by_cases hop : condition.op ∈ type.operators
  · by_cases hshape : condition.HasShape
    · rw [validate_of_operands hop (operands_of_hasShape hshape)] at h
      split at h
      · rcases asInts_cases (if condition.op.takesNoValue then [] else condition.given) with
          ⟨_, found, hfound⟩ | ⟨_, text, _, _, _, _, herror⟩
        · rw [hfound] at h
          cases h
        · rw [herror] at h
          cases h
      · cases h
    · obtain ⟨problem, hproblem, herror⟩ := operands_of_not hshape
      rw [validate_of_operands_error hop herror] at h
      cases h
      cases hproblem
  · rw [validate_of_unavailable hop] at h
    cases h

/-- Making the expression of a condition binds just what the expression mentions.  A condition
that is refused is refused with what its check finds wrong, and leaves every binding as it was;
any other becomes an expression with its values written to the placeholders in it.  No operator
is without a positive form, and an operator and its positive form do the same.  The expression
that is made with its bindings apart is the same one. -/
theorem bindExpr_writes (condition : ValueCondition) (type : FieldType) (stem : String)
    (column : Expr) (hcolumn : column.placeholders = []) (params : Parameters) :
    (∀ error, condition.validate type = .error error →
      (condition.bindExpr column type stem).Ends params (.error error) params ∧
      condition.toExpr column type stem params = .error error) ∧
    (condition.validate type = .ok () → ∃ expr bound values written,
      (condition.bindExpr column type stem).Ends params (.ok expr) bound ∧
      condition.toExpr column type stem params = .ok (expr, bound) ∧
      condition.Writes column type stem params expr bound values written) ∧
    (∀ op bound, ¬(condition.bindExpr column type stem).Ends params
      (.error (.invalidFilter (.noPositiveForm op))) bound) ∧
    ∀ expr bound, (condition.bindExpr column type stem).Ends params (.ok expr) bound ↔
      (bindExpr ⟨condition.op.positive, condition.value⟩ column type stem).Ends params
        (.ok expr) bound := by
  refine ⟨?refused, ?written, ?formed, condition.bindExpr_ends_positive_iff column type stem params⟩
  case refused =>
    intro error herror
    have hrefused := bindExpr_of_refused herror column stem params
    rcases condition.bindExpr_ends column type stem params with
      ⟨expr, bound, _, hends⟩ | ⟨other, hexpr, _, hends⟩
    · cases (hends.unique hrefused).1
    · cases (hends.unique hrefused).1
      exact ⟨hrefused, hexpr⟩
  case written =>
    intro hvalid
    obtain ⟨values, hvalues, _⟩ := exists_of_map_ok hvalid
    obtain ⟨⟨expr, bindings⟩, hexpression⟩ := condition.exists_expression column type stem values
    have hends := bindExpr_of_expression hvalues hexpression params
    have hwrites := writes_of_checkedValues hvalues hcolumn stem params
    obtain ⟨rfl, rfl⟩ := expression_eq hvalues hexpression
    refine ⟨_, _, values, _, hends, ?_, hwrites⟩
    simp only [toExpr, hvalues, hexpression, bind, Except.bind, pure, Except.pure]
  case formed =>
    intro op bound hends
    rcases condition.bindExpr_ends column type stem params with
      ⟨expr, written, _, hother⟩ | ⟨error, _, hvalid, hother⟩
    · cases (hends.unique hother).1
    · cases (hends.unique hother).1
      exact condition.validate_ne_noPositiveForm type op hvalid

/-- A list of two numbers, one of them spelled as a text, is written to two placeholders; what
was bound before stays bound. -/
theorem bindExpr_two_numbers :
    (Expr.tableColumn "f" "value").placeholders = [] ∧
    validate ⟨.noneOf, .list [.int 7, .text " 8 "]⟩ .int = .ok () ∧
    ∃ expr bound, (bindExpr ⟨.noneOf, .list [.int 7, .text " 8 "]⟩ (.tableColumn "f" "value") .int
        "f_value").Ends (OrderedMap.empty.insert "f_id" (.int 3)) (.ok expr) bound ∧
      expr.placeholders = ["f_value_0", "f_value_1"] ∧
      bound.get? "f_value_0" = some (.int 7) ∧ bound.get? "f_value_1" = some (.int 8) ∧
      bound.get? "f_id" = some (.int 3) := by
  have hvalid : validate ⟨.noneOf, .list [.int 7, .text " 8 "]⟩ .int = .ok () := rfl
  obtain ⟨_, hwritten, _⟩ := bindExpr_writes ⟨.noneOf, .list [.int 7, .text " 8 "]⟩ .int "f_value"
    (.tableColumn "f" "value") rfl (OrderedMap.empty.insert "f_id" (.int 3))
  obtain ⟨expr, bound, values, written, hends, _, hwrites⟩ := hwritten hvalid
  have hvalues : values = [.int 7, .int 8] := Except.ok.inj (hwrites.normalized.symm.trans rfl)
  subst hvalues
  obtain ⟨_, _, _, hlength, hentries⟩ := hwrites.list rfl
  obtain ⟨first, second, rfl⟩ := List.length_eq_two.mp hlength
  obtain rfl : first = ("f_value_0", .int 7) := Option.some.inj (hentries 0 _ rfl).2
  obtain rfl : second = ("f_value_1", .int 8) := Option.some.inj (hentries 1 _ rfl).2
  refine ⟨rfl, hvalid, expr, bound, hends, hwrites.mentioned,
    hwrites.found _ List.mem_cons_self, hwrites.found _ (List.mem_cons_of_mem _ List.mem_cons_self),
    (hwrites.kept "f_id" ?_).trans ?_⟩
  · rw [hwrites.mentioned]
    decide
  · rfl

end ValueCondition

end SegmentPaths
