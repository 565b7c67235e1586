/-
Conditions without their values.  The expression that a condition compiles to
depends on its operator, on how its type stores values and on how many values
there are.  The values themselves only stand in what is bound.
-/
import Mathlib.Data.List.Nodup
import SegmentPaths.Proofs.ConditionMeaning
import SegmentPaths.Proofs.StatementNames

namespace SegmentPaths

namespace Operator

open ValueCondition (listName)

/-- Whether an operator compares with a number of values. -/
def Takes (op : Operator) (count : Nat) : Prop :=
  if op.takesNoValue then count = 0 else if op.takesList then 0 < count else count = 1

/-- What an operator binds for a value: the value, or the pattern of the texts that
start with it, end with it or contain it. -/
def bound (op : Operator) (value : ParamValue) : ParamValue :=
  match op with
  | .startsWith => .text (patternAround [] ['%'] value.display)
  | .endsWith => .text (patternAround ['%'] [] value.display)
  | .contains => .text (patternAround ['%'] ['%'] value.display)
  | _ => value

/-- What an operator binds: the values of a list under numbered names, and a single
value under the stem. -/
def bindings (op : Operator) (stem : String) (values : List ParamValue) :
    List (String × ParamValue) :=
  if op.takesList then values.zipIdx.map fun entry => (listName stem entry.2, entry.1)
  else values.map fun value => (stem, op.bound value)

/-- The tags of the names that an operator binds. -/
def tags (op : Operator) (word : TagWord) (count : Nat) : List Tag :=
  if op.takesList then (List.range count).map fun index => ⟨word, some index⟩
  else List.replicate count ⟨word, none⟩

/-- The expression of an operator on a column, with placeholders for a number of
values. -/
def form (op : Operator) (type : FieldType) (column : Expr) (stem : String) (count : Nat) :
    Expr :=
  match op.positive with
  | .notEmpty =>
    match type.valueKind with
    | .int | .datetime => .notNull column
    | .text | .option => .binary .and (.notNull column) (.binary .unequal column (.text ""))
  | .oneOf => .inList column (((List.range count).map (listName stem)).map .param)
  | .startsWith | .endsWith | .contains => .likeEscaped column (.param stem)
  | positive => .binary (positive.comparison?.getD .equal) column (.param stem)

theorem takesNoValue_of_takesList {op : Operator} (h : op.takesList = true) :
    op.takesNoValue = false := by
  revert h
  cases op <;> decide

/-- Only a list operator has a choice of how many values it takes. -/
theorem Takes.unique {op : Operator} {m n : Nat} (hm : op.Takes m) (hn : op.Takes n)
    (hlist : op.takesList = false) : m = n := by
  unfold Takes at hm hn
  rw [hlist] at hm hn
  by_cases hnone : op.takesNoValue = true
  · simp only [hnone, if_true] at hm hn
    rw [hm, hn]
  · simp only [hnone, Bool.false_eq_true, if_false] at hm hn
    rw [hm, hn]

/-- The names that an operator binds are its tags, behind the seed in the stem. -/
theorem map_fst_bindings (op : Operator) (seed : String) (word : TagWord)
    (values : List ParamValue) :
    (op.bindings (Tag.under seed ⟨word, none⟩) values).map Prod.fst =
      (op.tags word values.length).map (Tag.under seed) := by
  unfold bindings tags
  split
  · rw [List.map_map, List.map_map]
    have hnames : values.zipIdx.map Prod.snd = List.range values.length := by
      rw [List.zipIdx_map_snd, List.range_eq_range']
    rw [← hnames, List.map_map]
    apply List.map_congr_left
    intro entry _
    exact (Tag.under_some seed word entry.2).symm
  · rw [List.map_map, List.map_replicate, ← List.map_const]
    rfl

theorem tags_nodup {op : Operator} {count : Nat} (h : op.Takes count) (word : TagWord) :
    (op.tags word count).Nodup := by
  unfold Takes at h
  unfold tags
  split
  · apply List.Nodup.map _ List.nodup_range
    intro m n hsame
    exact Option.some.inj (Tag.mk.inj hsame).2
  · rename_i hlist
    rw [if_neg hlist] at h
    rw [List.nodup_replicate]
    split at h <;> omega

theorem word_of_mem_tags {op : Operator} {word : TagWord} {count : Nat} {tag : Tag}
    (h : tag ∈ op.tags word count) : tag.word = word := by
  unfold tags at h
  split at h
  · obtain ⟨index, _, rfl⟩ := List.mem_map.mp h
    rfl
  · rw [List.eq_of_mem_replicate h]

section Form

variable {op : Operator} {column : Expr} {count : Nat} (type : FieldType)

/-- The shapes that the expression of an operator can have, with the tags of what is
bound: a test without a value, a list, or a comparison with one value. -/
theorem form_cases (h : op.Takes count) (column : Expr) (stem : String) (word : TagWord) :
    (op.tags word count = [] ∧
      (op.form type column stem count = .notNull column ∨
        op.form type column stem count =
          .binary .and (.notNull column) (.binary .unequal column (.text "")))) ∨
    (0 < count ∧ op.tags word count = (List.range count).map (fun index => ⟨word, some index⟩) ∧
      op.form type column stem count =
        .inList column (((List.range count).map (listName stem)).map .param)) ∨
    (op.tags word count = [⟨word, none⟩] ∧
      (op.form type column stem count = .likeEscaped column (.param stem) ∨
        ∃ comparison, op.form type column stem count =
          .binary comparison column (.param stem))) := by
  cases op
  case empty | notEmpty =>
    left
    obtain rfl : count = 0 := h
    refine ⟨rfl, ?_⟩
    simp only [form, positive]
    cases type.valueKind <;> simp
  case oneOf | noneOf =>
    right; left
    exact ⟨h, rfl, rfl⟩
  all_goals
    right; right
    obtain rfl : count = 1 := h
    refine ⟨rfl, ?_⟩
    simp [form, positive]

/-- The expression of an operator has just the placeholders that are bound. -/
theorem placeholders_form (h : op.Takes count) (hcolumn : column.placeholders = [])
    (seed : String) (word : TagWord) :
    (op.form type column (Tag.under seed ⟨word, none⟩) count).placeholders =
      (op.tags word count).map (Tag.under seed) := by
  rcases form_cases type h column (Tag.under seed ⟨word, none⟩) word with
    ⟨htags, hform | hform⟩ | ⟨_, htags, hform⟩ | ⟨htags, hform | ⟨comparison, hform⟩⟩
  · simp [hform, htags, hcolumn]
  · simp [hform, htags, hcolumn]
  · rw [hform, htags, Expr.placeholders_inList, hcolumn, List.nil_append, List.map_map,
      List.map_map, List.flatMap_map]
    simp only [Function.comp_apply, Expr.placeholders_param, ← List.map_eq_flatMap]
    apply List.map_congr_left
    intro index _
    exact (Tag.under_some seed word index).symm
  · simp [hform, htags, hcolumn]
  · simp [hform, htags, hcolumn]

/-- The expression of an operator reads no tables of its own. -/
theorem aliases_form (h : op.Takes count) (hcolumn : column.aliases = []) (stem : String) :
    (op.form type column stem count).aliases = [] := by
  rcases form_cases type h column stem .value with
    ⟨_, hform | hform⟩ | ⟨_, _, hform⟩ | ⟨_, hform | ⟨comparison, hform⟩⟩ <;>
    simp [hform, Expr.aliases, hcolumn, Expr.listAliases_params, -List.map_map]

/-- No list in the expression of an operator is empty. -/
theorem hasEmptyList_form (h : op.Takes count) (hcolumn : column.hasEmptyList = false)
    (stem : String) : (op.form type column stem count).hasEmptyList = false := by
  rcases form_cases type h column stem .value with
    ⟨_, hform | hform⟩ | ⟨hcount, _, hform⟩ | ⟨_, hform | ⟨comparison, hform⟩⟩
  · simp [hform, Expr.hasEmptyList, hcolumn]
  · simp [hform, Expr.hasEmptyList, hcolumn]
  · have hfull : ((List.range count).map (listName stem)).map Expr.param ≠ [] := by
      simpa using Nat.ne_of_gt hcount
    rw [hform, Expr.hasEmptyList, hcolumn, Expr.anyEmptyList_params,
      List.isEmpty_eq_false_iff.mpr hfull]
    rfl
  · simp [hform, Expr.hasEmptyList, hcolumn]
  · simp [hform, Expr.hasEmptyList, hcolumn]

end Form

end Operator

namespace ValueCondition

/-- The values of a condition that fits its type are as many as the operator takes. -/
theorem checkedValues_takes {condition : ValueCondition} {type : FieldType}
    {values : List ParamValue} (h : condition.checkedValues type = .ok values) :
    condition.op.Takes values.length := by
  obtain ⟨given, hgiven, hvalues⟩ := checkedValues_operands h
  rw [← hvalues.length_eq]
  unfold operands at hgiven
  unfold Operator.Takes
  simp only at hgiven
  split at hgiven
  · rename_i hnone
    cases hgiven
    rw [if_pos hnone]
    rfl
  · rename_i hnone
    rw [if_neg hnone]
    split at hgiven
    · cases hgiven
    · cases hgiven
      split <;> simp
    · split at hgiven
      · rename_i hlist
        rw [if_pos hlist]
        split at hgiven
        · cases hgiven
        · rename_i hfull
          cases hgiven
          exact List.length_pos_iff.mpr (by simpa using hfull)
      · cases hgiven

theorem listBindings_eq_map (stem : String) (index : Nat) (values : List ParamValue) :
    listBindings stem index values =
      (values.zipIdx index).map fun entry => (listName stem entry.2, entry.1) := by
  induction values generalizing index with
  | nil => rfl
  | cons value rest ih => rw [listBindings, ih, List.zipIdx_cons, List.map_cons]

/-- What a condition compiles to is its form, and what it binds are its values. -/
theorem expression_eq {condition : ValueCondition} {column expr : Expr} {type : FieldType}
    {stem : String} {values : List ParamValue} {bindings : List (String × ParamValue)}
    (hvalues : condition.checkedValues type = .ok values)
    (h : condition.expression column type stem values = .ok (expr, bindings)) :
    expr = condition.op.form type column stem values.length ∧
      bindings = condition.op.bindings stem values := by
  have htakes := checkedValues_takes hvalues
  obtain ⟨op, value⟩ := condition
  cases op
  case empty | notEmpty =>
    obtain rfl : values = [] := List.length_eq_zero_iff.mp htakes
    simp only [expression, Operator.form, Operator.positive] at h ⊢
    cases hkind : type.valueKind <;> rw [hkind] at h <;> cases h <;> exact ⟨rfl, rfl⟩
  case oneOf | noneOf =>
    cases h
    have hnames : (listBindings stem 0 values).map Prod.fst =
        (List.range values.length).map (listName stem) := by
      rw [listBindings_eq_map, List.map_map, List.range_eq_range', ← List.zipIdx_map_snd,
        List.map_map]
      rfl
    refine ⟨?_, listBindings_eq_map stem 0 values⟩
    simp only [Operator.form, Operator.positive, ← hnames, List.map_map]
    rfl
  all_goals
    obtain ⟨value, rfl⟩ : ∃ value, values = [value] := List.length_eq_one_iff.mp htakes
    cases h
    exact ⟨rfl, rfl⟩

end ValueCondition

end SegmentPaths
