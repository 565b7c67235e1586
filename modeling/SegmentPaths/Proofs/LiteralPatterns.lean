/-
Patterns that stand for a text.  A character behind the escape character stands for
itself, so the pattern that is made of a text is met just by the texts that start with it,
end with it or contain it, whatever wildcards the text is made of.
-/
import Mathlib.Data.List.Forall2
import SegmentPaths.Database.Pattern
import SegmentPaths.Proofs.ConditionForm

namespace SegmentPaths

namespace Pattern

/-- Whether a character means something in a pattern. -/
def IsMark (c : Char) : Prop := c = '%' ∨ c = '_' ∨ c = Expr.patternEscape

/-- The texts that a pattern with an escape character stands for: a percent sign stands for
any text, an underscore for any one character, a character behind the escape character for
just that character, and every other one for the characters that count as the same. -/
inductive Like (same : Char → Char → Prop) : List Char → List Char → Prop
  | nil : Like same [] []
  | anyText {pattern text : List Char} (front : List Char) (h : Like same pattern text) :
      Like same ('%' :: pattern) (front ++ text)
  | anyOne {pattern text : List Char} (c : Char) (h : Like same pattern text) :
      Like same ('_' :: pattern) (c :: text)
  | literal {pattern text : List Char} (c : Char) (h : Like same pattern text) :
      Like same (Expr.patternEscape :: c :: pattern) (c :: text)
  | char {pattern text : List Char} {c d : Char} (hplain : ¬IsMark c) (hsame : same c d)
      (h : Like same pattern text) : Like same (c :: pattern) (d :: text)

section Equations

variable {same : Char → Char → Prop} {pattern text : List Char}

theorem like_nil : Like same [] text ↔ text = [] := by
  constructor
  · rintro ⟨⟩
    rfl
  · rintro rfl
    exact .nil

/-- What the first character of a pattern can stand for. -/
theorem like_cons {c : Char} :
    Like same (c :: pattern) text ↔
      (c = '%' ∧ ∃ front back, text = front ++ back ∧ Like same pattern back) ∨
      (c = '_' ∧ ∃ d back, text = d :: back ∧ Like same pattern back) ∨
      (c = Expr.patternEscape ∧ ∃ d rest back, pattern = d :: rest ∧ text = d :: back ∧
        Like same rest back) ∨
      (¬IsMark c ∧ ∃ d back, text = d :: back ∧ same c d ∧ Like same pattern back) := by
  constructor
  · intro h
    cases h with
    | anyText front h => exact Or.inl ⟨rfl, front, _, rfl, h⟩
    | anyOne d h => exact Or.inr (Or.inl ⟨rfl, d, _, rfl, h⟩)
    | literal d h => exact Or.inr (Or.inr (Or.inl ⟨rfl, d, _, _, rfl, rfl, h⟩))
    | char hplain hsame h => exact Or.inr (Or.inr (Or.inr ⟨hplain, _, _, rfl, hsame, h⟩))
  · rintro (⟨rfl, front, back, rfl, h⟩ | ⟨rfl, d, back, rfl, h⟩ |
      ⟨rfl, d, rest, back, rfl, rfl, h⟩ | ⟨hplain, d, back, rfl, hsame, h⟩)
    · exact .anyText front h
    · exact .anyOne d h
    · exact .literal d h
    · exact .char hplain hsame h

theorem like_anyText :
    Like same ('%' :: pattern) text ↔
      ∃ front back, text = front ++ back ∧ Like same pattern back := by
  rw [like_cons]
  simp [IsMark, Expr.patternEscape]

theorem like_literal {c : Char} :
    Like same (Expr.patternEscape :: c :: pattern) text ↔
      ∃ back, text = c :: back ∧ Like same pattern back := by
  rw [like_cons]
  simp [IsMark, Expr.patternEscape]

theorem like_char {c : Char} (hplain : ¬IsMark c) :
    Like same (c :: pattern) text ↔
      ∃ d back, text = d :: back ∧ same c d ∧ Like same pattern back := by
  have hmarks := hplain
  rw [IsMark, not_or, not_or] at hmarks
  rw [like_cons]
  simp [hplain, hmarks]

theorem escapePattern_mark {c : Char} (hmark : IsMark c) (rest : List Char) :
    escapePattern (c :: rest) = Expr.patternEscape :: c :: escapePattern rest := by
  simp only [IsMark] at hmark
  rw [escapePattern, if_pos hmark]

theorem escapePattern_char {c : Char} (hplain : ¬IsMark c) (rest : List Char) :
    escapePattern (c :: rest) = c :: escapePattern rest := by
  simp only [IsMark] at hplain
  rw [escapePattern, if_neg hplain]

end Equations

/-- What is escaped stands for the text itself, whatever follows it in the pattern. -/
theorem like_escapePattern_append {same : Char → Char → Prop} (hrefl : ∀ c, same c c)
    (hmarks : ∀ c d, IsMark c → same c d → d = c) (text rest whole : List Char) :
    Like same (escapePattern text ++ rest) whole ↔
      ∃ front back, whole = front ++ back ∧ List.Forall₂ same text front ∧
        Like same rest back := by
  induction text generalizing whole with
  | nil =>
      simp only [escapePattern, List.nil_append, List.forall₂_nil_left_iff]
      constructor
      · intro hrest
        exact ⟨[], whole, rfl, rfl, hrest⟩
      · rintro ⟨_, back, rfl, rfl, hrest⟩
        exact hrest
  | cons c text ih =>
      by_cases hmark : IsMark c
      · rw [escapePattern_mark hmark, List.cons_append, List.cons_append, like_literal]
        constructor
        · rintro ⟨tail, rfl, htail⟩
          obtain ⟨front, back, rfl, hfront, hback⟩ := (ih tail).mp htail
          exact ⟨c :: front, back, rfl, .cons (hrefl c) hfront, hback⟩
        · rintro ⟨_, back, rfl, hfront, hback⟩
          obtain ⟨d, tail, hsame, htail, rfl⟩ := List.forall₂_cons_left_iff.mp hfront
          rw [hmarks c d hmark hsame]
          exact ⟨tail ++ back, rfl, (ih _).mpr ⟨tail, back, rfl, htail, hback⟩⟩
      · rw [escapePattern_char hmark, List.cons_append, like_char hmark]
        constructor
        · rintro ⟨d, tail, rfl, hsame, htail⟩
          obtain ⟨front, back, rfl, hfront, hback⟩ := (ih tail).mp htail
          exact ⟨d :: front, back, rfl, .cons hsame hfront, hback⟩
        · rintro ⟨_, back, rfl, hfront, hback⟩
          obtain ⟨d, tail, hsame, htail, rfl⟩ := List.forall₂_cons_left_iff.mp hfront
          exact ⟨d, tail ++ back, rfl, hsame, (ih _).mpr ⟨tail, back, rfl, htail, hback⟩⟩

/-- Whether the escape character only stands in front of characters that mean something. -/
inductive Escaped : List Char → Prop
  | nil : Escaped []
  | mark {c : Char} {pattern : List Char} (hmark : IsMark c) (h : Escaped pattern) :
      Escaped (Expr.patternEscape :: c :: pattern)
  | char {c : Char} {pattern : List Char} (hplain : c ≠ Expr.patternEscape)
      (h : Escaped pattern) : Escaped (c :: pattern)

/-- Escaping a text leaves no escape character that stands for itself or for nothing. -/
theorem escaped_escapePattern_append (text : List Char) {rest : List Char}
    (hrest : Escaped rest) : Escaped (escapePattern text ++ rest) := by
  induction text with
  | nil => exact hrest
  | cons c text ih =>
      by_cases hmark : IsMark c
      · rw [escapePattern_mark hmark]
        exact .mark hmark ih
      · rw [escapePattern_char hmark]
        exact .char (fun hescape => hmark (Or.inr (Or.inr hescape))) ih

theorem parts_escape (escape c : Char) (pattern : List Char) :
    parts (some escape) (escape :: c :: pattern) = .char c :: parts (some escape) pattern := by
  rw [parts, if_pos rfl]

theorem parts_part {escape c : Char} (h : c ≠ escape) (pattern : List Char) :
    parts (some escape) (c :: pattern) = part c :: parts (some escape) pattern := by
  have hescape : some escape ≠ some c := fun hsame => h (Option.some.inj hsame).symm
  cases pattern with
  | nil => simp [parts, hescape]
  | cons => rw [parts, if_neg hescape]

theorem part_ne_nothing (c : Char) : part c ≠ .nothing := by
  unfold part
  split
  · simp
  · split <;> simp

/-- A pattern that is escaped does not end in an escape character without anything
behind it. -/
theorem nothing_notMem_parts {pattern : List Char} (h : Escaped pattern) :
    PatternPart.nothing ∉ parts (some Expr.patternEscape) pattern := by
  induction h with
  | nil => simp [parts]
  | mark _ _ ih =>
      rw [parts_escape]
      simpa using ih
  | char hplain _ ih =>
      rw [parts_part hplain]
      simpa using ⟨(part_ne_nothing _).symm, ih⟩

theorem sameLetter_equivalence : Equivalence fun c d => sameLetter c d = true := by
  simp only [sameLetter, beq_iff_eq]
  exact ⟨fun _ => rfl, Eq.symm, Eq.trans⟩

/-- A character that means something in a pattern has no other case. -/
theorem eq_of_sameLetter_mark {c d : Char} (hmark : IsMark c) (h : sameLetter c d = true) :
    d = c := by
  have hself : c.toLower = c := by rcases hmark with rfl | rfl | rfl <;> decide
  have hlower : d.toLower = c := by
    rw [← hself]
    exact (beq_iff_eq.mp h).symm
  unfold Char.toLower at hlower
  split at hlower
  · rename_i hupper
    have hrange : 65 ≤ d.toNat ∧ d.toNat ≤ 90 := hupper
    have hval : (d.val + 32).toNat = c.toNat := congrArg Char.toNat hlower
    have hshift : (d.val + 32).toNat = d.toNat + 32 := by
      rw [UInt32.toNat_add]
      exact Nat.mod_eq_of_lt (Nat.lt_of_le_of_lt (Nat.add_le_add_right hrange.2 32) (by decide))
    have hmarks : c.toNat < 65 ∨ c.toNat = 95 := by
      rcases hmark with rfl | rfl | rfl <;> decide
    omega
  · exact hlower

end Pattern

namespace Operator

/-- Whether an operator finds a text in a stored one: at its front, at its end or
anywhere, up to the characters that count as the same. -/
def Finds (same : Char → Char → Prop) (op : Operator) (text stored : List Char) : Prop :=
  match op with
  | .startsWith => ∃ found, found <+: stored ∧ List.Forall₂ same text found
  | .endsWith => ∃ found, found <:+ stored ∧ List.Forall₂ same text found
  | .contains => ∃ found, found <:+: stored ∧ List.Forall₂ same text found
  | _ => False

/-- Whether an operator searches a stored text for the text of a filter. -/
def Searches (op : Operator) : Prop := op = .startsWith ∨ op = .endsWith ∨ op = .contains

section Patterns

variable {same : Char → Char → Prop} (hrefl : ∀ c, same c c)
  (hmarks : ∀ c d, Pattern.IsMark c → same c d → d = c)

include hrefl hmarks

/-- A text with a percent sign behind it stands for the texts that start with it. -/
theorem like_front (text stored : List Char) :
    Pattern.Like same (escapePattern text ++ ['%']) stored ↔
      Operator.startsWith.Finds same text stored := by
  rw [Pattern.like_escapePattern_append hrefl hmarks]
  simp only [Pattern.like_anyText, Pattern.like_nil, Finds]
  constructor
  · rintro ⟨found, back, rfl, hfound, -⟩
    exact ⟨found, List.prefix_append _ _, hfound⟩
  · rintro ⟨found, ⟨back, rfl⟩, hfound⟩
    exact ⟨found, back, rfl, hfound, back, [], (List.append_nil back).symm, rfl⟩

/-- A text with a percent sign in front of it stands for the texts that end with it. -/
theorem like_end (text stored : List Char) :
    Pattern.Like same ('%' :: escapePattern text) stored ↔
      Operator.endsWith.Finds same text stored := by
  have hescaped := Pattern.like_escapePattern_append hrefl hmarks text []
  simp only [List.append_nil, Pattern.like_nil] at hescaped
  simp only [Pattern.like_anyText, hescaped, Finds]
  constructor
  · rintro ⟨front, _, rfl, found, _, rfl, hfound, rfl⟩
    exact ⟨found, ⟨front, by rw [List.append_nil]⟩, hfound⟩
  · rintro ⟨found, ⟨front, rfl⟩, hfound⟩
    exact ⟨front, found, rfl, found, [], (List.append_nil found).symm, hfound, rfl⟩

/-- A text between percent signs stands for the texts that contain it. -/
theorem like_inside (text stored : List Char) :
    Pattern.Like same ('%' :: (escapePattern text ++ ['%'])) stored ↔
      Operator.contains.Finds same text stored := by
  simp only [Pattern.like_anyText, like_front hrefl hmarks, Finds]
  constructor
  · rintro ⟨front, _, rfl, found, ⟨back, rfl⟩, hfound⟩
    exact ⟨found, ⟨front, back, List.append_assoc front found back⟩, hfound⟩
  · rintro ⟨found, ⟨front, back, rfl⟩, hfound⟩
    exact ⟨front, found ++ back, List.append_assoc front found back, found,
      List.prefix_append _ _, hfound⟩

end Patterns

end Operator

namespace ValueCondition

open Operator (Searches)

/-- What a search binds for a text. -/
def searchPattern (op : Operator) (text : String) : String :=
  match op with
  | .startsWith => patternAround [] ['%'] text
  | .endsWith => patternAround ['%'] [] text
  | _ => patternAround ['%'] ['%'] text

theorem escaped_searchPattern (op : Operator) (text : String) :
    Pattern.Escaped (searchPattern op text).toList := by
  have hany : Pattern.Escaped ['%'] := .char (by decide) .nil
  cases op
  case startsWith =>
    simpa [searchPattern, patternAround] using
      Pattern.escaped_escapePattern_append text.toList hany
  case endsWith =>
    simpa [searchPattern, patternAround] using Pattern.Escaped.char (by decide)
      (Pattern.escaped_escapePattern_append text.toList .nil)
  all_goals
    simpa [searchPattern, patternAround] using Pattern.Escaped.char (by decide)
      (Pattern.escaped_escapePattern_append text.toList hany)

theorem like_searchPattern {same : Char → Char → Prop} (hrefl : ∀ c, same c c)
    (hmarks : ∀ c d, Pattern.IsMark c → same c d → d = c) {op : Operator} (hop : op.Searches)
    (text : String) (stored : List Char) :
    Pattern.Like same (searchPattern op text).toList stored ↔
      op.Finds same text.toList stored := by
  rcases hop with rfl | rfl | rfl
  · simpa [searchPattern, patternAround] using
      Operator.like_front hrefl hmarks text.toList stored
  · simpa [searchPattern, patternAround] using
      Operator.like_end hrefl hmarks text.toList stored
  · simpa [searchPattern, patternAround] using
      Operator.like_inside hrefl hmarks text.toList stored

/-- A search compiles to a test of the stored text against the pattern it binds. -/
theorem toExpr_search {op : Operator} (hop : op.Searches) {type : FieldType}
    (htype : type.supports op = true) (value : ParamValue) (column : Expr) (stem : String)
    (params : Parameters) :
    (ValueCondition.mk op (.single value)).toExpr column type stem params =
      .ok (.likeEscaped column (.param stem),
        params.insert stem (.text (searchPattern op value.display))) := by
  have hkind : type.valueKind = .text := by
    revert htype
    rcases hop with rfl | rfl | rfl <;> cases type <;> decide
  have hvalues : (ValueCondition.mk op (.single value)).checkedValues type =
      .ok [.text value.display] := by
    rcases hop with rfl | rfl | rfl <;>
      simp only [checkedValues, htype, if_true, values, hkind] <;> rfl
  rw [toExpr, hvalues]
  rcases hop with rfl | rfl | rfl <;> rfl

/-- Searches take the text of a filter literally.  The pattern that `startsWith`,
`endsWith` or `contains` binds stands for just the stored texts that start with the text,
end with it or contain it, up to characters that count as the same, and it does not end in
an escape character with nothing behind it. -/
theorem search_is_literal {same : Char → Char → Prop} (hsame : Equivalence same)
    (hmarks : ∀ c d, Pattern.IsMark c → same c d → d = c) {op : Operator} (hop : op.Searches)
    {type : FieldType} (htype : type.supports op = true) (value : ParamValue) (column : Expr)
    (stem : String) (params : Parameters) :
    ∃ pattern : String,
      (ValueCondition.mk op (.single value)).toExpr column type stem params =
          .ok (.likeEscaped column (.param stem), params.insert stem (.text pattern)) ∧
        (∀ stored : String, Pattern.Like same pattern.toList stored.toList ↔
          op.Finds same value.display.toList stored.toList) ∧
        PatternPart.nothing ∉ Pattern.parts (some Expr.patternEscape) pattern.toList :=
  ⟨searchPattern op value.display, toExpr_search hop htype value column stem params,
    fun stored => like_searchPattern hsame.refl hmarks hop value.display stored.toList,
    Pattern.nothing_notMem_parts (escaped_searchPattern op value.display)⟩

/-- A text that is made of wildcards, searched for without regard to the case of letters. -/
theorem wildcards_searched_literally :
    ∃ pattern : String,
      (ValueCondition.mk .contains (.single (.text "50%_!"))).toExpr (.column "l" "name") .text
          "v" .empty =
          .ok (.likeEscaped (.column "l" "name") (.param "v"),
            OrderedMap.insert .empty "v" (.text pattern)) ∧
        (∀ stored : String,
          Pattern.Like (fun c d => Pattern.sameLetter c d = true) pattern.toList stored.toList ↔
            Operator.contains.Finds (fun c d => Pattern.sameLetter c d = true)
              "50%_!".toList stored.toList) ∧
        PatternPart.nothing ∉ Pattern.parts (some Expr.patternEscape) pattern.toList :=
  have hsupported : FieldType.text.supports .contains = true := by decide
  search_is_literal Pattern.sameLetter_equivalence (fun _ _ => Pattern.eq_of_sameLetter_mark)
    (.inr (.inr rfl)) hsupported (.text "50%_!") (.column "l" "name") "v" .empty

end ValueCondition

end SegmentPaths
