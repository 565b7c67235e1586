/-
What stored filters say.  Each reader of a part of a stored filter is compared with a
description of the texts and values that it takes, and of the first thing that it finds
wrong with the others.
-/
import Mathlib.Data.List.Forall2
import SegmentPaths.Proofs.Compilation
import SegmentPaths.Segment.Filter

namespace SegmentPaths

namespace Decimal

/-- The digits that spell an integer, with at most one sign in front of them. -/
def Spells (cs : List Char) (n : Int64) : Prop :=
  ∃ digits : List Char, digits ≠ [] ∧ (∀ c ∈ digits, c.isDigit = true) ∧
    ((cs = digits ∨ cs = '+' :: digits) ∧ n.toInt = Nat.ofDigitChars 10 digits 0 ∨
      cs = '-' :: digits ∧ n.toInt = -Nat.ofDigitChars 10 digits 0)

theorem int64?_eq_some_iff (m : Int) (n : Int64) : int64? m = some n ↔ n.toInt = m := by
  constructor
  · exact toInt_of_int64?
  · rintro rfl
    exact int64?_toInt n

theorem digits?_eq_some_iff (cs : List Char) (n : Nat) :
    digits? cs = some n ↔
      cs ≠ [] ∧ (∀ c ∈ cs, c.isDigit = true) ∧ n = Nat.ofDigitChars 10 cs 0 := by
  rw [digits?, Option.ite_none_right_eq_some, List.all_eq_true, and_assoc, Option.some_inj,
    eq_comm (a := n)]

/-- Digits without a sign are read as they stand. -/
theorem int?_digits {digits : List Char} (hdigits : ∀ c ∈ digits, c.isDigit = true) :
    int? digits = (digits? digits).map Int.ofNat := by
  unfold int?
  split
  · exact absurd (hdigits '+' List.mem_cons_self) (by decide)
  · exact absurd (hdigits '-' List.mem_cons_self) (by decide)
  · rfl

/-- The reader of integers takes just what spells one. -/
theorem read?_eq_some_iff (source : String) (n : Int64) :
    read? source = some n ↔ Spells source.toList n := by
  unfold read? Spells
  generalize source.toList = cs
  simp only [Option.bind_eq_some_iff, int64?_eq_some_iff, exists_eq_right']
  constructor
  · intro h
    unfold int? at h
    split at h
    all_goals
      obtain ⟨m, hm, hn⟩ := Option.map_eq_some_iff.mp h
      obtain ⟨hne, hall, rfl⟩ := (digits?_eq_some_iff _ _).mp hm
    · exact ⟨_, hne, hall, Or.inl ⟨Or.inr rfl, hn.symm⟩⟩
    · exact ⟨_, hne, hall, Or.inr ⟨rfl, hn.symm⟩⟩
    · exact ⟨_, hne, hall, Or.inl ⟨Or.inl rfl, hn.symm⟩⟩
  · rintro ⟨digits, hne, hall, hcases⟩
    have hread := (digits?_eq_some_iff digits _).mpr ⟨hne, hall, rfl⟩
    rcases hcases with ⟨rfl | rfl, hn⟩ | ⟨rfl, hn⟩
    · rw [int?_digits hall, hread, hn]
      rfl
    · rw [int?, hread, hn]
      rfl
    · rw [int?, hread, hn]
      rfl

/-- What spells an integer has no white space in it, and it is not empty. -/
theorem Spells.solid {cs : List Char} {n : Int64} (h : Spells cs n) :
    cs ≠ [] ∧ ∀ c ∈ cs, isBlank c = false := by
  have hdigit : ∀ c : Char, c.isDigit = true → isBlank c = false := by
    intro c hc
    have hvalues : 48 ≤ c.val ∧ c.val ≤ 57 := by simpa [Char.isDigit] using hc
    have hrange : 48 ≤ c.toNat ∧ c.toNat ≤ 57 := hvalues
    simp only [isBlank, Bool.or_eq_false_iff, Bool.and_eq_false_iff, decide_eq_false_iff_not,
      beq_eq_false_iff_ne]
    omega
  obtain ⟨digits, hne, hall, hcases⟩ := h
  have hsolid : ∀ c ∈ digits, isBlank c = false := fun c hc => hdigit c (hall c hc)
  rcases hcases with ⟨rfl | rfl, _⟩ | ⟨rfl, _⟩
  · exact ⟨hne, hsolid⟩
  · exact ⟨List.cons_ne_nil _ _, List.forall_mem_cons.mpr ⟨by decide, hsolid⟩⟩
  · exact ⟨List.cons_ne_nil _ _, List.forall_mem_cons.mpr ⟨by decide, hsolid⟩⟩

end Decimal

/-- Text without white space keeps its front, whatever follows it. -/
theorem trimLeft_solid {core : List Char} (hne : core ≠ [])
    (hsolid : ∀ c ∈ core, isBlank c = false) (rest : List Char) :
    trimLeft (core ++ rest) = core ++ rest := by
  cases core with
  | nil => exact absurd rfl hne
  | cons c core =>
      rw [trimLeft, List.cons_append, List.dropWhile_cons_of_neg]
      rw [hsolid c List.mem_cons_self]
      exact Bool.false_ne_true

/-- Trimming takes away the white space around a text without any. -/
theorem trimBlanks_surrounded {source : String} {before core after : List Char}
    (hsource : source.toList = before ++ core ++ after)
    (hbefore : ∀ c ∈ before, isBlank c = true) (hafter : ∀ c ∈ after, isBlank c = true)
    (hne : core ≠ []) (hsolid : ∀ c ∈ core, isBlank c = false) :
    (trimBlanks source).toList = core := by
  have hback : ∀ c ∈ after.reverse, isBlank c = true :=
    fun c hc => hafter c (List.mem_reverse.mp hc)
  have hcore : ∀ c ∈ core.reverse, isBlank c = false :=
    fun c hc => hsolid c (List.mem_reverse.mp hc)
  have hreverse := trimLeft_solid (List.reverse_ne_nil_iff.mpr hne) hcore []
  rw [List.append_nil] at hreverse
  have hfront : trimLeft source.toList = core ++ after := by
    rw [hsource, List.append_assoc, trimLeft, List.dropWhile_append_of_pos hbefore]
    exact trimLeft_solid hne hsolid after
  rw [trimBlanks, String.toList_ofList, hfront, List.reverse_append, trimLeft,
    List.dropWhile_append_of_pos hback, ← trimLeft, hreverse, List.reverse_reverse]

/-- A text is what is left of it after trimming, with white space around it. -/
theorem exists_trimBlanks (source : String) :
    ∃ before after, source.toList = before ++ (trimBlanks source).toList ++ after ∧
      (∀ c ∈ before, isBlank c = true) ∧ ∀ c ∈ after, isBlank c = true := by
  have hsplit : ∀ cs : List Char,
      ∃ front, cs = front ++ trimLeft cs ∧ ∀ c ∈ front, isBlank c = true := fun cs =>
    ⟨cs.takeWhile isBlank, List.takeWhile_append_dropWhile.symm,
      fun c hc => List.all_eq_true.mp List.all_takeWhile c hc⟩
  obtain ⟨before, hbefore, hblank⟩ := hsplit source.toList
  obtain ⟨after, hafter, hblankAfter⟩ := hsplit (trimLeft source.toList).reverse
  refine ⟨before, after.reverse, ?_, hblank, fun c hc => hblankAfter c (List.mem_reverse.mp hc)⟩
  rw [trimBlanks, String.toList_ofList, List.append_assoc, ← List.reverse_append, ← hafter,
    List.reverse_reverse]
  exact hbefore

/-- Whether a value is an integer: a number, or a text that spells one between white space. -/
def ParamValue.IsInteger : ParamValue → Prop
  | .int _ => True
  | .text value => ∃ before core after n, value.toList = before ++ core ++ after ∧
      (∀ c ∈ before, isBlank c = true) ∧ (∀ c ∈ after, isBlank c = true) ∧ Decimal.Spells core n

theorem ParamValue.isInteger_text_iff (value : String) :
    (ParamValue.text value).IsInteger ↔ ∃ n, Decimal.read? (trimBlanks value) = some n := by
  simp only [IsInteger, Decimal.read?_eq_some_iff]
  constructor
  · rintro ⟨before, core, after, n, hvalue, hbefore, hafter, hspells⟩
    obtain ⟨hne, hsolid⟩ := hspells.solid
    exact ⟨n, by rwa [trimBlanks_surrounded hvalue hbefore hafter hne hsolid]⟩
  · rintro ⟨n, hspells⟩
    obtain ⟨before, after, hvalue, hbefore, hafter⟩ := exists_trimBlanks value
    exact ⟨before, _, after, n, hvalue, hbefore, hafter, hspells⟩

/-- Reading a value as an integer gives one, or it is a text that is none. -/
theorem ParamValue.asInt_cases (value : ParamValue) :
    (value.IsInteger ∧ ∃ found, value.asInt = .ok found) ∨
      ∃ text, value = .text text ∧ ¬value.IsInteger ∧
        value.asInt = .error (.invalidFilter (.notInteger text)) := by
  cases value with
  | int n => exact Or.inl ⟨trivial, _, rfl⟩
  | text text =>
      rw [isInteger_text_iff, asInt]
      cases hread : Decimal.read? (trimBlanks text) with
      | none => exact Or.inr ⟨text, rfl, by simp, rfl⟩
      | some n => exact Or.inl ⟨⟨n, rfl⟩, _, rfl⟩

section Lists

variable {E A B : Type} {f : A → Except E B} {items : List A}

/-- Reading a list gives what is read for each item. -/
theorem mapM_eq_ok_iff {values : List B} :
    items.mapM f = .ok values ↔
      List.Forall₂ (fun item value => f item = .ok value) items values := by
  induction items generalizing values with
  | nil =>
      rw [List.mapM_nil, List.forall₂_nil_left_iff]
      constructor
      · rintro ⟨⟩
        rfl
      · rintro rfl
        rfl
  | cons item rest ih =>
      rw [List.mapM_cons, List.forall₂_cons_left_iff]
      constructor
      · intro h
        obtain ⟨value, hvalue, hrest⟩ := bind_eq_ok h
        obtain ⟨others, hothers, hvalues⟩ := bind_eq_ok hrest
        cases hvalues
        exact ⟨value, others, hvalue, ih.mp hothers, rfl⟩
      · rintro ⟨value, others, hvalue, hothers, rfl⟩
        rw [hvalue, ih.mpr hothers]
        rfl

/-- A list whose items can all be read can be read. -/
theorem exists_mapM_ok (h : ∀ item ∈ items, ∃ value, f item = .ok value) :
    ∃ values, items.mapM f = .ok values := by
  induction items with
  | nil => exact ⟨[], rfl⟩
  | cons item rest ih =>
      obtain ⟨⟨value, hvalue⟩, hrest⟩ := List.forall_mem_cons.mp h
      obtain ⟨values, hvalues⟩ := ih hrest
      refine ⟨value :: values, ?_⟩
      rw [List.mapM_cons, hvalue, hvalues]
      rfl

/-- Reading a list ends with what is wrong with the first item that cannot be read. -/
theorem mapM_eq_error {front back : List A} {item : A} {error : E}
    (hfront : ∀ other ∈ front, ∃ value, f other = .ok value) (hitem : f item = .error error) :
    (front ++ item :: back).mapM f = .error error := by
  induction front with
  | nil =>
      rw [List.nil_append, List.mapM_cons, hitem]
      rfl
  | cons other rest ih =>
      obtain ⟨⟨value, hvalue⟩, hrest⟩ := List.forall_mem_cons.mp hfront
      rw [List.cons_append, List.mapM_cons, hvalue, ih hrest]
      rfl

/-- The first item of a list that a test fails for, if it fails for any. -/
theorem exists_first_not {P : A → Prop} (h : ¬∀ item ∈ items, P item) :
    ∃ front item back, items = front ++ item :: back ∧ (∀ other ∈ front, P other) ∧ ¬P item := by
  induction items with
  | nil => simp at h
  | cons item rest ih =>
      by_cases hitem : P item
      · have hrest : ¬∀ other ∈ rest, P other :=
          fun hall => h (List.forall_mem_cons.mpr ⟨hitem, hall⟩)
        obtain ⟨front, first, back, rfl, hfront, hfirst⟩ := ih hrest
        exact ⟨item :: front, first, back, rfl, List.forall_mem_cons.mpr ⟨hitem, hfront⟩, hfirst⟩
      · exact ⟨[], item, rest, rfl, by simp, hitem⟩

end Lists

theorem asInts_eq_mapM (values : List ParamValue) :
    asInts values = values.mapM ParamValue.asInt := by
  induction values with
  | nil => rfl
  | cons value rest ih => rw [asInts, List.mapM_cons, ih]

/-- The values of a list are all integers, or the first one that is none is what is wrong
with it. -/
theorem asInts_cases (values : List ParamValue) :
    ((∀ value ∈ values, value.IsInteger) ∧ ∃ found, asInts values = .ok found) ∨
      ∃ front text back, values = front ++ .text text :: back ∧
        (∀ value ∈ front, value.IsInteger) ∧ ¬(ParamValue.text text).IsInteger ∧
        asInts values = .error (.invalidFilter (.notInteger text)) := by
  have hread : ∀ value : ParamValue, value.IsInteger → ∃ found, value.asInt = .ok found := by
    intro value hvalue
    rcases value.asInt_cases with ⟨_, hfound⟩ | ⟨_, _, hnot, _⟩
    · exact hfound
    · exact absurd hvalue hnot
  rw [asInts_eq_mapM]
  by_cases hall : ∀ value ∈ values, value.IsInteger
  · left
    exact ⟨hall, exists_mapM_ok fun value hvalue => hread value (hall value hvalue)⟩
  · right
    obtain ⟨front, value, back, rfl, hfront, hvalue⟩ := exists_first_not hall
    obtain ⟨text, rfl, _, herror⟩ := (value.asInt_cases).resolve_left fun h => hvalue h.1
    exact ⟨front, text, back, rfl, hfront, hvalue,
      mapM_eq_error (fun other hother => hread other (hfront other hother)) herror⟩

namespace FilterValue

/-- The values of a list of JSON values: a text, a boolean that counts as one or zero, or a
64-bit integer. -/
inductive Scalar : Json → ParamValue → Prop
  | text (value : String) : Scalar (.text value) (.text value)
  | bool (value : Bool) : Scalar (.bool value) (.int (if value then 1 else 0))
  | int (value : Int64) : Scalar (.ofInt64 value) (.int value)

/-- What JSON values stand for as the value of a filter: null for none, a scalar for a single
value, and a list of scalars for a list. -/
inductive Given : Json → FilterValue → Prop
  | none : Given .null .none
  | single {json : Json} {value : ParamValue} (h : Scalar json value) : Given json (.single value)
  | list {items : List Json} {values : List ParamValue} (h : List.Forall₂ Scalar items values) :
      Given (.array items) (.list values)

/-- What is wrong with a JSON value that is no scalar. -/
def scalarProblem : Json → FilterProblem
  | .number value => .fractional value
  | other => .unsupportedValue other

theorem scalarOfJson_eq_ok_iff (json : Json) (value : ParamValue) :
    scalarOfJson json = .ok value ↔ Scalar json value := by
  constructor
  · intro h
    cases json with
    | text text =>
        cases h
        exact .text text
    | bool bit =>
        cases h
        exact .bool bit
    | number number =>
        rw [scalarOfJson] at h
        split at h
        · rename_i n hnumber
          cases h
          cases number with
          | int m =>
              rw [← (Decimal.int64?_eq_some_iff m n).mp hnumber]
              exact .int n
          | double => cases hnumber
        · cases h
    | null => cases h
    | array => cases h
    | object => cases h
  · rintro (text | bit | n)
    · rfl
    · rfl
    · simp only [Json.ofInt64, scalarOfJson, JsonNumber.int64?, Decimal.int64?_toInt]

theorem scalarOfJson_of_not {json : Json} (h : ∀ value, ¬Scalar json value) :
    scalarOfJson json = .error (.invalidFilter (scalarProblem json)) := by
  cases hread : scalarOfJson json with
  | ok value => exact absurd ((scalarOfJson_eq_ok_iff json value).mp hread) (h value)
  | error error =>
      cases json with
      | text => cases hread
      | bool => cases hread
      | number number =>
          rw [scalarOfJson] at hread
          split at hread
          · cases hread
          · cases hread
            rfl
      | null => cases hread; rfl
      | array => cases hread; rfl
      | object => cases hread; rfl

theorem scalarsOfJson_eq_mapM (items : List Json) :
    scalarsOfJson items = items.mapM scalarOfJson := by
  induction items with
  | nil => rfl
  | cons item rest ih => rw [scalarsOfJson, List.mapM_cons, ih]

theorem ofJson_single {json : Json} (hnull : json ≠ .null) (hlist : ∀ items, json ≠ .array items) :
    ofJson json = (scalarOfJson json).map .single := by
  cases json with
  | null => exact absurd rfl hnull
  | array items => exact absurd rfl (hlist items)
  | _ => rfl

/-- The reader of the value of a filter takes just null, scalars and lists of scalars. -/
theorem ofJson_eq_ok_iff (json : Json) (value : FilterValue) :
    ofJson json = .ok value ↔ Given json value := by
  constructor
  · intro h
    by_cases hnull : json = .null
    · subst hnull
      cases h
      exact .none
    by_cases hlist : ∃ items, json = .array items
    · obtain ⟨items, rfl⟩ := hlist
      obtain ⟨values, hvalues, rfl⟩ := exists_of_map_ok h
      rw [scalarsOfJson_eq_mapM, mapM_eq_ok_iff] at hvalues
      exact .list (hvalues.imp fun item single => (scalarOfJson_eq_ok_iff item single).mp)
    · rw [ofJson_single hnull (not_exists.mp hlist)] at h
      obtain ⟨single, hsingle, rfl⟩ := exists_of_map_ok h
      exact .single ((scalarOfJson_eq_ok_iff json single).mp hsingle)
  · rintro (_ | hsingle | hlist)
    · rfl
    · rw [ofJson_single, (scalarOfJson_eq_ok_iff _ _).mpr hsingle]
      · rfl
      · rintro rfl
        cases hsingle
      · rintro items rfl
        cases hsingle
    · have hvalues := hlist.imp fun item single => (scalarOfJson_eq_ok_iff item single).mpr
      rw [ofJson, scalarsOfJson_eq_mapM, mapM_eq_ok_iff.mpr hvalues]
      rfl

/-- What is wrong with a JSON value that stands for no value of a filter: the first item of a
list that is no scalar, or the value itself. -/
inductive Unreadable : Json → FilterProblem → Prop
  | single {json : Json} (hnull : json ≠ .null) (hlist : ∀ items, json ≠ .array items)
      (h : ∀ value, ¬Scalar json value) : Unreadable json (scalarProblem json)
  | list {front back : List Json} {item : Json}
      (hfront : ∀ other ∈ front, ∃ value, Scalar other value)
      (hitem : ∀ value, ¬Scalar item value) :
      Unreadable (.array (front ++ item :: back)) (scalarProblem item)

theorem ofJson_of_not {json : Json} (h : ∀ value, ¬Given json value) :
    ∃ problem, Unreadable json problem ∧ ofJson json = .error (.invalidFilter problem) := by
  have hnull : json ≠ .null := by
    rintro rfl
    exact h _ .none
  by_cases hlist : ∃ items, json = .array items
  · obtain ⟨items, rfl⟩ := hlist
    have hsome : ¬∀ item ∈ items, ∃ value, Scalar item value := by
      intro hall
      obtain ⟨values, hvalues⟩ := exists_mapM_ok (f := scalarOfJson) fun item hitem =>
        (hall item hitem).imp fun value => (scalarOfJson_eq_ok_iff item value).mpr
      rw [mapM_eq_ok_iff] at hvalues
      exact h _ (.list (hvalues.imp fun item single => (scalarOfJson_eq_ok_iff item single).mp))
    obtain ⟨front, item, back, rfl, hfront, hitem⟩ := exists_first_not hsome
    refine ⟨_, .list hfront (not_exists.mp hitem), ?_⟩
    have hreadable : ∀ other ∈ front, ∃ value, scalarOfJson other = .ok value :=
      fun other hother => (hfront other hother).imp fun value =>
        (scalarOfJson_eq_ok_iff other value).mpr
    rw [ofJson, scalarsOfJson_eq_mapM,
      mapM_eq_error hreadable (scalarOfJson_of_not (not_exists.mp hitem))]
    rfl
  · have hscalar : ∀ value, ¬Scalar json value := fun value hvalue => h _ (.single hvalue)
    refine ⟨_, .single hnull (not_exists.mp hlist) hscalar, ?_⟩
    rw [ofJson_single hnull (not_exists.mp hlist), scalarOfJson_of_not hscalar]
    rfl

end FilterValue

/-- The texts that stand for an operator: its key, and a sign for equality and for its
negation. -/
def Operator.NamedBy (op : Operator) (text : String) : Prop :=
  text = op.key ∨ op = .eq ∧ text = "=" ∨ op = .neq ∧ text = "!="

theorem Operator.ofKey?_eq_some_iff (text : String) (op : Operator) :
    ofKey? text = some op ↔ op.NamedBy text := by
  constructor
  · intro h
    unfold ofKey? at h
    split at h
    · rename_i hequal
      cases h
      exact Or.inr (Or.inl ⟨rfl, hequal⟩)
    · split at h
      · rename_i hunequal
        cases h
        exact Or.inr (Or.inr ⟨rfl, hunequal⟩)
      · have hkey := List.find?_some h
        exact Or.inl (beq_iff_eq.mp hkey).symm
  · rintro (rfl | ⟨rfl, rfl⟩ | ⟨rfl, rfl⟩)
    · exact ofKey?_key op
    · rfl
    · rfl

/-- Whether a character is a letter of ASCII. -/
def IsAsciiLetter (c : Char) : Prop := ('A' ≤ c ∧ c ≤ 'Z') ∨ ('a' ≤ c ∧ c ≤ 'z')

/-- Whether a text is a letter or underscore with letters, digits and underscores behind it,
all of them of ASCII. -/
def IsIdentifier (text : String) : Prop :=
  ∃ first rest, text.toList = first :: rest ∧ (IsAsciiLetter first ∨ first = '_') ∧
    ∀ c ∈ rest, IsAsciiLetter c ∨ ('0' ≤ c ∧ c ≤ '9') ∨ c = '_'

theorem isUpper_iff_between (c : Char) : c.isUpper = true ↔ 'A' ≤ c ∧ c ≤ 'Z' :=
  decide_eq_true_iff

theorem isLower_iff_between (c : Char) : c.isLower = true ↔ 'a' ≤ c ∧ c ≤ 'z' := by
  change (decide ('a' ≤ c) && decide (c ≤ 'z')) = true ↔ _
  rw [Bool.and_eq_true, decide_eq_true_iff, decide_eq_true_iff]

theorem isDigit_iff_between (c : Char) : c.isDigit = true ↔ '0' ≤ c ∧ c ≤ '9' := by
  change (decide ('0' ≤ c) && decide (c ≤ '9')) = true ↔ _
  rw [Bool.and_eq_true, decide_eq_true_iff, decide_eq_true_iff]

theorem isAlpha_iff_asciiLetter (c : Char) : c.isAlpha = true ↔ IsAsciiLetter c := by
  change (c.isUpper || c.isLower) = true ↔ _
  rw [Bool.or_eq_true, isUpper_iff_between, isLower_iff_between]
  exact Iff.rfl

theorem isSeed_iff (seed : String) : isSeed seed = true ↔ IsIdentifier seed := by
  unfold isSeed IsIdentifier
  split
  · rename_i hnil
    simp [hnil]
  · rename_i first rest hcons
    simp [hcons, isSeedStart, isSeedRest, Char.isAlphanum, isAlpha_iff_asciiLetter,
      isDigit_iff_between, or_assoc]

/-- What a stored filter is about: a field, or the items of an object. -/
inductive Aim
  | field (id : Int64)
  | items (object : Int64)

namespace Aim

open SegmentFilter (behind? fieldMark itemMark readId readCondition)

def id : Aim → Int64
  | .field id => id
  | .items object => object

/-- What the text of an aim starts with. -/
def mark : Aim → String
  | .field _ => "cmf_"
  | .items _ => "cmo_"

/-- Whether a text is the mark of an aim with what spells its id behind it. -/
def NamedBy (aim : Aim) (text : String) : Prop :=
  ∃ id, text.toList = aim.mark.toList ++ id ∧ Decimal.Spells id aim.id

/-- Reads what a filter is about. -/
def read (text : String) : Except QueryError Aim :=
  match behind? fieldMark text with
  | some id => (readId text id).map .field
  | none =>
    match behind? itemMark text with
    | some id => (readId text id).map .items
    | none => .error (.invalidFilter (.notCustom text))

/-- The filter with an aim and a condition. -/
def filter (aim : Aim) (glue : Glue) (condition : ValueCondition) : SegmentFilter :=
  match aim with
  | .field id => .customField glue ⟨id, some condition⟩
  | .items object => .customItem glue ⟨object, some condition⟩

theorem ofRaw_custom {raw : RawFilter} (h : raw.object = "custom_object") :
    SegmentFilter.ofRaw raw =
      (read raw.field >>= fun aim => (readCondition raw).map (aim.filter raw.glue)) := by
  have hcustom : ¬raw.object ≠ SegmentFilter.customObject := not_not.mpr h
  rw [SegmentFilter.ofRaw, if_neg hcustom, read]
  cases behind? fieldMark raw.field with
  | some id =>
      dsimp only
      cases readId raw.field id with
      | error => rfl
      | ok field => cases readCondition raw <;> rfl
  | none =>
      dsimp only
      cases behind? itemMark raw.field with
      | none => rfl
      | some id =>
          dsimp only
          cases readId raw.field id with
          | error => rfl
          | ok object => cases readCondition raw <;> rfl

theorem ofRaw_native {raw : RawFilter} (h : raw.object ≠ "custom_object") :
    SegmentFilter.ofRaw raw = .ok (.native raw) := by
  have hnative : raw.object ≠ SegmentFilter.customObject := h
  rw [SegmentFilter.ofRaw, if_pos hnative]

theorem behind?_eq_some_iff (mark text id : String) :
    behind? mark text = some id ↔ text.toList = mark.toList ++ id.toList := by
  rw [behind?, Option.ite_none_right_eq_some, Option.some_inj, List.isPrefixOf_iff_prefix]
  constructor
  · rintro ⟨⟨rest, hrest⟩, rfl⟩
    rw [← hrest, String.toList_ofList, List.drop_left]
  · intro htext
    rw [htext, List.drop_left, String.ofList_toList]
    exact ⟨List.prefix_append _ _, rfl⟩

/-- No text starts with both marks. -/
theorem behind?_fieldMark_of_itemMark {text : String} {id : List Char}
    (h : text.toList = itemMark.toList ++ id) : behind? fieldMark text = none := by
  rw [Option.eq_none_iff_forall_ne_some]
  intro other hother
  rw [behind?_eq_some_iff, h] at hother
  simp [fieldMark, itemMark] at hother

theorem readId_eq_ok_iff (text id : String) (n : Int64) :
    readId text id = .ok n ↔ Decimal.Spells id.toList n := by
  rw [← Decimal.read?_eq_some_iff, readId]
  cases Decimal.read? id <;> simp

theorem readId_of_not {text id : String} (h : ∀ n, ¬Decimal.Spells id.toList n) :
    readId text id = .error (.invalidFilter (.noId text)) := by
  rw [readId]
  cases hread : Decimal.read? id with
  | none => rfl
  | some n => exact absurd ((Decimal.read?_eq_some_iff id n).mp hread) (h n)

theorem read_fieldMark {text id : String} (h : behind? fieldMark text = some id) :
    read text = (readId text id).map .field := by
  rw [read, h]

theorem read_itemMark {text id : String} (h : behind? itemMark text = some id) :
    read text = (readId text id).map .items := by
  have hfield := behind?_fieldMark_of_itemMark ((behind?_eq_some_iff _ _ _).mp h)
  rw [read, hfield]
  dsimp only
  rw [h]

/-- The reader of aims takes just the texts of aims. -/
theorem read_eq_ok_iff (text : String) (aim : Aim) : read text = .ok aim ↔ aim.NamedBy text := by
  constructor
  · intro h
    unfold read at h
    split at h
    · rename_i id hid
      obtain ⟨n, hn, rfl⟩ := exists_of_map_ok h
      exact ⟨id.toList, (behind?_eq_some_iff _ _ _).mp hid, (readId_eq_ok_iff _ _ _).mp hn⟩
    · split at h
      · rename_i id hid
        obtain ⟨n, hn, rfl⟩ := exists_of_map_ok h
        exact ⟨id.toList, (behind?_eq_some_iff _ _ _).mp hid, (readId_eq_ok_iff _ _ _).mp hn⟩
      · cases h
  · rintro ⟨id, htext, hspells⟩
    have hid : behind? aim.mark text = some (String.ofList id) := by
      rw [behind?_eq_some_iff, String.toList_ofList]
      exact htext
    have hread : readId text (String.ofList id) = .ok aim.id := by
      rw [readId_eq_ok_iff, String.toList_ofList]
      exact hspells
    cases aim with
    | field n =>
        rw [read_fieldMark hid, hread]
        rfl
    | items n =>
        rw [read_itemMark hid, hread]
        rfl

/-- Whether a text starts with the mark of an aim. -/
def Marked (text : String) : Prop := ∃ aim : Aim, aim.mark.toList <+: text.toList

/-- A text that is no aim has the mark of one without an id behind it, or no mark. -/
theorem read_of_not {text : String} (h : ∀ aim : Aim, ¬aim.NamedBy text) :
    (Marked text ∧ read text = .error (.invalidFilter (.noId text))) ∨
      ¬Marked text ∧ read text = .error (.invalidFilter (.notCustom text)) := by
  by_cases hmarked : Marked text
  · left
    refine ⟨hmarked, ?_⟩
    obtain ⟨aim, id, hid⟩ := hmarked
    have hbehind : behind? aim.mark text = some (String.ofList id) := by
      rw [behind?_eq_some_iff, String.toList_ofList, hid]
    cases aim with
    | field =>
        rw [read_fieldMark hbehind, readId_of_not]
        · rfl
        · intro n hspells
          rw [String.toList_ofList] at hspells
          exact h (.field n) ⟨id, hid.symm, hspells⟩
    | items =>
        rw [read_itemMark hbehind, readId_of_not]
        · rfl
        · intro n hspells
          rw [String.toList_ofList] at hspells
          exact h (.items n) ⟨id, hid.symm, hspells⟩
  · right
    refine ⟨hmarked, ?_⟩
    have hnone : ∀ aim : Aim, behind? aim.mark text = none := by
      intro aim
      rw [Option.eq_none_iff_forall_ne_some]
      intro id hid
      rw [behind?_eq_some_iff] at hid
      exact hmarked ⟨aim, id.toList, hid.symm⟩
    have hfield : behind? fieldMark text = none := hnone (.field 0)
    have hitems : behind? itemMark text = none := hnone (.items 0)
    rw [read, hfield]
    dsimp only
    rw [hitems]

end Aim

namespace ValueCondition

open SegmentFilter (readCondition)

/-- Whether a condition is the one of a stored filter: its operator is the named one, and its
value is the given one if the operator takes any. -/
def GivenBy (condition : ValueCondition) (raw : RawFilter) : Prop :=
  condition.op.NamedBy raw.operator ∧
    if condition.op.takesNoValue then condition.value = .none
    else FilterValue.Given raw.filter condition.value

/-- The reader of conditions takes just the conditions of stored filters. -/
theorem readCondition_eq_ok_iff (raw : RawFilter) (condition : ValueCondition) :
    readCondition raw = .ok condition ↔ condition.GivenBy raw := by
  rw [GivenBy, ← Operator.ofKey?_eq_some_iff, readCondition]
  cases hop : Operator.ofKey? raw.operator with
  | none => simp
  | some op =>
      dsimp only
      rw [Option.some_inj]
      obtain ⟨named, value⟩ := condition
      split
      · rename_i hnone
        constructor
        · rintro ⟨⟩
          exact ⟨rfl, by rw [if_pos hnone]⟩
        · rintro ⟨rfl, hvalue⟩
          rw [if_pos hnone] at hvalue
          obtain rfl : value = .none := hvalue
          rfl
      · rename_i hsome
        constructor
        · intro h
          obtain ⟨given, hgiven, hcondition⟩ := exists_of_map_ok h
          cases hcondition
          rw [FilterValue.ofJson_eq_ok_iff] at hgiven
          exact ⟨rfl, by rwa [if_neg hsome]⟩
        · rintro ⟨rfl, hvalue⟩
          rw [if_neg hsome] at hvalue
          rw [(FilterValue.ofJson_eq_ok_iff _ _).mpr hvalue]
          rfl

theorem readCondition_of_unnamed {raw : RawFilter} (h : ∀ op : Operator, ¬op.NamedBy raw.operator) :
    readCondition raw = .error (.invalidFilter (.unknownOperator raw.operator)) := by
  rw [readCondition]
  cases hop : Operator.ofKey? raw.operator with
  | none => rfl
  | some op => exact absurd ((Operator.ofKey?_eq_some_iff _ _).mp hop) (h op)

/-- A stored filter with a known operator and no condition has a value that cannot be read. -/
theorem readCondition_of_not {raw : RawFilter} {op : Operator} (hop : op.NamedBy raw.operator)
    (h : ∀ condition : ValueCondition, ¬condition.GivenBy raw) :
    ∃ problem, FilterValue.Unreadable raw.filter problem ∧
      readCondition raw = .error (.invalidFilter problem) := by
  have hvalue : op.takesNoValue = false := by
    by_contra hnone
    rw [Bool.not_eq_false] at hnone
    exact h ⟨op, .none⟩ ⟨hop, by rw [if_pos hnone]⟩
  have hnone : ¬op.takesNoValue = true := by simp [hvalue]
  have hgiven : ∀ value, ¬FilterValue.Given raw.filter value :=
    fun value hgiven => h ⟨op, value⟩ ⟨hop, by rwa [if_neg hnone]⟩
  obtain ⟨problem, hproblem, hread⟩ := FilterValue.ofJson_of_not hgiven
  refine ⟨problem, hproblem, ?_⟩
  rw [readCondition, (Operator.ofKey?_eq_some_iff _ _).mpr hop]
  dsimp only
  rw [if_neg hnone, hread]
  rfl

/-- Whether the value of a condition has the shape that the operator takes: anything where no
value is needed, one value, or at least one value for an operator that takes lists. -/
def HasShape (condition : ValueCondition) : Prop :=
  condition.op.takesNoValue = true ∨ (∃ value, condition.value = .single value) ∨
    condition.op.takesList = true ∧ ∃ values, values ≠ [] ∧ condition.value = .list values

/-- What is wrong with the shape of a value. -/
inductive WrongShape : ValueCondition → FilterProblem → Prop
  | none (op : Operator) : WrongShape ⟨op, .none⟩ (.needsValue op)
  | empty (op : Operator) (h : op.takesList = true) : WrongShape ⟨op, .list []⟩ (.needsList op)
  | list (op : Operator) (values : List ParamValue) (h : op.takesList = false) :
      WrongShape ⟨op, .list values⟩ (.takesSingle op)

theorem operands_of_hasShape {condition : ValueCondition} (h : condition.HasShape) :
    condition.operands = .ok (if condition.op.takesNoValue then [] else condition.given) := by
  obtain ⟨op, value⟩ := condition
  simp only [operands, given]
  split
  · rfl
  · rename_i hsome
    rcases h with hnone | ⟨single, hsingle⟩ | ⟨hlist, values, hfull, hvalues⟩
    · exact absurd hnone hsome
    · cases hsingle
      rfl
    · cases hvalues
      have hempty : ¬values.isEmpty = true := by simpa using hfull
      simp only [if_neg hempty, if_pos hlist]

theorem operands_of_not {condition : ValueCondition} (h : ¬condition.HasShape) :
    ∃ problem, WrongShape condition problem ∧
      condition.operands = .error (.invalidFilter problem) := by
  obtain ⟨op, value⟩ := condition
  have hnone : ¬op.takesNoValue = true := fun hnone => h (Or.inl hnone)
  simp only [operands, if_neg hnone]
  cases value with
  | none => exact ⟨_, .none op, rfl⟩
  | single value => exact absurd (Or.inr (Or.inl ⟨value, rfl⟩)) h
  | list values =>
      dsimp only
      cases hlist : op.takesList with
      | false => exact ⟨_, .list op values hlist, rfl⟩
      | true =>
          have hempty : values = [] := by
            by_contra hfull
            exact h (Or.inr (Or.inr ⟨hlist, values, hfull, rfl⟩))
          subst hempty
          exact ⟨_, .empty op hlist, rfl⟩

end ValueCondition

end SegmentPaths
