/-
The text of a statement taken apart again, the way its dialect does it: words
whatever the case of their letters, names and strings between quote marks,
placeholders, numbers and marks.  What a run of tokens prints reads as the tokens
it was made of, as long as blanks and punctuation keep the others apart.
-/
import SegmentPaths.Sql.Token
import Mathlib.Data.List.Chain

namespace SegmentPaths

/-- What a statement is read as.  The words of IS NOT NULL stand on their own. -/
inductive Lexeme
  | keyword (word : Keyword)
  | isWord
  | nullWord
  | mark (sign : Mark)
  | name (ident : String)
  | param (ident : String)
  | int (value : Int64)
  | text (value : String)
deriving DecidableEq

/-- What a token has to read as.  Blanks leave nothing behind. -/
def Token.lexemes : Token → List Lexeme
  | .keyword .ISNOTNULL => [.isWord, .keyword .NOT, .nullWord]
  | .keyword word => [.keyword word]
  | .mark sign => [.mark sign]
  | .space => []
  | .name ident => [.name ident]
  | .param ident => [.param ident]
  | .int value => [.int value]
  | .text value => [.text value]

def isWordStart (c : Char) : Bool := c.isAlpha || c == '_'

def isWordRest (c : Char) : Bool := c.isAlphanum || c == '_'

/-- A letter or an underscore, and then letters, digits and underscores. -/
def isPlainWord (word : List Char) : Bool :=
  match word with
  | [] => false
  | first :: rest => isWordStart first && rest.all isWordRest

/-- The characters that a character behind a backslash stands for in MySQL.  The
wildcards of a pattern keep the backslash. -/
def escapedChars : Char → List Char
  | '0' => ['\x00']
  | 'b' => ['\x08']
  | 'n' => ['\n']
  | 'r' => ['\r']
  | 't' => ['\t']
  | 'Z' => ['\x1a']
  | '%' => ['\\', '%']
  | '_' => ['\\', '_']
  | c => [c]

/-- The characters up to the closing mark, and what stands behind it.  A mark
that is written twice stands for itself, and so does a character behind a
backslash where backslashes escape. -/
def untilMark? (mark : Char) (escapes : Bool) : List Char → Option (List Char × List Char)
  | [] => none
  | [c] => if c = mark then some ([], []) else none
  | c :: next :: rest =>
    if c = mark then
      if next = mark then
        (untilMark? mark escapes rest).map (fun found => (mark :: found.1, found.2))
      else some ([], next :: rest)
    else if escapes = true ∧ c = '\\' then
      (untilMark? mark escapes rest).map (fun found => (escapedChars next ++ found.1, found.2))
    else (untilMark? mark escapes (next :: rest)).map (fun found => (c :: found.1, found.2))

/-- The longest mark that starts with a character. -/
def Mark.next? : Char → List Char → Option (Mark × List Char)
  | '<', '=' :: rest => some (.lessEqual, rest)
  | '<', '>' :: rest => some (.unequal, rest)
  | '<', rest => some (.less, rest)
  | '>', '=' :: rest => some (.greaterEqual, rest)
  | '>', rest => some (.greater, rest)
  | '=', rest => some (.equal, rest)
  | ',', rest => some (.comma, rest)
  | '.', rest => some (.dot, rest)
  | '(', rest => some (.opening, rest)
  | ')', rest => some (.closing, rest)
  | _, _ => none

/-- How a dialect takes the letters of a name without quotes. -/
def Dialect.bareName : Dialect → List Char → String
  | .postgres, word => String.ofList (word.map Char.toLower)
  | .mysql, word | .duckdb, word => String.ofList word

namespace Lexeme

/-- The keyword that a word is, whatever the case of its letters. -/
def keyword? (dialect : Dialect) (word : List Char) : Option Lexeme :=
  let upper := String.ofList (word.map Char.toUpper)
  if upper = "IS" then some .isWord
  else if upper = "NULL" then some .nullWord
  else (Keyword.all.find? (fun keyword => keyword.text dialect == upper)).map .keyword

/-- A word without quotes: a keyword, or else a name. -/
def ofWord (dialect : Dialect) (word : List Char) : Lexeme :=
  (keyword? dialect word).getD (.name (dialect.bareName word))

/-- The lexeme that starts with a character, and what stands behind it. -/
def next? (dialect : Dialect) (c : Char) (rest : List Char) : Option (Lexeme × List Char) :=
  if isWordStart c then
    some (ofWord dialect (c :: rest.takeWhile isWordRest), rest.dropWhile isWordRest)
  else if c.isDigit || c == '-' then
    ((Decimal.int? (c :: rest.takeWhile Char.isDigit)).bind Decimal.int64?).map
      (fun value => (.int value, rest.dropWhile Char.isDigit))
  else if c = dialect.nameMark then
    (untilMark? c false rest).map (fun found => (.name (String.ofList found.1), found.2))
  else if c = '\'' then
    (untilMark? c (dialect == .mysql) rest).map
      (fun found => (.text (String.ofList found.1), found.2))
  else if c = dialect.paramMark then
    if isPlainWord (rest.takeWhile isWordRest) then
      some (.param (String.ofList (rest.takeWhile isWordRest)), rest.dropWhile isWordRest)
    else none
  else if dialect.regexpOperator.toList = [c] then some (.keyword .REGEXP, rest)
  else (Mark.next? c rest).map (fun found => (.mark found.1, found.2))

end Lexeme

theorem length_of_untilMark? {mark : Char} {escapes : Bool} {cs : List Char}
    {found : List Char × List Char} (h : untilMark? mark escapes cs = some found) :
    found.2.length ≤ cs.length := by
  induction cs using untilMark?.induct mark escapes generalizing found with
  | case1 => cases h
  | case2 =>
      rw [untilMark?, if_pos rfl] at h
      cases h
      exact Nat.zero_le _
  | case3 c hne =>
      rw [untilMark?, if_neg hne] at h
      cases h
  | case4 rest ih =>
      rw [untilMark?, if_pos rfl, if_pos rfl, Option.map_eq_some_iff] at h
      obtain ⟨inner, hinner, rfl⟩ := h
      have hle := ih hinner
      simp only [List.length_cons]
      omega
  | case5 next rest hne =>
      rw [untilMark?, if_pos rfl, if_neg hne] at h
      cases h
      exact Nat.le_succ _
  | case6 c next rest hne hescape ih =>
      rw [untilMark?, if_neg hne, if_pos hescape, Option.map_eq_some_iff] at h
      obtain ⟨inner, hinner, rfl⟩ := h
      have hle := ih hinner
      simp only [List.length_cons]
      omega
  | case7 c next rest hne hescape ih =>
      rw [untilMark?, if_neg hne, if_neg hescape, Option.map_eq_some_iff] at h
      obtain ⟨inner, hinner, rfl⟩ := h
      have hle := ih hinner
      exact Nat.le_trans hle (Nat.le_succ _)

theorem Mark.length_of_next? {c : Char} {rest : List Char} {found : Mark × List Char}
    (h : Mark.next? c rest = some found) : found.2.length ≤ rest.length := by
  unfold Mark.next? at h
  split at h <;> cases h <;> simp

theorem Lexeme.length_of_next? {dialect : Dialect} {c : Char} {rest : List Char}
    {found : Lexeme × List Char} (h : Lexeme.next? dialect c rest = some found) :
    found.2.length ≤ rest.length := by
  unfold Lexeme.next? at h
  split at h
  · cases h
    exact (List.dropWhile_sublist _).length_le
  split at h
  · obtain ⟨value, -, rfl⟩ := Option.map_eq_some_iff.mp h
    exact (List.dropWhile_sublist _).length_le
  split at h
  · obtain ⟨inner, hinner, rfl⟩ := Option.map_eq_some_iff.mp h
    exact length_of_untilMark? hinner
  split at h
  · obtain ⟨inner, hinner, rfl⟩ := Option.map_eq_some_iff.mp h
    exact length_of_untilMark? hinner
  split at h
  · split at h
    · cases h
      exact (List.dropWhile_sublist _).length_le
    · cases h
  split at h
  · cases h
    exact Nat.le_refl _
  · obtain ⟨inner, hinner, rfl⟩ := Option.map_eq_some_iff.mp h
    exact Mark.length_of_next? hinner

/-- The lexemes of a text, blanks between them left out. -/
def lexemes? (dialect : Dialect) : List Char → Option (List Lexeme)
  | [] => some []
  | c :: rest =>
    if c.isWhitespace then lexemes? dialect rest
    else
      match h : Lexeme.next? dialect c rest with
      | none => none
      | some (lexeme, behind) =>
        have : behind.length < rest.length + 1 := Nat.lt_succ_of_le (Lexeme.length_of_next? h)
        (lexemes? dialect behind).map (lexeme :: ·)
termination_by cs => cs.length

theorem lexemes?_blank (dialect : Dialect) (rest : List Char) :
    lexemes? dialect (' ' :: rest) = lexemes? dialect rest := by
  rw [lexemes?]
  rfl

theorem lexemes?_cons {dialect : Dialect} {c : Char} {rest behind : List Char} {lexeme : Lexeme}
    (hc : c.isWhitespace = false) (h : Lexeme.next? dialect c rest = some (lexeme, behind)) :
    lexemes? dialect (c :: rest) = (lexemes? dialect behind).map (lexeme :: ·) := by
  rw [lexemes?, if_neg (by simp [hc])]
  split
  · rename_i hnone
    rw [h] at hnone
    cases hnone
  · rename_i hsome
    rw [h] at hsome
    cases hsome
    rfl

/-- The characters that end words, numbers and whatever stands between quote marks. -/
def stops : List Char := [' ', ',', '.', '(', ')']

/-- A text that is empty or starts with a stop. -/
def Stopped (rest : List Char) : Prop := ∀ c ∈ rest.head?, c ∈ stops

theorem Stopped.eq_nil_or_cons {rest : List Char} (h : Stopped rest) :
    rest = [] ∨ ∃ c behind, rest = c :: behind ∧ c ∈ stops := by
  cases rest with
  | nil => exact Or.inl rfl
  | cons c behind => exact Or.inr ⟨c, behind, rfl, h c rfl⟩

theorem Stopped.head?_ne {rest : List Char} (h : Stopped rest) {mark : Char}
    (hmark : mark ∉ stops) : rest.head? ≠ some mark := by
  intro hhead
  exact hmark (h mark hhead)

/-- Taking characters ends at a stop. -/
theorem Stopped.takeWhile_append {rest : List Char} (h : Stopped rest) {p : Char → Bool}
    (hstops : ∀ c ∈ stops, p c = false) {word : List Char} (hword : ∀ c ∈ word, p c = true) :
    (word ++ rest).takeWhile p = word := by
  rw [List.takeWhile_append_of_pos hword]
  cases rest with
  | nil => simp
  | cons c rest => simp [hstops c (h c rfl)]

theorem Stopped.dropWhile_append {rest : List Char} (h : Stopped rest) {p : Char → Bool}
    (hstops : ∀ c ∈ stops, p c = false) {word : List Char} (hword : ∀ c ∈ word, p c = true) :
    (word ++ rest).dropWhile p = rest := by
  rw [List.dropWhile_append_of_pos hword]
  cases rest with
  | nil => rfl
  | cons c rest => simp [hstops c (h c rfl)]

theorem isWordRest_stops : ∀ c ∈ stops, isWordRest c = false := by
  simp only [stops, List.forall_mem_cons, List.not_mem_nil, false_implies, implies_true, and_true]
  decide

theorem isDigit_stops : ∀ c ∈ stops, c.isDigit = false := by
  simp only [stops, List.forall_mem_cons, List.not_mem_nil, false_implies, implies_true, and_true]
  decide

theorem untilMark?_cons {mark c : Char} {escapes : Bool} (hmark : c ≠ mark)
    (hescape : ¬(escapes = true ∧ c = '\\')) (rest : List Char) :
    untilMark? mark escapes (c :: rest) =
      (untilMark? mark escapes rest).map (fun found => (c :: found.1, found.2)) := by
  cases rest with
  | nil => simp [untilMark?, hmark]
  | cons next rest => rw [untilMark?, if_neg hmark, if_neg hescape]

theorem untilMark?_mark {mark : Char} {escapes : Bool} {rest : List Char}
    (hrest : rest.head? ≠ some mark) :
    untilMark? mark escapes (mark :: rest) = some ([], rest) := by
  cases rest with
  | nil => rw [untilMark?, if_pos rfl]
  | cons next rest =>
      have hnext : next ≠ mark := fun h => hrest (congrArg some h)
      rw [untilMark?, if_pos rfl, if_neg hnext]

theorem untilMark?_twice {mark : Char} {escapes : Bool} (rest : List Char) :
    untilMark? mark escapes (mark :: mark :: rest) =
      (untilMark? mark escapes rest).map (fun found => (mark :: found.1, found.2)) := by
  rw [untilMark?, if_pos rfl, if_pos rfl]

/-- Marks written twice are read as they were. -/
theorem untilMark?_doubled {mark : Char} {rest : List Char} (hrest : rest.head? ≠ some mark)
    (cs : List Char) :
    untilMark? mark false (doubled mark cs ++ mark :: rest) = some (cs, rest) := by
  induction cs with
  | nil => exact untilMark?_mark hrest
  | cons c cs ih =>
      rw [doubled]
      split
      · rename_i hmark
        subst hmark
        rw [List.cons_append, List.cons_append, untilMark?_twice, ih, Option.map_some]
      · rename_i hmark
        rw [List.cons_append, untilMark?_cons hmark (by simp), ih, Option.map_some]

/-- So are backslashes and marks where backslashes escape. -/
theorem untilMark?_doubled_backslash {mark : Char} (hbackslash : mark ≠ '\\')
    {rest : List Char} (hrest : rest.head? ≠ some mark) (cs : List Char) :
    untilMark? mark true (doubled mark (doubled '\\' cs) ++ mark :: rest) = some (cs, rest) := by
  induction cs with
  | nil => exact untilMark?_mark hrest
  | cons c cs ih =>
      by_cases hescape : c = '\\'
      · subst hescape
        rw [doubled, if_pos rfl, doubled, if_neg hbackslash.symm, doubled,
          if_neg hbackslash.symm, List.cons_append, List.cons_append, untilMark?,
          if_neg hbackslash.symm, if_pos ⟨rfl, rfl⟩, ih]
        rfl
      · rw [doubled, if_neg hescape, doubled]
        split
        · rename_i hmark
          subst hmark
          rw [List.cons_append, List.cons_append, untilMark?_twice, ih, Option.map_some]
        · rename_i hmark
          rw [List.cons_append, untilMark?_cons hmark (by simp [hescape]), ih, Option.map_some]

theorem isWordRest_of_isWordStart {c : Char} (h : isWordStart c = true) :
    isWordRest c = true := by
  simp only [isWordStart, isWordRest, Char.isAlphanum, Bool.or_eq_true] at h ⊢
  exact h.imp_left Or.inl

theorem isWhitespace_of_isWordStart {c : Char} (h : isWordStart c = true) :
    c.isWhitespace = false := by
  rw [Bool.eq_false_iff]
  intro hblank
  simp only [Char.isWhitespace, Bool.or_eq_true, decide_eq_true_eq] at hblank
  rcases hblank with ((rfl | rfl) | rfl) | rfl <;> revert h <;> decide

namespace Lexeme

/-- A word is read up to the stop behind it. -/
theorem next?_word {dialect : Dialect} {c : Char} {word rest : List Char}
    (hc : isWordStart c = true) (hword : ∀ d ∈ word, isWordRest d = true)
    (hrest : Stopped rest) :
    next? dialect c (word ++ rest) = some (ofWord dialect (c :: word), rest) := by
  rw [next?, if_pos hc, hrest.takeWhile_append isWordRest_stops hword,
    hrest.dropWhile_append isWordRest_stops hword]

/-- A keyword in capitals is read as the keyword. -/
theorem ofWord_text (dialect : Dialect) (word : Keyword) (hword : word ≠ .ISNOTNULL)
    (hplain : isPlainWord (word.text dialect).toList = true) :
    ofWord dialect (word.text dialect).toList = .keyword word := by
  revert hword hplain
  cases word <;> cases dialect <;> decide +kernel

end Lexeme

theorem isPlainWord_text (dialect : Dialect) (word : Keyword) (hword : word ≠ .ISNOTNULL) :
    isPlainWord (word.text dialect).toList = true ∨
      word = .REGEXP ∧ dialect ≠ .mysql := by
  revert hword
  cases word <;> cases dialect <;> decide

theorem isWordRest_of_isPlainWord {word : List Char} (h : isPlainWord word = true) :
    ∀ c ∈ word, isWordRest c = true := by
  cases word with
  | nil => cases h
  | cons first rest =>
      simp only [isPlainWord, Bool.and_eq_true, List.all_eq_true] at h
      intro c hc
      rcases List.mem_cons.mp hc with rfl | hc
      · exact isWordRest_of_isWordStart h.1
      · exact h.2 c hc

/-- A word is read on its own. -/
theorem lexemes?_word {dialect : Dialect} {word rest : List Char}
    (hword : isPlainWord word = true) (hrest : Stopped rest) :
    lexemes? dialect (word ++ rest) =
      (lexemes? dialect rest).map (Lexeme.ofWord dialect word :: ·) := by
  cases word with
  | nil => cases hword
  | cons c word =>
      simp only [isPlainWord, Bool.and_eq_true, List.all_eq_true] at hword
      exact lexemes?_cons (isWhitespace_of_isWordStart hword.1)
        (Lexeme.next?_word hword.1 hword.2 hrest)

/-- The characters that marks start with. -/
def markStarts : List Char := [',', '.', '(', ')', '=', '<', '>']

namespace Lexeme

theorem next?_nameMark (dialect : Dialect) (rest : List Char) :
    next? dialect dialect.nameMark rest =
      (untilMark? dialect.nameMark false rest).map
        (fun found => (.name (String.ofList found.1), found.2)) := by
  cases dialect <;> rfl

theorem next?_textMark (dialect : Dialect) (rest : List Char) :
    next? dialect '\'' rest =
      (untilMark? '\'' (dialect == .mysql) rest).map
        (fun found => (.text (String.ofList found.1), found.2)) := by
  cases dialect <;> rfl

theorem next?_paramMark (dialect : Dialect) {rest : List Char}
    (h : isPlainWord (rest.takeWhile isWordRest) = true) :
    next? dialect dialect.paramMark rest =
      some (.param (String.ofList (rest.takeWhile isWordRest)), rest.dropWhile isWordRest) := by
  have hread : next? dialect dialect.paramMark rest =
      if isPlainWord (rest.takeWhile isWordRest) then
        some (.param (String.ofList (rest.takeWhile isWordRest)), rest.dropWhile isWordRest)
      else none := by
    cases dialect <;> rfl
  rw [hread, if_pos h]

theorem next?_mark (dialect : Dialect) {c : Char} (hc : c ∈ markStarts)
    (rest : List Char) :
    next? dialect c rest = (Mark.next? c rest).map (fun found => (.mark found.1, found.2)) := by
  simp only [markStarts, List.mem_cons, List.not_mem_nil, or_false] at hc
  rcases hc with rfl | rfl | rfl | rfl | rfl | rfl | rfl <;> cases dialect <;> rfl

theorem next?_regexp {dialect : Dialect} (h : dialect ≠ .mysql) (rest : List Char) :
    next? dialect '~' rest = some (.keyword .REGEXP, rest) := by
  cases dialect with
  | mysql => exact absurd rfl h
  | postgres => rfl
  | duckdb => rfl

end Lexeme

/-- The tokens that keep their neighbours apart by themselves. -/
def Token.isBreak : Token → Bool
  | .space | .mark .comma | .mark .dot | .mark .opening | .mark .closing => true
  | _ => false

/-- Keywords that are printed bare as names, and placeholders that are no plain
words, read as something else. -/
def Token.Readable (dialect : Dialect) : Token → Prop
  | .name ident => isBareName ident = true → Lexeme.keyword? dialect ident.toList = none
  | .param ident => isPlainWord ident.toList = true
  | _ => True

instance (dialect : Dialect) (token : Token) : Decidable (token.Readable dialect) :=
  match token with
  | .name ident =>
    inferInstanceAs
      (Decidable (isBareName ident = true → Lexeme.keyword? dialect ident.toList = none))
  | .param ident => inferInstanceAs (Decidable (isPlainWord ident.toList = true))
  | .keyword _ | .mark _ | .space | .int _ | .text _ => isTrue trivial

/-- A mark is read up to its end. -/
theorem Mark.next?_text {sign : Mark} {rest : List Char}
    (hrest : Token.isBreak (.mark sign) = true ∨ Stopped rest) :
    ∃ c tail, sign.text.toList = c :: tail ∧ c ∈ markStarts ∧
      Mark.next? c (tail ++ rest) = some (sign, rest) := by
  cases sign with
  | comma => exact ⟨',', [], rfl, by decide, rfl⟩
  | dot => exact ⟨'.', [], rfl, by decide, rfl⟩
  | opening => exact ⟨'(', [], rfl, by decide, rfl⟩
  | closing => exact ⟨')', [], rfl, by decide, rfl⟩
  | equal => exact ⟨'=', [], rfl, by decide, rfl⟩
  | unequal => exact ⟨'<', ['>'], rfl, by decide, rfl⟩
  | lessEqual => exact ⟨'<', ['='], rfl, by decide, rfl⟩
  | greaterEqual => exact ⟨'>', ['='], rfl, by decide, rfl⟩
  | less =>
      refine ⟨'<', [], rfl, by decide, ?_⟩
      rcases (hrest.resolve_left (by decide)).eq_nil_or_cons with rfl | ⟨c, behind, rfl, hc⟩
      · rfl
      · simp only [stops, List.mem_cons, List.not_mem_nil, or_false] at hc
        rcases hc with rfl | rfl | rfl | rfl | rfl <;> rfl
  | greater =>
      refine ⟨'>', [], rfl, by decide, ?_⟩
      rcases (hrest.resolve_left (by decide)).eq_nil_or_cons with rfl | ⟨c, behind, rfl, hc⟩
      · rfl
      · simp only [stops, List.mem_cons, List.not_mem_nil, or_false] at hc
        rcases hc with rfl | rfl | rfl | rfl | rfl <;> rfl

theorem lexemes?_mark {dialect : Dialect} {sign : Mark} {rest : List Char}
    (hrest : Token.isBreak (.mark sign) = true ∨ Stopped rest) :
    lexemes? dialect (sign.text.toList ++ rest) =
      (lexemes? dialect rest).map (.mark sign :: ·) := by
  obtain ⟨c, tail, htext, hc, hnext⟩ := Mark.next?_text hrest
  have hblank : ∀ start ∈ markStarts, start.isWhitespace = false := by
    simp only [markStarts, List.forall_mem_cons, List.not_mem_nil, false_implies, implies_true,
      and_true]
    decide
  rw [htext, List.cons_append]
  exact lexemes?_cons (hblank c hc) (by rw [Lexeme.next?_mark dialect hc, hnext]; rfl)

theorem isAlpha_eq (c : Char) : c.isAlpha = (c.isUpper || c.isLower) := rfl

theorem isUpper_iff (c : Char) : c.isUpper = true ↔ 65 ≤ c.val.toNat ∧ c.val.toNat ≤ 90 := by
  change decide (c.val ≥ 'A'.val ∧ c.val ≤ 'Z'.val) = true ↔ _
  rw [decide_eq_true_iff, ge_iff_le, UInt32.le_iff_toNat_le, UInt32.le_iff_toNat_le]
  exact Iff.rfl

theorem isLower_iff (c : Char) : c.isLower = true ↔ 97 ≤ c.val.toNat ∧ c.val.toNat ≤ 122 := by
  change (decide (c.val ≥ 'a'.val) && decide (c.val ≤ 'z'.val)) = true ↔ _
  rw [Bool.and_eq_true, decide_eq_true_iff, decide_eq_true_iff, ge_iff_le,
    UInt32.le_iff_toNat_le, UInt32.le_iff_toNat_le]
  exact Iff.rfl

theorem isDigit_iff (c : Char) : c.isDigit = true ↔ 48 ≤ c.val.toNat ∧ c.val.toNat ≤ 57 := by
  change (decide (c.val ≥ '0'.val) && decide (c.val ≤ '9'.val)) = true ↔ _
  rw [Bool.and_eq_true, decide_eq_true_iff, decide_eq_true_iff, ge_iff_le,
    UInt32.le_iff_toNat_le, UInt32.le_iff_toNat_le]
  exact Iff.rfl

theorem isWordRest_of_isNameRest {c : Char} (h : isNameRest c = true) : isWordRest c = true := by
  simp only [isNameRest, isWordRest, Char.isAlphanum, isAlpha_eq, Bool.or_eq_true] at h ⊢
  rcases h with (h | h) | h
  · exact Or.inl (Or.inl (Or.inr h))
  · exact Or.inl (Or.inr h)
  · exact Or.inr h

theorem isWordStart_of_isNameStart {c : Char} (h : isNameStart c = true) :
    isWordStart c = true := by
  simp only [isNameStart, isWordStart, isAlpha_eq, Bool.or_eq_true] at h ⊢
  exact h.imp_left Or.inr

theorem isNameRest_of_isNameStart {c : Char} (h : isNameStart c = true) :
    isNameRest c = true := by
  simp only [isNameStart, isNameRest, Bool.or_eq_true] at h ⊢
  exact h.imp_left Or.inl

theorem toLower_of_isNameRest {c : Char} (h : isNameRest c = true) : c.toLower = c := by
  have hupper : c.isUpper = false := by
    rw [Bool.eq_false_iff, Ne, isUpper_iff]
    simp only [isNameRest, Bool.or_eq_true, isLower_iff, isDigit_iff, beq_iff_eq] at h
    rcases h with (h | h) | rfl
    · omega
    · omega
    · decide
  exact dif_neg (of_decide_eq_false hupper)

/-- Names that are printed bare have the shape of a word in lower case. -/
theorem isNameRest_of_isBareName {name : String} (h : isBareName name = true) :
    isPlainWord name.toList = true ∧ ∀ c ∈ name.toList, isNameRest c = true := by
  unfold isBareName at h
  split at h
  · cases h
  · rename_i first rest hname
    simp only [Bool.and_eq_true, List.all_eq_true] at h
    obtain ⟨⟨hfirst, hrest⟩, -⟩ := h
    rw [hname]
    constructor
    · simp only [isPlainWord, Bool.and_eq_true, List.all_eq_true]
      exact ⟨isWordStart_of_isNameStart hfirst, fun c hc => isWordRest_of_isNameRest (hrest c hc)⟩
    · intro c hc
      rcases List.mem_cons.mp hc with rfl | hc
      · exact isNameRest_of_isNameStart hfirst
      · exact hrest c hc

theorem Dialect.bareName_of_lower (dialect : Dialect) {name : String}
    (h : ∀ c ∈ name.toList, isNameRest c = true) : dialect.bareName name.toList = name := by
  have hmap : name.toList.map Char.toLower = name.toList :=
    (List.map_congr_left (fun c hc => toLower_of_isNameRest (h c hc))).trans (List.map_id _)
  cases dialect with
  | postgres => rw [Dialect.bareName, hmap, String.ofList_toList]
  | mysql => rw [Dialect.bareName, String.ofList_toList]
  | duckdb => rw [Dialect.bareName, String.ofList_toList]

/-- Names come back, bare or between quote marks. -/
theorem lexemes?_name {dialect : Dialect} {name : String}
    (hname : isBareName name = true → Lexeme.keyword? dialect name.toList = none)
    {rest : List Char} (hrest : Stopped rest) :
    lexemes? dialect (dialect.nameChars name ++ rest) =
      (lexemes? dialect rest).map (.name name :: ·) := by
  unfold Dialect.nameChars
  split
  · rename_i hbare
    obtain ⟨hword, hlower⟩ := isNameRest_of_isBareName hbare
    have hread : Lexeme.ofWord dialect name.toList = .name name := by
      rw [Lexeme.ofWord, hname hbare, Option.getD_none, dialect.bareName_of_lower hlower]
    rw [lexemes?_word hword hrest, hread]
  · have hmark : dialect.nameMark ∉ stops := by cases dialect <;> decide
    have hblank : dialect.nameMark.isWhitespace = false := by cases dialect <;> decide
    have hread : Lexeme.next? dialect dialect.nameMark
        (doubled dialect.nameMark name.toList ++ dialect.nameMark :: rest) =
          some (.name name, rest) := by
      rw [Lexeme.next?_nameMark, untilMark?_doubled (hrest.head?_ne hmark), Option.map_some,
        String.ofList_toList]
    simp only [Dialect.quoteNameChars, enclosed, List.cons_append, List.append_assoc,
      List.nil_append]
    exact lexemes?_cons hblank hread

/-- A quoted string is a mark in front of what is read up to its end. -/
theorem untilMark?_quoteTextChars (dialect : Dialect) {rest : List Char}
    (hrest : rest.head? ≠ some '\'') (cs : List Char) :
    ∃ inside, dialect.quoteTextChars cs = '\'' :: (inside ++ ['\'']) ∧
      untilMark? '\'' (dialect == .mysql) (inside ++ '\'' :: rest) = some (cs, rest) := by
  cases dialect with
  | mysql => exact ⟨_, rfl, untilMark?_doubled_backslash (by decide) hrest _⟩
  | postgres => exact ⟨_, rfl, untilMark?_doubled hrest _⟩
  | duckdb => exact ⟨_, rfl, untilMark?_doubled hrest _⟩

theorem lexemes?_text {dialect : Dialect} {text : String} {rest : List Char}
    (hrest : Stopped rest) :
    lexemes? dialect (dialect.quoteTextChars text.toList ++ rest) =
      (lexemes? dialect rest).map (.text text :: ·) := by
  obtain ⟨inside, hchars, hinside⟩ :=
    untilMark?_quoteTextChars dialect (hrest.head?_ne (by decide)) text.toList
  rw [hchars, List.cons_append, List.append_assoc]
  refine lexemes?_cons (by decide) ?_
  rw [Lexeme.next?_textMark, List.singleton_append, hinside, Option.map_some,
    String.ofList_toList]

theorem lexemes?_param {dialect : Dialect} {name : String}
    (hname : isPlainWord name.toList = true) {rest : List Char} (hrest : Stopped rest) :
    lexemes? dialect (dialect.paramChars name ++ rest) =
      (lexemes? dialect rest).map (.param name :: ·) := by
  have hword := isWordRest_of_isPlainWord hname
  have htake := hrest.takeWhile_append isWordRest_stops hword
  have hdrop := hrest.dropWhile_append isWordRest_stops hword
  have hblank : dialect.paramMark.isWhitespace = false := by cases dialect <;> decide
  have hread : Lexeme.next? dialect dialect.paramMark (name.toList ++ rest) =
      some (.param name, rest) := by
    rw [Lexeme.next?_paramMark dialect (by rw [htake]; exact hname), htake, hdrop,
      String.ofList_toList]
  exact lexemes?_cons hblank hread

theorem isWordStart_of_isDigit {c : Char} (h : c.isDigit = true) : isWordStart c = false := by
  rw [Bool.eq_false_iff]
  intro hstart
  simp only [isWordStart, isAlpha_eq, Bool.or_eq_true, isUpper_iff, isLower_iff,
    beq_iff_eq] at hstart
  rw [isDigit_iff] at h
  rcases hstart with (hstart | hstart) | rfl
  · omega
  · omega
  · exact absurd h (by decide)

theorem isWhitespace_of_isDigit {c : Char} (h : c.isDigit = true) : c.isWhitespace = false := by
  rw [Bool.eq_false_iff]
  intro hblank
  simp only [Char.isWhitespace, Bool.or_eq_true, decide_eq_true_eq] at hblank
  rcases hblank with ((rfl | rfl) | rfl) | rfl <;> revert h <;> decide

theorem Decimal.chars_cases (n : Int) :
    ∃ c digits, Decimal.chars n = c :: digits ∧ (c.isDigit = true ∨ c = '-') ∧
      ∀ d ∈ digits, d.isDigit = true := by
  have hdigits : ∀ d ∈ Nat.toDigits 10 n.natAbs, d.isDigit = true := fun _ hmem =>
    Nat.isDigit_of_mem_toDigits (by decide) (by decide) hmem
  unfold Decimal.chars
  split
  · exact ⟨'-', _, rfl, Or.inr rfl, hdigits⟩
  · obtain ⟨c, digits, hcons⟩ := List.exists_cons_of_ne_nil
      (Nat.toDigits_ne_nil (b := 10) (n := n.natAbs))
    rw [hcons] at hdigits ⊢
    exact ⟨c, digits, rfl, Or.inl (hdigits c List.mem_cons_self),
      fun d hd => hdigits d (List.mem_cons_of_mem c hd)⟩

theorem lexemes?_int {dialect : Dialect} {value : Int64} {rest : List Char}
    (hrest : Stopped rest) :
    lexemes? dialect (Decimal.chars value.toInt ++ rest) =
      (lexemes? dialect rest).map (.int value :: ·) := by
  obtain ⟨c, digits, hchars, hc, hdigits⟩ := Decimal.chars_cases value.toInt
  have hstart : isWordStart c = false ∧ c.isWhitespace = false := by
    rcases hc with hc | rfl
    · exact ⟨isWordStart_of_isDigit hc, isWhitespace_of_isDigit hc⟩
    · exact ⟨by decide, by decide⟩
  have hnumber : (c.isDigit || c == '-') = true := by simpa using hc
  have hvalue : (Decimal.int? (c :: digits)).bind Decimal.int64? = some value := by
    rw [← hchars, Decimal.int?_chars]
    exact Decimal.int64?_toInt value
  have hread : Lexeme.next? dialect c (digits ++ rest) = some (.int value, rest) := by
    rw [Lexeme.next?, if_neg (by simp [hstart.1]), if_pos hnumber,
      hrest.takeWhile_append isDigit_stops hdigits,
      hrest.dropWhile_append isDigit_stops hdigits, hvalue, Option.map_some]
  rw [hchars, List.cons_append]
  exact lexemes?_cons hstart.2 hread

theorem lexemes?_keyword {dialect : Dialect} {word : Keyword} {rest : List Char}
    (hrest : Stopped rest) :
    lexemes? dialect ((word.text dialect).toList ++ rest) =
      (lexemes? dialect rest).map ((Token.keyword word).lexemes ++ ·) := by
  by_cases hnotNull : word = .ISNOTNULL
  · subst hnotNull
    have hchars : (Keyword.text dialect .ISNOTNULL).toList ++ rest =
        ['I', 'S'] ++ ' ' :: (['N', 'O', 'T'] ++ ' ' :: (['N', 'U', 'L', 'L'] ++ rest)) := by
      have htext : (Keyword.text dialect .ISNOTNULL).toList =
          ['I', 'S', ' ', 'N', 'O', 'T', ' ', 'N', 'U', 'L', 'L'] := by
        simp [Keyword.text]
      rw [htext]
      rfl
    have hblank : ∀ behind, Stopped (' ' :: behind) := by
      intro behind c hc
      cases hc
      decide
    have his : Lexeme.ofWord dialect ['I', 'S'] = .isWord := by cases dialect <;> decide +kernel
    have hnot : Lexeme.ofWord dialect ['N', 'O', 'T'] = .keyword .NOT := by
      cases dialect <;> decide +kernel
    have hnull : Lexeme.ofWord dialect ['N', 'U', 'L', 'L'] = .nullWord := by
      cases dialect <;> decide +kernel
    rw [hchars, lexemes?_word (by decide) (hblank _), lexemes?_blank,
      lexemes?_word (by decide) (hblank _), lexemes?_blank, lexemes?_word (by decide) hrest,
      his, hnot, hnull, Option.map_map, Option.map_map]
    rfl
  · have hlexemes : (Token.keyword word).lexemes = [.keyword word] := by
      cases word <;> first | rfl | exact absurd rfl hnotNull
    rw [hlexemes]
    rcases isPlainWord_text dialect word hnotNull with hplain | ⟨rfl, hdialect⟩
    · rw [lexemes?_word hplain hrest, Lexeme.ofWord_text dialect word hnotNull hplain]
      rfl
    · have hchars : (Keyword.text dialect .REGEXP).toList = ['~'] := by
        cases dialect with
        | mysql => exact absurd rfl hdialect
        | postgres => rfl
        | duckdb => rfl
      rw [hchars]
      exact lexemes?_cons (by decide) (Lexeme.next?_regexp hdialect rest)

/-- A token in front of a stop, or one that is a break itself, is read as it was. -/
theorem lexemes?_token {dialect : Dialect} {token : Token} (htoken : token.Readable dialect)
    {rest : List Char} (hrest : token.isBreak = true ∨ Stopped rest) :
    lexemes? dialect (token.chars dialect ++ rest) =
      (lexemes? dialect rest).map (token.lexemes ++ ·) := by
  cases token with
  | space =>
      rw [show Token.chars dialect .space = [' '] from rfl, List.singleton_append,
        lexemes?_blank]
      exact Option.map_id'.symm
  | mark sign => exact lexemes?_mark hrest
  | keyword word => exact lexemes?_keyword (hrest.resolve_left (by simp [Token.isBreak]))
  | name ident => exact lexemes?_name htoken (hrest.resolve_left (by simp [Token.isBreak]))
  | param ident => exact lexemes?_param htoken (hrest.resolve_left (by simp [Token.isBreak]))
  | int value => exact lexemes?_int (hrest.resolve_left (by simp [Token.isBreak]))
  | text value => exact lexemes?_text (hrest.resolve_left (by simp [Token.isBreak]))

/-- A run of tokens that is empty or starts with a break. -/
def Token.Ended (rest : List Token) : Prop := ∀ token ∈ rest.head?, token.isBreak = true

/-- Runs in which one of two neighbours always is a break. -/
def Token.Separated (tokens : List Token) : Prop :=
  tokens.IsChain (fun token next => token.isBreak = true ∨ next.isBreak = true)

theorem stopped_of_ended {dialect : Dialect} {rest : List Token} (h : Token.Ended rest) :
    Stopped (tokenChars dialect rest) := by
  cases rest with
  | nil => intro c hc; cases hc
  | cons token rest =>
      have hbreak := h token rfl
      unfold Token.isBreak at hbreak
      split at hbreak
      all_goals first
        | (intro c hc; cases hc; decide)
        | cases hbreak

/-- A separated run of tokens is read token by token, whatever each one is read as. -/
theorem lexemes?_flatMap {dialect : Dialect} {read : Token → List Lexeme} {tokens : List Token}
    (hseparated : Token.Separated tokens)
    (hread : ∀ token ∈ tokens, ∀ rest, token.isBreak = true ∨ Stopped rest →
      lexemes? dialect (token.chars dialect ++ rest) =
        (lexemes? dialect rest).map (read token ++ ·)) :
    lexemes? dialect (tokenChars dialect tokens) = some (tokens.flatMap read) := by
  induction tokens with
  | nil => exact lexemes?.eq_1 dialect
  | cons token rest ih =>
      obtain ⟨hnext, hrest⟩ := List.isChain_cons.mp hseparated
      have hbreak : token.isBreak = true ∨ Token.Ended rest := by
        cases htoken : token.isBreak with
        | true => exact Or.inl rfl
        | false => exact Or.inr (fun next hmem => (hnext next hmem).resolve_left (by simp [htoken]))
      have hbehind := ih hrest (fun other hother => hread other (List.mem_cons_of_mem _ hother))
      have hchars : tokenChars dialect (token :: rest) =
          token.chars dialect ++ tokenChars dialect rest := List.flatMap_cons
      rw [hchars, hread token List.mem_cons_self _ (hbreak.imp_right stopped_of_ended), hbehind,
        Option.map_some, List.flatMap_cons]

/-- What a separated run of tokens prints is read as the tokens it was made of. -/
theorem lexemes?_tokenChars {dialect : Dialect} {tokens : List Token}
    (hseparated : Token.Separated tokens) (hreadable : ∀ token ∈ tokens, token.Readable dialect) :
    lexemes? dialect (tokenChars dialect tokens) = some (tokens.flatMap Token.lexemes) :=
  lexemes?_flatMap hseparated
    (fun token htoken _ hrest => lexemes?_token (hreadable token htoken) hrest)

end SegmentPaths
