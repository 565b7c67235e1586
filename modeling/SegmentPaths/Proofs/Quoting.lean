/-
Quotes that hold.  A scanner that starts at a quoted string or name stops right behind its
closing mark, whatever comes next, and gives back what was quoted.
-/
import SegmentPaths.Proofs.Lexing

namespace SegmentPaths

/-- What stands between marks at the start of a text, and the text behind them. -/
def quoted? (mark : Char) (escapes : Bool) (source : String) : Option (String × String) :=
  match source.toList with
  | [] => none
  | c :: rest =>
    if c = mark then
      (untilMark? mark escapes rest).map
        (fun found => (String.ofList found.1, String.ofList found.2))
    else none

theorem quoted?_of_untilMark? {mark : Char} {escapes : Bool} {inside : List Char}
    {value rest source : String} (hsource : source.toList = mark :: inside)
    (h : untilMark? mark escapes inside = some (value.toList, rest.toList)) :
    quoted? mark escapes source = some (value, rest) := by
  simp only [quoted?, hsource, ↓reduceIte, h, Option.map_some, String.ofList_toList]

/-- Texts that can be read back from their quoted forms are quoted differently. -/
theorem injective_of_read {quote : String → String} {read? : String → Option (String × String)}
    (hread : ∀ value, read? (quote value ++ "") = some (value, "")) :
    Function.Injective quote := by
  intro left right hsame
  have hleft := hread left
  rw [hsame, hread right] at hleft
  cases hleft
  rfl

namespace Dialect

/-- The string literal at the start of a text, and what stands behind it.  A mark inside is
written twice, and MySQL reads backslash escapes. -/
def quotedText? (dialect : Dialect) : String → Option (String × String) :=
  quoted? '\'' (dialect == .mysql)

/-- The quoted name at the start of a text, and what stands behind it.  A mark inside is
written twice, and nothing is escaped. -/
def quotedName? (dialect : Dialect) : String → Option (String × String) :=
  quoted? dialect.nameMark false

variable (dialect : Dialect)

/-- A quoted string is read up to its closing mark. -/
theorem quotedText?_quoteText (text : String) {rest : String}
    (hrest : rest.toList.head? ≠ some '\'') :
    dialect.quotedText? (dialect.quoteText text ++ rest) = some (text, rest) := by
  obtain ⟨inside, hchars, hinside⟩ := untilMark?_quoteTextChars dialect hrest text.toList
  have hsource : (dialect.quoteText text ++ rest).toList =
      '\'' :: (inside ++ '\'' :: rest.toList) := by
    rw [String.toList_append, quoteText, String.toList_ofList, hchars, List.cons_append,
      List.append_assoc, List.singleton_append]
  exact quoted?_of_untilMark? hsource hinside

/-- A quoted name is read up to its closing mark. -/
theorem quotedName?_quoteName (name : String) {rest : String}
    (hrest : rest.toList.head? ≠ some dialect.nameMark) :
    dialect.quotedName? (dialect.quoteName name ++ rest) = some (name, rest) := by
  have hsource : (dialect.quoteName name ++ rest).toList =
      dialect.nameMark ::
        (doubled dialect.nameMark name.toList ++ dialect.nameMark :: rest.toList) := by
    rw [String.toList_append, quoteName, String.toList_ofList, quoteNameChars, enclosed,
      List.cons_append, List.cons_append, List.append_assoc, List.singleton_append]
  exact quoted?_of_untilMark? hsource (untilMark?_doubled hrest name.toList)

/-- Nobody breaks out of quotes.  In every dialect a string or a name in quotes, with any text
behind it that does not go on with the closing mark, is read up to that mark and as what was
quoted; so different strings are quoted differently, and so are different names. -/
theorem quotes_hold :
    (∀ text rest : String, rest.toList.head? ≠ some '\'' →
      dialect.quotedText? (dialect.quoteText text ++ rest) = some (text, rest)) ∧
    (∀ name rest : String, rest.toList.head? ≠ some dialect.nameMark →
      dialect.quotedName? (dialect.quoteName name ++ rest) = some (name, rest)) ∧
    Function.Injective dialect.quoteText ∧ Function.Injective dialect.quoteName := by
  have hempty : ∀ mark : Char, "".toList.head? ≠ some mark := by simp
  refine ⟨fun text rest => dialect.quotedText?_quoteText text,
    fun name rest => dialect.quotedName?_quoteName name, ?_, ?_⟩
  · exact injective_of_read fun text => dialect.quotedText?_quoteText text (hempty _)
  · exact injective_of_read fun name => dialect.quotedName?_quoteName name (hempty _)

/-- Backslashes and marks side by side, the last of them right in front of the closing mark. -/
theorem backslash_and_mark_hold :
    " OR 1".toList.head? ≠ some '\'' ∧
      quotedText? .mysql ("'\\\\''\\\\\\\\''' OR 1") = some ("\\'\\\\'", " OR 1") := by
  have hrest : " OR 1".toList.head? ≠ some '\'' := by decide
  have hread := (quotes_hold .mysql).1 "\\'\\\\'" " OR 1" hrest
  have hquoted : quoteText .mysql "\\'\\\\'" ++ " OR 1" = "'\\\\''\\\\\\\\''' OR 1" := by decide
  exact ⟨hrest, hquoted ▸ hread⟩

end Dialect

end SegmentPaths
