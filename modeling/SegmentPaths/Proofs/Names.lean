/-
Names made from seeds.  Every alias and every placeholder is a seed, an
underscore and a tag, and seed and tag can be read back from the name: two names
are equal only if both parts are.
-/
import SegmentPaths.Path.Compiler

namespace SegmentPaths

/-- The words that stand behind seeds. -/
inductive TagWord
  | fieldId
  | objectId
  | contactId
  | value
  | name
  | item
  | contact
  | link
  | union
deriving DecidableEq

def TagWord.text : TagWord → String
  | .fieldId => "custom_field_id"
  | .objectId => "custom_object_id"
  | .contactId => "contact_id"
  | .value => "value"
  | .name => "name"
  | .item => "item"
  | .contact => "contact"
  | .link => "item_xref"
  | .union => "union"

/-- What stands behind a seed: a word, and a number if it is one of several. -/
structure Tag where
  word : TagWord
  index : Option Nat
deriving DecidableEq

def Tag.text : Tag → String
  | ⟨word, none⟩ => word.text
  | ⟨word, some n⟩ => word.text ++ "_" ++ Decimal.natText n

/-- The name that a seed and a tag make. -/
def Tag.under (seed : String) (tag : Tag) : String := seedName seed tag.text

namespace Names

/-- Where two texts split by an underscore agree, the shorter end is an end of
the longer one, behind an underscore. -/
theorem split_cases {left right front back : List Char}
    (h : left ++ '_' :: front = right ++ '_' :: back) :
    (left = right ∧ front = back) ∨ (∃ more, back = more ++ '_' :: front) ∨
      ∃ more, front = more ++ '_' :: back := by
  rcases List.append_eq_append_iff.mp h with ⟨more, hright, hfront⟩ | ⟨more, hleft, hback⟩
  · cases more with
    | nil => exact Or.inl ⟨by simpa using hright.symm, by simpa using hfront⟩
    | cons c more =>
        simp only [List.cons_append, List.cons.injEq] at hfront
        exact Or.inr (Or.inr ⟨more, hfront.2⟩)
  · cases more with
    | nil => exact Or.inl ⟨by simpa using hleft, by simpa using hback.symm⟩
    | cons c more =>
        simp only [List.cons_append, List.cons.injEq] at hback
        exact Or.inr (Or.inl ⟨more, hback.2⟩)

/-- Ends without an underscore are read back from behind the last underscore. -/
theorem split_inj {left right front back : List Char}
    (hfront : '_' ∉ front) (hback : '_' ∉ back)
    (h : left ++ '_' :: front = right ++ '_' :: back) : left = right ∧ front = back := by
  rcases split_cases h with hsame | ⟨more, rfl⟩ | ⟨more, rfl⟩
  · exact hsame
  · exact absurd (List.mem_append_right more List.mem_cons_self) hback
  · exact absurd (List.mem_append_right more List.mem_cons_self) hfront

theorem toList_seedName (seed suffix : String) :
    (seedName seed suffix).toList = seed.toList ++ '_' :: suffix.toList := by
  simp [seedName, String.toList_append]

theorem toList_natText (n : Nat) : (Decimal.natText n).toList = Nat.toDigits 10 n :=
  String.toList_ofList

theorem underscore_notMem_natText (n : Nat) : '_' ∉ (Decimal.natText n).toList := by
  rw [toList_natText]
  exact Nat.underscore_not_in_toDigits

theorem natText_inj {m n : Nat} (h : Decimal.natText m = Decimal.natText n) : m = n := by
  have hdigits : Nat.toDigits 10 m = Nat.toDigits 10 n := by
    rw [← toList_natText, ← toList_natText, h]
  rw [← Nat.ofDigitChars_ten_toDigits (n := m), hdigits, Nat.ofDigitChars_ten_toDigits]

/-- A numbered seed gives its number away. -/
theorem numbered_inj {left right : String} {m n : Nat}
    (h : seedName left (Decimal.natText m) = seedName right (Decimal.natText n)) :
    left = right ∧ m = n := by
  have hlist := congrArg String.toList h
  rw [toList_seedName, toList_seedName] at hlist
  have hparts := split_inj (underscore_notMem_natText m) (underscore_notMem_natText n) hlist
  exact ⟨String.toList_injective hparts.1, natText_inj (String.toList_injective hparts.2)⟩

/-- A seed with something behind it is longer than the seed. -/
theorem seedName_ne_self (seed suffix : String) : seedName seed suffix ≠ seed := by
  intro h
  have hlength := congrArg (fun name => name.toList.length) h
  simp only [toList_seedName, List.length_append, List.length_cons] at hlength
  omega

end Names

namespace TagWord

/-- No word ends in an underscore and another word. -/
theorem not_inside (long short : TagWord) (more : List Char) :
    long.text.toList ≠ more ++ '_' :: short.text.toList := by
  intro h
  have hsuffix : ('_' :: short.text.toList) <:+ long.text.toList := ⟨more, h.symm⟩
  revert hsuffix
  cases long <;> cases short <;> decide

theorem text_inj {left right : TagWord} (h : left.text = right.text) : left = right := by
  revert h
  cases left <;> cases right <;> decide

theorem under_inj {seed other : String} {left right : TagWord}
    (h : seedName seed left.text = seedName other right.text) :
    seed = other ∧ left = right := by
  have hlist := congrArg String.toList h
  rw [Names.toList_seedName, Names.toList_seedName] at hlist
  rcases Names.split_cases hlist with ⟨hseed, htext⟩ | ⟨more, hinside⟩ | ⟨more, hinside⟩
  · exact ⟨String.toList_injective hseed, text_inj (String.toList_injective htext)⟩
  · exact absurd hinside (not_inside right left more)
  · exact absurd hinside (not_inside left right more)

theorem getLast_not_isDigit (word : TagWord) (hword : word.text.toList ≠ []) :
    (word.text.toList.getLast hword).isDigit = false := by
  revert hword
  cases word <;> decide

/-- A name that ends in a word does not end in a number. -/
theorem under_ne_numbered (seed other : String) (word : TagWord) (n : Nat) :
    seedName seed word.text ≠ seedName other (Decimal.natText n) := by
  intro h
  have hlist := congrArg String.toList h
  rw [Names.toList_seedName, Names.toList_seedName, Names.toList_natText] at hlist
  have hword : word.text.toList ≠ [] := by cases word <;> decide
  have hdigits : Nat.toDigits 10 n ≠ [] := Nat.toDigits_ne_nil
  have hdigit : ((Nat.toDigits 10 n).getLast hdigits).isDigit = true :=
    Nat.isDigit_of_mem_toDigits (by decide) (by decide) (List.getLast_mem hdigits)
  have hletter := getLast_not_isDigit word hword
  -- Both names end in the last character of what stands behind the underscore.
  have hlast : word.text.toList.getLast hword = (Nat.toDigits 10 n).getLast hdigits := by
    have hends := congrArg List.getLast? hlist
    rw [List.getLast?_append, List.getLast?_append, List.getLast?_cons_of_ne_nil hword,
      List.getLast?_cons_of_ne_nil hdigits, List.getLast?_eq_some_getLast hword,
      List.getLast?_eq_some_getLast hdigits, Option.some_or, Option.some_or] at hends
    exact Option.some.inj hends
  rw [hlast, hdigit] at hletter
  cases hletter

end TagWord

namespace Tag

/-- A numbered tag is its word, taken as a seed, with the number behind it. -/
theorem under_some (seed : String) (word : TagWord) (n : Nat) :
    under seed ⟨word, some n⟩ = seedName (seedName seed word.text) (Decimal.natText n) := by
  simp only [under, text, seedName, String.append_assoc]

/-- Seed and tag can be read back from a name. -/
theorem under_inj {seed other : String} {left right : Tag}
    (h : left.under seed = right.under other) : seed = other ∧ left = right := by
  obtain ⟨leftWord, leftIndex⟩ := left
  obtain ⟨rightWord, rightIndex⟩ := right
  rcases leftIndex with _ | m <;> rcases rightIndex with _ | n
  · obtain ⟨hseed, hword⟩ := TagWord.under_inj h
    exact ⟨hseed, by rw [hword]⟩
  · rw [under_some] at h
    exact absurd h (TagWord.under_ne_numbered _ _ leftWord n)
  · rw [under_some] at h
    exact absurd h.symm (TagWord.under_ne_numbered _ _ rightWord m)
  · rw [under_some, under_some] at h
    obtain ⟨hname, hindex⟩ := Names.numbered_inj h
    obtain ⟨hseed, hword⟩ := TagWord.under_inj hname
    exact ⟨hseed, by rw [hword, hindex]⟩

theorem under_injective (seed : String) : Function.Injective (under seed) :=
  fun _ _ hsame => (under_inj hsame).2

end Tag

namespace AliasScope

/-- Neither of two seeds is the other one, or the other one with a number. -/
def Apart (seed other : String) : Prop :=
  seed ≠ other ∧ ∀ n, seed ≠ seedName other (Decimal.natText n) ∧
    other ≠ seedName seed (Decimal.natText n)

/-- Fragments of filters whose seeds are apart have different seeds. -/
theorem seedFor_ne {seed other : String} (hapart : Apart seed other) (scope : AliasScope)
    (m n : Nat) : scope.seedFor seed m ≠ scope.seedFor other n := by
  obtain ⟨hne, hnumber⟩ := hapart
  cases scope with
  | shared => exact hne
  | perFragment =>
      rcases m with _ | m <;> rcases n with _ | n
      · exact hne
      · exact (hnumber (n + 1)).1
      · exact fun h => (hnumber (m + 1)).2 h.symm
      · exact fun h => hne (Names.numbered_inj h).1

end AliasScope

end SegmentPaths
