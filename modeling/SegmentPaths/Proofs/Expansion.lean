/-
Texts with environment variables in them.  Such a text is a row of pieces that can be told
without the reader: characters that stand for themselves, and names behind dollar signs, as
long as they go on or between braces.  The reader finds just these pieces, so that a text may
be cut wherever no piece is cut, and its halves expanded on their own.
-/
import Mathlib.Data.List.Infix
import SegmentPaths.Settings.Template

namespace SegmentPaths

namespace Template

/-- The pieces of a text from left to right.  A dollar sign stands for itself if neither a name
nor a brace follows, a name without braces goes on as long as it can, and a brace that nobody
closes takes all that is left. -/
inductive Reads : List Char → List TemplatePart → Prop
  | done : Reads [] []
  | char {c : Char} {rest : List Char} {parts : List TemplatePart} (hc : c ≠ '$')
      (h : Reads rest parts) : Reads (c :: rest) (.char c :: parts)
  | alone {rest : List Char} {parts : List TemplatePart}
      (hrest : ∀ c ∈ rest.head?, isNameChar c = false ∧ c ≠ '\x7b') (h : Reads rest parts) :
      Reads ('$' :: rest) (.char '$' :: parts)
  | bare {name rest : List Char} {parts : List TemplatePart} (hne : name ≠ [])
      (hname : ∀ c ∈ name, isNameChar c = true)
      (hrest : ∀ c ∈ rest.head?, isNameChar c = false) (h : Reads rest parts) :
      Reads ('$' :: (name ++ rest)) (.variable (String.ofList name) :: parts)
  | braced {name rest : List Char} {parts : List TemplatePart} (hname : '\x7d' ∉ name)
      (h : Reads rest parts) :
      Reads ('$' :: '\x7b' :: (name ++ '\x7d' :: rest)) (.variable (String.ofList name) :: parts)
  | unclosed {name : List Char} (hname : '\x7d' ∉ name) :
      Reads ('$' :: '\x7b' :: name) [.variable (String.ofList name)]

/-- Whether a text may be cut here: no brace behind a dollar sign is left open, and a name or
a dollar sign at the end of the front does not go on in the back. -/
structure SplitsAt (front back : List Char) : Prop where
  closed : ∀ after, '$' :: '\x7b' :: after <:+ front → '\x7d' ∈ after
  ended : ∀ name, '$' :: name <:+ front → (∀ c ∈ name, isNameChar c = true) →
    ∀ c ∈ back.head?, isNameChar c = false ∧ (name = [] → c ≠ '\x7b')

theorem SplitsAt.of_suffix {front tail back : List Char} (h : SplitsAt front back)
    (htail : tail <:+ front) : SplitsAt tail back :=
  ⟨fun after hafter => h.closed after (hafter.trans htail),
    fun name hname => h.ended name (hname.trans htail)⟩

/-- Where a text may be cut, the pieces of its halves are its pieces. -/
theorem Reads.append {front back : List Char} {parts others : List TemplatePart}
    (hfront : Reads front parts) (hback : Reads back others) (hsplit : SplitsAt front back) :
    Reads (front ++ back) (parts ++ others) := by
  induction hfront with
  | done => exact hback
  | char hc _ ih => exact .char hc (ih (hsplit.of_suffix (List.suffix_cons _ _)))
  | @alone rest _ hrest _ ih =>
      refine .alone ?_ (ih (hsplit.of_suffix (List.suffix_cons _ _)))
      -- Only the last piece of the front has the back behind it.
      cases rest with
      | nil =>
          intro c hc
          have hended := hsplit.ended [] List.suffix_rfl (List.forall_mem_nil _) c hc
          exact ⟨hended.1, hended.2 rfl⟩
      | cons => exact hrest
  | @bare name rest _ hne hname hrest _ ih =>
      rw [List.cons_append, List.append_assoc]
      refine .bare hne hname ?_ (ih (hsplit.of_suffix ⟨'$' :: name, rfl⟩))
      cases rest with
      | nil =>
          rw [List.append_nil] at hsplit
          intro c hc
          exact (hsplit.ended name List.suffix_rfl hname c hc).1
      | cons => exact hrest
  | @braced name rest _ hname _ ih =>
      have htail : rest <:+ '$' :: '\x7b' :: (name ++ '\x7d' :: rest) :=
        ⟨'$' :: '\x7b' :: (name ++ ['\x7d']), by simp⟩
      rw [List.cons_append, List.cons_append, List.append_assoc, List.cons_append]
      exact .braced hname (ih (hsplit.of_suffix htail))
  | unclosed hname => exact absurd (hsplit.closed _ List.suffix_rfl) hname

/-- The characters that the reader has taken and not yet made a piece of. -/
def Position.taken : Position → List Char
  | .plain => []
  | .dollar => ['$']
  | .bare name => '$' :: name
  | .braced name => '$' :: '\x7b' :: name

/-- Whether the characters that the reader has taken belong to one name. -/
def Position.Sound : Position → Prop
  | .plain | .dollar => True
  | .bare name => name ≠ [] ∧ ∀ c ∈ name, isNameChar c = true
  | .braced name => '\x7d' ∉ name

theorem plainStep_reads {c : Char} {rest : List Char} {parts : List TemplatePart}
    (h : Reads ((plainStep c).2.taken ++ rest) parts) :
    Reads (c :: rest) ((plainStep c).1 ++ parts) := by
  unfold plainStep at h ⊢
  split at h
  · rename_i hdollar
    rw [if_pos hdollar]
    exact hdollar ▸ h
  · rename_i hdollar
    rw [if_neg hdollar]
    exact .char hdollar h

theorem plainStep_sound (c : Char) : (plainStep c).2.Sound := by
  unfold plainStep
  split <;> trivial

theorem step_sound {position : Position} (h : position.Sound) (c : Char) :
    (step position c).2.Sound := by
  cases position with
  | plain => exact plainStep_sound c
  | dollar =>
      simp only [step]
      split
      · exact List.not_mem_nil
      split
      · rename_i hname
        exact ⟨List.cons_ne_nil _ _, by simpa using hname⟩
      · exact plainStep_sound c
  | bare name =>
      simp only [step]
      split
      · rename_i hname
        refine ⟨by simp, ?_⟩
        simp only [List.forall_mem_append, List.forall_mem_singleton]
        exact ⟨h.2, hname⟩
      · exact plainStep_sound c
  | braced name =>
      simp only [step]
      split
      · trivial
      · rename_i hclose
        simp only [Position.Sound, List.mem_append, List.mem_singleton, not_or]
        exact ⟨h, Ne.symm hclose⟩

/-- What the reader makes of a character are pieces of the text. -/
theorem step_reads {position : Position} (hsound : position.Sound) {c : Char}
    {rest : List Char} {parts : List TemplatePart}
    (h : Reads ((step position c).2.taken ++ rest) parts) :
    Reads (position.taken ++ c :: rest) ((step position c).1 ++ parts) := by
  cases position with
  | plain => exact plainStep_reads h
  | dollar =>
      simp only [step] at h ⊢
      split at h
      · rename_i hbrace
        rw [if_pos hbrace]
        exact hbrace ▸ h
      rename_i hbrace
      rw [if_neg hbrace]
      split at h
      · rename_i hname
        rw [if_pos hname]
        exact h
      · rename_i hname
        rw [if_neg hname]
        refine .alone ?_ (plainStep_reads h)
        intro first hfirst
        cases hfirst
        exact ⟨Bool.eq_false_iff.mpr hname, hbrace⟩
  | bare name =>
      simp only [step] at h ⊢
      split at h
      · rename_i hname
        rw [if_pos hname]
        simpa [Position.taken] using h
      · rename_i hname
        rw [if_neg hname]
        refine .bare hsound.1 hsound.2 ?_ (plainStep_reads h)
        intro first hfirst
        cases hfirst
        exact Bool.eq_false_iff.mpr hname
  | braced name =>
      simp only [step] at h ⊢
      split at h
      · rename_i hclose
        rw [if_pos hclose, hclose]
        exact .braced hsound h
      · rename_i hclose
        rw [if_neg hclose]
        simpa [Position.taken] using h

theorem finish_reads {position : Position} (h : position.Sound) :
    Reads position.taken (finish position) := by
  cases position with
  | plain => exact .done
  | dollar => exact .alone (by simp) .done
  | bare name =>
      have hend : ∀ c ∈ ([] : List Char).head?, isNameChar c = false := by simp
      have hbare := Reads.bare h.1 h.2 hend .done
      rwa [List.append_nil] at hbare
  | braced name => exact .unclosed h

/-- What the reader makes of a text, from whatever position on, are the pieces of it. -/
theorem partsFrom_reads {position : Position} (h : position.Sound) (cs : List Char) :
    Reads (position.taken ++ cs) (partsFrom position cs) := by
  -- What is taken and what is left always make up the text.
  induction cs generalizing position with
  | nil => rw [List.append_nil]; exact finish_reads h
  | cons c rest ih => exact step_reads h (ih (step_sound h c))

section Names

variable {name rest : List Char}

theorem partsFrom_bare (hname : ∀ c ∈ name, isNameChar c = true)
    (hrest : ∀ c ∈ rest.head?, isNameChar c = false) (front : List Char) :
    partsFrom (.bare front) (name ++ rest) =
      .variable (String.ofList (front ++ name)) :: partsFrom .plain rest := by
  induction name generalizing front with
  | nil =>
      rw [List.nil_append, List.append_nil]
      cases rest with
      | nil => rfl
      | cons c rest => simp [partsFrom, step, hrest c rfl]
  | cons c name ih =>
      obtain ⟨hc, hname⟩ := List.forall_mem_cons.mp hname
      rw [List.cons_append, partsFrom, step, if_pos hc, List.nil_append, ih hname,
        List.append_assoc, List.singleton_append]

theorem partsFrom_braced (hname : '\x7d' ∉ name) (front : List Char) :
    partsFrom (.braced front) (name ++ rest) = partsFrom (.braced (front ++ name)) rest := by
  induction name generalizing front with
  | nil => rw [List.nil_append, List.append_nil]
  | cons c name ih =>
      rw [List.mem_cons, not_or] at hname
      rw [List.cons_append, partsFrom, step, if_neg (Ne.symm hname.1), List.nil_append,
        ih hname.2, List.append_assoc, List.singleton_append]

end Names

/-- Pieces of a text are what the reader makes of it. -/
theorem Reads.partsFrom_eq {cs : List Char} {parts : List TemplatePart} (h : Reads cs parts) :
    partsFrom .plain cs = parts := by
  induction h with
  | done => rfl
  | char hc _ ih => rw [partsFrom, step, plainStep, if_neg hc, ih]; rfl
  | @alone rest _ hrest _ ih =>
      cases rest with
      | nil => rw [← ih]; rfl
      | cons c rest =>
          obtain ⟨hname, hbrace⟩ := hrest c rfl
          rw [← ih]
          simp [partsFrom, step, plainStep, hname, hbrace]
  | @bare name rest _ hne hname hrest _ ih =>
      cases name with
      | nil => exact absurd rfl hne
      | cons c name =>
          obtain ⟨hc, hname⟩ := List.forall_mem_cons.mp hname
          have hbrace : c ≠ '\x7b' := by
            rintro rfl
            revert hc
            decide
          have hstep : partsFrom .plain ('$' :: (c :: name ++ rest)) =
              partsFrom (.bare [c]) (name ++ rest) := by
            simp [partsFrom, step, plainStep, hbrace, hc]
          rw [hstep, partsFrom_bare hname hrest, ih, List.singleton_append]
  | @braced name rest _ hname _ ih =>
      have hstep : partsFrom .plain ('$' :: '\x7b' :: (name ++ '\x7d' :: rest)) =
          partsFrom (.braced []) (name ++ '\x7d' :: rest) := rfl
      rw [hstep, partsFrom_braced hname, List.nil_append, partsFrom, step, if_pos rfl, ih]
      rfl
  | @unclosed name hname =>
      have hstep : partsFrom .plain ('$' :: '\x7b' :: name) =
          partsFrom (.braced []) (name ++ []) := by
        rw [List.append_nil]
        rfl
      rw [hstep, partsFrom_braced hname, List.nil_append]
      rfl

/-- A text has one row of pieces. -/
theorem reads_iff (source : String) (others : List TemplatePart) :
    Reads source.toList others ↔ others = parts source :=
  have hplain : Position.Sound .plain := trivial
  ⟨fun h => h.partsFrom_eq.symm, fun h => h ▸ partsFrom_reads hplain source.toList⟩

end Template

/-- The text that a part stands for, as it is: a character, or the value of a variable. -/
def TemplatePart.text (environment : Environment) : TemplatePart → String
  | .char c => String.singleton c
  | .variable name => (environment name).getD ""

/-- Whether a part stands for a text. -/
def TemplatePart.IsSet (environment : Environment) : TemplatePart → Prop
  | .char _ => True
  | .variable name => environment name ≠ none

namespace Template

variable (environment : Environment)

theorem substitute_append (front back : List TemplatePart) :
    substitute environment (front ++ back) =
      (substitute environment front).bind fun text =>
        (substitute environment back).map (text ++ ·) := by
  induction front with
  | nil =>
      rw [List.nil_append, substitute]
      cases substitute environment back <;> rfl
  | cons part front ih =>
      rcases part with c | name
      · rw [List.cons_append, substitute, substitute, ih]
        cases substitute environment front <;> cases substitute environment back <;> rfl
      · rw [List.cons_append, substitute, substitute, ih]
        cases environment name with
        | none => rfl
        | some value =>
            cases substitute environment front <;> cases substitute environment back <;>
              simp [Except.map, Except.bind]

variable {environment}

/-- Parts that are set are put together as they are. -/
theorem substitute_of_set {parts : List TemplatePart}
    (h : ∀ part ∈ parts, part.IsSet environment) :
    substitute environment parts =
      .ok (String.join (parts.map (TemplatePart.text environment))).toList := by
  induction parts with
  | nil => rfl
  | cons part rest ih =>
      obtain ⟨hpart, hrest⟩ := List.forall_mem_cons.mp h
      rw [List.map_cons, String.join_cons, String.toList_append]
      rcases part with c | name
      · rw [substitute, ih hrest, TemplatePart.text, String.toList_singleton]
        rfl
      · obtain ⟨value, hvalue⟩ := Option.ne_none_iff_exists'.mp hpart
        rw [substitute, hvalue, ih hrest, TemplatePart.text, hvalue]
        rfl

/-- The first variable that is not set is the one that is missed. -/
theorem substitute_of_unset {front : List TemplatePart} {name : String}
    (hfront : ∀ part ∈ front, part.IsSet environment) (hname : environment name = none)
    (back : List TemplatePart) :
    substitute environment (front ++ .variable name :: back) = .error name := by
  rw [substitute_append, substitute_of_set hfront, substitute, hname]
  rfl

/-- Parts are all set, or there is a first one that is not. -/
theorem set_or_unset (environment : Environment) (parts : List TemplatePart) :
    (∀ part ∈ parts, part.IsSet environment) ∨
      ∃ front name back, parts = front ++ .variable name :: back ∧
        (∀ part ∈ front, part.IsSet environment) ∧ environment name = none := by
  induction parts with
  | nil => exact Or.inl (List.forall_mem_nil _)
  | cons part rest ih =>
      by_cases hpart : part.IsSet environment
      · rcases ih with hrest | ⟨front, name, back, rfl, hfront, hname⟩
        · exact Or.inl (List.forall_mem_cons.mpr ⟨hpart, hrest⟩)
        · exact Or.inr ⟨part :: front, name, back, rfl,
            List.forall_mem_cons.mpr ⟨hpart, hfront⟩, hname⟩
      · rcases part with c | name
        · exact absurd trivial hpart
        · exact Or.inr ⟨[], name, rest, rfl, List.forall_mem_nil _, not_not.mp hpart⟩

theorem expand_eq_ok_iff (source text : String) :
    expand environment source = .ok text ↔
      (∀ part ∈ parts source, part.IsSet environment) ∧
        text = String.join ((parts source).map (TemplatePart.text environment)) := by
  rcases set_or_unset environment (parts source) with
    hset | ⟨front, name, back, hparts, hfront, hname⟩
  · rw [expand, substitute_of_set hset, Except.map, String.ofList_toList, Except.ok.injEq, eq_comm]
    exact (and_iff_right hset).symm
  · rw [expand, hparts, substitute_of_unset hfront hname]
    constructor
    · rintro ⟨⟩
    · rintro ⟨hset, _⟩
      exact absurd hname (hset (.variable name) (by simp))

theorem expand_eq_error_iff (source name : String) :
    expand environment source = .error name ↔
      ∃ front back, parts source = front ++ .variable name :: back ∧
        (∀ part ∈ front, part.IsSet environment) ∧ environment name = none := by
  constructor
  · intro h
    rcases set_or_unset environment (parts source) with
      hset | ⟨front, first, back, hparts, hfront, hfirst⟩
    · rw [expand, substitute_of_set hset] at h
      cases h
    · rw [expand, hparts, substitute_of_unset hfront hfirst] at h
      cases h
      exact ⟨front, back, hparts, hfront, hfirst⟩
  · rintro ⟨front, back, hparts, hfront, hname⟩
    rw [expand, hparts, substitute_of_unset hfront hname]
    rfl

/-- A text without dollar signs is a row of characters. -/
theorem reads_chars {cs : List Char} (h : '$' ∉ cs) : Reads cs (cs.map .char) := by
  induction cs with
  | nil => exact .done
  | cons c rest ih =>
      rw [List.mem_cons, not_or] at h
      exact .char (Ne.symm h.1) (ih h.2)

theorem join_chars (cs : List Char) :
    String.join ((cs.map TemplatePart.char).map (TemplatePart.text environment)) =
      String.ofList cs := by
  induction cs with
  | nil => rfl
  | cons c rest ih =>
      rw [List.map_cons, List.map_cons, String.join_cons, ih, TemplatePart.text,
        String.singleton_eq_ofList, ← String.ofList_append, List.singleton_append]

variable (environment)

/-- A text without dollar signs stays as it is. -/
theorem expand_of_notMem {source : String} (h : '$' ∉ source.toList) :
    expand environment source = .ok source := by
  have hparts := (reads_iff source _).mp (reads_chars h)
  rw [expand_eq_ok_iff, ← hparts, join_chars, String.ofList_toList]
  refine ⟨?_, rfl⟩
  rw [List.forall_mem_map]
  exact fun _ _ => trivial

/-- A text that may be cut is expanded as its halves are. -/
theorem expand_append {front back : String} (h : SplitsAt front.toList back.toList) :
    expand environment (front ++ back) = (do
      let left ← expand environment front
      let right ← expand environment back
      pure (left ++ right)) := by
  have hfront := (reads_iff front _).mpr rfl
  have hback := (reads_iff back _).mpr rfl
  have hparts : parts (front ++ back) = parts front ++ parts back := by
    rw [parts, String.toList_append]
    exact (hfront.append hback h).partsFrom_eq
  rw [expand, hparts, substitute_append, expand, expand]
  cases substitute environment (parts front) with
  | error name => rfl
  | ok left =>
      cases substitute environment (parts back) with
      | error name => rfl
      | ok right => exact congrArg Except.ok String.ofList_append

/-- Expansion is one pass from left to right.  A text has one row of pieces, whatever the
environment is.  If all its variables are set, it is expanded to the characters and the values
in the row, just as they are; otherwise the leftmost one that is not set is missed.  A text
without dollar signs stays as it is.  Where a text may be cut, its halves are expanded one
after the other, and the error of the first half comes first. -/
theorem expand_in_one_pass (source : String) :
    ∃ parts, (∀ others, Reads source.toList others ↔ others = parts) ∧
      ∀ environment : Environment,
        (∀ text, expand environment source = .ok text ↔
          (∀ part ∈ parts, part.IsSet environment) ∧
            text = String.join (parts.map (TemplatePart.text environment))) ∧
        (∀ name, expand environment source = .error name ↔
          ∃ front back, parts = front ++ .variable name :: back ∧
            (∀ part ∈ front, part.IsSet environment) ∧ environment name = none) ∧
        ('$' ∉ source.toList → expand environment source = .ok source) ∧
        ∀ rest : String, SplitsAt source.toList rest.toList →
          expand environment (source ++ rest) = (do
            let front ← expand environment source
            let back ← expand environment rest
            pure (front ++ back)) :=
  ⟨parts source, reads_iff source, fun environment =>
    ⟨expand_eq_ok_iff source, expand_eq_error_iff source, expand_of_notMem environment,
      fun _ => expand_append environment⟩⟩

/-- A variable whose value names it, and one more. -/
def selfNaming : Environment := fun name =>
  if name = "HOME" then some "$HOME" else if name = "x" then some "1" else none

/-- The value stays as it is, and so does the dollar sign where the text is cut. -/
theorem self_naming_expanded :
    SplitsAt "~$\x7bHOME\x7d$".toList " $x".toList ∧ '$' ∉ "objects.toml".toList ∧
      expand selfNaming ("~$\x7bHOME\x7d$" ++ " $x") = .ok "~$HOME$ 1" ∧
      expand selfNaming "objects.toml" = .ok "objects.toml" := by
  have hsplit : SplitsAt "~$\x7bHOME\x7d$".toList " $x".toList := by
    constructor
    · intro after hafter
      have htail : after = ['H', 'O', 'M', 'E', '\x7d', '$'] := by
        simpa [List.suffix_cons_iff] using hafter
      rw [htail]
      decide
    · intro name hsuffix hname
      have hcases : name = ['\x7b', 'H', 'O', 'M', 'E', '\x7d', '$'] ∨ name = [] := by
        simpa [List.suffix_cons_iff] using hsuffix
      rcases hcases with rfl | rfl
      · exact absurd (hname '\x7b' List.mem_cons_self) (by decide)
      · intro c hc
        cases hc
        decide
  have hplain : '$' ∉ "objects.toml".toList := by decide
  obtain ⟨_, _, hcut⟩ := expand_in_one_pass "~$\x7bHOME\x7d$"
  obtain ⟨_, _, hwhole⟩ := expand_in_one_pass "objects.toml"
  refine ⟨hsplit, hplain, ?_, (hwhole selfNaming).2.2.1 hplain⟩
  rw [(hcut selfNaming).2.2.2 " $x" hsplit]
  rfl

end Template

end SegmentPaths
