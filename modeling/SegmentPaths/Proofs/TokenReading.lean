/-
What the text of a statement is read as, token by token.  Every expression and
every query is printed as a run of tokens that blanks and punctuation keep apart,
so its text is read as these tokens without the blanks, whatever its names and
its strings hold.  One word is missing from the reserved ones: a name that is
`escape` is printed without quotes, and is read as the keyword.
-/
import SegmentPaths.Proofs.ReadBack
import SegmentPaths.Sql.Fault

namespace SegmentPaths

namespace Token

/-- The tokens that lexemes are made into: the words of IS NOT NULL together are
one token, and make none apart. -/
def ofLexemes? : List Lexeme → Option (List Token)
  | [] => some []
  | .isWord :: .keyword .NOT :: .nullWord :: rest =>
    (ofLexemes? rest).map (.keyword .ISNOTNULL :: ·)
  | .isWord :: _ => none
  | .nullWord :: _ => none
  | .keyword word :: rest => (ofLexemes? rest).map (.keyword word :: ·)
  | .mark sign :: rest => (ofLexemes? rest).map (.mark sign :: ·)
  | .name ident :: rest => (ofLexemes? rest).map (.name ident :: ·)
  | .param ident :: rest => (ofLexemes? rest).map (.param ident :: ·)
  | .int value :: rest => (ofLexemes? rest).map (.int value :: ·)
  | .text value :: rest => (ofLexemes? rest).map (.text value :: ·)

/-- The tokens of a text, the way its dialect reads it. -/
def read? (dialect : Dialect) (text : String) : Option (List Token) :=
  (lexemes? dialect text.toList).bind ofLexemes?

/-- A run of tokens without its blanks. -/
def unspaced (tokens : List Token) : List Token := tokens.filter (· != .space)

/-- What a token is taken for: the name `escape` for the keyword, every other token
for itself. -/
def taken : Token → Token
  | .name ident => if ident = "escape" then .keyword .ESCAPE else .name ident
  | token => token

/-- Whether a token is no placeholder, or one whose name is a plain word. -/
def hasPlainName : Token → Bool
  | .param ident => isPlainWord ident.toList
  | _ => true

/-- The lexemes of a run of tokens are made into the tokens again. -/
theorem ofLexemes?_flatMap (tokens : List Token) :
    ofLexemes? (tokens.flatMap lexemes) = some (unspaced tokens) := by
  induction tokens with
  | nil => rfl
  | cons token rest ih =>
      rw [List.flatMap_cons]
      cases token with
      | space => exact ih
      | keyword word =>
          cases word <;> exact (congrArg (Option.map _) ih).trans rfl
      | _ => exact (congrArg (Option.map _) ih).trans rfl

theorem taken_eq_self {token : Token} (h : token ≠ .name "escape") : token.taken = token := by
  cases token with
  | name ident => exact if_neg (fun hident => h (congrArg Token.name hident))
  | _ => rfl

theorem taken_name_escape : (Token.name "escape").taken = .keyword .ESCAPE := rfl

theorem taken_bne_space (token : Token) : (token.taken != .space) = (token != .space) := by
  by_cases h : token = .name "escape"
  · subst h
    rfl
  · rw [taken_eq_self h]

theorem unspaced_map_taken (tokens : List Token) :
    unspaced (tokens.map taken) = (unspaced tokens).map taken := by
  rw [unspaced, List.filter_map]
  exact congrArg (List.map taken) (List.filter_congr (fun token _ => taken_bne_space token))

/-- Taking tokens for others leaves a run as it is just where no name is `escape`. -/
theorem map_taken_eq_self_iff (tokens : List Token) :
    (unspaced tokens).map taken = unspaced tokens ↔ .name "escape" ∉ tokens := by
  constructor
  · intro heq hmem
    have hmem : Token.name "escape" ∈ unspaced tokens := List.mem_filter.mpr ⟨hmem, rfl⟩
    rw [← heq] at hmem
    obtain ⟨token, -, htoken⟩ := List.mem_map.mp hmem
    by_cases h : token = .name "escape"
    · rw [h, taken_name_escape] at htoken
      cases htoken
    · rw [taken_eq_self h] at htoken
      exact h htoken
  · intro hmem
    refine (List.map_congr_left (fun token htoken => taken_eq_self ?_)).trans (List.map_id _)
    rintro rfl
    exact hmem (List.mem_filter.mp htoken).1

end Token

/-! Words that are printed bare. -/

/-- The words that are read as keywords, in capitals. -/
def Dialect.keywordTexts (dialect : Dialect) : List String :=
  "IS" :: "NULL" :: Keyword.all.map (Keyword.text dialect)

/-- Every keyword but one is a reserved word in lower case. -/
theorem Dialect.isBareName_lower_keyword (dialect : Dialect) :
    ∀ word ∈ dialect.keywordTexts,
      isBareName (String.ofList (word.toList.map Char.toLower)) = true → word = "ESCAPE" := by
  cases dialect <;> decide +kernel

theorem toLower_toUpper_of_isNameRest {c : Char} (h : isNameRest c = true) :
    c.toUpper.toLower = c := by
  have hascii : ∀ n < 128, isNameRest (Char.ofNat n) = true →
      (Char.ofNat n).toUpper.toLower = Char.ofNat n := by
    decide +kernel
  have hlt : c.toNat < 128 := by
    simp only [isNameRest, Bool.or_eq_true, isLower_iff, isDigit_iff, beq_iff_eq] at h
    rcases h with (h | h) | rfl
    · exact Nat.lt_of_le_of_lt h.2 (by decide)
    · exact Nat.lt_of_le_of_lt h.2 (by decide)
    · decide
  have hchar := hascii c.toNat hlt
  rw [Char.ofNat_toNat] at hchar
  exact hchar h

/-- A bare name whose capitals are a keyword is `escape`. -/
theorem eq_escape_of_isBareName {dialect : Dialect} {name : String} (h : isBareName name = true)
    (hword : String.ofList (name.toList.map Char.toUpper) ∈ dialect.keywordTexts) :
    name = "escape" := by
  have hlower : String.ofList
      ((String.ofList (name.toList.map Char.toUpper)).toList.map Char.toLower) = name := by
    have hmap : (name.toList.map Char.toUpper).map Char.toLower = name.toList := by
      rw [List.map_map]
      exact (List.map_congr_left (fun c hc => toLower_toUpper_of_isNameRest
        ((isNameRest_of_isBareName h).2 c hc))).trans (List.map_id _)
    rw [String.toList_ofList, hmap, String.ofList_toList]
  have hescape := dialect.isBareName_lower_keyword _ hword (by rw [hlower]; exact h)
  rw [hescape] at hlower
  exact hlower.symm.trans (by decide)

theorem Lexeme.keyword?_eq_none {dialect : Dialect} {word : List Char}
    (h : String.ofList (word.map Char.toUpper) ∉ dialect.keywordTexts) :
    keyword? dialect word = none := by
  simp only [Dialect.keywordTexts, List.mem_cons, List.mem_map, not_or, not_exists,
    not_and] at h
  obtain ⟨his, hnull, hkeyword⟩ := h
  rw [keyword?, if_neg his, if_neg hnull, Option.map_eq_none_iff, List.find?_eq_none]
  intro keyword hmem
  rw [beq_iff_eq]
  exact hkeyword keyword hmem

/-- A bare name is no keyword unless it is `escape`. -/
theorem Lexeme.keyword?_of_isBareName {dialect : Dialect} {name : String}
    (hname : name ≠ "escape") (h : isBareName name = true) :
    keyword? dialect name.toList = none :=
  keyword?_eq_none (fun hword => hname (eq_escape_of_isBareName h hword))

theorem lexemes?_escape {dialect : Dialect} {rest : List Char} (hrest : Stopped rest) :
    lexemes? dialect (dialect.nameChars "escape" ++ rest) =
      (lexemes? dialect rest).map (.keyword .ESCAPE :: ·) := by
  have hchars : dialect.nameChars "escape" = "escape".toList := by cases dialect <;> decide
  have hword : Lexeme.ofWord dialect "escape".toList = .keyword .ESCAPE := by
    cases dialect <;> decide +kernel
  rw [hchars, lexemes?_word (by decide) hrest, hword]

/-- A token is read as what it is taken for. -/
theorem lexemes?_taken {dialect : Dialect} {token : Token} (htoken : token.hasPlainName = true)
    {rest : List Char} (hrest : token.isBreak = true ∨ Stopped rest) :
    lexemes? dialect (token.chars dialect ++ rest) =
      (lexemes? dialect rest).map (token.taken.lexemes ++ ·) := by
  by_cases hescape : token = .name "escape"
  · subst hescape
    exact lexemes?_escape (hrest.resolve_left (by simp [Token.isBreak]))
  · -- No other bare name is a keyword, so what is known of readable tokens applies.
    have hreadable : token.Readable dialect := by
      cases token with
      | name ident =>
          exact Lexeme.keyword?_of_isBareName (fun hident => hescape (congrArg Token.name hident))
      | param ident => exact htoken
      | _ => trivial
    rw [Token.taken_eq_self hescape]
    exact lexemes?_token hreadable hrest

/-- A separated run of tokens is read as what its tokens are taken for. -/
theorem Token.read?_tokenText {dialect : Dialect} {tokens : List Token}
    (hseparated : Token.Separated tokens)
    (hplain : ∀ token ∈ tokens, token.hasPlainName = true) :
    read? dialect (tokenText dialect tokens) = some ((unspaced tokens).map taken) := by
  have hlexemes : lexemes? dialect (tokenChars dialect tokens) =
      some (tokens.flatMap (fun token => token.taken.lexemes)) :=
    lexemes?_flatMap hseparated
      (fun token htoken _ hrest => lexemes?_taken (hplain token htoken) hrest)
  rw [read?, tokenText, String.toList_ofList, hlexemes, Option.bind_some,
    ← unspaced_map_taken, ← ofLexemes?_flatMap, List.flatMap_map]

/-! The tokens of expressions and queries, kept apart in every position. -/

namespace Token.Separated

variable {front between back : List Token}

theorem operand (op : BinaryOp) (expr : Expr) (h : Separated back) :
    Separated (Expr.operand op expr back) := by
  unfold Expr.operand
  split
  · exact h.parenthesized
  · exact h

theorem branch (query : Query) (h : Separated back) : Separated (Query.branch query back) := by
  unfold Query.branch
  split
  · exact h.parenthesized
  · exact h

/-- A clause that may be missing, behind whatever stands in front. -/
theorem optional {α : Type} {body : α → List Token} {clause : Option α} (hfront : Separated front)
    (hbetween : Separator between) (hclause : ∀ a ∈ clause, Separated (body a)) :
    Separated (front ++ clause.toList.flatMap (fun a => between ++ body a)) := by
  cases clause with
  | none => simpa using hfront
  | some a => simpa using hfront.separate hbetween (hclause a rfl)

theorem aliased (aliasName : Option String) (hfront : Separated front) :
    Separated (front ++ aliasTokens aliasName) := by
  cases aliasName with
  | none => rwa [aliasTokens, List.append_nil]
  | some aliasName => exact hfront.behind_ended (.spaced _) (ended_cons rfl)

end Token.Separated

mutual

/-- In the tokens of an expression one of two neighbours always is a blank, a
comma, a dot or a parenthesis. -/
theorem Expr.separated : (expr : Expr) → Token.Separated expr.tokens
  | .column none _ | .int _ | .text _ | .param _ => by
      rw [Expr.tokens]
      exact .singleton _
  | .column (some _) _ => by
      rw [Expr.tokens]
      simp [Token.Separated, Token.isBreak]
  | .binary op left right => by
      rw [Expr.tokens]
      exact (left.separated.operand op left).separate (.spaced op.token_isFlat)
        (right.separated.operand op right)
  | .likeEscaped subject pattern => by
      rw [Expr.tokens]
      exact (subject.separated.separate (.keyword .LIKE) pattern.separated).behind_ended
        (by simp [Token.Separated, Token.isBreak]) (Token.ended_cons rfl)
  | .inList subject values => by
      rw [Expr.tokens]
      exact subject.separated.separate (.keyword .IN) (Expr.list_separated values).parenthesized
  | .inQuery subject query negated => by
      have hnot : Token.Separated
          (subject.tokens ++ if negated then Token.spaced (.keyword .NOT) else []) := by
        cases negated with
        | false => rw [if_neg Bool.false_ne_true, List.append_nil]; exact subject.separated
        | true => exact subject.separated.behind_ended (.spaced _) (Token.ended_cons rfl)
      rw [Expr.tokens]
      exact hnot.separate (.keyword .IN) query.separated.parenthesized
  | .notNull subject => by
      rw [Expr.tokens]
      exact subject.separated.behind_ended (.spaced _) (Token.ended_cons rfl)

theorem Expr.list_separated : (exprs : List Expr) → Token.Separated (Expr.listTokens exprs)
  | [] => by
      rw [Expr.listTokens]
      exact .nil
  | [expr] => by
      rw [Expr.listTokens]
      exact expr.separated
  | expr :: next :: rest => by
      rw [Expr.listTokens]
      exact expr.separated.separate .comma (Expr.list_separated (next :: rest))

theorem Query.separated : (query : Query) → Token.Separated query.tokens
  | .select columns source joins condition => by
      have hselect : Token.Separated ([.keyword .SELECT] ++
          if columns.isEmpty then [] else .space :: Expr.listTokens columns) := by
        have hcolumns := (Expr.list_separated columns).behind_space
        split
        · exact .singleton _
        · exact Token.Separated.behind_ended (.singleton _) hcolumns (Token.ended_cons rfl)
      have hfrom : ∀ table ∈ source, Token.Separated table.tokens := by
        cases source with
        | none => exact fun _ hnone => by cases hnone
        | some source =>
            intro table htable
            cases htable
            exact source.separated
      have hwhere : ∀ tested ∈ condition, Token.Separated tested.tokens := by
        cases condition with
        | none => exact fun _ hnone => by cases hnone
        | some condition =>
            intro tested htested
            cases htested
            exact condition.separated
      rw [Query.tokens_select]
      exact (Join.list_separated joins (hselect.optional (.keyword .FROM) hfrom)).optional
        (.keyword .WHERE) hwhere
  | .unionAll first second rest => by
      rw [Query.tokens]
      exact Query.rest_separated rest
        ((first.separated.branch first).separate .union (second.separated.branch second))

/-- The branches behind the second one, behind whatever stands in front. -/
theorem Query.rest_separated : (queries : List Query) → ∀ {front : List Token},
    Token.Separated front → Token.Separated (front ++ Query.restTokens queries)
  | [], _, hfront => by rwa [Query.restTokens, List.append_nil]
  | query :: rest, _, hfront => by
      have hrest := Query.rest_separated rest
        (hfront.separate .union (query.separated.branch query))
      rw [Query.restTokens]
      simp only [List.append_assoc] at hrest ⊢
      exact hrest

theorem Source.separated : (source : Source) → Token.Separated source.tokens
  | .table name aliasName => by
      rw [Source.tokens]
      exact Token.Separated.aliased aliasName (.singleton (.name name))
  | .derived query aliasName => by
      rw [Source.tokens]
      exact query.separated.parenthesized.aliased (some aliasName)

/-- The joins, behind whatever stands in front. -/
theorem Join.list_separated : (joins : List Join) → ∀ {front : List Token},
    Token.Separated front → Token.Separated (front ++ Join.listTokens joins)
  | [], _, hfront => by rwa [Join.listTokens, List.append_nil]
  | .on kind source condition :: rest, _, hfront => by
      have hrest := Join.list_separated rest
        ((hfront.separate (.join kind) source.separated).separate (.keyword .ON)
          condition.separated)
      simp only [Join.listTokens, Join.tokens, List.append_assoc, List.cons_append,
        List.nil_append] at hrest ⊢
      exact hrest

end

/-- How a rendered text stands to its tokens: it is printed, it is read as what the
tokens are taken for, and so as the tokens themselves just where no name among them
is `escape`. -/
structure RendersTokens (dialect : Dialect) (rendered : Except Fault String)
    (tokens : List Token) (text : String) : Prop where
  printed : rendered = .ok text
  taken : Token.read? dialect text = some ((Token.unspaced tokens).map Token.taken)
  faithful : Token.read? dialect text = some (Token.unspaced tokens) ↔ .name "escape" ∉ tokens

theorem RendersTokens.of_separated {dialect : Dialect} {tokens : List Token}
    (hseparated : Token.Separated tokens)
    (hplain : ∀ token ∈ tokens, token.hasPlainName = true) :
    RendersTokens dialect (.ok (tokenText dialect tokens)) tokens (tokenText dialect tokens) := by
  have hread : Token.read? dialect (tokenText dialect tokens) =
      some ((Token.unspaced tokens).map Token.taken) := Token.read?_tokenText hseparated hplain
  refine ⟨rfl, hread, ?_⟩
  rw [hread, Option.some.injEq]
  exact Token.map_taken_eq_self_iff tokens

/-- Every expression and every query without an empty list is rendered, in every
dialect, and its text is read as its tokens without blanks, but for the names that
are `escape`. -/
theorem rendered_text_read_as_tokens (dialect : Dialect) :
    (∀ query : Query, query.hasEmptyList = false →
      (∀ token ∈ query.tokens, token.hasPlainName = true) →
      ∃ text, RendersTokens dialect (query.render dialect) query.tokens text) ∧
    (∀ expr : Expr, expr.hasEmptyList = false →
      (∀ token ∈ expr.tokens, token.hasPlainName = true) →
      ∃ text, RendersTokens dialect (expr.render dialect) expr.tokens text) := by
  constructor
  · intro query hlists hplain
    refine ⟨query.sql dialect, ?_⟩
    rw [Query.render, if_neg (by simp [hlists])]
    exact .of_separated query.separated hplain
  · intro expr hlists hplain
    refine ⟨expr.sql dialect, ?_⟩
    rw [Expr.render, if_neg (by simp [hlists])]
    exact .of_separated expr.separated hplain

/-- A query whose names are keywords in any case, punctuation and quote marks. -/
def Query.ofKeywords : Query :=
  .select [.column (some "from") "Select", .column none "is not null"]
    (some (.table "union" (some "a\x60b"))) []
    (some (.binary .and (.notNull (.column none "regexp"))
      (.likeEscaped (.column (some "a\x60b") "~ESCAPE") (.param "OR"))))

example : Query.ofKeywords.sql .mysql =
    "SELECT \x60from\x60.\x60Select\x60, \x60is not null\x60 FROM \x60union\x60 " ++
      "\x60a\x60\x60b\x60 WHERE \x60regexp\x60 IS NOT NULL AND " ++
      "\x60a\x60\x60b\x60.\x60~ESCAPE\x60 LIKE :OR ESCAPE '!'" := by
  decide +kernel

theorem Query.ofKeywords_read :
    (Query.ofKeywords.hasEmptyList = false ∧
      (∀ token ∈ Query.ofKeywords.tokens, token.hasPlainName = true) ∧
      .name "escape" ∉ Query.ofKeywords.tokens ∧
      ∃ text, RendersTokens .mysql (Query.ofKeywords.render .mysql) Query.ofKeywords.tokens text) ∧
    ∃ text, RendersTokens .duckdb
      ((Expr.binary .equal (.column none "and") (.text "' OR ~")).render .duckdb)
      (Expr.binary .equal (.column none "and") (.text "' OR ~")).tokens text :=
  ⟨⟨by decide, by decide, by decide,
      (rendered_text_read_as_tokens .mysql).1 Query.ofKeywords (by decide) (by decide)⟩,
    (rendered_text_read_as_tokens .duckdb).2 _ (by decide) (by decide)⟩

/-- A column that is named `escape` is printed as the bare word, and read as the
keyword. -/
theorem Expr.escape_column_misread :
    (Expr.column none "escape").hasEmptyList = false ∧
      (∀ token ∈ (Expr.column none "escape").tokens, token.hasPlainName = true) ∧
      (Expr.column none "escape").render .mysql = .ok "escape" ∧
      Token.unspaced (Expr.column none "escape").tokens = [.name "escape"] ∧
      Token.read? .mysql "escape" = some [.keyword .ESCAPE] := by
  have hread : Token.read? .mysql (tokenText .mysql [.name "escape"]) =
      some ((Token.unspaced [.name "escape"]).map Token.taken) :=
    Token.read?_tokenText (.singleton _) (by decide)
  have htext : tokenText .mysql [.name "escape"] = "escape" := by decide +kernel
  rw [htext] at hread
  exact ⟨by decide, by decide, by decide +kernel, by decide, hread⟩

end SegmentPaths
