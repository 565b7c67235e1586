/-
What is printed is read back.  The tokens of every expression and every query are
kept apart by blanks and punctuation, and reading their lexemes leaves the items
of the expression or query in the open group.  So the text of a query is read as
the query, in every dialect and at any depth, up to the grouping of runs of ANDs
and of ORs.
-/
import SegmentPaths.Proofs.Clauses

namespace SegmentPaths

/-- Whether a token is no parenthesis. -/
def Token.isFlat : Token → Bool
  | .mark .opening | .mark .closing => false
  | _ => true

theorem Token.isFlat_space : Token.space.isFlat = true := rfl

/-- A run of tokens that is read as items of the open group, whatever that group
and the groups around it hold. -/
structure Reads (tokens : List Token) (items : List Item) : Prop where
  separated : Token.Separated tokens
  pushes : ∀ nesting : Nesting,
    (tokens.flatMap Token.lexemes).foldlM Nesting.step nesting = some (nesting.push items)

/-- A run without parentheses between two others that keeps them apart. -/
structure Separator (tokens : List Token) : Prop where
  flat : ∀ token ∈ tokens, token.isFlat = true
  separated : Token.Separated tokens
  first : ∃ token rest, tokens = token :: rest ∧ token.isBreak = true
  last : ∃ front token, tokens = front ++ [token] ∧ token.isBreak = true

theorem Token.ended_cons {token : Token} (h : token.isBreak = true) {rest : List Token} :
    Token.Ended (token :: rest) := by
  intro first hfirst
  cases hfirst
  exact h

namespace Token.Separated

variable {front between back : List Token}

theorem nil : Separated [] := List.IsChain.nil

theorem behind_ended (hfront : Separated front) (hback : Separated back) (hended : Ended back) :
    Separated (front ++ back) :=
  hfront.append hback (fun _ _ next hnext => Or.inr (hended next hnext))

/-- A separator keeps any two runs apart. -/
theorem separate (hfront : Separated front) (hbetween : Separator between)
    (hback : Separated back) : Separated (front ++ between ++ back) := by
  obtain ⟨first, rest, hfirst, hbreak⟩ := hbetween.first
  obtain ⟨before, last, hlast, hlastBreak⟩ := hbetween.last
  have hended : Ended between := by
    rw [hfirst]
    exact ended_cons hbreak
  refine (hfront.behind_ended hbetween.separated hended).append hback ?_
  intro token htoken next _
  rw [hlast, ← List.append_assoc, List.getLast?_concat] at htoken
  cases htoken
  exact Or.inl hlastBreak

theorem behind_space (h : Separated back) : Separated (.space :: back) :=
  List.isChain_cons.mpr ⟨fun _ _ => Or.inl rfl, h⟩

/-- A blank and one token. -/
theorem spaced (token : Token) : Separated (Token.spaced token) :=
  behind_space (.singleton token)

theorem parenthesized (h : Separated back) : Separated (Token.parenthesized back) :=
  List.isChain_cons.mpr ⟨fun _ _ => Or.inl rfl,
    h.behind_ended (.singleton _) (ended_cons rfl)⟩

end Token.Separated

namespace Nesting

@[simp]
theorem push_nil (nesting : Nesting) : nesting.push [] = nesting := by
  rw [push, List.append_nil]

@[simp]
theorem push_push (nesting : Nesting) (front back : List Item) :
    (nesting.push front).push back = nesting.push (front ++ back) := by
  simp only [push, List.append_assoc]

theorem step_lexemes {token : Token} (hflat : token.isFlat = true) (nesting : Nesting) :
    token.lexemes.foldlM step nesting = some (nesting.push (token.lexemes.map .lexeme)) := by
  cases token with
  | space => exact congrArg some nesting.push_nil.symm
  | mark sign => cases sign <;> first | rfl | cases hflat
  | keyword word =>
      cases word with
      | ISNOTNULL =>
          change some (((nesting.push _).push _).push _) = _
          rw [push_push, push_push]
          rfl
      | _ => rfl
  | _ => rfl

/-- Lexemes without parentheses are pushed as they stand. -/
theorem foldlM_flat {tokens : List Token} (hflat : ∀ token ∈ tokens, token.isFlat = true)
    (nesting : Nesting) :
    (tokens.flatMap Token.lexemes).foldlM step nesting =
      some (nesting.push (Item.ofTokens tokens)) := by
  induction tokens generalizing nesting with
  | nil => exact congrArg some nesting.push_nil.symm
  | cons token rest ih =>
      have hrest := ih (fun other hother => hflat other (List.mem_cons_of_mem token hother))
      rw [List.flatMap_cons, List.foldlM_append,
        step_lexemes (hflat token List.mem_cons_self)]
      change (rest.flatMap Token.lexemes).foldlM step (nesting.push _) = _
      rw [hrest, push_push, Item.ofTokens, Item.ofTokens, List.flatMap_cons, List.map_append]

/-- What two runs push is pushed by the one behind the other. -/
theorem foldlM_append {front back : List Token} {left right : List Item}
    (hfront : ∀ nesting : Nesting,
      (front.flatMap Token.lexemes).foldlM step nesting = some (nesting.push left))
    (hback : ∀ nesting : Nesting,
      (back.flatMap Token.lexemes).foldlM step nesting = some (nesting.push right))
    (nesting : Nesting) :
    ((front ++ back).flatMap Token.lexemes).foldlM step nesting =
      some (nesting.push (left ++ right)) := by
  rw [List.flatMap_append, List.foldlM_append, hfront]
  change (back.flatMap Token.lexemes).foldlM step (nesting.push left) = _
  rw [hback, push_push]

end Nesting

namespace Reads

theorem append {front back : List Token} {left right : List Item} (hfront : Reads front left)
    (hback : Reads back right) (hended : Token.Ended back) :
    Reads (front ++ back) (left ++ right) where
  separated := hfront.separated.behind_ended hback.separated hended
  pushes := Nesting.foldlM_append hfront.pushes hback.pushes

/-- Runs without parentheses leave their own lexemes. -/
theorem of_flat {tokens : List Token} (hflat : ∀ token ∈ tokens, token.isFlat = true)
    (hseparated : Token.Separated tokens) : Reads tokens (Item.ofTokens tokens) :=
  ⟨hseparated, Nesting.foldlM_flat hflat⟩

theorem nil : Reads [] [] := ⟨.nil, fun nesting => congrArg some nesting.push_nil.symm⟩

/-- A token that is no parenthesis, behind a blank. -/
theorem behind {token : Token} (hflat : token.isFlat = true) :
    Reads (Token.spaced token) (Item.ofTokens [token]) :=
  of_flat (by simp [Token.spaced, hflat, Token.isFlat_space]) (.spaced token)

/-- A blank leaves nothing. -/
theorem behind_space {tokens : List Token} {items : List Item} (h : Reads tokens items) :
    Reads (.space :: tokens) items :=
  ⟨h.separated.behind_space, h.pushes⟩

theorem negation (negated : Bool) :
    Reads (if negated then Token.spaced (.keyword .NOT) else [])
      (Item.ofTokens (if negated then Token.spaced (.keyword .NOT) else [])) := by
  cases negated with
  | false => exact nil
  | true => exact behind rfl

/-- A group between parentheses leaves one item. -/
theorem parenthesized {tokens : List Token} {items : List Item} {item : Item}
    (hinside : Reads tokens items) (hgroup : Item.ofGroup? items = some item) :
    Reads (Token.parenthesized tokens) [item] := by
  refine ⟨hinside.separated.parenthesized, fun nesting => ?_⟩
  have hlexemes : (Token.parenthesized tokens).flatMap Token.lexemes =
      .mark .opening :: (tokens.flatMap Token.lexemes ++ [.mark .closing]) := by
    rw [Token.parenthesized, List.flatMap_append, List.flatMap_cons]
    rfl
  rw [hlexemes, List.foldlM_cons]
  change (tokens.flatMap Token.lexemes ++ [Lexeme.mark .closing]).foldlM Nesting.step
    ⟨[], nesting.current :: nesting.outer⟩ = _
  rw [List.foldlM_append, hinside.pushes]
  change (Nesting.step ⟨[] ++ items, nesting.current :: nesting.outer⟩ (.mark .closing)).bind
    some = _
  rw [List.nil_append, Nesting.step, hgroup]
  rfl

/-- A separator keeps any two runs apart. -/
theorem separate {front between back : List Token} {left right : List Item}
    (hfront : Reads front left) (hbetween : Separator between) (hback : Reads back right) :
    Reads (front ++ between ++ back) (left ++ Item.ofTokens between ++ right) where
  separated := hfront.separated.separate hbetween hback.separated
  pushes := Nesting.foldlM_append
    (Nesting.foldlM_append hfront.pushes (Nesting.foldlM_flat hbetween.flat)) hback.pushes

/-- SELECT with what stands behind it. -/
theorem select {columns : List Expr}
    (hcolumns : Reads (Expr.listTokens columns) (Expr.listItems columns)) :
    Reads ([.keyword .SELECT] ++
        if columns.isEmpty then [] else .space :: Expr.listTokens columns)
      (Item.ofTokens [.keyword .SELECT] ++ Expr.listItems columns) := by
  have hselect : Reads [.keyword .SELECT] (Item.ofTokens [.keyword .SELECT]) :=
    of_flat (by decide) (.singleton _)
  cases columns with
  | nil => exact hselect.append nil (fun _ hnone => by cases hnone)
  | cons first rest =>
      exact hselect.append (hcolumns.behind_space) (Token.ended_cons rfl)

/-- A clause that may be missing, behind whatever has been read. -/
theorem optional {α : Type} {front between : List Token} {left : List Item}
    (hfront : Reads front left) (hbetween : Separator between) {body : α → List Token}
    {items : α → List Item} {clause : Option α}
    (hclause : ∀ a ∈ clause, Reads (body a) (items a)) :
    Reads (front ++ clause.toList.flatMap (fun a => between ++ body a))
      (left ++ clause.toList.flatMap (fun a => Item.ofTokens between ++ items a)) := by
  cases clause with
  | none => simpa using hfront
  | some a => simpa using hfront.separate hbetween (hclause a rfl)

end Reads

/-- A token that is no parenthesis, between blanks. -/
theorem Separator.spaced {token : Token} (hflat : token.isFlat = true) :
    Separator [.space, token, .space] where
  flat := by simp [hflat, Token.isFlat_space]
  separated := by simp [Token.Separated, Token.isBreak]
  first := ⟨.space, _, rfl, rfl⟩
  last := ⟨[.space, token], .space, rfl, rfl⟩

theorem Separator.comma : Separator [.mark .comma, .space] where
  flat := by decide
  separated := by simp [Token.Separated, Token.isBreak]
  first := ⟨.mark .comma, _, rfl, rfl⟩
  last := ⟨[.mark .comma], .space, rfl, rfl⟩

/-- Two tokens that are no parentheses, between blanks. -/
theorem Separator.spaced_twice {token next : Token} (hflat : token.isFlat = true)
    (hnext : next.isFlat = true) : Separator [.space, token, .space, next, .space] where
  flat := by simp [hflat, hnext, Token.isFlat_space]
  separated := by simp [Token.Separated, Token.isBreak]
  first := ⟨.space, _, rfl, rfl⟩
  last := ⟨[.space, token, .space, next], .space, rfl, rfl⟩

theorem Separator.union : Separator Query.unionTokens := .spaced_twice rfl rfl

/-- What stands in front of a joined table. -/
theorem Separator.join (kind : JoinKind) :
    Separator [.space, .keyword kind.keyword, .space, .keyword .JOIN, .space] :=
  .spaced_twice rfl rfl

theorem Separator.keyword (word : Keyword) : Separator [.space, .keyword word, .space] :=
  .spaced rfl

theorem BinaryOp.token_isFlat (op : BinaryOp) : op.token.isFlat = true := by cases op <;> rfl

namespace Expr

theorem plain_of_isAtom {atom : Expr} (h : atom.isAtom = true) : atom.plain = true := by
  cases atom with
  | column _ _ | int _ | text _ | param _ => rfl
  | _ => cases h

theorem allPlain_of_isAtom {atoms : List Expr} (h : atoms.all isAtom = true) :
    allPlain atoms = true := by
  rw [allPlain_eq_all, List.all_eq_true]
  exact fun atom hatom => plain_of_isAtom (List.all_eq_true.mp h atom hatom)

theorem plain_operands {op : BinaryOp} {left right : Expr}
    (hplain : (binary op left right).plain = true) :
    left.plain = true ∧ right.plain = true := by
  cases hop : op.isConnective with
  | true => exact plain_binary hop hplain
  | false =>
      rw [plain, if_neg (by simp [hop])] at hplain
      obtain ⟨hleft, hright⟩ := Bool.and_eq_true_iff.mp hplain
      exact ⟨plain_of_isAtom hleft, plain_of_isAtom hright⟩

/-- An operand is read, as a group where it is printed as one. -/
theorem operand_reads {op : BinaryOp} {expr : Expr} (hplain : expr.plain = true)
    (hexpr : Reads expr.tokens expr.items) :
    Reads (operand op expr expr.tokens) (operandItems op expr expr.items) := by
  unfold operand operandItems
  split
  · have hall : allPlain [expr] = true := by rw [allPlain, hplain]; rfl
    have hgroup := Item.ofGroup?_exprs hall
    rw [listItems, List.flatMap_nil, List.append_nil] at hgroup
    exact hexpr.parenthesized hgroup
  · exact hexpr

end Expr

theorem Query.branch_reads {query : Query} (hplain : query.plain = true)
    (hquery : Reads query.tokens query.items) :
    Reads (Query.branch query query.tokens) query.branchItems := by
  cases query with
  | select columns source joins condition => exact hquery
  | unionAll first second rest => exact hquery.parenthesized (Item.ofGroup?_query hplain)

theorem Query.tokens_select (columns : List Expr) (source : Option Source) (joins : List Join)
    (condition : Option Expr) :
    (Query.select columns source joins condition).tokens =
      [.keyword .SELECT] ++
        (if columns.isEmpty then [] else .space :: Expr.listTokens columns) ++
        source.toList.flatMap (fun source => [.space, .keyword .FROM, .space] ++ source.tokens) ++
        Join.listTokens joins ++
        condition.toList.flatMap
          (fun condition => [.space, .keyword .WHERE, .space] ++ condition.tokens) := by
  cases source <;> cases condition <;> rw [Query.tokens] <;> simp

theorem Query.items_select (columns : List Expr) (source : Option Source) (joins : List Join)
    (condition : Option Expr) :
    (Query.select columns source joins condition).items =
      Item.ofTokens [.keyword .SELECT] ++ Expr.listItems columns ++
        source.toList.flatMap (fun source => Item.ofTokens [.keyword .FROM] ++ source.items) ++
        Clause.items (joins.flatMap Join.clauses) ++
        condition.toList.flatMap
          (fun condition => Item.ofTokens [.keyword .WHERE] ++ condition.items) := by
  cases source <;> cases condition <;>
    simp [Query.items, Query.clauses, Clause.items, Item.ofTokens, Token.lexemes]

mutual

/-- What an expression prints is read as its items.  The induction over the syntax
goes through because a run is read in any nesting: what is printed between
parentheses is read in a group of its own. -/
theorem Expr.reads : (expr : Expr) → expr.plain = true → Reads expr.tokens expr.items
  | .column none _, _ | .int _, _ | .text _, _ | .param _, _ => by
      rw [Expr.tokens, Expr.items]
      exact .of_flat (by simp [Token.isFlat]) (.singleton _)
  | .column (some _) _, _ => by
      rw [Expr.tokens, Expr.items]
      exact .of_flat (by simp [Token.isFlat]) (by simp [Token.Separated, Token.isBreak])
  | .binary op left right, hplain => by
      obtain ⟨hleft, hright⟩ := Expr.plain_operands hplain
      rw [Expr.tokens, Expr.items]
      exact (Expr.operand_reads hleft (left.reads hleft)).separate (.spaced op.token_isFlat)
        (Expr.operand_reads hright (right.reads hright))
  | .likeEscaped subject pattern, hplain => by
      rw [Expr.plain, Bool.and_eq_true] at hplain
      have hsubject := subject.reads (Expr.plain_of_isAtom hplain.1)
      have hpattern := pattern.reads (Expr.plain_of_isAtom hplain.2)
      have hescape : Reads [.space, .keyword .ESCAPE, .space,
          .text (String.ofList [Expr.patternEscape])] _ :=
        .of_flat (by simp [Token.isFlat]) (by simp [Token.Separated, Token.isBreak])
      rw [Expr.tokens, Expr.items]
      exact (hsubject.separate (.keyword .LIKE) hpattern).append hescape
        (Token.ended_cons rfl)
  | .inList subject values, hplain => by
      rw [Expr.plain] at hplain
      simp only [Bool.and_eq_true] at hplain
      obtain ⟨⟨hsubject, hsome⟩, hvalues⟩ := hplain
      have hall := Expr.allPlain_of_isAtom hvalues
      have hlist := Expr.list_reads values hall
      rw [Expr.tokens, Expr.items]
      cases values with
      | nil => cases hsome
      | cons first rest =>
          exact (subject.reads (Expr.plain_of_isAtom hsubject)).separate (.spaced rfl)
            (hlist.parenthesized (Item.ofGroup?_exprs hall))
  | .inQuery subject query negated, hplain => by
      rw [Expr.plain, Bool.and_eq_true] at hplain
      have hsubject := subject.reads (Expr.plain_of_isAtom hplain.1)
      have hgroup := (query.reads hplain.2).parenthesized (Item.ofGroup?_query hplain.2)
      have hnegated := hsubject.append (Reads.negation negated)
        (by cases negated <;> simp [Token.Ended, Token.spaced, Token.isBreak])
      rw [Expr.tokens, Expr.items]
      exact hnegated.separate (.spaced rfl) hgroup
  | .notNull subject, hplain => by
      have hsubject := subject.reads (Expr.plain_of_isAtom hplain)
      rw [Expr.tokens, Expr.items]
      exact hsubject.append (.behind rfl) (Token.ended_cons rfl)

theorem Expr.list_reads : (exprs : List Expr) → Expr.allPlain exprs = true →
    Reads (Expr.listTokens exprs) (Expr.listItems exprs)
  | [], _ => by
      rw [Expr.listTokens, Expr.listItems]
      exact .nil
  | [expr], hplain => by
      rw [Expr.allPlain, Bool.and_eq_true] at hplain
      rw [Expr.listTokens, Expr.listItems, List.flatMap_nil, List.append_nil]
      exact expr.reads hplain.1
  | expr :: next :: rest, hplain => by
      rw [Expr.allPlain, Bool.and_eq_true] at hplain
      have hitems : Expr.listItems (expr :: next :: rest) =
          expr.items ++ Item.ofTokens [.mark .comma, .space] ++ Expr.listItems (next :: rest) := by
        simp [Expr.listItems, Item.ofTokens, Token.lexemes]
      rw [Expr.listTokens, hitems]
      exact (expr.reads hplain.1).separate .comma (Expr.list_reads (next :: rest) hplain.2)

theorem Query.reads : (query : Query) → query.plain = true → Reads query.tokens query.items
  | .select columns source joins condition, hplain => by
      rw [Query.plain_select] at hplain
      simp only [Bool.and_eq_true] at hplain
      obtain ⟨⟨⟨hcolumns, hsource⟩, hjoins⟩, hcondition⟩ := hplain
      have hfrom : ∀ table ∈ source, Reads table.tokens table.items := by
        cases source with
        | none => exact fun _ hnone => by cases hnone
        | some source =>
            intro table htable
            cases htable
            exact source.reads hsource
      have hwhere : ∀ tested ∈ condition, Reads tested.tokens tested.items := by
        cases condition with
        | none => exact fun _ hnone => by cases hnone
        | some condition =>
            intro tested htested
            cases htested
            exact condition.reads hcondition
      have hselect := Reads.select (Expr.list_reads columns hcolumns)
      rw [Query.tokens_select, Query.items_select]
      exact (Join.list_reads joins hjoins
        (hselect.optional (.keyword .FROM) hfrom)).optional (.keyword .WHERE) hwhere
  | .unionAll first second rest, hplain => by
      rw [Query.plain] at hplain
      simp only [Bool.and_eq_true] at hplain
      obtain ⟨⟨hfirst, hsecond⟩, hrest⟩ := hplain
      have hread := Query.rest_reads rest hrest
        ((Query.branch_reads hfirst (first.reads hfirst)).separate .union
          (Query.branch_reads hsecond (second.reads hsecond)))
      rw [Query.tokens, Query.items, List.flatMap_cons]
      simp only [List.append_assoc] at hread ⊢
      exact hread

/-- The branches behind the second one, behind whatever has been read. -/
theorem Query.rest_reads : (queries : List Query) → Query.allPlain queries = true →
    ∀ {tokens : List Token} {items : List Item}, Reads tokens items →
      Reads (tokens ++ Query.restTokens queries)
        (items ++ queries.flatMap
          (fun query => Item.ofTokens [.keyword .UNION, .keyword .ALL] ++ query.branchItems))
  | [], _, _, _, hfront => by
      rwa [Query.restTokens, List.flatMap_nil, List.append_nil, List.append_nil]
  | query :: rest, hplain, _, _, hfront => by
      rw [Query.allPlain, Bool.and_eq_true] at hplain
      have hread := Query.rest_reads rest hplain.2 (hfront.separate .union
        (Query.branch_reads hplain.1 (query.reads hplain.1)))
      rw [Query.restTokens, List.flatMap_cons]
      simp only [List.append_assoc] at hread ⊢
      exact hread

theorem Source.reads : (source : Source) → source.plain = true →
    Reads source.tokens source.items
  | .table name aliasName, _ => by
      rw [Source.tokens, Source.items]
      cases aliasName with
      | none => exact .of_flat (by simp [Token.isFlat, aliasTokens]) (.singleton _)
      | some aliasName =>
          exact .of_flat (by simp [Token.isFlat, aliasTokens, Token.spaced])
            (by simp [Token.Separated, Token.isBreak, aliasTokens, Token.spaced])
  | .derived query aliasName, hplain => by
      rw [Source.plain] at hplain
      rw [Source.tokens, Source.items]
      exact ((query.reads hplain).parenthesized (Item.ofGroup?_query hplain)).append (.behind rfl)
        (Token.ended_cons rfl)

/-- The joins, behind whatever has been read. -/
theorem Join.list_reads : (joins : List Join) → Join.allPlain joins = true →
    ∀ {tokens : List Token} {items : List Item}, Reads tokens items →
      Reads (tokens ++ Join.listTokens joins)
        (items ++ Clause.items (joins.flatMap Join.clauses))
  | [], _, _, _, hfront => by
      rw [Join.listTokens, List.flatMap_nil, Clause.items, List.flatMap_nil, List.append_nil,
        List.append_nil]
      exact hfront
  | .on kind source condition :: rest, hplain, _, _, hfront => by
      rw [Join.allPlain, Join.plain] at hplain
      simp only [Bool.and_eq_true] at hplain
      obtain ⟨⟨hsource, hcondition⟩, hrest⟩ := hplain
      have hread := Join.list_reads rest hrest
        ((hfront.separate (.join kind) (source.reads hsource)).separate (.keyword .ON)
          (condition.reads hcondition))
      have hitems : Item.ofTokens
          [.space, .keyword kind.keyword, .space, .keyword .JOIN, .space] =
            .lexeme (.keyword kind.keyword) :: Item.ofTokens [.keyword .JOIN] := by
        cases kind <;> rfl
      have hon : Item.ofTokens [.space, .keyword .ON, .space] = [.lexeme (.keyword .ON)] := rfl
      rw [hitems, hon] at hread
      simp only [Clause.items, Join.clauses, Join.listTokens, Join.tokens, List.flatMap_cons,
        List.append_assoc, List.cons_append, List.nil_append] at hread ⊢
      exact hread

end

namespace Query

/-- The queries that a dialect reads back: conditions are plain, no bare name is
a keyword, and every placeholder is a plain word. -/
structure Readable (dialect : Dialect) (query : Query) : Prop where
  plain : query.plain = true
  tokens : ∀ token ∈ query.tokens, token.Readable dialect

theorem items?_lexemes {query : Query} (hplain : query.plain = true) :
    Nesting.items? (query.tokens.flatMap Token.lexemes) = some query.items := by
  rw [Nesting.items?, (query.reads hplain).pushes]
  rfl

/-- The text of a query is read as the query, grouped to the left. -/
theorem read?_sql {dialect : Dialect} {query : Query} (h : query.Readable dialect) :
    read? dialect (query.sql dialect) = some query.leftAssociated := by
  have hchars : (query.sql dialect).toList = tokenChars dialect query.tokens :=
    String.toList_ofList
  rw [read?, hchars, lexemes?_tokenChars (query.reads h.plain).separated h.tokens,
    Option.bind_some, items?_lexemes h.plain, Option.bind_some, ofItems?_items h.plain]

/-- Printing a query and reading its text gives the query back, up to the
grouping of nested ANDs and of nested ORs. -/
theorem exists_read_reassociated (dialect : Dialect) (query : Query)
    (h : query.Readable dialect) :
    ∃ read, read? dialect (query.sql dialect) = some read ∧ query.Reassociated read :=
  ⟨query.leftAssociated, read?_sql h, query.reassociated⟩

/-- Unions inside unions and behind a FROM and an IN, an OR under an AND that is
nested to the right, and names and texts with quote marks in them. -/
def nested : Query :=
  .select [.column none "Name", .column (some "a`b") "value"]
    (some (.derived
      (.unionAll (.select [.column none "id"] (some (.table "item" none)) [] none)
        (.unionAll (.select [.int (-5)] none [] none) (.select [] none [] none) []) []) "d"))
    [.on .left (.table "link" (some "l"))
      (.binary .and
        (.binary .or (.notNull (.column none "id")) (.inList (.column none "id") [.int 1]))
        (.binary .and (.binary .regexp (.column none "id") (.text "it's \\"))
          (.likeEscaped (.column none "id") (.param "p_1"))))]
    (some (.inQuery (.column none "id") (.select [.column none "id"] none [] none) true))

example : nested.sql .mysql =
    "SELECT `Name`, `a``b`.value FROM (SELECT id FROM item UNION ALL (SELECT -5 UNION ALL " ++
      "SELECT)) d LEFT JOIN link l ON (id IS NOT NULL OR id IN (1)) AND id REGEXP " ++
      "'it''s \\\\' AND id LIKE :p_1 ESCAPE '!' WHERE id NOT IN (SELECT id)" := by
  decide +kernel

theorem nested_read :
    nested.Readable .mysql ∧
      ∃ read, read? .mysql (nested.sql .mysql) = some read ∧
        nested.Reassociated read :=
  have hreadable : nested.Readable .mysql := ⟨by decide, by decide +kernel⟩
  ⟨hreadable, exists_read_reassociated .mysql nested hreadable⟩

end Query

end SegmentPaths
