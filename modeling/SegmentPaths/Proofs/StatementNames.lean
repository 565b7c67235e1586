/-
The names that statements are made with: the placeholders among their tokens, and
the aliases of the tables they read.  Both are found part by part, so the names of
a query follow from those of its clauses.
-/
import SegmentPaths.Segment.Query

namespace SegmentPaths

/-- The name that a token stands for as a placeholder. -/
def Token.placeholder? : Token → Option String
  | .param ident => some ident
  | _ => none

/-- The placeholders in a run of tokens, in order. -/
def tokenPlaceholders (tokens : List Token) : List String :=
  tokens.filterMap Token.placeholder?

def Expr.placeholders (expr : Expr) : List String := tokenPlaceholders expr.tokens

def Query.placeholders (query : Query) : List String := tokenPlaceholders query.tokens

namespace Token

@[simp]
theorem placeholder?_space : space.placeholder? = none := rfl

@[simp]
theorem placeholder?_keyword (word : Keyword) : (keyword word).placeholder? = none := rfl

@[simp]
theorem placeholder?_mark (sign : Mark) : (mark sign).placeholder? = none := rfl

@[simp]
theorem placeholder?_name (ident : String) : (name ident).placeholder? = none := rfl

@[simp]
theorem placeholder?_text (value : String) : (text value).placeholder? = none := rfl

@[simp]
theorem placeholder?_param (ident : String) : (param ident).placeholder? = some ident := rfl

@[simp]
theorem placeholder?_operator (op : BinaryOp) : op.token.placeholder? = none := by
  cases op <;> rfl

end Token

@[simp]
theorem tokenPlaceholders_nil : tokenPlaceholders [] = [] := rfl

@[simp]
theorem tokenPlaceholders_append (left right : List Token) :
    tokenPlaceholders (left ++ right) = tokenPlaceholders left ++ tokenPlaceholders right :=
  List.filterMap_append

@[simp]
theorem tokenPlaceholders_cons (token : Token) (rest : List Token) :
    tokenPlaceholders (token :: rest) =
      token.placeholder?.toList ++ tokenPlaceholders rest := by
  cases h : token.placeholder? <;> simp [tokenPlaceholders, h]

@[simp]
theorem tokenPlaceholders_parenthesized (tokens : List Token) :
    tokenPlaceholders (Token.parenthesized tokens) = tokenPlaceholders tokens := by
  simp [Token.parenthesized]

theorem tokenPlaceholders_aliasTokens (aliasName : Option String) :
    tokenPlaceholders (aliasTokens aliasName) = [] := by
  cases aliasName <;> rfl

theorem tokenPlaceholders_operand (op : BinaryOp) (expr : Expr) :
    tokenPlaceholders (Expr.operand op expr expr.tokens) = expr.placeholders := by
  unfold Expr.operand
  split
  · exact tokenPlaceholders_parenthesized expr.tokens
  · rfl

theorem tokenPlaceholders_listTokens (exprs : List Expr) :
    tokenPlaceholders (Expr.listTokens exprs) = exprs.flatMap Expr.placeholders := by
  induction exprs with
  | nil => rfl
  | cons expr rest ih =>
      cases rest with
      | nil => simp [Expr.listTokens, Expr.placeholders]
      | cons next rest =>
          simp only [Expr.listTokens, tokenPlaceholders_append, ih]
          simp [Expr.placeholders]

theorem tokenPlaceholders_table_join (kind : JoinKind) (table : String)
    (aliasName : Option String) (condition : Expr) :
    tokenPlaceholders (Join.on kind (.table table aliasName) condition).tokens =
      condition.placeholders := by
  rw [Join.tokens, Source.tokens]
  simp [tokenPlaceholders_aliasTokens, Expr.placeholders]

theorem tokenPlaceholders_joins (joins : List Join) :
    tokenPlaceholders (Join.listTokens joins) =
      joins.flatMap fun join => tokenPlaceholders join.tokens := by
  induction joins with
  | nil => rfl
  | cons join rest ih => simp [Join.listTokens, ih]

namespace Expr

@[simp]
theorem placeholders_tableColumn (table name : String) :
    (tableColumn table name).placeholders = [] := by
  simp [placeholders, tableColumn, Expr.tokens]

@[simp]
theorem placeholders_param (name : String) : (Expr.param name).placeholders = [name] := by
  simp [placeholders, Expr.tokens]

@[simp]
theorem placeholders_text (value : String) : (Expr.text value).placeholders = [] := by
  simp [placeholders, Expr.tokens]

@[simp]
theorem placeholders_binary (op : BinaryOp) (left right : Expr) :
    (Expr.binary op left right).placeholders = left.placeholders ++ right.placeholders := by
  rw [placeholders, Expr.tokens]
  simp [tokenPlaceholders_operand]

@[simp]
theorem placeholders_likeEscaped (subject pattern : Expr) :
    (Expr.likeEscaped subject pattern).placeholders =
      subject.placeholders ++ pattern.placeholders := by
  rw [placeholders, Expr.tokens]
  simp [placeholders]

@[simp]
theorem placeholders_inList (subject : Expr) (values : List Expr) :
    (Expr.inList subject values).placeholders =
      subject.placeholders ++ values.flatMap placeholders := by
  rw [placeholders, Expr.tokens]
  simp [placeholders, tokenPlaceholders_listTokens]

@[simp]
theorem placeholders_inQuery (subject : Expr) (query : Query) (negated : Bool) :
    (Expr.inQuery subject query negated).placeholders =
      subject.placeholders ++ query.placeholders := by
  rw [placeholders, Expr.tokens]
  cases negated <;> simp [placeholders, Query.placeholders, Token.spaced]

@[simp]
theorem placeholders_notNull (subject : Expr) :
    (Expr.notNull subject).placeholders = subject.placeholders := by
  rw [placeholders, Expr.tokens]
  simp [placeholders, Token.spaced]

theorem placeholders_foldl (op : BinaryOp) (first : Expr) (rest : List Expr) :
    (rest.foldl (Expr.binary op) first).placeholders =
      first.placeholders ++ rest.flatMap placeholders := by
  induction rest generalizing first with
  | nil => simp
  | cons next rest ih => simp [ih]

end Expr

namespace Query

theorem placeholders_select (columns : List Expr) (source : Option Source) (joins : List Join)
    (condition : Option Expr) :
    (Query.select columns source joins condition).placeholders =
      columns.flatMap Expr.placeholders ++
        source.toList.flatMap (fun source => tokenPlaceholders source.tokens) ++
        (joins.flatMap fun join => tokenPlaceholders join.tokens) ++
        condition.toList.flatMap Expr.placeholders := by
  have hcolumns : tokenPlaceholders
      (if columns.isEmpty then [] else .space :: Expr.listTokens columns) =
        columns.flatMap Expr.placeholders := by
    cases columns with
    | nil => rfl
    | cons first rest => simp [tokenPlaceholders_listTokens]
  cases source <;> cases condition <;> rw [placeholders, Query.tokens] <;>
    simp only [tokenPlaceholders_append, hcolumns, tokenPlaceholders_joins] <;>
    simp [Expr.placeholders]

/-- One more condition adds its placeholders to those of a plain SELECT. -/
theorem placeholders_addFilter {query : Query} (hplain : query.isUnion = false) (added : Expr) :
    (query.addFilter added).placeholders = query.placeholders ++ added.placeholders := by
  match query, hplain with
  | .select columns source joins condition, _ =>
      cases condition <;> simp [addFilter, placeholders_select]

theorem tokenPlaceholders_branch (query : Query) :
    tokenPlaceholders (branch query query.tokens) = query.placeholders := by
  unfold branch
  split
  · exact tokenPlaceholders_parenthesized query.tokens
  · rfl

theorem tokenPlaceholders_restTokens (queries : List Query) :
    tokenPlaceholders (restTokens queries) = queries.flatMap placeholders := by
  induction queries with
  | nil => rfl
  | cons query rest ih =>
      simp [restTokens, ih, tokenPlaceholders_branch, unionTokens]

/-- The placeholders of a union are those of its branches. -/
theorem placeholders_ofBranches? {branches : List Query} {query : Query}
    (h : ofBranches? branches = some query) :
    query.placeholders = branches.flatMap placeholders := by
  match branches, h with
  | [single], h =>
      cases h
      simp
  | first :: second :: rest, h =>
      cases h
      rw [placeholders, Query.tokens]
      simp [tokenPlaceholders_branch, tokenPlaceholders_restTokens, unionTokens]

end Query

mutual

/-- The aliases of the tables that an expression reads in its queries. -/
def Expr.aliases : Expr → List String
  | .column _ _ | .int _ | .text _ | .param _ => []
  | .binary _ left right => left.aliases ++ right.aliases
  | .likeEscaped subject pattern => subject.aliases ++ pattern.aliases
  | .inList subject values => subject.aliases ++ Expr.listAliases values
  | .inQuery subject query _ => subject.aliases ++ query.aliases
  | .notNull subject => subject.aliases

def Expr.listAliases : List Expr → List String
  | [] => []
  | expr :: rest => expr.aliases ++ Expr.listAliases rest

/-- The aliases of the tables that a query reads, stored and derived ones. -/
def Query.aliases : Query → List String
  | .select columns source joins condition =>
    Expr.listAliases columns ++
      (match source with
        | none => []
        | some source => source.aliases) ++
      Join.listAliases joins ++
      (match condition with
        | none => []
        | some condition => condition.aliases)
  | .unionAll first second rest =>
    first.aliases ++ second.aliases ++ Query.listAliases rest

def Query.listAliases : List Query → List String
  | [] => []
  | query :: rest => query.aliases ++ Query.listAliases rest

def Source.aliases : Source → List String
  | .table _ aliasName => aliasName.toList
  | .derived query aliasName => query.aliases ++ [aliasName]

def Join.aliases : Join → List String
  | .on _ source condition => source.aliases ++ condition.aliases

def Join.listAliases : List Join → List String
  | [] => []
  | join :: rest => join.aliases ++ Join.listAliases rest

end

@[simp]
theorem Expr.aliases_tableColumn (table name : String) : (tableColumn table name).aliases = [] := by
  rw [tableColumn, Expr.aliases]

@[simp]
theorem Expr.hasEmptyList_tableColumn (table name : String) :
    (tableColumn table name).hasEmptyList = false := by
  rw [tableColumn, Expr.hasEmptyList]

theorem Expr.listAliases_params (names : List String) :
    Expr.listAliases (names.map Expr.param) = [] := by
  induction names with
  | nil => rfl
  | cons name rest ih => simp [Expr.listAliases, Expr.aliases, ih]

theorem Expr.aliases_foldl (op : BinaryOp) (first : Expr) (rest : List Expr) :
    (rest.foldl (Expr.binary op) first).aliases = first.aliases ++ rest.flatMap aliases := by
  induction rest generalizing first with
  | nil => simp
  | cons next rest ih => simp [ih, Expr.aliases]

theorem Expr.hasEmptyList_foldl (op : BinaryOp) (first : Expr) (rest : List Expr) :
    (rest.foldl (Expr.binary op) first).hasEmptyList =
      (first.hasEmptyList || rest.any hasEmptyList) := by
  induction rest generalizing first with
  | nil => simp
  | cons next rest ih => simp [ih, Expr.hasEmptyList, Bool.or_assoc]

theorem Expr.anyEmptyList_params (names : List String) :
    Expr.anyEmptyList (names.map Expr.param) = false := by
  induction names with
  | nil => rfl
  | cons name rest ih => simp [Expr.anyEmptyList, Expr.hasEmptyList, ih]

theorem Join.listAliases_eq_flatMap (joins : List Join) :
    Join.listAliases joins = joins.flatMap Join.aliases := by
  induction joins with
  | nil => rfl
  | cons join rest ih => rw [Join.listAliases, List.flatMap_cons, ih]

theorem Join.anyEmptyList_eq_any (joins : List Join) :
    Join.anyEmptyList joins = joins.any Join.hasEmptyList := by
  induction joins with
  | nil => rfl
  | cons join rest ih => rw [Join.anyEmptyList, List.any_cons, ih]

theorem Query.listAliases_eq_flatMap (queries : List Query) :
    Query.listAliases queries = queries.flatMap Query.aliases := by
  induction queries with
  | nil => rfl
  | cons query rest ih => rw [Query.listAliases, List.flatMap_cons, ih]

/-- The aliases of a union are those of its branches. -/
theorem Query.aliases_ofBranches? {branches : List Query} {query : Query}
    (h : ofBranches? branches = some query) : query.aliases = branches.flatMap aliases := by
  match branches, h with
  | [single], h =>
      cases h
      simp
  | first :: second :: rest, h =>
      cases h
      simp [Query.aliases, Query.listAliases_eq_flatMap]

theorem Query.anyEmptyList_eq_any (queries : List Query) :
    Query.anyEmptyList queries = queries.any Query.hasEmptyList := by
  induction queries with
  | nil => rfl
  | cons query rest ih => rw [Query.anyEmptyList, List.any_cons, ih]

theorem Query.hasEmptyList_ofBranches? {branches : List Query} {query : Query}
    (h : ofBranches? branches = some query) :
    query.hasEmptyList = branches.any hasEmptyList := by
  match branches, h with
  | [single], h =>
      cases h
      simp
  | first :: second :: rest, h =>
      cases h
      simp [Query.hasEmptyList, Query.anyEmptyList_eq_any, Bool.or_assoc]

end SegmentPaths
