/-
Expressions and queries.  A query is either a plain SELECT or a UNION ALL of at
least two queries.
-/
import SegmentPaths.Sql.Token

namespace SegmentPaths

inductive BinaryOp
  | equal
  | unequal
  | less
  | greater
  | lessEqual
  | greaterEqual
  | and
  | or
  | like
  | regexp
deriving DecidableEq

inductive JoinKind
  | inner
  | left
deriving DecidableEq

mutual

inductive Expr
  | column (table : Option String) (name : String)
  | int (value : Int64)
  | text (value : String)
  | param (name : String)
  | binary (op : BinaryOp) (left right : Expr)
  | likeEscaped (subject pattern : Expr)
  | inList (subject : Expr) (values : List Expr)
  | inQuery (subject : Expr) (query : Query) (negated : Bool)
  | notNull (subject : Expr)

inductive Query
  | select (columns : List Expr) (source : Option Source) (joins : List Join)
      (condition : Option Expr)
  | unionAll (first second : Query) (rest : List Query)

/-- What a query reads rows from: a stored table or a derived one. -/
inductive Source
  | table (name : String) (aliasName : Option String)
  | derived (query : Query) (aliasName : String)

inductive Join
  | on (kind : JoinKind) (source : Source) (condition : Expr)

end

instance : Inhabited Expr := ⟨.int 0⟩

instance : Inhabited Query := ⟨.select [] none [] none⟩

/-- The token of an operator between its operands. -/
def BinaryOp.token : BinaryOp → Token
  | .equal => .mark .equal
  | .unequal => .mark .unequal
  | .less => .mark .less
  | .greater => .mark .greater
  | .lessEqual => .mark .lessEqual
  | .greaterEqual => .mark .greaterEqual
  | .and => .keyword .AND
  | .or => .keyword .OR
  | .like => .keyword .LIKE
  | .regexp => .keyword .REGEXP

namespace Expr

/-- The column of a table. -/
def tableColumn (table name : String) : Expr := .column (some table) name

/-- The character that makes the next one in a pattern stand for itself. -/
def patternEscape : Char := '!'

def isOr : Expr → Bool
  | .binary .or _ _ => true
  | _ => false

/-- Tokens of an operand, between parentheses only for an OR under an AND,
because AND binds tighter. -/
def operand (op : BinaryOp) (expr : Expr) (tokens : List Token) : List Token :=
  if op = .and ∧ expr.isOr = true then Token.parenthesized tokens else tokens

end Expr

namespace Query

def isUnion : Query → Bool
  | .select .. => false
  | .unionAll .. => true

/-- Tokens of a branch of a union, between parentheses if it is a union. -/
def branch (query : Query) (tokens : List Token) : List Token :=
  if query.isUnion then Token.parenthesized tokens else tokens

/-- The tokens between two branches of a union. -/
def unionTokens : List Token :=
  [.space, .keyword .UNION, .space, .keyword .ALL, .space]

end Query

def JoinKind.keyword : JoinKind → Keyword
  | .inner => .INNER
  | .left => .LEFT

/-- The tokens of an alias behind a table. -/
def aliasTokens : Option String → List Token
  | none => []
  | some aliasName => Token.spaced (.name aliasName)

mutual

/-- The tokens of an expression. -/
def Expr.tokens : Expr → List Token
  | .column none name => [.name name]
  | .column (some table) name => [.name table, .mark .dot, .name name]
  | .int value => [.int value]
  | .text value => [.text value]
  | .param name => [.param name]
  | .binary op left right =>
    Expr.operand op left left.tokens ++ [.space, op.token, .space] ++
      Expr.operand op right right.tokens
  | .likeEscaped subject pattern =>
    subject.tokens ++ [.space, .keyword .LIKE, .space] ++ pattern.tokens ++
      [.space, .keyword .ESCAPE, .space, .text (String.ofList [Expr.patternEscape])]
  | .inList subject values =>
    subject.tokens ++ [.space, .keyword .IN, .space] ++
      Token.parenthesized (Expr.listTokens values)
  | .inQuery subject query negated =>
    subject.tokens ++ (if negated then Token.spaced (.keyword .NOT) else []) ++
      [.space, .keyword .IN, .space] ++ Token.parenthesized query.tokens
  | .notNull subject => subject.tokens ++ Token.spaced (.keyword .ISNOTNULL)

/-- The tokens of expressions with commas between them. -/
def Expr.listTokens : List Expr → List Token
  | [] => []
  | [expr] => expr.tokens
  | expr :: next :: rest =>
    expr.tokens ++ [.mark .comma, .space] ++ Expr.listTokens (next :: rest)

/-- The tokens of a query. -/
def Query.tokens : Query → List Token
  | .select columns source joins condition =>
    [.keyword .SELECT] ++ (if columns.isEmpty then [] else .space :: Expr.listTokens columns) ++
      (match source with
        | none => []
        | some source => [.space, .keyword .FROM, .space] ++ source.tokens) ++
      Join.listTokens joins ++
      (match condition with
        | none => []
        | some condition => [.space, .keyword .WHERE, .space] ++ condition.tokens)
  | .unionAll first second rest =>
    Query.branch first first.tokens ++ Query.unionTokens ++ Query.branch second second.tokens ++
      Query.restTokens rest

/-- The tokens of the branches of a union behind the second one. -/
def Query.restTokens : List Query → List Token
  | [] => []
  | query :: rest => Query.unionTokens ++ Query.branch query query.tokens ++ Query.restTokens rest

/-- The tokens of a table or of a derived table. -/
def Source.tokens : Source → List Token
  | .table name aliasName => .name name :: aliasTokens aliasName
  | .derived query aliasName =>
    Token.parenthesized query.tokens ++ aliasTokens (some aliasName)

/-- The tokens of a join. -/
def Join.tokens : Join → List Token
  | .on kind source condition =>
    [.keyword kind.keyword, .space, .keyword .JOIN, .space] ++ source.tokens ++
      [.space, .keyword .ON, .space] ++ condition.tokens

/-- The tokens of joins, each with a blank in front. -/
def Join.listTokens : List Join → List Token
  | [] => []
  | join :: rest => .space :: join.tokens ++ Join.listTokens rest

end

mutual

/-- Whether an IN with an empty list stands in an expression. -/
def Expr.hasEmptyList : Expr → Bool
  | .column _ _ | .int _ | .text _ | .param _ => false
  | .binary _ left right => left.hasEmptyList || right.hasEmptyList
  | .likeEscaped subject pattern => subject.hasEmptyList || pattern.hasEmptyList
  | .inList subject values =>
    values.isEmpty || subject.hasEmptyList || Expr.anyEmptyList values
  | .inQuery subject query _ => subject.hasEmptyList || query.hasEmptyList
  | .notNull subject => subject.hasEmptyList

def Expr.anyEmptyList : List Expr → Bool
  | [] => false
  | expr :: rest => expr.hasEmptyList || Expr.anyEmptyList rest

/-- Whether an IN with an empty list stands in a query. -/
def Query.hasEmptyList : Query → Bool
  | .select columns source joins condition =>
    Expr.anyEmptyList columns ||
      (match source with
        | none => false
        | some source => source.hasEmptyList) ||
      Join.anyEmptyList joins ||
      (match condition with
        | none => false
        | some condition => condition.hasEmptyList)
  | .unionAll first second rest =>
    first.hasEmptyList || second.hasEmptyList || Query.anyEmptyList rest

def Query.anyEmptyList : List Query → Bool
  | [] => false
  | query :: rest => query.hasEmptyList || Query.anyEmptyList rest

def Source.hasEmptyList : Source → Bool
  | .table _ _ => false
  | .derived query _ => query.hasEmptyList

def Join.hasEmptyList : Join → Bool
  | .on _ source condition => source.hasEmptyList || condition.hasEmptyList

def Join.anyEmptyList : List Join → Bool
  | [] => false
  | join :: rest => join.hasEmptyList || Join.anyEmptyList rest

end

/-- The text of an expression. -/
def Expr.sql (dialect : Dialect) (expr : Expr) : String := tokenText dialect expr.tokens

namespace Query

/-- The text of a query. -/
def sql (dialect : Dialect) (query : Query) : String := tokenText dialect query.tokens

/-- The union of queries: nothing for none, and a single one as it is. -/
def ofBranches? : List Query → Option Query
  | [] => none
  | [query] => some query
  | first :: second :: rest => some (.unionAll first second rest)

/-- The branches of a union, in order; none for a plain SELECT. -/
def branches : Query → List Query
  | .select .. => []
  | .unionAll first second rest => first :: second :: rest

/-- Demands one more condition of the rows of a plain SELECT.  A union has no
condition of its own and stays as it is. -/
def addFilter : Query → Expr → Query
  | .select columns source joins none, added => .select columns source joins (some added)
  | .select columns source joins (some existing), added =>
    .select columns source joins (some (.binary .and existing added))
  | .unionAll first second rest, _ => .unionAll first second rest

/-- Adds a join behind the joins of a plain SELECT. -/
def addJoin : Query → Join → Query
  | .select columns source joins condition, join =>
    .select columns source (joins ++ [join]) condition
  | .unionAll first second rest, _ => .unionAll first second rest

end Query

end SegmentPaths
