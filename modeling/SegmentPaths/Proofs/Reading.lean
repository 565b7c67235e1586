/-
Statements read from their lexemes.  A group between parentheses is read as soon
as it is closed and stands as one item in the group around it, so no level of a
statement holds a parenthesis.  On a level, UNION separates branches, clauses
start at their keywords, commas separate columns, OR binds less tightly than AND,
and AND less tightly than the comparisons.
-/
import SegmentPaths.Proofs.Lexing
import SegmentPaths.Proofs.Reassociation

namespace SegmentPaths

/-- A part of one level of a statement: a lexeme, or a group that has been read
as a query or as expressions with commas between them. -/
inductive Item
  | lexeme (lexeme : Lexeme)
  | query (query : Query)
  | exprs (exprs : List Expr)

namespace Item

def isKeyword (word : Keyword) : Item → Bool
  | .lexeme (.keyword other) => other == word
  | _ => false

def isComma : Item → Bool
  | .lexeme (.mark .comma) => true
  | _ => false

/-- The operand that stands in front, and what stands behind it. -/
def operand? : List Item → Option (Expr × List Item)
  | .lexeme (.name name) :: rest =>
    match rest with
    | .lexeme (.mark .dot) :: .lexeme (.name column) :: behind =>
      some (.column (some name) column, behind)
    | _ => some (.column none name, rest)
  | .lexeme (.int value) :: rest => some (.int value, rest)
  | .lexeme (.text value) :: rest => some (.text value, rest)
  | .lexeme (.param name) :: rest => some (.param name, rest)
  | .exprs [expr] :: rest => some (expr, rest)
  | _ => none

/-- The operator between two operands, apart from AND and OR. -/
def operator? : Item → Option BinaryOp
  | .lexeme (.mark .equal) => some .equal
  | .lexeme (.mark .unequal) => some .unequal
  | .lexeme (.mark .less) => some .less
  | .lexeme (.mark .greater) => some .greater
  | .lexeme (.mark .lessEqual) => some .lessEqual
  | .lexeme (.mark .greaterEqual) => some .greaterEqual
  | .lexeme (.keyword .LIKE) => some .like
  | .lexeme (.keyword .REGEXP) => some .regexp
  | _ => none

/-- An operator with its operands, and what stands behind the one on the right.
Only a LIKE may name a character that escapes. -/
def comparison? (left : Expr) (op : BinaryOp) : Expr × List Item → Option Expr
  | (right, []) => some (.binary op left right)
  | (pattern, [.lexeme (.keyword .ESCAPE), .lexeme (.text mark)]) =>
    if op = .like ∧ mark = String.ofList [Expr.patternEscape] then
      some (.likeEscaped left pattern)
    else none
  | _ => none

/-- What is said of a subject by the items behind it. -/
def statement? (subject : Expr) : List Item → Option Expr
  | [] => some subject
  | [.lexeme (.keyword .IN), .exprs values] => some (.inList subject values)
  | [.lexeme (.keyword .IN), .query inner] => some (.inQuery subject inner false)
  | [.lexeme (.keyword .NOT), .lexeme (.keyword .IN), .query inner] =>
    some (.inQuery subject inner true)
  | [.lexeme .isWord, .lexeme (.keyword .NOT), .lexeme .nullWord] => some (.notNull subject)
  | item :: rest =>
    item.operator?.bind (fun op => (operand? rest).bind (comparison? subject op))

/-- A condition without AND and OR. -/
def predicate? (items : List Item) : Option Expr :=
  (operand? items).bind (fun (subject, rest) => statement? subject rest)

end Item

namespace Expr

/-- Parts with a keyword between them, joined by its operator to the left. -/
def ofParts? (op : BinaryOp) (word : Keyword) (part? : List Item → Option Expr)
    (items : List Item) : Option Expr :=
  ((items.splitOnP (Item.isKeyword word)).mapM part?).bind (joined op)

/-- A condition without OR. -/
def ofConjunction? : List Item → Option Expr := ofParts? .and .AND Item.predicate?

def ofItems? : List Item → Option Expr := ofParts? .or .OR ofConjunction?

/-- One or more expressions with commas between them. -/
def listOfItems? (items : List Item) : Option (List Expr) :=
  (items.splitOnP Item.isComma).mapM ofItems?

end Expr

namespace Source

def ofItems? : List Item → Option Source
  | [.lexeme (.name name)] => some (.table name none)
  | [.lexeme (.name name), .lexeme (.name aliasName)] => some (.table name (some aliasName))
  | [.query query, .lexeme (.name aliasName)] => some (.derived query aliasName)
  | _ => none

end Source

/-- A clause: the keyword it starts with, and its items. -/
abbrev Clause := Keyword × List Item

namespace Clause

/-- Whether a keyword starts a clause. -/
def starts : Keyword → Bool
  | .SELECT | .FROM | .INNER | .LEFT | .ON | .WHERE => true
  | _ => false

/-- The keyword of a clause that starts at an item. -/
def start? : Item → Option Keyword
  | .lexeme (.keyword word) => if starts word then some word else none
  | _ => none

/-- The items in front of the first clause, and the clauses. -/
def split : List Item → List Item × List Clause
  | [] => ([], [])
  | item :: rest =>
    match start? item with
    | some word => ([], (word, (split rest).1) :: (split rest).2)
    | none => (item :: (split rest).1, (split rest).2)

end Clause

/-- The kind of join that a keyword stands for. -/
def JoinKind.ofKeyword? : Keyword → Option JoinKind
  | .INNER => some .inner
  | .LEFT => some .left
  | _ => none

/-- The joins that the first clauses are, and the clauses behind them. -/
def Join.ofClauses? : List Clause → Option (List Join × List Clause)
  | (word, .lexeme (.keyword .JOIN) :: table) :: (.ON, condition) :: rest => do
    let kind ← JoinKind.ofKeyword? word
    let source ← Source.ofItems? table
    let condition ← Expr.ofItems? condition
    let (joins, behind) ← Join.ofClauses? rest
    some (.on kind source condition :: joins, behind)
  | clauses => some ([], clauses)

namespace Query

def columns? (items : List Item) : Option (List Expr) :=
  if items.isEmpty then some [] else Expr.listOfItems? items

def source? : List Clause → Option (Option Source × List Clause)
  | (.FROM, table) :: rest => (Source.ofItems? table).map (fun source => (some source, rest))
  | clauses => some (none, clauses)

def condition? : List Clause → Option (Option Expr)
  | [] => some none
  | [(.WHERE, condition)] => (Expr.ofItems? condition).map some
  | _ => none

/-- A plain SELECT. -/
def ofSelect? (items : List Item) : Option Query :=
  match Clause.split items with
  | ([], (.SELECT, columns) :: rest) => do
    let columns ← columns? columns
    let (source, rest) ← source? rest
    let (joins, rest) ← Join.ofClauses? rest
    let condition ← condition? rest
    some (.select columns source joins condition)
  | _ => none

/-- A branch of a union: a query between parentheses or a plain SELECT. -/
def ofBranch? : List Item → Option Query
  | [.query query] => some query
  | items => ofSelect? items

/-- What stands behind a UNION. -/
def ofNextBranch? : List Item → Option Query
  | .lexeme (.keyword .ALL) :: items => ofBranch? items
  | _ => none

/-- A query: branches with UNION ALL between them. -/
def ofItems? (items : List Item) : Option Query :=
  match items.splitOnP (Item.isKeyword .UNION) with
  | [] => none
  | first :: rest => do
    let first ← ofBranch? first
    let rest ← rest.mapM ofNextBranch?
    ofBranches? (first :: rest)

end Query

/-- A group between parentheses: a query if it starts like one, and else
expressions. -/
def Item.ofGroup? (items : List Item) : Option Item :=
  match items with
  | .lexeme (.keyword .SELECT) :: _ | .query _ :: _ => (Query.ofItems? items).map .query
  | _ => (Expr.listOfItems? items).map .exprs

/-- The items of the innermost open group, and of the groups around it from the
inside out. -/
structure Nesting where
  current : List Item
  outer : List (List Item)

namespace Nesting

/-- The nesting with more items in the innermost group. -/
def push (nesting : Nesting) (items : List Item) : Nesting :=
  { nesting with current := nesting.current ++ items }

/-- Reads one lexeme.  Parentheses open and close groups. -/
def step (nesting : Nesting) : Lexeme → Option Nesting
  | .mark .opening => some ⟨[], nesting.current :: nesting.outer⟩
  | .mark .closing =>
    match nesting.outer with
    | [] => none
    | around :: outer =>
      (Item.ofGroup? nesting.current).map (fun item => ⟨around ++ [item], outer⟩)
  | lexeme => some (nesting.push [.lexeme lexeme])

/-- The items of a statement in which every group is closed. -/
def items? (lexemes : List Lexeme) : Option (List Item) :=
  match lexemes.foldlM step ⟨[], []⟩ with
  | some ⟨items, []⟩ => some items
  | _ => none

end Nesting

/-- The query that a text is in a dialect. -/
def Query.read? (dialect : Dialect) (text : String) : Option Query :=
  ((lexemes? dialect text.toList).bind Nesting.items?).bind Query.ofItems?

end SegmentPaths
