/-
The tokens statements are made of, and the text of a run of tokens.  Blanks are
tokens of their own, so the text of a run is the texts of its tokens in a row.
-/
import SegmentPaths.Sql.Dialect
import SegmentPaths.Text.Decimal

namespace SegmentPaths

/-- The keywords that statements use. -/
inductive Keyword
  | SELECT
  | FROM
  | WHERE
  | INNER
  | LEFT
  | JOIN
  | ON
  | AND
  | OR
  | NOT
  | IN
  | LIKE
  | ESCAPE
  | REGEXP
  | ISNOTNULL
  | UNION
  | ALL
deriving DecidableEq

/-- Every keyword. -/
def Keyword.all : List Keyword :=
  [.SELECT, .FROM, .WHERE, .INNER, .LEFT, .JOIN, .ON, .AND, .OR, .NOT, .IN, .LIKE, .ESCAPE,
   .REGEXP, .ISNOTNULL, .UNION, .ALL]

/-- The punctuation and comparison marks that statements use. -/
inductive Mark
  | comma
  | dot
  | opening
  | closing
  | equal
  | unequal
  | less
  | greater
  | lessEqual
  | greaterEqual
deriving DecidableEq

/-- Every mark. -/
def Mark.all : List Mark :=
  [.comma, .dot, .opening, .closing, .equal, .unequal, .less, .greater, .lessEqual,
   .greaterEqual]

inductive Token
  | keyword (word : Keyword)
  | mark (sign : Mark)
  | space
  | name (ident : String)
  | param (ident : String)
  | int (value : Int64)
  | text (value : String)
deriving DecidableEq

/-- The spelling of a keyword; only the regular expression operator depends on
the dialect. -/
def Keyword.text (dialect : Dialect) : Keyword → String
  | .SELECT => "SELECT"
  | .FROM => "FROM"
  | .WHERE => "WHERE"
  | .INNER => "INNER"
  | .LEFT => "LEFT"
  | .JOIN => "JOIN"
  | .ON => "ON"
  | .AND => "AND"
  | .OR => "OR"
  | .NOT => "NOT"
  | .IN => "IN"
  | .LIKE => "LIKE"
  | .ESCAPE => "ESCAPE"
  | .REGEXP => dialect.regexpOperator
  | .ISNOTNULL => "IS NOT NULL"
  | .UNION => "UNION"
  | .ALL => "ALL"

def Mark.text : Mark → String
  | .comma => ","
  | .dot => "."
  | .opening => "("
  | .closing => ")"
  | .equal => "="
  | .unequal => "<>"
  | .less => "<"
  | .greater => ">"
  | .lessEqual => "<="
  | .greaterEqual => ">="

namespace Token

/-- The characters of one token. -/
def chars (dialect : Dialect) : Token → List Char
  | .keyword word => (word.text dialect).toList
  | .mark sign => sign.text.toList
  | .space => [' ']
  | .name ident => dialect.nameChars ident
  | .param ident => dialect.paramChars ident
  | .int value => Decimal.chars value.toInt
  | .text value => dialect.quoteTextChars value.toList

/-- A token with a blank in front. -/
def spaced (token : Token) : List Token := [.space, token]

/-- Tokens between parentheses. -/
def parenthesized (tokens : List Token) : List Token :=
  .mark .opening :: tokens ++ [.mark .closing]

end Token

/-- The characters of a run of tokens. -/
def tokenChars (dialect : Dialect) (tokens : List Token) : List Char :=
  tokens.flatMap (Token.chars dialect)

/-- The text of a run of tokens. -/
def tokenText (dialect : Dialect) (tokens : List Token) : String :=
  String.ofList (tokenChars dialect tokens)

@[simp]
theorem tokenChars_append (dialect : Dialect) (left right : List Token) :
    tokenChars dialect (left ++ right) = tokenChars dialect left ++ tokenChars dialect right :=
  List.flatMap_append

end SegmentPaths
