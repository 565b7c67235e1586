/-
The SQL dialects a statement can be written in: how each one quotes names and
strings, marks parameters and spells the regular expression operator.
-/
namespace SegmentPaths

inductive Dialect
  | mysql
  | postgres
  | duckdb
deriving DecidableEq, Inhabited

/-- Writes every occurrence of one character twice. -/
def doubled (mark : Char) : List Char → List Char
  | [] => []
  | c :: rest => if c = mark then c :: c :: doubled mark rest else c :: doubled mark rest

/-- Text between two quote marks, with the marks inside it written twice. -/
def enclosed (mark : Char) (cs : List Char) : List Char :=
  mark :: doubled mark cs ++ [mark]

/-- The words that are never written bare, because some dialect reads them as
keywords. -/
def reservedWords : List String :=
  ["all", "and", "as", "by", "case", "delete", "distinct", "else", "end", "exists", "from",
   "group", "having", "in", "index", "inner", "insert", "into", "is", "join", "key", "left",
   "like", "limit", "not", "null", "on", "or", "order", "outer", "regexp", "right", "select",
   "set", "table", "then", "union", "update", "values", "when", "where"]

def isNameStart (c : Char) : Bool := c.isLower || c == '_'

def isNameRest (c : Char) : Bool := c.isLower || c.isDigit || c == '_'

/-- A name that every dialect reads as itself without quotes: lower-case ASCII
letters, digits and underscores, no digit first, and no reserved word. -/
def isBareName (name : String) : Bool :=
  match name.toList with
  | [] => false
  | first :: rest => isNameStart first && rest.all isNameRest && !reservedWords.contains name

namespace Dialect

def all : List Dialect := [.mysql, .postgres, .duckdb]

/-- The name the dialect goes by in settings and in output. -/
def name : Dialect → String
  | .mysql => "mysql"
  | .postgres => "postgres"
  | .duckdb => "duckdb"

def ofName? (text : String) : Option Dialect := all.find? (fun dialect => dialect.name == text)

/-- The mark around quoted names. -/
def nameMark : Dialect → Char
  | .mysql => '\x60'
  | .postgres | .duckdb => '"'

def quoteNameChars (dialect : Dialect) (cs : List Char) : List Char :=
  enclosed dialect.nameMark cs

/-- A name in quotes. -/
def quoteName (dialect : Dialect) (name : String) : String :=
  String.ofList (dialect.quoteNameChars name.toList)

def nameChars (dialect : Dialect) (name : String) : List Char :=
  if isBareName name then name.toList else dialect.quoteNameChars name.toList

/-- A name, in quotes only where it needs them. -/
def formatName (dialect : Dialect) (name : String) : String :=
  String.ofList (dialect.nameChars name)

/-- A string literal.  MySQL reads backslash escapes, so there a backslash is
written twice before the quotes are. -/
def quoteTextChars (dialect : Dialect) (cs : List Char) : List Char :=
  match dialect with
  | .mysql => enclosed '\'' (doubled '\\' cs)
  | .postgres | .duckdb => enclosed '\'' cs

def quoteText (dialect : Dialect) (text : String) : String :=
  String.ofList (dialect.quoteTextChars text.toList)

/-- The mark in front of a parameter name. -/
def paramMark : Dialect → Char
  | .mysql | .postgres => ':'
  | .duckdb => '$'

def paramChars (dialect : Dialect) (name : String) : List Char :=
  dialect.paramMark :: name.toList

/-- The placeholder of a named parameter. -/
def formatParam (dialect : Dialect) (name : String) : String :=
  String.ofList (dialect.paramChars name)

/-- The operator that matches a regular expression. -/
def regexpOperator : Dialect → String
  | .mysql => "REGEXP"
  | .postgres | .duckdb => "~"

end Dialect

end SegmentPaths
