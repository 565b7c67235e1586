/-
The comparison operators of filter conditions.
-/
namespace SegmentPaths

inductive Operator
  | eq
  | neq
  | gt
  | gte
  | lt
  | lte
  | empty
  | notEmpty
  | like
  | notLike
  | startsWith
  | endsWith
  | contains
  | oneOf
  | noneOf
  | regexp
  | notRegexp
deriving DecidableEq, Inhabited

namespace Operator

/-- Every operator, in the order they are listed to users. -/
def all : List Operator :=
  [.eq, .neq, .gt, .gte, .lt, .lte, .empty, .notEmpty, .like, .notLike, .startsWith, .endsWith,
   .contains, .oneOf, .noneOf, .regexp, .notRegexp]

/-- The text that stands for an operator in stored filters. -/
def key : Operator → String
  | .eq => "eq"
  | .neq => "neq"
  | .gt => "gt"
  | .gte => "gte"
  | .lt => "lt"
  | .lte => "lte"
  | .empty => "empty"
  | .notEmpty => "!empty"
  | .like => "like"
  | .notLike => "!like"
  | .startsWith => "startsWith"
  | .endsWith => "endsWith"
  | .contains => "contains"
  | .oneOf => "in"
  | .noneOf => "!in"
  | .regexp => "regexp"
  | .notRegexp => "!regexp"

/-- Reads the text of an operator; equality and its negation have a second one. -/
def ofKey? (text : String) : Option Operator :=
  if text = "=" then some .eq
  else if text = "!=" then some .neq
  else all.find? (fun op => op.key == text)

/-- Whether a filter with this operator holds for the contacts that its query
does not select. -/
def isNegative : Operator → Bool
  | .neq | .empty | .notLike | .noneOf | .notRegexp => true
  | _ => false

/-- The operator whose query is run: a negative one is replaced by what it
negates. -/
def positive : Operator → Operator
  | .neq => .eq
  | .empty => .notEmpty
  | .notLike => .like
  | .noneOf => .oneOf
  | .notRegexp => .regexp
  | op => op

/-- Whether the operator compares with a list of values. -/
def takesList : Operator → Bool
  | .oneOf | .noneOf => true
  | _ => false

/-- Whether the operator compares with no value. -/
def takesNoValue : Operator → Bool
  | .empty | .notEmpty => true
  | _ => false

theorem mem_all (op : Operator) : op ∈ all := by
  cases op <;> decide

theorem ofKey?_key (op : Operator) : ofKey? op.key = some op := by
  cases op <;> decide

end Operator

end SegmentPaths
