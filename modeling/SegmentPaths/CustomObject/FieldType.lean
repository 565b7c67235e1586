/-
The types of custom fields: how each one stores its values, and which operators
its filters may use.
-/
import SegmentPaths.CustomObject.Operator

namespace SegmentPaths

/-- How the values of a field are stored. -/
inductive ValueKind
  | int
  | text
  | datetime
  | option
deriving DecidableEq

/-- The table that holds the values of a kind, without a prefix. -/
def ValueKind.table : ValueKind → String
  | .int => "custom_field_value_int"
  | .text => "custom_field_value_text"
  | .datetime => "custom_field_value_datetime"
  | .option => "custom_field_value_option"

inductive FieldType
  | country
  | date
  | datetime
  | email
  | hidden
  | int
  | phone
  | select
  | multiselect
  | text
  | textarea
  | url
deriving DecidableEq

namespace FieldType

/-- Every field type, in the order they are listed to users. -/
def all : List FieldType :=
  [.country, .date, .datetime, .email, .hidden, .int, .phone, .select, .multiselect, .text,
   .textarea, .url]

/-- The text that stands for a field type in stored fields. -/
def key : FieldType → String
  | .country => "country"
  | .date => "date"
  | .datetime => "datetime"
  | .email => "email"
  | .hidden => "hidden"
  | .int => "int"
  | .phone => "phone"
  | .select => "select"
  | .multiselect => "multiselect"
  | .text => "text"
  | .textarea => "textarea"
  | .url => "url"

def ofKey? (text : String) : Option FieldType := all.find? (fun type => type.key == text)

def valueKind : FieldType → ValueKind
  | .int => .int
  | .date | .datetime => .datetime
  | .select | .multiselect => .option
  | .country | .email | .hidden | .phone | .text | .textarea | .url => .text

/-- The operators of number fields. -/
def numberOperators : List Operator :=
  [.eq, .neq, .gt, .gte, .lt, .lte, .empty, .notEmpty, .oneOf, .noneOf]

/-- The operators of date and time fields. -/
def dateOperators : List Operator :=
  [.eq, .neq, .gt, .gte, .lt, .lte, .empty, .notEmpty]

/-- The operators of text fields. -/
def textOperators : List Operator :=
  [.eq, .neq, .empty, .notEmpty, .like, .notLike, .startsWith, .endsWith, .contains, .oneOf,
   .noneOf, .regexp, .notRegexp]

/-- The operators of fields that hold one of several options. -/
def choiceOperators : List Operator :=
  [.eq, .neq, .empty, .notEmpty, .oneOf, .noneOf]

/-- The operators of fields that hold any of several options. -/
def multipleChoiceOperators : List Operator :=
  [.empty, .notEmpty, .oneOf, .noneOf]

/-- The operators a filter on a field may use, in the order they are listed. -/
def operators : FieldType → List Operator
  | .int => numberOperators
  | .date | .datetime => dateOperators
  | .select | .country => choiceOperators
  | .multiselect => multipleChoiceOperators
  | .email | .hidden | .phone | .text | .textarea | .url => textOperators

def supports (type : FieldType) (op : Operator) : Bool := type.operators.contains op

theorem ofKey?_key (type : FieldType) : ofKey? type.key = some type := by
  cases type <;> decide

end FieldType

end SegmentPaths
