/-
Conditions on a stored value, and the expressions they compile to.  A condition
with a negative operator compiles to what it negates; the query around it takes
the complement.
-/
import SegmentPaths.CustomObject.FieldType
import SegmentPaths.Filter.Value
import SegmentPaths.Sql.Query
import SegmentPaths.Text.Blank

namespace SegmentPaths

structure ValueCondition where
  op : Operator
  value : FilterValue
deriving DecidableEq

/-- Puts the escape character in front of the wildcards of a pattern and of
itself. -/
def escapePattern : List Char → List Char
  | [] => []
  | c :: rest =>
    if c = '%' ∨ c = '_' ∨ c = Expr.patternEscape then
      Expr.patternEscape :: c :: escapePattern rest
    else c :: escapePattern rest

/-- The pattern of the texts that hold a text, between what may stand around it. -/
def patternAround (before after : List Char) (text : String) : String :=
  String.ofList (before ++ escapePattern text.toList ++ after)

/-- The comparison of an operator that compares with a single value. -/
def Operator.comparison? : Operator → Option BinaryOp
  | .eq => some .equal
  | .gt => some .greater
  | .gte => some .greaterEqual
  | .lt => some .less
  | .lte => some .lessEqual
  | .like => some .like
  | .regexp => some .regexp
  | _ => none

/-- A value as an integer: a text has to be one between blanks. -/
def ParamValue.asInt : ParamValue → Except QueryError ParamValue
  | .int value => .ok (.int value)
  | .text value =>
    match Decimal.read? (trimBlanks value) with
    | some n => .ok (.int n)
    | none => .error (.invalidFilter (.notInteger value))

/-- A value as a text. -/
def ParamValue.asText (value : ParamValue) : ParamValue := .text value.display

/-- All values as integers, up to the first one that is none. -/
def asInts : List ParamValue → Except QueryError (List ParamValue)
  | [] => .ok []
  | value :: rest => do
    let value ← value.asInt
    let rest ← asInts rest
    pure (value :: rest)

namespace ValueCondition

def isNegative (condition : ValueCondition) : Bool := condition.op.isNegative

/-- The values that an operator compares with, if their number fits. -/
def operands (condition : ValueCondition) : Except QueryError (List ParamValue) :=
  let op := condition.op
  if op.takesNoValue then .ok []
  else
    match condition.value with
    | .none => .error (.invalidFilter (.needsValue op))
    | .single value => .ok [value]
    | .list values =>
      if op.takesList then
        if values.isEmpty then .error (.invalidFilter (.needsList op)) else .ok values
      else .error (.invalidFilter (.takesSingle op))

/-- The values that an operator compares with, in the form the field stores. -/
def values (condition : ValueCondition) (type : FieldType) :
    Except QueryError (List ParamValue) := do
  let values ← condition.operands
  match type.valueKind with
  | .int => asInts values
  | .text | .datetime | .option => pure (values.map ParamValue.asText)

/-- The values of a condition that fits the type of its field. -/
def checkedValues (condition : ValueCondition) (type : FieldType) :
    Except QueryError (List ParamValue) :=
  if type.supports condition.op then condition.values type
  else .error (.invalidFilter (.notAvailable condition.op type.key))

/-- Refuses a condition that does not fit the type of its field. -/
def validate (condition : ValueCondition) (type : FieldType) : Except QueryError Unit :=
  (condition.checkedValues type).map (fun _ => ())

/-- The name of the placeholder for a value of a list. -/
def listName (stem : String) (index : Nat) : String := stem ++ "_" ++ Decimal.natText index

/-- The values of a list under their names, counted from an index. -/
def listBindings (stem : String) : Nat → List ParamValue → List (String × ParamValue)
  | _, [] => []
  | index, value :: rest => (listName stem index, value) :: listBindings stem (index + 1) rest

/-- The expression of a condition with these values, and what it binds. -/
def expression (condition : ValueCondition) (column : Expr) (type : FieldType) (stem : String)
    (values : List ParamValue) : Except QueryError (Expr × List (String × ParamValue)) :=
  let text := (values.head?.map ParamValue.display).getD ""
  let pattern (before after : List Char) :=
    (Expr.likeEscaped column (.param stem),
      [(stem, ParamValue.text (patternAround before after text))])
  match condition.op.positive with
  | .notEmpty =>
    match type.valueKind with
    | .int | .datetime => .ok (.notNull column, [])
    | .text | .option =>
      .ok (.binary .and (.notNull column) (.binary .unequal column (.text "")), [])
  | .oneOf =>
    let bindings := listBindings stem 0 values
    .ok (.inList column (bindings.map (fun binding => .param binding.1)), bindings)
  | .startsWith => .ok (pattern [] ['%'])
  | .endsWith => .ok (pattern ['%'] [])
  | .contains => .ok (pattern ['%'] ['%'])
  | op =>
    match op.comparison? with
    | some comparison =>
      .ok (.binary comparison column (.param stem), [(stem, values.head?.getD (.int 0))])
    | none => .error (.invalidFilter (.noPositiveForm op))

/-- Binds pairs one after the other. -/
def bindAll (params : Parameters) (bindings : List (String × ParamValue)) : Parameters :=
  bindings.foldl (fun params binding => params.insert binding.1 binding.2) params

/-- The expression of a condition on a column, with its values bound under names
that start with the stem.  A refused condition binds nothing. -/
def toExpr (condition : ValueCondition) (column : Expr) (type : FieldType) (stem : String)
    (params : Parameters) : Except QueryError (Expr × Parameters) := do
  let values ← condition.checkedValues type
  let (expr, bindings) ← condition.expression column type stem values
  pure (expr, bindAll params bindings)

def memberNames : List String := ["operator", "value"]

def ofDocument? (format : Format) (document : Document) : Option ValueCondition := do
  let record ← document.record? format memberNames
  let op ← record.required? "operator" (Document.choice? format Operator.ofKey?)
  let value ← record.default? "value" .none FilterValue.ofDocument?
  pure ⟨op, value⟩

def json (condition : ValueCondition) : Json :=
  Json.ofMembers [("operator", .text condition.op.key), ("value", condition.value.json)]

end ValueCondition

end SegmentPaths
