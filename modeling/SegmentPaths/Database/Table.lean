/-
Stored tables: columns with types, and the constraints that every row has to
meet when it is inserted.
-/
import SegmentPaths.Database.Datum
import SegmentPaths.Text.Blank

namespace SegmentPaths

/-- What a column holds.  A row id is an integer that names its row. -/
inductive ColumnType
  | rowId
  | integer
  | text
deriving DecidableEq

structure TableColumn where
  name : String
  type : ColumnType
  required : Bool
deriving DecidableEq

/-- A table with its rows in the order of their insertion.  No two rows agree in
all columns of the key, and the ascending columns, if there are any, hold two
values of which the first one is below the second one. -/
structure StoredTable where
  name : String
  columns : List TableColumn
  key : List String
  ascending : Option (String × String)
  rows : List (List Datum)

/-- Why a row is not taken. -/
inductive InsertError
  | noTable (table : String)
  | wrongCount (table : String) (expected given : Nat)
  | mismatch
  | nullValue (table column : String)
  | notAscending (lower higher : String)
  | repeated (table : String) (key : List String)
deriving DecidableEq

def InsertError.message : InsertError → String
  | .noTable table => "no such table: " ++ table
  | .wrongCount table expected given =>
    "table " ++ table ++ " has " ++ Decimal.natText expected ++ " columns but " ++
      Decimal.natText given ++ " values were supplied"
  | .mismatch => "datatype mismatch"
  | .nullValue table column => "NOT NULL constraint failed: " ++ table ++ "." ++ column
  | .notAscending lower higher => "CHECK constraint failed: " ++ lower ++ " < " ++ higher
  | .repeated table key =>
    "UNIQUE constraint failed: " ++
      String.intercalate ", " (key.map (fun column => table ++ "." ++ column))

/-- A value as a column of a type stores it: a column of integers takes a text
that spells one as that integer, and a column of texts takes an integer as its
digits. -/
def ColumnType.stored : ColumnType → Datum → Datum
  | .text, .int value => .text (Decimal.text value)
  | .rowId, .text source | .integer, .text source =>
    match Decimal.read? (trimBlanks source) with
    | some value => .int value
    | none => .text source
  | _, datum => datum

namespace StoredTable

def columnNames (table : StoredTable) : List String := table.columns.map TableColumn.name

/-- The value of a column in a row of the table. -/
def value (table : StoredTable) (row : List Datum) (column : String) : Datum :=
  ((table.columnNames.zip row).lookup column).getD .null

/-- The row numbers so far. -/
def rowIds (table : StoredTable) (column : String) : List Int64 :=
  table.rows.filterMap (fun row =>
    match table.value row column with
    | .int id => some id
    | _ => none)

/-- The number of the next row: one more than the greatest one so far, and one
for the first row. -/
def nextRowId (table : StoredTable) (column : String) : Int64 :=
  match table.rowIds column with
  | [] => 1
  | first :: rest => rest.foldl (fun greatest id => if greatest < id then id else greatest) first + 1

/-- The value that a column stores in place of a given one. -/
def storedValue (table : StoredTable) (column : TableColumn) (given : Datum) :
    Except InsertError Datum :=
  match column.type, column.type.stored given with
  | .rowId, .null => .ok (.int (table.nextRowId column.name))
  | .rowId, .text _ => .error .mismatch
  | _, .null =>
    if column.required then .error (.nullValue table.name column.name) else .ok .null
  | _, datum => .ok datum

/-- The values that columns store in place of given ones. -/
def storedRow (table : StoredTable) : List TableColumn → List Datum →
    Except InsertError (List Datum)
  | column :: columns, given :: rest => do
    let datum ← table.storedValue column given
    let row ← storedRow table columns rest
    pure (datum :: row)
  | _, _ => .ok []

/-- Whether the ascending columns of a row ascend, as far as they compare. -/
def ascends (table : StoredTable) (row : List Datum) : Except InsertError Unit :=
  match table.ascending with
  | none => .ok ()
  | some (lower, higher) =>
    match Datum.order? (table.value row lower) (table.value row higher) with
    | none | some .lt => .ok ()
    | _ => .error (.notAscending lower higher)

/-- The values of the key in a row. -/
def keyOf (table : StoredTable) (row : List Datum) : List Datum :=
  table.key.map (table.value row)

/-- Inserts a row of as many values as there are columns. -/
def insert (table : StoredTable) (given : List Datum) : Except InsertError StoredTable := do
  if given.length ≠ table.columns.length then
    .error (.wrongCount table.name table.columns.length given.length)
  let row ← table.storedRow table.columns given
  table.ascends row
  if table.rows.any (fun other => table.keyOf other == table.keyOf row) then
    .error (.repeated table.name table.key)
  pure { table with rows := table.rows ++ [row] }

end StoredTable

/-- The tables of a database by their names. -/
abbrev Store := List StoredTable

namespace Store

def table? (store : Store) (name : String) : Option StoredTable :=
  store.find? (fun table => table.name == name)

/-- Inserts a row into the table with a name. -/
def insert (store : Store) (name : String) (given : List Datum) : Except InsertError Store :=
  match store with
  | [] => .error (.noTable name)
  | table :: rest =>
    if table.name = name then (table.insert given).map (fun table => table :: rest)
    else (insert rest name given).map (fun rest => table :: rest)

/-- Inserts rows into a table, one after the other. -/
def insertAll (store : Store) (name : String) : List (List Datum) → Except InsertError Store
  | [] => .ok store
  | given :: rest => do
    let store ← store.insert name given
    insertAll store name rest

end Store

end SegmentPaths
