/-
TOML tables while they are filled, and the documents they mean.  A table
remembers how it came to be, because that decides who may add to it.
-/
import SegmentPaths.Json.Record

namespace SegmentPaths

/-- How a table came to be: by a header, as a step on the way to another one, by
a dotted key, or between braces. -/
inductive TableKind
  | header
  | implicit
  | dotted
  | inline
deriving DecidableEq

/-- A TOML value.  Fractional numbers keep nothing of what they are, because
nothing that is read from TOML takes one. -/
inductive Toml
  | text (value : String)
  | int (value : Int)
  | fractional
  | bool (value : Bool)
  | datetime
  | array (items : List Toml)
  | tables (items : List (List (String × Toml)))
  | table (kind : TableKind) (members : List (String × Toml))

instance : Inhabited Toml := ⟨.bool false⟩

namespace Toml

/-- The members of a table. -/
abbrev Members := List (String × Toml)

/-- Replaces the value of a key that is there, or adds it at the end. -/
def setMember (key : String) (value : Toml) : Members → Members
  | [] => [(key, value)]
  | (other, old) :: rest =>
    if other = key then (key, value) :: rest else (other, old) :: setMember key value rest

/-- Changes the table at the end of a path of keys.  Missing tables are made on
the way; the last one of a list of tables stands for the list.  A dotted key may
not enter a table that a header made, and nothing enters an inline table. -/
def editAt (dotted : Bool) (change : TableKind → Members → Option (TableKind × Members)) :
    List String → TableKind → Members → Option (TableKind × Members)
  | [], kind, members => change kind members
  | key :: path, kind, members =>
    match members.lookup key with
    | none =>
      (editAt dotted change path (if dotted then .dotted else .implicit) []).map
        (fun (inner, found) => (kind, setMember key (.table inner found) members))
    | some (.table inner found) =>
      if inner = .inline ∨ (dotted = true ∧ inner = .header) then none
      else
        (editAt dotted change path inner found).map
          (fun (inner, found) => (kind, setMember key (.table inner found) members))
    | some (.tables items) =>
      match items.getLast? with
      | none => none
      | some last =>
        (editAt dotted change path .header last).map
          (fun (_, found) => (kind, setMember key (.tables (items.dropLast ++ [found])) members))
    | some _ => none

/-- Adds the value of the last key behind a path of dotted ones. -/
def addValue (path : List String) (key : String) (value : Toml) (kind : TableKind)
    (members : Members) : Option (TableKind × Members) :=
  editAt true (fun inner found =>
    if (inner == .dotted) == path.isEmpty || (found.lookup key).isSome then none
    else some (inner, found ++ [(key, value)])) path kind members

/-- Opens the table of a header. -/
def openTable (key : String) (kind : TableKind) (members : Members) :
    Option (TableKind × Members) :=
  match members.lookup key with
  | none => some (kind, members ++ [(key, .table .header [])])
  | some (.table .implicit found) => some (kind, setMember key (.table .header found) members)
  | some _ => none

/-- Opens the next table of a list of tables. -/
def openListed (key : String) (kind : TableKind) (members : Members) :
    Option (TableKind × Members) :=
  match members.lookup key with
  | none => some (kind, members ++ [(key, .tables [[]])])
  | some (.tables items) => some (kind, setMember key (.tables (items ++ [[]])) members)
  | some _ => none

mutual

/-- The document that a value means.  Nothing takes a fractional number, and no
integer beyond 64 bits either; a date is a record without known names. -/
def document : Toml → Document
  | .text value => .text value
  | .int value => Document.ofNumber ((Decimal.int64? value).map (fun n => .int n.toInt))
  | .fractional => .hole
  | .bool value => .bool value
  | .datetime => .object [(some "datetime", .null)]
  | .array items => .array (itemDocuments items)
  | .tables items => .array (tableDocuments items)
  | .table _ members => .object (memberDocuments members)

def itemDocuments : List Toml → List Document
  | [] => []
  | item :: rest => document item :: itemDocuments rest

def tableDocuments : List (List (String × Toml)) → List Document
  | [] => []
  | members :: rest => .object (memberDocuments members) :: tableDocuments rest

def memberDocuments : List (String × Toml) → List (Option String × Document)
  | [] => []
  | (key, value) :: rest => (some key, document value) :: memberDocuments rest

end

end Toml

end SegmentPaths
