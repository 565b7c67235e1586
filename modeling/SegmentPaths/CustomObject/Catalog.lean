/-
Catalogs: custom objects by id, every field with the object that owns it, and
the checks that a list of objects has to pass.
-/
import SegmentPaths.CustomObject.Metadata
import SegmentPaths.Text.Plural

namespace SegmentPaths

/-- Why a list of objects is no catalog. -/
inductive CatalogProblem
  | duplicateObject (object : Int64)
  | duplicateField (field : Int64)
  | selfRelationship (object : Int64)
  | missingMaster (object : Int64)
  | unknownReference (object referenced : Int64)
deriving DecidableEq

def CatalogProblem.message : CatalogProblem → String
  | .duplicateObject object => "Duplicate custom object id " ++ Decimal.text object
  | .duplicateField field => "Duplicate custom field id " ++ Decimal.text field
  | .selfRelationship object =>
    "Custom object " ++ Decimal.text object ++ " is its own relationship object"
  | .missingMaster object =>
    "Relationship object " ++ Decimal.text object ++ " has no master object"
  | .unknownReference object referenced =>
    "Custom object " ++ Decimal.text object ++ " references unknown object " ++
      Decimal.text referenced

/-- Objects under their ids, and the owner of every field. -/
structure CatalogIndex where
  objects : OrderedMap Int64 CustomObject
  owners : OrderedMap Int64 Int64

structure Catalog where
  index : CatalogIndex
  tables : TableNames

namespace CatalogIndex

def empty : CatalogIndex := ⟨.empty, .empty⟩

/-- Enters the owner of each field, up to the first field that has one. -/
def addOwners (owner : Int64) (owners : OrderedMap Int64 Int64) :
    List CustomField → Except CatalogProblem (OrderedMap Int64 Int64)
  | [] => .ok owners
  | field :: rest =>
    if owners.contains field.id then .error (.duplicateField field.id)
    else addOwners owner (owners.insert field.id owner) rest

/-- An object with its plural name filled in, and owner of its fields. -/
def completed (object : CustomObject) : CustomObject :=
  { object with
    namePlural := if object.namePlural.isEmpty then pluralName object.nameSingular
      else object.namePlural
    fields := object.fields.map (fun field => { field with objectId := object.id }) }

def addObject (index : CatalogIndex) (object : CustomObject) :
    Except CatalogProblem CatalogIndex := do
  let owners ← addOwners object.id index.owners object.fields
  if index.objects.contains object.id then .error (.duplicateObject object.id)
  else .ok ⟨index.objects.insert object.id (completed object), owners⟩

/-- Adds objects one after the other. -/
def addObjects (index : CatalogIndex) :
    List CustomObject → Except CatalogProblem CatalogIndex
  | [] => .ok index
  | object :: rest => do
    let index ← index.addObject object
    addObjects index rest

/-- Refuses references to objects that are not there. -/
def checkReferences (index : CatalogIndex) (object : Int64) :
    List Int64 → Except CatalogProblem Unit
  | [] => .ok ()
  | referenced :: rest =>
    if index.objects.contains referenced then checkReferences index object rest
    else .error (.unknownReference object referenced)

/-- The objects that an object refers to: its master first. -/
def references (object : CustomObject) : List Int64 :=
  object.masterObject.toList ++ object.relationshipObject.toList

def checkObject (index : CatalogIndex) (object : CustomObject) : Except CatalogProblem Unit :=
  if object.relationshipObject = some object.id then .error (.selfRelationship object.id)
  else if object.isRelationship ∧ object.masterObject = none then
    .error (.missingMaster object.id)
  else checkReferences index object.id (references object)

/-- Checks objects one after the other. -/
def checkObjects (index : CatalogIndex) : List CustomObject → Except CatalogProblem Unit
  | [] => .ok ()
  | object :: rest => do
    index.checkObject object
    checkObjects index rest

end CatalogIndex

namespace Catalog

/-- The catalog of a list of objects.  Ids are checked in list order first, and
references in the order of ids. -/
def new (objects : List CustomObject) (tables : TableNames) : Except CatalogProblem Catalog := do
  let index ← CatalogIndex.empty.addObjects objects
  index.checkObjects index.objects.values
  pure ⟨index, tables⟩

/-- The objects in the order of their ids. -/
def objects (catalog : Catalog) : List CustomObject := catalog.index.objects.values

/-- The fields of all objects, in the order of the objects. -/
def fields (catalog : Catalog) : List CustomField :=
  catalog.objects.flatMap CustomObject.fields

def object? (catalog : Catalog) (id : Int64) : Option CustomObject :=
  catalog.index.objects.get? id

/-- The field with an id, found through the object that owns it. -/
def field? (catalog : Catalog) (id : Int64) : Option CustomField := do
  let owner ← catalog.index.owners.get? id
  let object ← catalog.object? owner
  object.field? id

def valueTable (catalog : Catalog) (typeKey : String) : Except QueryError String :=
  catalog.tables.valueTable typeKey

/-- What the compiler may ask of a catalog. -/
def metadata (catalog : Catalog) : Metadata where
  valueTable := catalog.valueTable
  field id :=
    match catalog.field? id with
    | some field => .ok field
    | none => .error (.unknownField id)
  object id :=
    match catalog.object? id with
    | some object => .ok object
    | none => .error (.unknownObject id)
  tables := catalog.tables

end Catalog

end SegmentPaths
