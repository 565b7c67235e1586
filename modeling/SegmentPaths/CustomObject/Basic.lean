/-
Custom objects and their fields, and the records they are stored as.
-/
import SegmentPaths.CustomObject.FieldType
import SegmentPaths.Json.Record

namespace SegmentPaths

/-- A field of a custom object.  Its type is kept as text, because a stored
field may name a type that is not known. -/
structure CustomField where
  id : Int64
  objectId : Int64
  label : String
  aliasName : String
  typeKey : String
deriving DecidableEq

inductive ObjectKind
  | master
  | relationship
deriving DecidableEq

structure CustomObject where
  id : Int64
  aliasName : String
  nameSingular : String
  namePlural : String
  kind : ObjectKind
  masterObject : Option Int64
  relationshipObject : Option Int64
  fields : List CustomField
deriving DecidableEq

namespace ObjectKind

def key : ObjectKind → String
  | .master => "master"
  | .relationship => "relationship"

def ofKey? (text : String) : Option ObjectKind :=
  if text = "master" then some .master
  else if text = "relationship" then some .relationship
  else none

end ObjectKind

namespace CustomField

/-- The field type, if the text of it is known. -/
def type? (field : CustomField) : Option FieldType := FieldType.ofKey? field.typeKey

/-- The members of a stored field, in order. -/
def memberNames : List String := ["id", "object_id", "label", "alias", "type"]

def ofDocument? (format : Format) (document : Document) : Option CustomField := do
  let record ← document.record? format memberNames
  let id ← record.required? "id" Document.int64?
  let objectId ← record.default? "object_id" 0 Document.int64?
  let label ← record.required? "label" Document.text?
  let aliasName ← record.required? "alias" Document.text?
  let typeKey ← record.required? "type" Document.text?
  pure ⟨id, objectId, label, aliasName, typeKey⟩

def json (field : CustomField) : Json :=
  Json.ofMembers
    [("id", Json.ofInt64 field.id), ("object_id", Json.ofInt64 field.objectId),
     ("label", .text field.label), ("alias", .text field.aliasName), ("type", .text field.typeKey)]

end CustomField

namespace CustomObject

/-- An object without plural name, references and fields. -/
def new (id : Int64) (aliasName nameSingular : String) : CustomObject :=
  ⟨id, aliasName, nameSingular, "", .master, none, none, []⟩

/-- Adds a field, which then belongs to the object. -/
def addField (object : CustomObject) (field : CustomField) : CustomObject :=
  { object with fields := object.fields ++ [{ field with objectId := object.id }] }

def isRelationship (object : CustomObject) : Bool := object.kind == .relationship

/-- The first field of the object with an id. -/
def field? (object : CustomObject) (id : Int64) : Option CustomField :=
  object.fields.find? (fun field => field.id == id)

/-- The members of a stored object, in order. -/
def memberNames : List String :=
  ["id", "alias", "name_singular", "name_plural", "kind", "master_object", "relationship_object",
   "fields"]

def ofDocument? (format : Format) (document : Document) : Option CustomObject := do
  let record ← document.record? format memberNames
  let id ← record.required? "id" Document.int64?
  let aliasName ← record.required? "alias" Document.text?
  let nameSingular ← record.required? "name_singular" Document.text?
  let namePlural ← record.default? "name_plural" "" Document.text?
  let kind ← record.default? "kind" .master (Document.choice? format ObjectKind.ofKey?)
  let masterObject ← record.default? "master_object" none (Document.optional? Document.int64?)
  let relationshipObject ←
    record.default? "relationship_object" none (Document.optional? Document.int64?)
  let fields ← record.default? "fields" [] (Document.list? (CustomField.ofDocument? format))
  pure ⟨id, aliasName, nameSingular, namePlural, kind, masterObject, relationshipObject, fields⟩

/-- An optional id as a value. -/
def idJson : Option Int64 → Json
  | none => .null
  | some id => Json.ofInt64 id

def json (object : CustomObject) : Json :=
  Json.ofMembers
    [("id", Json.ofInt64 object.id), ("alias", .text object.aliasName),
     ("name_singular", .text object.nameSingular), ("name_plural", .text object.namePlural),
     ("kind", .text object.kind.key), ("master_object", idJson object.masterObject),
     ("relationship_object", idJson object.relationshipObject),
     ("fields", .array (object.fields.map CustomField.json))]

end CustomObject

end SegmentPaths
