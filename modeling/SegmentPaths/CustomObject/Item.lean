/-
Items of custom objects, and their links to contacts and to each other.
-/
import SegmentPaths.Json.Record

namespace SegmentPaths

structure CustomItem where
  id : Int64
  objectId : Int64
  name : String
deriving DecidableEq

/-- A contact linked to an item. -/
structure ItemContactLink where
  itemId : Int64
  contactId : Int64
deriving DecidableEq

/-- Two items linked to each other, stored with the lower id first. -/
structure ItemItemLink where
  lower : Int64
  higher : Int64
  lower_le_higher : lower ≤ higher
deriving DecidableEq

namespace CustomItem

def memberNames : List String := ["id", "object_id", "name"]

def ofDocument? (format : Format) (document : Document) : Option CustomItem := do
  let record ← document.record? format memberNames
  let id ← record.required? "id" Document.int64?
  let objectId ← record.required? "object_id" Document.int64?
  let name ← record.required? "name" Document.text?
  pure ⟨id, objectId, name⟩

def json (item : CustomItem) : Json :=
  Json.ofMembers
    [("id", Json.ofInt64 item.id), ("object_id", Json.ofInt64 item.objectId),
     ("name", .text item.name)]

end CustomItem

namespace ItemContactLink

def memberNames : List String := ["custom_item_id", "contact_id"]

def ofDocument? (format : Format) (document : Document) : Option ItemContactLink := do
  let record ← document.record? format memberNames
  let itemId ← record.required? "custom_item_id" Document.int64?
  let contactId ← record.required? "contact_id" Document.int64?
  pure ⟨itemId, contactId⟩

def json (link : ItemContactLink) : Json :=
  Json.ofMembers
    [("custom_item_id", Json.ofInt64 link.itemId), ("contact_id", Json.ofInt64 link.contactId)]

end ItemContactLink

namespace ItemItemLink

/-- The link between two items, whichever comes first. -/
def ofPair (a b : Int64) : ItemItemLink :=
  if h : a ≤ b then ⟨a, b, h⟩
  else ⟨b, a, (Int64.le_total b a).resolve_right h⟩

/-- The item at the other end of the link. -/
def other? (link : ItemItemLink) (item : Int64) : Option Int64 :=
  if item = link.lower then some link.higher
  else if item = link.higher then some link.lower
  else none

def memberNames : List String := ["lower", "higher"]

/-- Reads a link whose ends may stand in either order. -/
def ofDocument? (format : Format) (document : Document) : Option ItemItemLink := do
  let record ← document.record? format memberNames
  let lower ← record.required? "lower" Document.int64?
  let higher ← record.required? "higher" Document.int64?
  pure (ofPair lower higher)

def json (link : ItemItemLink) : Json :=
  Json.ofMembers
    [("lower", Json.ofInt64 link.lower), ("higher", Json.ofInt64 link.higher)]

end ItemItemLink

end SegmentPaths
