/-
The kinds of records that are stored: custom objects with their fields, the filters of
segments, conditions and links between items.
-/
import SegmentPaths.Proofs.StoredRecords

namespace SegmentPaths

section Values

@[simp]
theorem Document.int64?_ofInt64 (n : Int64) : (ofJson (Json.ofInt64 n)).int64? = some n :=
  Decimal.int64?_toInt n

@[simp]
theorem Document.text?_ofJson (text : String) : (ofJson (.text text)).text? = some text := rfl

theorem Document.choice?_ofJson {A : Type} (format : Format) (ofName? : String → Option A)
    (name : String) : choice? format ofName? (ofJson (.text name)) = ofName? name := rfl

/-- A list of stored values is read back if each of them is. -/
theorem Document.list?_ofJson {A : Type} {decode : Document → Option A} {json : A → Json}
    (hback : ∀ value, decode (ofJson (json value)) = some value) (values : List A) :
    list? decode (ofJson (.array (values.map json))) = some values := by
  have hitems : decodeAll? decode (ofItems (values.map json)) = some values := by
    induction values with
    | nil => rfl
    | cons value rest ih =>
        rw [List.map_cons, ofItems, decodeAll?, hback, ih]
        rfl
  exact hitems

end Values

namespace CustomField

/-- A field from its members. -/
def ofMembers? (member? : String → Option Document) : Option CustomField := do
  let id ← (member? "id").bind Document.int64?
  let objectId ← (member? "object_id").bind Document.int64?
  let label ← (member? "label").bind Document.text?
  let aliasName ← (member? "alias").bind Document.text?
  let typeKey ← (member? "type").bind Document.text?
  pure ⟨id, objectId, label, aliasName, typeKey⟩

/-- What stands for members that are left out: an owner that is not given. -/
def standard : List (String × Json) := [("object_id", Json.ofInt64 0)]

theorem ofDocument?_eq (document : Document) : ofDocument? .json document =
    (document.record? .json memberNames).bind fun record => ofMembers? (record.filled standard) := by
  unfold ofDocument?
  cases document.record? .json memberNames with
  | none => rfl
  | some record =>
      simp only [Option.bind_eq_bind, Option.bind_some, ofMembers?,
        record.required?_eq standard (show standard.lookup "id" = none from rfl),
        record.required?_eq standard (show standard.lookup "label" = none from rfl),
        record.required?_eq standard (show standard.lookup "alias" = none from rfl),
        record.required?_eq standard (show standard.lookup "type" = none from rfl),
        record.default?_eq standard (show standard.lookup "object_id" = some _ from rfl)
          (Document.int64?_ofInt64 0)]

def recordKind : RecordKind CustomField where
  memberNames := memberNames
  standard := standard
  members field :=
    [("id", Json.ofInt64 field.id), ("object_id", Json.ofInt64 field.objectId),
     ("label", .text field.label), ("alias", .text field.aliasName), ("type", .text field.typeKey)]
  ofMembers? := ofMembers?
  json := json
  decode? := ofDocument? .json
  distinct := by decide
  named _ := rfl
  written _ := rfl
  read := ofDocument?_eq
  ownMembers left right h := by
    simp only [ofMembers?, h "id" (by decide), h "object_id" (by decide), h "label" (by decide),
      h "alias" (by decide), h "type" (by decide)]

theorem ordered_members (field : CustomField) :
    ∀ member ∈ recordKind.members field, member.2.Ordered := by
  simp [recordKind, Json.ofInt64, Json.Ordered]

theorem ordered_json (field : CustomField) : field.json.Ordered :=
  Json.ordered_ofMembers field.ordered_members

theorem readBack (field : CustomField) :
    ofDocument? .json (.ofJson field.json) = some field := by
  refine (recordKind.decode?_json field).trans ?_
  simp [recordKind, ofMembers?, List.lookup_cons]

end CustomField

namespace CustomObject

/-- An object from its members. -/
def ofMembers? (member? : String → Option Document) : Option CustomObject := do
  let id ← (member? "id").bind Document.int64?
  let aliasName ← (member? "alias").bind Document.text?
  let nameSingular ← (member? "name_singular").bind Document.text?
  let namePlural ← (member? "name_plural").bind Document.text?
  let kind ← (member? "kind").bind (Document.choice? .json ObjectKind.ofKey?)
  let masterObject ← (member? "master_object").bind (Document.optional? Document.int64?)
  let relationshipObject ←
    (member? "relationship_object").bind (Document.optional? Document.int64?)
  let fields ← (member? "fields").bind (Document.list? (CustomField.ofDocument? .json))
  pure ⟨id, aliasName, nameSingular, namePlural, kind, masterObject, relationshipObject, fields⟩

/-- What stands for members that are left out. -/
def standard : List (String × Json) :=
  [("name_plural", .text ""), ("kind", .text ObjectKind.master.key), ("master_object", .null),
   ("relationship_object", .null), ("fields", .array [])]

theorem ofDocument?_eq (document : Document) : ofDocument? .json document =
    (document.record? .json memberNames).bind fun record => ofMembers? (record.filled standard) := by
  unfold ofDocument?
  cases document.record? .json memberNames with
  | none => rfl
  | some record =>
      simp only [Option.bind_eq_bind, Option.bind_some, ofMembers?,
        record.required?_eq standard (show standard.lookup "id" = none from rfl),
        record.required?_eq standard (show standard.lookup "alias" = none from rfl),
        record.required?_eq standard (show standard.lookup "name_singular" = none from rfl),
        record.default?_eq standard (show standard.lookup "name_plural" = some _ from rfl)
          (Document.text?_ofJson ""),
        record.default?_eq standard (show standard.lookup "kind" = some _ from rfl)
          (show Document.choice? .json ObjectKind.ofKey? _ = some .master from rfl),
        record.default?_eq standard (show standard.lookup "master_object" = some _ from rfl)
          (show Document.optional? Document.int64? _ = some none from rfl),
        record.default?_eq standard (show standard.lookup "relationship_object" = some _ from rfl)
          (show Document.optional? Document.int64? _ = some none from rfl),
        record.default?_eq standard (show standard.lookup "fields" = some _ from rfl)
          (show Document.list? (CustomField.ofDocument? .json) _ = some [] from rfl)]

def recordKind : RecordKind CustomObject where
  memberNames := memberNames
  standard := standard
  members object :=
    [("id", Json.ofInt64 object.id), ("alias", .text object.aliasName),
     ("name_singular", .text object.nameSingular), ("name_plural", .text object.namePlural),
     ("kind", .text object.kind.key), ("master_object", idJson object.masterObject),
     ("relationship_object", idJson object.relationshipObject),
     ("fields", .array (object.fields.map CustomField.json))]
  ofMembers? := ofMembers?
  json := json
  decode? := ofDocument? .json
  distinct := by decide
  named _ := rfl
  written _ := rfl
  read := ofDocument?_eq
  ownMembers left right h := by
    simp only [ofMembers?, h "id" (by decide), h "alias" (by decide),
      h "name_singular" (by decide), h "name_plural" (by decide), h "kind" (by decide),
      h "master_object" (by decide), h "relationship_object" (by decide), h "fields" (by decide)]

theorem optional?_idJson (id : Option Int64) :
    Document.optional? Document.int64? (.ofJson (idJson id)) = some id := by
  cases id with
  | none => rfl
  | some id =>
      change (Document.int64? (.ofJson (Json.ofInt64 id))).map some = _
      rw [Document.int64?_ofInt64]
      rfl

theorem stored : StoredFaithfully memberNames standard json (ofDocument? .json) fun _ => True := by
  apply recordKind.faithful
  · intro object _
    have hkind : ObjectKind.ofKey? object.kind.key = some object.kind := by
      cases object.kind <;> rfl
    have hfields := Document.list?_ofJson CustomField.readBack object.fields
    simp [recordKind, ofMembers?, List.lookup_cons, optional?_idJson, Document.choice?_ofJson, hkind,
      hfields]
  · intro object _
    have hid : ∀ id, (idJson id).Ordered := by
      intro id
      cases id <;> trivial
    have hfields : Json.OrderedItems (object.fields.map CustomField.json) := by
      rw [Json.orderedItems_iff, List.forall_mem_map]
      exact fun field _ => field.ordered_json
    simp [recordKind, Json.ofInt64, Json.Ordered, hid, hfields]
  · exact fun _ _ _ => trivial

end CustomObject

namespace RawFilter

/-- A filter from its members. -/
def ofMembers? (member? : String → Option Document) : Option RawFilter := do
  let glue ← (member? "glue").bind (Document.choice? .json Glue.ofKey?)
  let field ← (member? "field").bind Document.text?
  let object ← (member? "object").bind Document.text?
  let type ← (member? "type").bind Document.text?
  let operator ← (member? "operator").bind Document.text?
  let filter ← (member? "filter").bind Document.json?
  pure ⟨glue, field, object, type, operator, filter⟩

/-- What stands for members that are left out. -/
def standard : List (String × Json) :=
  [("glue", .text Glue.and.key), ("type", .text ""), ("filter", .null)]

theorem ofDocument?_eq (document : Document) : ofDocument? .json document =
    (document.record? .json memberNames).bind fun record => ofMembers? (record.filled standard) := by
  unfold ofDocument?
  cases document.record? .json memberNames with
  | none => rfl
  | some record =>
      simp only [Option.bind_eq_bind, Option.bind_some, ofMembers?,
        record.required?_eq standard (show standard.lookup "field" = none from rfl),
        record.required?_eq standard (show standard.lookup "object" = none from rfl),
        record.required?_eq standard (show standard.lookup "operator" = none from rfl),
        record.default?_eq standard (show standard.lookup "glue" = some _ from rfl)
          (show Document.choice? .json Glue.ofKey? _ = some .and from rfl),
        record.default?_eq standard (show standard.lookup "type" = some _ from rfl)
          (Document.text?_ofJson ""),
        record.default?_eq standard (show standard.lookup "filter" = some _ from rfl)
          (show Document.json? _ = some .null from rfl)]

def recordKind : RecordKind RawFilter where
  memberNames := memberNames
  standard := standard
  members raw :=
    [("glue", .text raw.glue.key), ("field", .text raw.field), ("object", .text raw.object),
     ("type", .text raw.type), ("operator", .text raw.operator), ("filter", raw.filter)]
  ofMembers? := ofMembers?
  json := json
  decode? := ofDocument? .json
  distinct := by decide
  named _ := rfl
  written _ := rfl
  read := ofDocument?_eq
  ownMembers left right h := by
    simp only [ofMembers?, h "glue" (by decide), h "field" (by decide), h "object" (by decide),
      h "type" (by decide), h "operator" (by decide), h "filter" (by decide)]

/-- The value of a filter that is read is one that a document means. -/
theorem ordered_of_ofDocument? {document : Document} {raw : RawFilter}
    (h : ofDocument? .json document = some raw) : raw.filter.Ordered := by
  rw [ofDocument?_eq] at h
  obtain ⟨record, _, h⟩ := Option.bind_eq_some_iff.mp h
  obtain ⟨glue, _, h⟩ := Option.bind_eq_some_iff.mp h
  obtain ⟨field, _, h⟩ := Option.bind_eq_some_iff.mp h
  obtain ⟨object, _, h⟩ := Option.bind_eq_some_iff.mp h
  obtain ⟨type, _, h⟩ := Option.bind_eq_some_iff.mp h
  obtain ⟨operator, _, h⟩ := Option.bind_eq_some_iff.mp h
  obtain ⟨filter, hfilter, h⟩ := Option.bind_eq_some_iff.mp h
  obtain ⟨value, _, hvalue⟩ := Option.bind_eq_some_iff.mp hfilter
  cases h
  exact Document.ordered_of_json? value hvalue

/-- Filters of segments are stored faithfully, with whatever JSON value they hold. -/
theorem stored : StoredFaithfully memberNames standard json (ofDocument? .json)
    fun raw => raw.filter.Ordered := by
  apply recordKind.faithful
  · intro raw hfilter
    have hglue : Glue.ofKey? raw.glue.key = some raw.glue := by
      cases raw.glue <;> rfl
    simp [recordKind, ofMembers?, List.lookup_cons, Document.choice?_ofJson, hglue,
      Document.json?_ofJson raw.filter hfilter]
  · intro raw hfilter
    simp [recordKind, Json.Ordered, hfilter]
  · exact fun document raw => ordered_of_ofDocument?

end RawFilter

/-- A value is read back from what is written for it. -/
theorem ParamValue.ofDocument?_json (value : ParamValue) :
    ofDocument? (.ofJson value.json) = some value := by
  cases value with
  | int value => exact congrArg (Option.map ParamValue.int) (Decimal.int64?_toInt value)
  | text value => rfl

/-- Every value of a condition is read back: nothing, a single one and a list. -/
theorem FilterValue.ofDocument?_json (value : FilterValue) :
    ofDocument? (.ofJson value.json) = some value := by
  cases value with
  | none => rfl
  | single value =>
      have hvalue := congrArg (Option.map FilterValue.single) value.ofDocument?_json
      cases value <;> exact hvalue
  | list values =>
      exact congrArg (Option.map FilterValue.list)
        (Document.list?_ofJson ParamValue.ofDocument?_json values)

namespace ValueCondition

/-- A condition from its members. -/
def ofMembers? (member? : String → Option Document) : Option ValueCondition := do
  let op ← (member? "operator").bind (Document.choice? .json Operator.ofKey?)
  let value ← (member? "value").bind FilterValue.ofDocument?
  pure ⟨op, value⟩

/-- What stands for members that are left out: no value. -/
def standard : List (String × Json) := [("value", .null)]

theorem ofDocument?_eq (document : Document) : ofDocument? .json document =
    (document.record? .json memberNames).bind fun record => ofMembers? (record.filled standard) := by
  unfold ofDocument?
  cases document.record? .json memberNames with
  | none => rfl
  | some record =>
      simp only [Option.bind_eq_bind, Option.bind_some, ofMembers?,
        record.required?_eq standard (show standard.lookup "operator" = none from rfl),
        record.default?_eq standard (show standard.lookup "value" = some _ from rfl)
          (show FilterValue.ofDocument? _ = some .none from rfl)]

def recordKind : RecordKind ValueCondition where
  memberNames := memberNames
  standard := standard
  members condition := [("operator", .text condition.op.key), ("value", condition.value.json)]
  ofMembers? := ofMembers?
  json := json
  decode? := ofDocument? .json
  distinct := by decide
  named _ := rfl
  written _ := rfl
  read := ofDocument?_eq
  ownMembers left right h := by
    simp only [ofMembers?, h "operator" (by decide), h "value" (by decide)]

/-- Conditions are stored faithfully, with every operator and every value. -/
theorem stored : StoredFaithfully memberNames standard json (ofDocument? .json)
    fun _ => True := by
  apply recordKind.faithful
  · intro condition _
    simp [recordKind, ofMembers?, List.lookup_cons, Document.choice?_ofJson,
      Operator.ofKey?_key, FilterValue.ofDocument?_json]
  · intro condition _
    have hparam : ∀ value : ParamValue, value.json.Ordered := by
      intro value
      cases value <;> trivial
    have hvalue : condition.value.json.Ordered := by
      cases condition.value with
      | none => trivial
      | single value => exact hparam value
      | list values =>
          exact (Json.orderedItems_iff _).mpr (List.forall_mem_map.mpr fun value _ => hparam value)
    simp [recordKind, Json.Ordered, hvalue]
  · exact fun _ _ _ => trivial

/-- A condition is read from every text for its operator. -/
theorem ofDocument?_spelled {text : String} {op : Operator} (h : Operator.ofKey? text = some op)
    (value : FilterValue) :
    ofDocument? .json (.ofEntries [("operator", .text text), ("value", .ofJson value.json)]) =
      some ⟨op, value⟩ := by
  refine (recordKind.decode?_ofEntries (by simp)).trans ?_
  have hop : Document.choice? .json Operator.ofKey? (.text text) = some op := h
  simp [recordKind, ofMembers?, Record.filled, List.lookup_cons, hop,
    FilterValue.ofDocument?_json]

end ValueCondition

namespace ItemItemLink

/-- A link from its members, in whichever order they stand. -/
def ofMembers? (member? : String → Option Document) : Option ItemItemLink := do
  let lower ← (member? "lower").bind Document.int64?
  let higher ← (member? "higher").bind Document.int64?
  pure (ofPair lower higher)

theorem ofDocument?_eq (document : Document) : ofDocument? .json document =
    (document.record? .json memberNames).bind fun record => ofMembers? (record.filled []) := by
  unfold ofDocument?
  cases document.record? .json memberNames with
  | none => rfl
  | some record =>
      simp only [Option.bind_eq_bind, Option.bind_some, ofMembers?,
        record.required?_eq [] (show List.lookup "lower" [] = none from rfl),
        record.required?_eq [] (show List.lookup "higher" [] = none from rfl)]

def recordKind : RecordKind ItemItemLink where
  memberNames := memberNames
  standard := []
  members link := [("lower", Json.ofInt64 link.lower), ("higher", Json.ofInt64 link.higher)]
  ofMembers? := ofMembers?
  json := json
  decode? := ofDocument? .json
  distinct := by decide
  named _ := rfl
  written _ := rfl
  read := ofDocument?_eq
  ownMembers left right h := by
    simp only [ofMembers?, h "lower" (by decide), h "higher" (by decide)]

theorem ofPair_ends (link : ItemItemLink) : ofPair link.lower link.higher = link := by
  rw [ofPair, dif_pos link.lower_le_higher]

/-- Links are stored faithfully, with the lower id first. -/
theorem stored : StoredFaithfully memberNames [] json (ofDocument? .json)
    fun link => link.lower ≤ link.higher := by
  apply recordKind.faithful
  · intro link _
    simp [recordKind, ofMembers?, List.lookup_cons, ofPair_ends]
  · intro link _
    simp [recordKind, Json.ofInt64, Json.Ordered]
  · exact fun _ link _ => link.lower_le_higher

/-- A link is read from its two ids in either order. -/
theorem ofDocument?_pair (a b : Int64) :
    ofDocument? .json (.ofEntries
        [("lower", .ofJson (Json.ofInt64 a)), ("higher", .ofJson (Json.ofInt64 b))]) =
      some (ofPair a b) := by
  refine (recordKind.decode?_ofEntries (by simp)).trans ?_
  simp [recordKind, ofMembers?, Record.filled, List.lookup_cons]

/-- What is stored of a link gives the lower id its name, and the higher one. -/
theorem json_ofPair (a b : Int64) : (ofPair a b).json =
    .object [("higher", Json.ofInt64 (max a b)), ("lower", Json.ofInt64 (min a b))] := by
  have hsorted : KeysAscend
      [("higher", Json.ofInt64 (max a b)), ("lower", Json.ofInt64 (min a b))] :=
    List.pairwise_pair.mpr (show compare "higher" "lower" = .lt by decide)
  have hmin : min a b = if a ≤ b then a else b := rfl
  have hmax : max a b = if a ≤ b then b else a := rfl
  have hends : (ofPair a b).lower = min a b ∧ (ofPair a b).higher = max a b := by
    rw [hmin, hmax, ofPair]
    split <;> exact ⟨rfl, rfl⟩
  rw [json, hends.1, hends.2, Json.ofMembers,
    OrderedMap.toList_ofList_of_perm (.swap _ _ _) hsorted]

end ItemItemLink

/-- Stored records survive being written and read.  Custom objects, filters with any JSON value
(the keys of its objects in order), conditions and links are read back from what is stored of
them; and whatever a record is read from, what is stored of it is a normal form that stands for
the same record.  A condition may name its operator by any text for it, and a link may have its
ids in either order. -/
theorem stored_records_read_back :
    StoredFaithfully CustomObject.memberNames CustomObject.standard CustomObject.json
      (CustomObject.ofDocument? .json) (fun _ => True) ∧
    StoredFaithfully RawFilter.memberNames RawFilter.standard RawFilter.json
      (RawFilter.ofDocument? .json) (fun raw => raw.filter.Ordered) ∧
    StoredFaithfully ValueCondition.memberNames ValueCondition.standard ValueCondition.json
      (ValueCondition.ofDocument? .json) (fun _ => True) ∧
    (∀ text op value, Operator.ofKey? text = some op →
      ValueCondition.ofDocument? .json
        (.ofEntries [("operator", .text text), ("value", .ofJson value.json)]) =
          some ⟨op, value⟩) ∧
    StoredFaithfully ItemItemLink.memberNames [] ItemItemLink.json (ItemItemLink.ofDocument? .json)
      (fun link => link.lower ≤ link.higher) ∧
    ∀ a b, ItemItemLink.ofDocument? .json (.ofEntries
        [("lower", .ofJson (Json.ofInt64 a)), ("higher", .ofJson (Json.ofInt64 b))]) =
          some (ItemItemLink.ofPair a b) ∧
      (ItemItemLink.ofPair a b).json = .object
        [("higher", Json.ofInt64 (max a b)), ("lower", Json.ofInt64 (min a b))] :=
  ⟨CustomObject.stored, RawFilter.stored, ValueCondition.stored,
    fun _ _ value h => ValueCondition.ofDocument?_spelled h value, ItemItemLink.stored,
    fun a b => ⟨ItemItemLink.ofDocument?_pair a b, ItemItemLink.json_ofPair a b⟩⟩

-- A list that ends early, with the second text of an operator.
example : ValueCondition.ofDocument? .json (.array [.text "!="]) = some ⟨.neq, .none⟩ := by
  decide

end SegmentPaths
