/-
What a catalog finds.  An index that takes a list of objects holds just these, and the
ids of the objects and of all fields are different, so a catalog finds an object or a
field exactly if it is among those that were given.
-/
import SegmentPaths.CustomObject.Catalog
import SegmentPaths.Proofs.Catalogs

namespace SegmentPaths

/-- The ids of the fields of objects, one object after the other. -/
def CustomObject.fieldIds (objects : List CustomObject) : List Int64 :=
  objects.flatMap fun object => object.fields.map CustomField.id

namespace CatalogIndex

/-- Entering the fields of an object gives each of them an owner that it did not have. -/
theorem addOwners_ok {owner : Int64} {owners final : OrderedMap Int64 Int64}
    {fields : List CustomField} (h : addOwners owner owners fields = .ok final) :
    (fields.map CustomField.id).Nodup ∧
      (∀ id ∈ fields.map CustomField.id, owners.get? id = none) ∧
      ∀ id found, final.get? id = some found ↔
        owners.get? id = some found ∨ found = owner ∧ id ∈ fields.map CustomField.id := by
  induction fields generalizing owners with
  | nil =>
      cases h
      simp
  | cons field rest ih =>
      rw [addOwners] at h
      split at h
      · cases h
      · rename_i hfree
        have hnone : owners.get? field.id = none := by
          simpa [OrderedMap.contains] using hfree
        obtain ⟨hnodup, hnew, hfinal⟩ := ih h
        have hfield : field.id ∉ rest.map CustomField.id := by
          intro hmem
          have hself := hnew field.id hmem
          rw [OrderedMap.get?_insert_self] at hself
          cases hself
        refine ⟨?_, ?_, ?_⟩
        · rw [List.map_cons, List.nodup_cons]
          exact ⟨hfield, hnodup⟩
        · rw [List.map_cons, List.forall_mem_cons]
          refine ⟨hnone, fun id hid => ?_⟩
          have hother : id ≠ field.id := fun hsame => hfield (hsame ▸ hid)
          rw [← OrderedMap.get?_insert_of_ne owners owner hother]
          exact hnew id hid
        · intro id found
          rw [hfinal, List.map_cons, List.mem_cons]
          by_cases hsame : id = field.id
          · subst hsame
            simp [OrderedMap.get?_insert_self, hnone, hfield, eq_comm]
          · simp [OrderedMap.get?_insert_of_ne _ _ hsame, hsame]

/-- Whether an index holds just the objects of a list, completed and under their ids, and the
owners of their fields. -/
structure Lists (index : CatalogIndex) (objects : List CustomObject) : Prop where
  held : ∀ id found, index.objects.get? id = some found ↔
    ∃ object ∈ objects, object.id = id ∧ found = completed object
  owned : ∀ id owner, index.owners.get? id = some owner ↔
    ∃ object ∈ objects, object.id = owner ∧ id ∈ object.fields.map CustomField.id
  objectIds : (objects.map CustomObject.id).Nodup
  fieldIds : (CustomObject.fieldIds objects).Nodup

theorem lists_empty : empty.Lists [] := by
  refine ⟨fun id found => ?_, fun id owner => ?_, List.nodup_nil, List.nodup_nil⟩ <;>
    simp [empty, OrderedMap.get?_empty]

/-- An object that is added is held with all those before it. -/
theorem Lists.addObject {index next : CatalogIndex} {objects : List CustomObject}
    (hlists : index.Lists objects) {object : CustomObject}
    (h : index.addObject object = .ok next) : next.Lists (objects ++ [object]) := by
  obtain ⟨owners, howners, hnext⟩ := bind_eq_ok h
  obtain ⟨hnodup, hnew, hfinal⟩ := addOwners_ok howners
  split at hnext
  · cases hnext
  · rename_i hfree
    cases hnext
    have hnone : index.objects.get? object.id = none := by
      simpa [OrderedMap.contains] using hfree
    have hfresh : ∀ other ∈ objects, other.id ≠ object.id := by
      intro other hother hsame
      have hfound := (hlists.held object.id (completed other)).mpr ⟨other, hother, hsame, rfl⟩
      rw [hnone] at hfound
      cases hfound
    refine ⟨?_, ?_, ?_, ?_⟩
    · intro id found
      by_cases hsame : id = object.id
      · subst hsame
        rw [OrderedMap.get?_insert_self]
        constructor
        · intro hfound
          exact ⟨object, by simp, rfl, (Option.some.inj hfound).symm⟩
        · rintro ⟨other, hother, hid, rfl⟩
          rcases List.mem_append.mp hother with hold | hlast
          · exact absurd hid (hfresh other hold)
          · rw [List.mem_singleton.mp hlast]
      · rw [OrderedMap.get?_insert_of_ne _ _ hsame, hlists.held]
        simp only [List.mem_append, List.mem_singleton, or_and_right, exists_or, exists_eq_left]
        constructor
        · exact Or.inl
        · rintro (hold | ⟨hid, _⟩)
          · exact hold
          · exact absurd hid.symm hsame
    · intro id owner
      rw [hfinal, hlists.owned]
      simp only [List.mem_append, List.mem_singleton, or_and_right, exists_or, exists_eq_left]
      rw [eq_comm (a := owner)]
    · rw [List.map_append, List.nodup_append]
      refine ⟨hlists.objectIds, List.nodup_singleton _, ?_⟩
      intro id hid last hlast
      obtain ⟨other, hother, rfl⟩ := List.mem_map.mp hid
      rw [List.mem_singleton.mp hlast]
      exact hfresh other hother
    · rw [CustomObject.fieldIds, List.flatMap_append, List.flatMap_singleton, List.nodup_append]
      refine ⟨hlists.fieldIds, hnodup, ?_⟩
      rintro id hold other hlast rfl
      obtain ⟨earlier, hearlier, hmem⟩ := List.mem_flatMap.mp hold
      have howner := (hlists.owned id earlier.id).mpr ⟨earlier, hearlier, rfl, hmem⟩
      rw [hnew id hlast] at howner
      cases howner

theorem Lists.addObjects {index final : CatalogIndex} {objects : List CustomObject}
    (hlists : index.Lists objects) {more : List CustomObject}
    (h : index.addObjects more = .ok final) : final.Lists (objects ++ more) := by
  induction more generalizing index objects with
  | nil =>
      cases h
      rwa [List.append_nil]
  | cons object rest ih =>
      obtain ⟨next, hnext, hrest⟩ := bind_eq_ok h
      have hall := ih (hlists.addObject hnext) hrest
      rwa [List.append_assoc] at hall

end CatalogIndex

namespace Catalog

variable {objects : List CustomObject} {tables : TableNames} {catalog : Catalog}

/-- The index of a catalog holds the objects that the catalog was made of. -/
theorem lists_of_new (h : new objects tables = .ok catalog) :
    catalog.index.Lists objects ∧ catalog.tables = tables := by
  obtain ⟨index, hindex, hrest⟩ := bind_eq_ok h
  obtain ⟨_, _, hcatalog⟩ := bind_eq_ok hrest
  cases hcatalog
  exact ⟨CatalogIndex.lists_empty.addObjects hindex, rfl⟩

/-- Objects that have fields with one id are the same, and so are the fields. -/
theorem field_unique (h : new objects tables = .ok catalog) {first second : CustomObject}
    {left right : CustomField} (hfirst : first ∈ objects) (hleft : left ∈ first.fields)
    (hsecond : second ∈ objects) (hright : right ∈ second.fields) (hid : left.id = right.id) :
    first = second ∧ left = right := by
  have hlists := (lists_of_new h).1
  have hobjects : first = second := by
    have howner := (hlists.owned left.id first.id).mpr
      ⟨first, hfirst, rfl, List.mem_map_of_mem hleft⟩
    have hother := (hlists.owned left.id second.id).mpr
      ⟨second, hsecond, rfl, hid ▸ List.mem_map_of_mem hright⟩
    rw [howner] at hother
    exact List.inj_on_of_nodup_map hlists.objectIds hfirst hsecond (Option.some.inj hother)
  subst hobjects
  have hfields : (first.fields.map CustomField.id).Nodup :=
    (List.nodup_flatMap.mp hlists.fieldIds).1 first hfirst
  exact ⟨rfl, List.inj_on_of_nodup_map hfields hleft hright hid⟩

theorem object?_eq_some_iff (h : new objects tables = .ok catalog) (id : Int64)
    (found : CustomObject) :
    catalog.object? id = some found ↔
      ∃ object ∈ objects, object.id = id ∧ found = CatalogIndex.completed object :=
  (lists_of_new h).1.held id found

/-- A field that is found in a completed object is one of the object. -/
theorem field_of_completed {object : CustomObject} {id : Int64} {found : CustomField}
    (h : (CatalogIndex.completed object).field? id = some found) :
    ∃ field ∈ object.fields, field.id = id ∧ found = { field with objectId := object.id } := by
  rw [CustomObject.field?] at h
  obtain ⟨field, hmem, rfl⟩ := List.mem_map.mp (List.mem_of_find?_eq_some h)
  exact ⟨field, hmem, by simpa using List.find?_some h, rfl⟩

/-- A catalog finds a field exactly if one of its objects has it. -/
theorem field?_eq_some_iff (h : new objects tables = .ok catalog) (id : Int64)
    (found : CustomField) :
    catalog.field? id = some found ↔ ∃ object ∈ objects, ∃ field ∈ object.fields,
      field.id = id ∧ found = { field with objectId := object.id } := by
  have hlists := (lists_of_new h).1
  constructor
  · intro hfound
    obtain ⟨owner, howner, hrest⟩ := Option.bind_eq_some_iff.mp hfound
    obtain ⟨holder, hobject, hrest⟩ := Option.bind_eq_some_iff.mp hrest
    obtain ⟨object, hmem, _, rfl⟩ := (object?_eq_some_iff h owner holder).mp hobject
    exact ⟨object, hmem, field_of_completed hrest⟩
  · rintro ⟨object, hobject, field, hmem, rfl, rfl⟩
    have howner := (hlists.owned field.id object.id).mpr
      ⟨object, hobject, rfl, List.mem_map_of_mem hmem⟩
    have hheld := (object?_eq_some_iff h object.id _).mpr ⟨object, hobject, rfl, rfl⟩
    have hsome : ((CatalogIndex.completed object).field? field.id).isSome := by
      rw [CustomObject.field?, List.find?_isSome]
      exact ⟨_, List.mem_map_of_mem hmem, by simp⟩
    -- The object may find another field under the id, but ids are different.
    obtain ⟨found, hfound⟩ := Option.isSome_iff_exists.mp hsome
    obtain ⟨other, hother, hid, rfl⟩ := field_of_completed hfound
    obtain ⟨_, rfl⟩ := field_unique h hobject hother hobject hmem hid
    rw [field?, howner, Option.bind_eq_bind, Option.bind_some, hheld]
    exact hfound

end Catalog

end SegmentPaths
