/-
What catalogs answer.  Every object of a catalog stands under its own id, so the target
of a filter has the id that the filter asks for.
-/
import SegmentPaths.CustomObject.Catalog
import SegmentPaths.Proofs.BuiltFragments

namespace SegmentPaths

namespace CatalogIndex

/-- Whether every object stands under its own id. -/
def Keyed (index : CatalogIndex) : Prop :=
  ∀ id object, index.objects.get? id = some object → object.id = id

theorem Keyed.addObject {index next : CatalogIndex} (hkeyed : index.Keyed) {object : CustomObject}
    (h : index.addObject object = .ok next) : next.Keyed := by
  obtain ⟨owners, _, hnext⟩ := bind_eq_ok h
  split at hnext
  · cases hnext
  · cases hnext
    intro id found hfound
    by_cases hsame : id = object.id
    · subst hsame
      rw [OrderedMap.get?_insert_self] at hfound
      cases hfound
      rfl
    · rw [OrderedMap.get?_insert_of_ne _ _ hsame] at hfound
      exact hkeyed id found hfound

theorem Keyed.addObjects {index final : CatalogIndex} (hkeyed : index.Keyed)
    {objects : List CustomObject} (h : index.addObjects objects = .ok final) : final.Keyed := by
  induction objects generalizing index with
  | nil =>
      cases h
      exact hkeyed
  | cons object rest ih =>
      obtain ⟨next, hnext, hrest⟩ := bind_eq_ok h
      exact ih (hkeyed.addObject hnext) hrest

end CatalogIndex

namespace Catalog

theorem keyed_of_new {objects : List CustomObject} {tables : TableNames} {catalog : Catalog}
    (h : new objects tables = .ok catalog) : catalog.index.Keyed := by
  obtain ⟨index, hindex, hrest⟩ := bind_eq_ok h
  obtain ⟨_, _, hcatalog⟩ := bind_eq_ok hrest
  cases hcatalog
  apply CatalogIndex.Keyed.addObjects _ hindex
  intro id object hobject
  cases hobject

/-- A catalog answers with the field that was asked for. -/
theorem field_id {catalog : Catalog} {id : Int64} {field : CustomField}
    (h : catalog.metadata.field id = .ok field) : field.id = id := by
  simp only [metadata] at h
  split at h
  · rename_i found hfound
    cases h
    obtain ⟨owner, _, hobject⟩ := Option.bind_eq_some_iff.mp hfound
    obtain ⟨object, _, hfield⟩ := Option.bind_eq_some_iff.mp hobject
    rw [CustomObject.field?] at hfield
    simpa using List.find?_some hfield
  · cases h

/-- A catalog answers with the object that was asked for. -/
theorem object_id {objects : List CustomObject} {tables : TableNames} {catalog : Catalog}
    (hcatalog : new objects tables = .ok catalog) {id : Int64} {object : CustomObject}
    (h : catalog.metadata.object id = .ok object) : object.id = id := by
  simp only [metadata] at h
  split at h
  · rename_i found hfound
    cases h
    exact keyed_of_new hcatalog id _ hfound
  · cases h

end Catalog

/-- The id of the field or object that a filter is about. -/
def SegmentFilter.id? : SegmentFilter → Option Int64
  | .customField _ filter => some filter.field
  | .customItem _ filter => some filter.object
  | .native _ => none

/-- Under a catalog, the target of a filter has the id that the filter is about. -/
theorem SegmentFilter.id?_of_target? {objects : List CustomObject} {tables : TableNames}
    {catalog : Catalog} (hcatalog : Catalog.new objects tables = .ok catalog)
    {filter : SegmentFilter} {target : Target}
    (h : filter.target? catalog.metadata = some target) : filter.id? = some target.source.id := by
  cases filter with
  | customField glue filter =>
      obtain ⟨field, table, hfield, _, hsource, _⟩ := target?_customField h
      rw [hsource]
      exact congrArg some (Catalog.field_id hfield).symm
  | customItem glue filter =>
      obtain ⟨object, hobject, rfl⟩ := target?_customItem h
      exact congrArg some (Catalog.object_id hcatalog hobject).symm
  | native raw => cases h

namespace Products

/-- Products with a price, a weight and a color. -/
def product : CustomObject where
  id := 1
  aliasName := "product"
  nameSingular := "Product"
  namePlural := "Products"
  kind := .master
  masterObject := none
  relationshipObject := none
  fields := [⟨3, 1, "Price", "price", "int"⟩, ⟨4, 1, "Weight", "weight", "int"⟩,
    ⟨11, 1, "Color", "color", "text"⟩]

def catalog : Catalog where
  index := ⟨.ofList [(1, product)], .ofList [(3, 1), (4, 1), (11, 1)]⟩
  tables := ⟨""⟩

theorem new_product : Catalog.new [product] ⟨""⟩ = .ok catalog := rfl

/-- Direct paths only. -/
def direct : DepthLimit := ⟨1, by decide, by decide⟩

end Products

end SegmentPaths
