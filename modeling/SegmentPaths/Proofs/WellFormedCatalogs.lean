/-
Which lists of objects make a catalog, and what the catalog makes of them.  Ids have to
be different and references have to be known, and a list that is refused has the flaw
that it is refused for.  A catalog depends on its objects alone and not on their order,
and it is made again of the objects that it lists.
-/
import Mathlib.Data.List.Duplicate
import Mathlib.Data.List.Sort
import SegmentPaths.Proofs.CatalogLookups

namespace SegmentPaths

namespace OrderedMap

universe u v

variable {K : Type u} {V : Type v} [Ord K]

theorem contains_iff (map : OrderedMap K V) (key : K) :
    map.contains key = true ↔ ∃ value, map.get? key = some value :=
  Option.isSome_iff_exists

variable [Std.LawfulEqOrd K]

theorem keys_nodup (map : OrderedMap K V) : map.keys.Nodup := by
  rw [keys, List.Nodup, List.pairwise_map]
  exact map.ascending.imp fun hlt => (ne_of_compare_lt hlt).symm

theorem mem_values_iff (map : OrderedMap K V) (value : V) :
    value ∈ map.values ↔ ∃ key, map.get? key = some value := by
  simp only [get?_eq_some_iff, values, List.mem_map, Prod.exists, exists_eq_right]

variable [Std.TransOrd K]

/-- Maps that hold the same values under the same keys are the same. -/
theorem eq_of_get?_iff {left right : OrderedMap K V}
    (h : ∀ key value, left.get? key = some value ↔ right.get? key = some value) :
    left = right := by
  apply eq_of_toList_eq
  have hirrefl : Std.Irrefl fun left right : K × V => compare left.1 right.1 = .lt :=
    ⟨fun entry hlt => ne_of_compare_lt hlt rfl⟩
  have hantisymm : Std.Antisymm fun left right : K × V => compare left.1 right.1 = .lt := by
    constructor
    intro left right hleft hright
    rw [Std.OrientedCmp.gt_of_lt hright] at hleft
    cases hleft
  apply List.Pairwise.eq_of_mem_iff left.ascending right.ascending
  rintro ⟨key, value⟩
  rw [← get?_eq_some_iff, ← get?_eq_some_iff]
  exact h key value

end OrderedMap

/-- Whether an object refers to another one by its id, as its master or as its
relationship object. -/
def CustomObject.RefersTo (object : CustomObject) (id : Int64) : Prop :=
  object.masterObject = some id ∨ object.relationshipObject = some id

/-- Whether an object is as a catalog holds a given one: the plural name is the given one, or
the plural of the singular name if none is given, all its fields have it as their owner, and
nothing else is changed. -/
structure CustomObject.Completes (found given : CustomObject) : Prop where
  givenPlural : given.namePlural ≠ "" → found.namePlural = given.namePlural
  missingPlural : given.namePlural = "" → found.namePlural = pluralName given.nameSingular
  fields : found.fields = given.fields.map fun field => { field with objectId := given.id }
  others : { found with namePlural := given.namePlural, fields := given.fields } = given

/-- What a list of objects needs to make a catalog. -/
structure CustomObject.WellFormed (objects : List CustomObject) : Prop where
  objectIds : (objects.map CustomObject.id).Nodup
  fieldIds : (CustomObject.fieldIds objects).Nodup
  notItself : ∀ object ∈ objects, object.relationshipObject ≠ some object.id
  mastered : ∀ object ∈ objects, object.kind = .relationship → object.masterObject ≠ none
  known : ∀ object ∈ objects, ∀ id, object.RefersTo id → ∃ other ∈ objects, other.id = id

/-- What a problem says about a list of objects. -/
def CatalogProblem.Present (objects : List CustomObject) : CatalogProblem → Prop
  | .duplicateObject id => (objects.map CustomObject.id).Duplicate id
  | .duplicateField id => (CustomObject.fieldIds objects).Duplicate id
  | .selfRelationship id =>
    ∃ object ∈ objects, object.id = id ∧ object.relationshipObject = some id
  | .missingMaster id =>
    ∃ object ∈ objects, object.id = id ∧ object.kind = .relationship ∧
      object.masterObject = none
  | .unknownReference id referenced =>
    ∃ object ∈ objects, object.id = id ∧ object.RefersTo referenced ∧
      ∀ other ∈ objects, other.id ≠ referenced

namespace CustomObject

theorem WellFormed.not_present {objects : List CustomObject} (h : WellFormed objects)
    (problem : CatalogProblem) : ¬problem.Present objects := by
  intro hpresent
  cases problem with
  | duplicateObject id => exact List.Duplicate.not_nodup hpresent h.objectIds
  | duplicateField id => exact List.Duplicate.not_nodup hpresent h.fieldIds
  | selfRelationship id =>
      obtain ⟨object, hobject, rfl, hself⟩ := hpresent
      exact h.notItself object hobject hself
  | missingMaster id =>
      obtain ⟨object, hobject, _, hkind, hmaster⟩ := hpresent
      exact h.mastered object hobject hkind hmaster
  | unknownReference id referenced =>
      obtain ⟨object, hobject, _, hrefers, hunknown⟩ := hpresent
      obtain ⟨other, hother, hid⟩ := h.known object hobject referenced hrefers
      exact hunknown other hother hid

theorem WellFormed.perm {objects other : List CustomObject} (h : WellFormed objects)
    (hperm : other.Perm objects) : WellFormed other where
  objectIds := (hperm.map CustomObject.id).nodup_iff.mpr h.objectIds
  fieldIds := (hperm.flatMap_right _).nodup_iff.mpr h.fieldIds
  notItself object hobject := h.notItself object (hperm.mem_iff.mp hobject)
  mastered object hobject := h.mastered object (hperm.mem_iff.mp hobject)
  known object hobject id hrefers := by
    obtain ⟨found, hfound, hid⟩ := h.known object (hperm.mem_iff.mp hobject) id hrefers
    exact ⟨found, hperm.mem_iff.mpr hfound, hid⟩

end CustomObject

namespace CatalogIndex

open CustomObject

theorem completes_completed (object : CustomObject) : (completed object).Completes object where
  givenPlural hgiven := by
    rw [completed, if_neg]
    rwa [String.isEmpty_iff]
  missingPlural hmissing := by
    rw [completed, if_pos]
    rwa [String.isEmpty_iff]
  fields := rfl
  others := rfl

theorem fieldIds_completed (object : CustomObject) :
    (completed object).fields.map CustomField.id = object.fields.map CustomField.id := by
  rw [completed, List.map_map]
  rfl

/-- A completed object has nothing left to be completed. -/
theorem completed_completed (object : CustomObject) :
    completed (completed object) = completed object := by
  by_cases hempty : object.namePlural.isEmpty = true
  · simp [completed, hempty, Function.comp_def]
  · simp [completed, hempty, Function.comp_def]

/-- Completed objects make a catalog just as the objects as they were given. -/
theorem wellFormed_completed {objects : List CustomObject} (h : WellFormed objects) :
    WellFormed (objects.map completed) where
  objectIds := by
    rw [List.map_map]
    exact h.objectIds
  fieldIds := by
    have hids : fieldIds (objects.map completed) = fieldIds objects := by
      rw [fieldIds, List.flatMap_map]
      exact List.flatMap_congr fun object _ => fieldIds_completed object
    rw [hids]
    exact h.fieldIds
  notItself := List.forall_mem_map.mpr h.notItself
  mastered := List.forall_mem_map.mpr h.mastered
  known := by
    intro _ hobject id hrefers
    obtain ⟨object, hmem, rfl⟩ := List.mem_map.mp hobject
    obtain ⟨other, hother, hid⟩ := h.known object hmem id hrefers
    exact ⟨completed other, List.mem_map_of_mem hother, hid⟩

/-- The fields up to one that has an owner, or that stood before, are entered. -/
theorem addOwners_error {owner : Int64} {owners : OrderedMap Int64 Int64}
    {fields : List CustomField} {problem : CatalogProblem}
    (h : addOwners owner owners fields = .error problem) :
    ∃ id, problem = .duplicateField id ∧ id ∈ fields.map CustomField.id ∧
      (owners.contains id = true ∨ (fields.map CustomField.id).Duplicate id) := by
  induction fields generalizing owners with
  | nil => cases h
  | cons field rest ih =>
      rw [addOwners] at h
      split at h
      · rename_i howned
        cases h
        exact ⟨field.id, rfl, List.mem_cons_self, Or.inl howned⟩
      · obtain ⟨id, rfl, hmem, htwice⟩ := ih h
        refine ⟨id, rfl, List.mem_cons_of_mem _ hmem, ?_⟩
        rcases htwice with howned | htwice
        · by_cases hsame : id = field.id
          · subst hsame
            exact Or.inr (List.Duplicate.cons_mem hmem)
          · rw [OrderedMap.contains, OrderedMap.get?_insert_of_ne _ _ hsame] at howned
            exact Or.inl howned
        · exact Or.inr (htwice.duplicate_cons field.id)

theorem duplicate_append {id : Int64} {front back : List Int64} (hfront : id ∈ front)
    (hback : id ∈ back) : (front ++ back).Duplicate id := by
  rw [List.duplicate_iff_sublist]
  exact (List.singleton_sublist.mpr hfront).append (List.singleton_sublist.mpr hback)

variable {index : CatalogIndex} {objects : List CustomObject}

/-- Objects are refused for a duplicate that is there, whatever comes behind them. -/
theorem Lists.addObject_error (hlists : index.Lists objects) {object : CustomObject}
    {problem : CatalogProblem} (h : index.addObject object = .error problem)
    (rest : List CustomObject) : problem.Present (objects ++ object :: rest) := by
  have hfields : CustomObject.fieldIds (objects ++ object :: rest) =
      CustomObject.fieldIds objects ++
        (object.fields.map CustomField.id ++ CustomObject.fieldIds rest) := by
    rw [CustomObject.fieldIds, List.flatMap_append, List.flatMap_cons]
    rfl
  rw [CatalogIndex.addObject] at h
  cases howners : addOwners object.id index.owners object.fields with
  | error found =>
      rw [howners] at h
      cases h
      obtain ⟨id, rfl, hmem, howned | htwice⟩ := addOwners_error howners
      · obtain ⟨owner, howner⟩ := (OrderedMap.contains_iff _ _).mp howned
        obtain ⟨earlier, hearlier, _, hid⟩ := (hlists.owned id owner).mp howner
        rw [CatalogProblem.Present, hfields]
        exact duplicate_append (List.mem_flatMap.mpr ⟨earlier, hearlier, hid⟩)
          (List.mem_append_left _ hmem)
      · rw [CatalogProblem.Present, hfields]
        exact htwice.mono_sublist
          ((List.sublist_append_left _ _).trans (List.sublist_append_right _ _))
  | ok owners =>
      rw [howners] at h
      change (if index.objects.contains object.id then _ else _) = _ at h
      split at h
      · rename_i hheld
        cases h
        obtain ⟨found, hfound⟩ := (OrderedMap.contains_iff _ _).mp hheld
        obtain ⟨earlier, hearlier, hid, _⟩ := (hlists.held object.id found).mp hfound
        rw [CatalogProblem.Present, List.map_append, List.map_cons]
        exact duplicate_append (hid ▸ List.mem_map_of_mem hearlier) List.mem_cons_self
      · cases h

theorem Lists.addObjects_error (hlists : index.Lists objects) {more : List CustomObject}
    {problem : CatalogProblem} (h : index.addObjects more = .error problem) :
    problem.Present (objects ++ more) := by
  induction more generalizing index objects with
  | nil => cases h
  | cons object rest ih =>
      rw [CatalogIndex.addObjects] at h
      cases hnext : index.addObject object with
      | error found =>
          rw [hnext] at h
          cases h
          exact hlists.addObject_error hnext rest
      | ok next =>
          rw [hnext] at h
          have hpresent := ih (hlists.addObject hnext) h
          rwa [List.append_assoc] at hpresent

/-- References are refused for the first one that the index does not hold. -/
theorem checkReferences_cases (index : CatalogIndex) (object : Int64) (references : List Int64) :
    (index.checkReferences object references = .ok () ∧
      ∀ id ∈ references, index.objects.contains id = true) ∨
    ∃ id ∈ references, index.objects.contains id = false ∧
      index.checkReferences object references = .error (.unknownReference object id) := by
  induction references with
  | nil => exact Or.inl ⟨rfl, by simp⟩
  | cons id rest ih =>
      rw [checkReferences]
      split
      · rename_i hheld
        rcases ih with ⟨hok, hall⟩ | ⟨other, hother, hrest⟩
        · exact Or.inl ⟨hok, List.forall_mem_cons.mpr ⟨hheld, hall⟩⟩
        · exact Or.inr ⟨other, List.mem_cons_of_mem _ hother, hrest⟩
      · rename_i hunknown
        exact Or.inr ⟨id, List.mem_cons_self, by simpa using hunknown, rfl⟩

theorem mem_references_iff (object : CustomObject) (id : Int64) :
    id ∈ references object ↔ object.RefersTo id := by
  simp [references, RefersTo]

theorem Lists.contains_iff (hlists : index.Lists objects) (id : Int64) :
    index.objects.contains id = true ↔ ∃ object ∈ objects, object.id = id := by
  rw [OrderedMap.contains_iff]
  constructor
  · rintro ⟨found, hfound⟩
    obtain ⟨object, hobject, hid, _⟩ := (hlists.held id found).mp hfound
    exact ⟨object, hobject, hid⟩
  · rintro ⟨object, hobject, hid⟩
    exact ⟨completed object, (hlists.held id _).mpr ⟨object, hobject, hid, rfl⟩⟩

/-- What the check of an object finds: nothing is wrong with its references, or a problem
that is there. -/
theorem Lists.checkObject_cases (hlists : index.Lists objects) {object : CustomObject}
    (hobject : object ∈ objects) :
    (index.checkObject (completed object) = .ok () ∧
      object.relationshipObject ≠ some object.id ∧
      (object.kind = .relationship → object.masterObject ≠ none) ∧
      ∀ id, object.RefersTo id → ∃ other ∈ objects, other.id = id) ∨
    ∃ problem, index.checkObject (completed object) = .error problem ∧
      problem.Present objects := by
  have hkind : (completed object).isRelationship = true ↔ object.kind = .relationship :=
    beq_iff_eq
  rw [checkObject]
  split
  · rename_i hself
    exact Or.inr ⟨_, rfl, object, hobject, rfl, hself⟩
  · rename_i hnotItself
    split
    · rename_i hunmastered
      exact Or.inr ⟨_, rfl, object, hobject, rfl, hkind.mp hunmastered.1, hunmastered.2⟩
    · rename_i hmastered
      rcases index.checkReferences_cases object.id (references object) with
        ⟨hok, hall⟩ | ⟨id, hid, hunknown, herror⟩
      · refine Or.inl ⟨hok, hnotItself, fun hrelationship hnone => ?_, fun id hrefers => ?_⟩
        · exact hmastered ⟨hkind.mpr hrelationship, hnone⟩
        · exact (hlists.contains_iff id).mp (hall id ((mem_references_iff object id).mpr hrefers))
      · refine Or.inr ⟨_, herror, object, hobject, rfl, (mem_references_iff object id).mp hid, ?_⟩
        intro other hother hsame
        rw [(hlists.contains_iff id).mpr ⟨other, hother, hsame⟩] at hunknown
        cases hunknown

/-- The check of several objects ends at the first one that is refused. -/
theorem checkObjects_cases (index : CatalogIndex) (objects : List CustomObject) :
    (index.checkObjects objects = .ok () ∧
      ∀ object ∈ objects, index.checkObject object = .ok ()) ∨
    ∃ object ∈ objects, ∃ problem, index.checkObject object = .error problem ∧
      index.checkObjects objects = .error problem := by
  induction objects with
  | nil => exact Or.inl ⟨rfl, by simp⟩
  | cons object rest ih =>
      rw [checkObjects]
      cases hcheck : index.checkObject object with
      | error problem => exact Or.inr ⟨object, List.mem_cons_self, problem, hcheck, rfl⟩
      | ok _ =>
          rcases ih with ⟨hok, hall⟩ | ⟨other, hother, problem, hrest⟩
          · exact Or.inl ⟨hok, List.forall_mem_cons.mpr ⟨hcheck, hall⟩⟩
          · exact Or.inr ⟨other, List.mem_cons_of_mem _ hother, problem, hrest⟩

theorem Lists.mem_values_iff (hlists : index.Lists objects) (found : CustomObject) :
    found ∈ index.objects.values ↔ found ∈ objects.map completed := by
  rw [OrderedMap.mem_values_iff, List.mem_map]
  constructor
  · rintro ⟨id, hfound⟩
    obtain ⟨object, hobject, _, rfl⟩ := (hlists.held id found).mp hfound
    exact ⟨object, hobject, rfl⟩
  · rintro ⟨object, hobject, rfl⟩
    exact ⟨object.id, (hlists.held _ _).mpr ⟨object, hobject, rfl, rfl⟩⟩

/-- What the checks of a whole index find. -/
theorem Lists.checkObjects_cases (hlists : index.Lists objects) :
    (index.checkObjects index.objects.values = .ok () ∧ WellFormed objects) ∨
    ∃ problem, index.checkObjects index.objects.values = .error problem ∧
      problem.Present objects := by
  rcases index.checkObjects_cases index.objects.values with
    ⟨hok, hall⟩ | ⟨found, hfound, problem, hproblem, herror⟩
  · have hsound : ∀ object ∈ objects, object.relationshipObject ≠ some object.id ∧
        (object.kind = .relationship → object.masterObject ≠ none) ∧
        ∀ id, object.RefersTo id → ∃ other ∈ objects, other.id = id := by
      intro object hobject
      have hvalue := (hlists.mem_values_iff _).mpr (List.mem_map_of_mem hobject)
      rcases hlists.checkObject_cases hobject with ⟨_, hrest⟩ | ⟨problem, herror, _⟩
      · exact hrest
      · rw [hall _ hvalue] at herror
        cases herror
    exact Or.inl ⟨hok, hlists.objectIds, hlists.fieldIds,
      fun object hobject => (hsound object hobject).1,
      fun object hobject => (hsound object hobject).2.1,
      fun object hobject => (hsound object hobject).2.2⟩
  · obtain ⟨object, hobject, rfl⟩ := List.mem_map.mp ((hlists.mem_values_iff found).mp hfound)
    rcases hlists.checkObject_cases hobject with ⟨hok, _⟩ | ⟨other, hother, hpresent⟩
    · rw [hok] at hproblem
      cases hproblem
    · rw [hproblem] at hother
      cases hother
      exact Or.inr ⟨problem, herror, hpresent⟩

/-- What an index holds under an id, told by the completed objects. -/
theorem Lists.held_completed (hlists : index.Lists objects) (id : Int64) (found : CustomObject) :
    index.objects.get? id = some found ↔ found ∈ objects.map completed ∧ found.id = id := by
  rw [hlists.held, List.mem_map]
  constructor
  · rintro ⟨object, hobject, hid, rfl⟩
    exact ⟨⟨object, hobject, rfl⟩, hid⟩
  · rintro ⟨⟨object, hobject, rfl⟩, hid⟩
    exact ⟨object, hobject, hid, rfl⟩

theorem Lists.owned_completed (hlists : index.Lists objects) (id owner : Int64) :
    index.owners.get? id = some owner ↔
      ∃ found ∈ objects.map completed, found.id = owner ∧
        id ∈ found.fields.map CustomField.id := by
  rw [hlists.owned]
  constructor
  · rintro ⟨object, hobject, howner, hid⟩
    rw [← fieldIds_completed object] at hid
    exact ⟨completed object, List.mem_map_of_mem hobject, howner, hid⟩
  · rintro ⟨_, hfound, howner, hid⟩
    obtain ⟨object, hobject, rfl⟩ := List.mem_map.mp hfound
    rw [fieldIds_completed object] at hid
    exact ⟨object, hobject, howner, hid⟩

/-- An index is determined by the completed objects. -/
theorem Lists.unique {other : CatalogIndex} {more : List CustomObject}
    (hlists : index.Lists objects) (hother : other.Lists more)
    (hsame : ∀ found, found ∈ objects.map completed ↔ found ∈ more.map completed) :
    index = other := by
  have hobjects : index.objects = other.objects := by
    apply OrderedMap.eq_of_get?_iff
    intro id found
    rw [hlists.held_completed, hother.held_completed, hsame]
  have howners : index.owners = other.owners := by
    apply OrderedMap.eq_of_get?_iff
    intro id owner
    simp only [hlists.owned_completed, hother.owned_completed, hsame]
  cases index
  cases other
  cases hobjects
  cases howners
  rfl

end CatalogIndex

namespace Catalog

open CatalogIndex CustomObject

variable {objects : List CustomObject} {tables : TableNames} {catalog : Catalog}

/-- A list of objects makes a catalog if it is well-formed, and is refused for a problem that
is there if it is not. -/
theorem new_cases (objects : List CustomObject) (tables : TableNames) :
    (WellFormed objects ∧ ∃ catalog, new objects tables = .ok catalog) ∨
    ∃ problem, new objects tables = .error problem ∧ problem.Present objects := by
  cases hindex : CatalogIndex.empty.addObjects objects with
  | error problem =>
      refine Or.inr ⟨problem, ?_, lists_empty.addObjects_error hindex⟩
      rw [new, hindex]
      rfl
  | ok index =>
      have hlists : index.Lists objects := lists_empty.addObjects hindex
      rcases hlists.checkObjects_cases with ⟨hok, hwellFormed⟩ | ⟨problem, herror, hpresent⟩
      · refine Or.inl ⟨hwellFormed, ⟨index, tables⟩, ?_⟩
        simp only [new, hindex, bind, Except.bind, hok, pure, Except.pure]
      · refine Or.inr ⟨problem, ?_, hpresent⟩
        simp only [new, hindex, bind, Except.bind, herror]

theorem wellFormed_of_new (h : new objects tables = .ok catalog) : WellFormed objects := by
  rcases new_cases objects tables with ⟨hwellFormed, _⟩ | ⟨problem, herror, _⟩
  · exact hwellFormed
  · rw [h] at herror
    cases herror

theorem exists_of_wellFormed (h : WellFormed objects) (tables : TableNames) :
    ∃ catalog, new objects tables = .ok catalog := by
  rcases new_cases objects tables with ⟨_, hcatalog⟩ | ⟨problem, _, hpresent⟩
  · exact hcatalog
  · exact absurd hpresent (h.not_present problem)

/-- Objects that are the same once they are completed make the same catalog. -/
theorem new_of_same {more : List CustomObject} (h : new objects tables = .ok catalog)
    (hmore : WellFormed more)
    (hsame : ∀ found, found ∈ objects.map completed ↔ found ∈ more.map completed) :
    new more tables = .ok catalog := by
  obtain ⟨other, hother⟩ := exists_of_wellFormed hmore tables
  obtain ⟨hlists, htables⟩ := lists_of_new h
  obtain ⟨hotherLists, hotherTables⟩ := lists_of_new hother
  have hindex : catalog.index = other.index := hlists.unique hotherLists hsame
  rw [hother]
  cases catalog
  cases other
  cases hindex
  cases htables
  cases hotherTables
  rfl

/-- A catalog lists each of its objects once, completed. -/
theorem objects_perm (h : new objects tables = .ok catalog) :
    catalog.objects.Perm (objects.map completed) := by
  have hlists := (lists_of_new h).1
  have hkeys : catalog.objects.map CustomObject.id = catalog.index.objects.keys := by
    rw [Catalog.objects, OrderedMap.values, OrderedMap.keys, List.map_map]
    apply List.map_congr_left
    rintro ⟨id, found⟩ hentry
    exact keyed_of_new h id found ((OrderedMap.get?_eq_some_iff _ _ _).mpr hentry)
  have hnodup : catalog.objects.Nodup := by
    apply List.Nodup.of_map CustomObject.id
    rw [hkeys]
    exact OrderedMap.keys_nodup _
  have hgiven : (objects.map completed).Nodup := by
    apply List.Nodup.of_map CustomObject.id
    rw [List.map_map]
    exact hlists.objectIds
  exact (List.perm_ext_iff_of_nodup hnodup hgiven).mpr hlists.mem_values_iff

/-- What a catalog answers about the objects that it was made of. -/
structure Answers (catalog : Catalog) (objects : List CustomObject) : Prop where
  object : ∀ object ∈ objects, ∃ found : CustomObject, found.Completes object ∧
    catalog.object? object.id = some found ∧ catalog.metadata.object object.id = .ok found
  noObject : ∀ id, (∀ object ∈ objects, object.id ≠ id) →
    catalog.object? id = none ∧ catalog.metadata.object id = .error (.unknownObject id)
  field : ∀ object ∈ objects, ∀ field ∈ object.fields,
    catalog.field? field.id = some { field with objectId := object.id } ∧
      catalog.metadata.field field.id = .ok { field with objectId := object.id }
  noField : ∀ id, (∀ object ∈ objects, ∀ field ∈ object.fields, field.id ≠ id) →
    catalog.field? id = none ∧ catalog.metadata.field id = .error (.unknownField id)
  /-- Every field is listed, owned by its object, and no id comes twice. -/
  fields : catalog.fields.Perm
      (objects.flatMap fun object =>
        object.fields.map fun field => { field with objectId := object.id }) ∧
    (catalog.fields.map CustomField.id).Nodup
  /-- The objects make the same catalog in any order. -/
  anyOrder : ∀ other, other.Perm objects → new other catalog.tables = .ok catalog
  /-- The objects that are listed make the same catalog. -/
  again : new catalog.objects catalog.tables = .ok catalog

theorem answers_of_new (h : new objects tables = .ok catalog) : catalog.Answers objects := by
  have hwellFormed := wellFormed_of_new h
  have hperm := objects_perm h
  have hlisted : WellFormed catalog.objects := (wellFormed_completed hwellFormed).perm hperm
  obtain ⟨_, rfl⟩ := lists_of_new h
  refine ⟨?_, ?_, ?_, ?_, ⟨?_, ?_⟩, ?_, ?_⟩
  · intro object hobject
    have hfound := (object?_eq_some_iff h object.id _).mpr ⟨object, hobject, rfl, rfl⟩
    exact ⟨_, completes_completed object, hfound, by simp only [metadata, hfound]⟩
  · intro id habsent
    have hnone : catalog.object? id = none := by
      rw [Option.eq_none_iff_forall_ne_some]
      intro found hfound
      obtain ⟨object, hobject, hid, _⟩ := (object?_eq_some_iff h id found).mp hfound
      exact habsent object hobject hid
    exact ⟨hnone, by simp only [metadata, hnone]⟩
  · intro object hobject field hfield
    have hfound := (field?_eq_some_iff h field.id _).mpr
      ⟨object, hobject, field, hfield, rfl, rfl⟩
    exact ⟨hfound, by simp only [metadata, hfound]⟩
  · intro id habsent
    have hnone : catalog.field? id = none := by
      rw [Option.eq_none_iff_forall_ne_some]
      intro found hfound
      obtain ⟨object, hobject, field, hfield, hid, _⟩ := (field?_eq_some_iff h id found).mp hfound
      exact habsent object hobject field hfield hid
    exact ⟨hnone, by simp only [metadata, hnone]⟩
  · have hfields := hperm.flatMap_right CustomObject.fields
    rw [List.flatMap_map] at hfields
    exact hfields
  · rw [Catalog.fields, List.map_flatMap]
    exact hlisted.fieldIds
  · intro other hother
    exact new_of_same h (hwellFormed.perm hother) fun found => (hother.map completed).mem_iff.symm
  · apply new_of_same h hlisted
    intro found
    have hagain : (objects.map completed).map completed = objects.map completed := by
      rw [List.map_map]
      exact List.map_congr_left fun object _ => completed_completed object
    rw [(hperm.map completed).mem_iff, hagain]

/-- A list of objects makes a catalog just if it is well-formed; if it does not, the problem
is one that the list has, and if it does, the catalog answers with these objects alone. -/
theorem new_accepts_well_formed (objects : List CustomObject) (tables : TableNames) :
    ((∃ catalog, new objects tables = .ok catalog) ↔ WellFormed objects) ∧
    (∀ problem, new objects tables = .error problem → problem.Present objects) ∧
    ∀ catalog, new objects tables = .ok catalog →
      catalog.tables = tables ∧ catalog.Answers objects := by
  refine ⟨⟨?_, fun h => exists_of_wellFormed h tables⟩, ?_, ?_⟩
  · rintro ⟨catalog, hcatalog⟩
    exact wellFormed_of_new hcatalog
  · intro problem hproblem
    rcases new_cases objects tables with ⟨_, catalog, hcatalog⟩ | ⟨found, hfound, hpresent⟩
    · rw [hproblem] at hcatalog
      cases hcatalog
    · rw [hproblem] at hfound
      cases hfound
      exact hpresent
  · intro catalog hcatalog
    exact ⟨(lists_of_new hcatalog).2, answers_of_new hcatalog⟩

end Catalog

namespace Products

/-- Lines of orders, which belong to products.  The field is stored without its owner. -/
def line : CustomObject where
  id := 2
  aliasName := "order_line"
  nameSingular := "Order line"
  namePlural := ""
  kind := .relationship
  masterObject := some 1
  relationshipObject := none
  fields := [⟨30, 0, "Quantity", "quantity", "int"⟩]

/-- The same as a catalog holds it. -/
def completeLine : CustomObject :=
  { line with
    namePlural := "Order lines"
    fields := [⟨30, 2, "Quantity", "quantity", "int"⟩] }

def lineCatalog : Catalog where
  index := ⟨.ofList [(1, product), (2, completeLine)], .ofList [(3, 1), (4, 1), (11, 1), (30, 2)]⟩
  tables := ⟨""⟩

/-- Lines and products make a catalog, which holds the lines with their plural name and as
owners of their field.  Without the products the lines are refused. -/
theorem lines_of_products :
    Catalog.new [line, product] ⟨""⟩ = .ok lineCatalog ∧
    lineCatalog.Answers [line, product] ∧
    (∃ found : CustomObject, found.Completes line ∧ lineCatalog.object? 2 = some found ∧
      found.namePlural = "Order lines" ∧
      found.fields = [⟨30, 2, "Quantity", "quantity", "int"⟩]) ∧
    Catalog.new [line] ⟨""⟩ = .error (.unknownReference 2 1) ∧
      CatalogProblem.Present [line] (.unknownReference 2 1) := by
  obtain ⟨_, _, hanswers⟩ := Catalog.new_accepts_well_formed [line, product] ⟨""⟩
  have hnew : Catalog.new [line, product] ⟨""⟩ = .ok lineCatalog := rfl
  have hrefused : Catalog.new [line] ⟨""⟩ = .error (.unknownReference 2 1) := rfl
  obtain ⟨_, hlines⟩ := hanswers lineCatalog hnew
  obtain ⟨found, hcompletes, hfound, _⟩ := hlines.object line List.mem_cons_self
  obtain rfl : completeLine = found := Option.some.inj hfound
  refine ⟨hnew, hlines, ⟨completeLine, hcompletes, hfound, rfl, rfl⟩, hrefused, ?_⟩
  exact (Catalog.new_accepts_well_formed [line] ⟨""⟩).2.1 _ hrefused

end Products

end SegmentPaths
