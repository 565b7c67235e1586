/-
JSON values and the documents they are written as.  A value is ordered if the keys of each
object in it ascend, so that no key comes twice; just these values are meant by documents,
and each of them is read back from its own document.
-/
import SegmentPaths.Proofs.Bindings
import SegmentPaths.Json.Record

namespace SegmentPaths

namespace OrderedMap

universe u v

variable {K : Type u} {V : Type v} [Ord K]

/-- An entry with a new key is added to the others. -/
theorem setEntry_perm [Std.TransOrd K] [Std.LawfulEqOrd K] {key : K} {value : V}
    {entries : List (K × V)} (h : key ∉ entries.map Prod.fst) :
    (setEntry key value entries).Perm ((key, value) :: entries) := by
  induction entries with
  | nil => exact .refl _
  | cons head tail ih =>
      rw [List.map_cons, List.mem_cons, not_or] at h
      unfold setEntry
      split
      · exact .refl _
      · rename_i heq
        exact absurd (Std.LawfulEqCmp.compare_eq_iff_eq.mp heq) h.1
      · exact ((ih h.2).cons head).trans (.swap _ _ _)

variable [Std.TransOrd K] [Std.LawfulEqOrd K]

/-- A map made of entries with different keys has just these entries. -/
theorem toList_ofList_perm {pairs : List (K × V)} (h : (pairs.map Prod.fst).Nodup) :
    (ofList pairs).toList.Perm pairs := by
  have hfold : ∀ (pairs : List (K × V)) (map : OrderedMap K V),
      ((map.toList ++ pairs).map Prod.fst).Nodup →
      (pairs.foldl (fun map pair => map.insert pair.1 pair.2) map).toList.Perm
        (map.toList ++ pairs) := by
    intro pairs
    induction pairs with
    | nil =>
        intro map _
        simp
    | cons pair rest ih =>
        intro map hnodup
        have hkeys : ((map.toList ++ pair :: rest).map Prod.fst).Perm
            (((map.toList ++ [pair]) ++ rest).map Prod.fst) := by simp
        have hnew : pair.1 ∉ map.toList.map Prod.fst := by
          rw [List.map_append, List.map_cons, List.nodup_append] at hnodup
          intro hmem
          exact hnodup.2.2 _ hmem _ List.mem_cons_self rfl
        have hinsert : (map.insert pair.1 pair.2).toList.Perm (map.toList ++ [pair]) :=
          (setEntry_perm hnew).trans (List.perm_append_singleton pair map.toList).symm
        have hnext : (((map.insert pair.1 pair.2).toList ++ rest).map Prod.fst).Nodup :=
          ((hinsert.append_right rest).map Prod.fst).nodup_iff.mpr (hkeys.nodup_iff.mp hnodup)
        refine (ih _ hnext).trans ?_
        rw [List.append_cons]
        exact hinsert.append_right rest
  exact hfold pairs empty h

/-- A map made of entries that can be put in order is the list of them in order. -/
theorem toList_ofList_of_perm {pairs sorted : List (K × V)} (hperm : pairs.Perm sorted)
    (h : KeysAscend sorted) : (ofList pairs).toList = sorted := by
  have hnodup : (sorted.map Prod.fst).Nodup := by
    rw [List.Nodup, List.pairwise_map]
    exact h.imp fun hlt => (ne_of_compare_lt hlt).symm
  have hpairs := (hperm.map Prod.fst).nodup_iff.mpr hnodup
  refine ((toList_ofList_perm hpairs).trans hperm).eq_of_pairwise ?_ (ofList pairs).ascending h
  intro left right _ _ hleft hright
  rw [Std.OrientedCmp.gt_of_lt hright] at hleft
  cases hleft

end OrderedMap

mutual

/-- Whether the keys of every object in a value ascend. -/
def Json.Ordered : Json → Prop
  | .null | .bool _ | .number _ | .text _ => True
  | .array items => Json.OrderedItems items
  | .object members => KeysAscend members ∧ Json.OrderedMembers members

def Json.OrderedItems : List Json → Prop
  | [] => True
  | item :: rest => item.Ordered ∧ Json.OrderedItems rest

def Json.OrderedMembers : List (String × Json) → Prop
  | [] => True
  | (_, value) :: rest => value.Ordered ∧ Json.OrderedMembers rest

end

namespace Json

theorem orderedItems_iff (items : List Json) :
    OrderedItems items ↔ ∀ item ∈ items, item.Ordered := by
  induction items with
  | nil => simp [OrderedItems]
  | cons item rest ih => rw [OrderedItems, ih, List.forall_mem_cons]

theorem orderedMembers_iff (members : List (String × Json)) :
    OrderedMembers members ↔ ∀ member ∈ members, member.2.Ordered := by
  induction members with
  | nil => simp [OrderedMembers]
  | cons member rest ih => rw [OrderedMembers, ih, List.forall_mem_cons]

/-- An object that is made of ordered members is ordered. -/
theorem ordered_ofMembers {members : List (String × Json)}
    (h : ∀ member ∈ members, member.2.Ordered) : (ofMembers members).Ordered := by
  have hmem : ∀ (pairs : List (String × Json)) (map : OrderedMap String Json),
      ∀ member ∈ (pairs.foldl (fun map pair => map.insert pair.1 pair.2) map).toList,
        member ∈ pairs ∨ member ∈ map.toList := by
    intro pairs
    induction pairs with
    | nil => exact fun map member hmember => Or.inr hmember
    | cons pair rest ih =>
        intro map member hmember
        rcases ih _ member hmember with hrest | hinsert
        · exact Or.inl (List.mem_cons_of_mem _ hrest)
        · rcases OrderedMap.key_of_mem_setEntry _ _ _ member hinsert with rfl | hold
          · exact Or.inl List.mem_cons_self
          · exact Or.inr hold
  rw [ofMembers, Ordered, orderedMembers_iff]
  refine ⟨(OrderedMap.ofList members).ascending, fun member hmember => ?_⟩
  rcases hmem members .empty member hmember with hgiven | hnone
  · exact h member hgiven
  · cases hnone

end Json

namespace Document

mutual

/-- An ordered value is what its document means. -/
theorem json?_ofJson (value : Json) (h : value.Ordered) : (ofJson value).json? = some value := by
  cases value with
  | null | bool | number | text => rfl
  | array items => rw [ofJson, json?, jsonItems?_ofItems items h]; rfl
  | object members =>
      rw [ofJson, json?, jsonMembers?_ofMembers members h.2, Option.map_some, Json.ofMembers,
        OrderedMap.toList_ofList_of_perm (.refl _) h.1]

theorem jsonItems?_ofItems (items : List Json) (h : Json.OrderedItems items) :
    jsonItems? (ofItems items) = some items := by
  cases items with
  | nil => rfl
  | cons item rest =>
      rw [ofItems, jsonItems?, json?_ofJson item h.1, jsonItems?_ofItems rest h.2]
      rfl

theorem jsonMembers?_ofMembers (members : List (String × Json))
    (h : Json.OrderedMembers members) : jsonMembers? (ofMembers members) = some members := by
  cases members with
  | nil => rfl
  | cons member rest =>
      obtain ⟨key, value⟩ := member
      rw [ofMembers, jsonMembers?, json?_ofJson value h.1, jsonMembers?_ofMembers rest h.2]
      rfl

end

mutual

/-- What a document means is ordered. -/
theorem ordered_of_json? (document : Document) {value : Json} (h : document.json? = some value) :
    value.Ordered := by
  cases document with
  | null | bool | number | text =>
      cases h
      trivial
  | array items =>
      obtain ⟨values, hvalues, rfl⟩ := Option.map_eq_some_iff.mp h
      exact orderedItems_of_jsonItems? items hvalues
  | object members =>
      obtain ⟨values, hvalues, rfl⟩ := Option.map_eq_some_iff.mp h
      exact Json.ordered_ofMembers
        ((Json.orderedMembers_iff values).mp (orderedMembers_of_jsonMembers? members hvalues))
  | hole => cases h

theorem orderedItems_of_jsonItems? (items : List Document) {values : List Json}
    (h : jsonItems? items = some values) : Json.OrderedItems values := by
  cases items with
  | nil =>
      cases h
      trivial
  | cons item rest =>
      obtain ⟨value, hvalue, hrest⟩ := Option.bind_eq_some_iff.mp h
      obtain ⟨others, hothers, hvalues⟩ := Option.bind_eq_some_iff.mp hrest
      cases hvalues
      exact ⟨ordered_of_json? item hvalue, orderedItems_of_jsonItems? rest hothers⟩

theorem orderedMembers_of_jsonMembers? (members : List (Option String × Document))
    {values : List (String × Json)} (h : jsonMembers? members = some values) :
    Json.OrderedMembers values := by
  cases members with
  | nil =>
      cases h
      trivial
  | cons member rest =>
      obtain ⟨name, document⟩ := member
      obtain ⟨key, _, hrest⟩ := Option.bind_eq_some_iff.mp h
      obtain ⟨value, hvalue, hrest⟩ := Option.bind_eq_some_iff.mp hrest
      obtain ⟨others, hothers, hvalues⟩ := Option.bind_eq_some_iff.mp hrest
      cases hvalues
      exact ⟨ordered_of_json? document hvalue, orderedMembers_of_jsonMembers? rest hothers⟩

end

end Document

end SegmentPaths
