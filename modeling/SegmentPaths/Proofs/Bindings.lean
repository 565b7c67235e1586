/-
What parameter maps bind once they are merged.  Maps that agree on the names
they share merge without a conflict, and the result binds what one of them
binds.
-/
import SegmentPaths.Path.Union

namespace SegmentPaths

namespace OrderedMap

universe u v

variable {K : Type u} {V : Type v} [Ord K] [Std.LawfulEqOrd K]

theorem ne_of_compare_lt {left right : K} (h : compare left right = .lt) : right ≠ left := by
  intro hsame
  have heq : compare left right = .eq := Std.LawfulEqCmp.compare_eq_iff_eq.mpr hsame.symm
  rw [heq] at h
  cases h

/-- A lookup finds exactly the entries of the map. -/
theorem findEntry_eq_some_iff {entries : List (K × V)} (hascend : KeysAscend entries)
    (key : K) (value : V) : findEntry key entries = some value ↔ (key, value) ∈ entries := by
  induction entries with
  | nil => simp [findEntry]
  | cons head tail ih =>
      have hhead := (List.pairwise_cons.mp hascend).1
      have htail := ih (List.pairwise_cons.mp hascend).2
      by_cases hkey : compare key head.1 = .eq
      · have hsame : key = head.1 := Std.LawfulEqCmp.compare_eq_iff_eq.mp hkey
        have hnot : (key, value) ∉ tail := fun hmem => ne_of_compare_lt (hhead _ hmem) hsame
        subst hsame
        simp [findEntry, hnot, Prod.ext_iff, eq_comm]
      · have hne : key ≠ head.1 := fun h => hkey (Std.LawfulEqCmp.compare_eq_iff_eq.mpr h)
        simp [findEntry, hkey, htail, Prod.ext_iff, hne]

theorem get?_eq_some_iff (map : OrderedMap K V) (key : K) (value : V) :
    map.get? key = some value ↔ (key, value) ∈ map.toList :=
  findEntry_eq_some_iff map.ascending key value

/-- The keys of a map are those with a value. -/
theorem mem_keys_iff (map : OrderedMap K V) (key : K) :
    key ∈ map.keys ↔ ∃ value, map.get? key = some value := by
  simp only [get?_eq_some_iff, keys, List.mem_map, Prod.exists, exists_and_right, exists_eq_right]

variable [Std.TransOrd K]

@[simp]
theorem get?_insert_self (map : OrderedMap K V) (key : K) (value : V) :
    (map.insert key value).get? key = some value := by
  rw [get?_insert, if_pos Std.ReflCmp.compare_self]

theorem get?_insert_of_ne (map : OrderedMap K V) {key other : K} (value : V)
    (hne : other ≠ key) : (map.insert key value).get? other = map.get? other := by
  rw [get?_insert, if_neg (fun h => hne (Std.LawfulEqCmp.compare_eq_iff_eq.mp h))]

theorem mem_keys_insert (map : OrderedMap K V) (key : K) (value : V) (other : K) :
    other ∈ (map.insert key value).keys ↔ other ∈ map.keys ∨ other = key := by
  by_cases hsame : other = key
  · simp [mem_keys_iff, hsame]
  · simp [mem_keys_iff, get?_insert_of_ne, hsame]

end OrderedMap

namespace Parameters

/-- Names that both maps bind are bound to the same value. -/
def Agree (left right : Parameters) : Prop :=
  ∀ name a b, left.get? name = some a → right.get? name = some b → a = b

/-- Every binding of one map is one of the other. -/
def Extends (large small : Parameters) : Prop :=
  ∀ name value, small.get? name = some value → large.get? name = some value

theorem Extends.refl (params : Parameters) : params.Extends params := fun _ _ h => h

/-- Entries with ascending names that do not contradict a map are set without a
conflict. -/
theorem mergeEntries_of_agree {params : Parameters} {entries : List (String × ParamValue)}
    (hascend : KeysAscend entries)
    (hagree : ∀ name a b, params.get? name = some a → (name, b) ∈ entries → a = b) :
    ∃ merged, mergeEntries params entries = (merged, none) ∧
      ∀ name value, merged.get? name = some value ↔
        params.get? name = some value ∨ (name, value) ∈ entries := by
  induction entries generalizing params with
  | nil => exact ⟨params, rfl, by simp⟩
  | cons head rest ih =>
      obtain ⟨name, value⟩ := head
      have hhead := (List.pairwise_cons.mp hascend).1
      have hfresh : ∀ other ∈ rest, other.1 ≠ name :=
        fun other hmem => OrderedMap.ne_of_compare_lt (hhead other hmem)
      have hrest : ∀ other a b, (params.insert name value).get? other = some a →
          (other, b) ∈ rest → a = b := by
        intro other a b ha hb
        rw [OrderedMap.get?_insert_of_ne params value (hfresh (other, b) hb)] at ha
        exact hagree other a b ha (List.mem_cons_of_mem _ hb)
      obtain ⟨merged, hmerge, hbinds⟩ := ih (List.pairwise_cons.mp hascend).2 hrest
      refine ⟨merged, ?_, ?_⟩
      · have hprevious : ∀ previous, params.get? name = some previous → previous = value :=
          fun previous h => hagree name previous value h List.mem_cons_self
        rw [mergeEntries]
        cases hget : params.get? name with
        | none => exact hmerge
        | some previous => simpa [hprevious previous hget] using hmerge
      · intro other found
        rw [hbinds, List.mem_cons, Prod.mk.injEq]
        by_cases hsame : other = name
        · subst hsame
          have hold : params.get? other = some found → found = value :=
            fun h => hagree other found value h List.mem_cons_self
          have hnot : (other, found) ∉ rest := fun h => hfresh _ h rfl
          rw [OrderedMap.get?_insert_self]
          simp only [Option.some.injEq, hnot, or_false, true_and]
          exact ⟨fun h => Or.inr h.symm, fun h => (h.elim hold id).symm⟩
        · rw [OrderedMap.get?_insert_of_ne params value hsame]
          simp [hsame]

/-- Maps that agree merge without a conflict. -/
theorem merge_of_agree {left right : Parameters} (hagree : Agree left right) :
    ∃ merged, left.merge right = (merged, none) ∧
      ∀ name value, merged.get? name = some value ↔
        left.get? name = some value ∨ right.get? name = some value := by
  have hentries : ∀ name a b, left.get? name = some a → (name, b) ∈ right.toList → a = b :=
    fun name a b ha hb => hagree name a b ha ((right.get?_eq_some_iff name b).mpr hb)
  obtain ⟨merged, hmerge, hbinds⟩ := mergeEntries_of_agree right.ascending hentries
  refine ⟨merged, hmerge, fun name value => ?_⟩
  rw [hbinds, right.get?_eq_some_iff]

end Parameters

namespace ValueCondition

variable (params : Parameters) (bindings : List (String × ParamValue))

theorem get?_bindAll_of_notMem {name : String}
    (hfresh : name ∉ bindings.map Prod.fst) :
    (bindAll params bindings).get? name = params.get? name := by
  induction bindings generalizing params with
  | nil => rfl
  | cons binding rest ih =>
      simp only [List.map_cons, List.mem_cons, not_or] at hfresh
      rw [bindAll, List.foldl_cons]
      exact (ih _ hfresh.2).trans (OrderedMap.get?_insert_of_ne _ _ hfresh.1)

/-- Pairs with different names all stay bound. -/
theorem get?_bindAll_of_mem (hnodup : (bindings.map Prod.fst).Nodup) {name : String}
    {value : ParamValue} (hmem : (name, value) ∈ bindings) :
    (bindAll params bindings).get? name = some value := by
  induction bindings generalizing params with
  | nil => cases hmem
  | cons binding rest ih =>
      have hhead := (List.nodup_cons.mp hnodup).1
      rcases List.mem_cons.mp hmem with hsame | hrest
      · subst hsame
        exact (get?_bindAll_of_notMem _ rest hhead).trans (OrderedMap.get?_insert_self _ _ _)
      · exact ih _ (List.nodup_cons.mp hnodup).2 hrest

theorem get?_bindAll_cases {name : String} {value : ParamValue}
    (h : (bindAll params bindings).get? name = some value) :
    name ∈ bindings.map Prod.fst ∨ params.get? name = some value := by
  by_cases hmem : name ∈ bindings.map Prod.fst
  · exact Or.inl hmem
  · exact Or.inr ((get?_bindAll_of_notMem params bindings hmem).symm.trans h)

end ValueCondition

namespace FragmentUnion

/-- Fragments whose values agree merge into a map that binds what one of them
binds. -/
theorem mergeParams_of_agree {params : Parameters} {fragments : List Fragment}
    (hfirst : ∀ fragment ∈ fragments, params.Agree fragment.params)
    (hagree : ∀ left ∈ fragments, ∀ right ∈ fragments, left.params.Agree right.params) :
    ∃ merged, mergeParams params fragments = .ok merged ∧
      ∀ name value, merged.get? name = some value ↔ params.get? name = some value ∨
        ∃ fragment ∈ fragments, fragment.params.get? name = some value := by
  induction fragments generalizing params with
  | nil => exact ⟨params, rfl, by simp⟩
  | cons fragment rest ih =>
      obtain ⟨next, hmerge, hnext⟩ := Parameters.merge_of_agree
        (hfirst fragment List.mem_cons_self)
      have hmerged : params.merged fragment.params = .ok next := by
        rw [Parameters.merged, hmerge]
      have hrest : ∀ other ∈ rest, next.Agree other.params := by
        intro other hother name a b ha hb
        rcases (hnext name a).mp ha with ha | ha
        · exact hfirst other (List.mem_cons_of_mem _ hother) name a b ha hb
        · exact hagree fragment List.mem_cons_self other
            (List.mem_cons_of_mem _ hother) name a b ha hb
      obtain ⟨merged, hfinal, hbinds⟩ := ih hrest fun left hleft right hright =>
        hagree left (List.mem_cons_of_mem _ hleft) right (List.mem_cons_of_mem _ hright)
      refine ⟨merged, ?_, fun name value => ?_⟩
      · rw [mergeParams, hmerged]
        exact hfinal
      · simp only [hbinds, hnext, List.mem_cons, exists_eq_or_imp, or_assoc]

theorem params_of_agree {union : FragmentUnion}
    (hagree : ∀ left ∈ union.fragments, ∀ right ∈ union.fragments,
      left.params.Agree right.params) :
    ∃ params, union.params = .ok params ∧
      ∀ name value, params.get? name = some value ↔
        ∃ fragment ∈ union.fragments, fragment.params.get? name = some value := by
  have hempty : ∀ fragment ∈ union.fragments,
      Parameters.Agree OrderedMap.empty fragment.params :=
    fun fragment _ name a b ha _ => by simp at ha
  obtain ⟨params, hparams, hbinds⟩ := mergeParams_of_agree hempty hagree
  exact ⟨params, hparams, fun name value => by simp [hbinds]⟩

end FragmentUnion

end SegmentPaths
