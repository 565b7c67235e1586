/-
Maps with a linear order on their keys, kept as the list of their entries in
key order.  Two such maps are equal as soon as they answer every lookup alike,
and their order of entries never depends on the order of insertion.
-/
namespace SegmentPaths

universe u v

/-- Every key of the list is below every later key. -/
def KeysAscend {K : Type u} {V : Type v} [Ord K] (entries : List (K × V)) : Prop :=
  entries.Pairwise (fun left right => compare left.1 right.1 = .lt)

/-- A map from keys to values whose entries stand in key order. -/
structure OrderedMap (K : Type u) (V : Type v) [Ord K] where
  toList : List (K × V) := []
  ascending : KeysAscend toList := by exact List.Pairwise.nil

namespace OrderedMap

variable {K : Type u} {V : Type v} [Ord K]

/-- The entries of a list with one key set to a value. -/
def setEntry (key : K) (value : V) : List (K × V) → List (K × V)
  | [] => [(key, value)]
  | head :: tail =>
    match compare key head.1 with
    | .lt => (key, value) :: head :: tail
    | .eq => (key, value) :: tail
    | .gt => head :: setEntry key value tail

theorem key_of_mem_setEntry (key : K) (value : V) (entries : List (K × V))
    (entry : K × V) (hmem : entry ∈ setEntry key value entries) :
    entry = (key, value) ∨ entry ∈ entries := by
  induction entries with
  | nil => simpa [setEntry] using hmem
  | cons head tail ih =>
      unfold setEntry at hmem
      split at hmem
      · simpa using hmem
      · rcases List.mem_cons.mp hmem with h | h
        · exact Or.inl h
        · exact Or.inr (List.mem_cons_of_mem head h)
      · rcases List.mem_cons.mp hmem with h | h
        · exact Or.inr (h ▸ List.mem_cons_self)
        · exact (ih h).imp id (List.mem_cons_of_mem head)

theorem setEntry_ascending [Std.TransOrd K] [Std.LawfulEqOrd K]
    (key : K) (value : V) (entries : List (K × V)) (h : KeysAscend entries) :
    KeysAscend (setEntry key value entries) := by
  induction entries with
  | nil => exact List.pairwise_singleton _ _
  | cons head tail ih =>
      have hhead := (List.pairwise_cons.mp h).1
      have htail := (List.pairwise_cons.mp h).2
      unfold setEntry
      split
      · rename_i hlt
        refine List.pairwise_cons.mpr ⟨fun entry hentry => ?_, h⟩
        rcases List.mem_cons.mp hentry with hentry | hentry
        · simpa [hentry] using hlt
        · exact Std.TransCmp.lt_trans hlt (hhead entry hentry)
      · rename_i heq
        have hkey : key = head.1 := Std.LawfulEqCmp.compare_eq_iff_eq.mp heq
        exact List.pairwise_cons.mpr ⟨fun entry hentry => hkey ▸ hhead entry hentry, htail⟩
      · rename_i hgt
        refine List.pairwise_cons.mpr ⟨fun entry hentry => ?_, ih htail⟩
        rcases key_of_mem_setEntry key value tail entry hentry with hentry | hentry
        · simpa [hentry] using Std.OrientedCmp.gt_iff_lt.mp hgt
        · exact hhead entry hentry

/-- The map without entries. -/
def empty : OrderedMap K V := {}

instance : EmptyCollection (OrderedMap K V) := ⟨empty⟩

instance : Inhabited (OrderedMap K V) := ⟨empty⟩

/-- Sets a key to a value and leaves every other key alone. -/
def insert [Std.TransOrd K] [Std.LawfulEqOrd K]
    (map : OrderedMap K V) (key : K) (value : V) : OrderedMap K V :=
  ⟨setEntry key value map.toList, setEntry_ascending key value map.toList map.ascending⟩

/-- The value of a key among entries. -/
def findEntry (key : K) : List (K × V) → Option V
  | [] => none
  | head :: tail => if compare key head.1 = .eq then some head.2 else findEntry key tail

def get? (map : OrderedMap K V) (key : K) : Option V := findEntry key map.toList

def contains (map : OrderedMap K V) (key : K) : Bool := (map.get? key).isSome

def size (map : OrderedMap K V) : Nat := map.toList.length

def isEmpty (map : OrderedMap K V) : Bool := map.toList.isEmpty

def keys (map : OrderedMap K V) : List K := map.toList.map Prod.fst

def values (map : OrderedMap K V) : List V := map.toList.map Prod.snd

/-- Inserts the pairs one after the other, so that the last of several pairs
with one key stays. -/
def ofList [Std.TransOrd K] [Std.LawfulEqOrd K] (pairs : List (K × V)) : OrderedMap K V :=
  pairs.foldl (fun map pair => map.insert pair.1 pair.2) empty

theorem eq_of_toList_eq {left right : OrderedMap K V} (h : left.toList = right.toList) :
    left = right := by
  cases left
  cases right
  cases h
  rfl

instance [DecidableEq K] [DecidableEq V] : DecidableEq (OrderedMap K V) := fun left right =>
  decidable_of_iff (left.toList = right.toList)
    ⟨eq_of_toList_eq, fun h => congrArg toList h⟩

theorem findEntry_setEntry [Std.TransOrd K] [Std.LawfulEqOrd K]
    (key : K) (value : V) (entries : List (K × V)) (other : K) :
    findEntry other (setEntry key value entries) =
      if compare other key = .eq then some value else findEntry other entries := by
  induction entries with
  | nil => simp [setEntry, findEntry]
  | cons head tail ih =>
      unfold setEntry
      split
      · simp [findEntry]
      · rename_i heq
        have hkey : key = head.1 := Std.LawfulEqCmp.compare_eq_iff_eq.mp heq
        subst hkey
        by_cases hother : compare other head.1 = .eq <;> simp [findEntry, hother]
      · rename_i hgt
        by_cases hother : compare other head.1 = .eq
        · have hsame : other = head.1 := Std.LawfulEqCmp.compare_eq_iff_eq.mp hother
          have hne : compare other key ≠ .eq := by
            intro h
            rw [Std.LawfulEqCmp.compare_eq_iff_eq.mp h] at hother
            rw [hother] at hgt
            cases hgt
          simp [findEntry, hother, hne]
        · simp only [findEntry, hother, if_false, ih]

/-- A lookup after an insertion sees the new value under its key and the old
answer under every other key. -/
theorem get?_insert [Std.TransOrd K] [Std.LawfulEqOrd K]
    (map : OrderedMap K V) (key : K) (value : V) (other : K) :
    (map.insert key value).get? other =
      if compare other key = .eq then some value else map.get? other :=
  findEntry_setEntry key value map.toList other

@[simp]
theorem get?_empty (key : K) : (empty : OrderedMap K V).get? key = none := rfl

end OrderedMap

end SegmentPaths
