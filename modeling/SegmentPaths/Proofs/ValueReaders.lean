/-
The two readers of the value of a filter.  The one for stored conditions takes just what is
written for a value, and the one for segments takes booleans besides, for one and zero.  What
neither of them takes is told without the readers.
-/
import SegmentPaths.Proofs.FilterReaders
import SegmentPaths.Proofs.RoundTrips

namespace SegmentPaths

namespace Json

/-- A boolean as the number that it counts as; any other value as it is. -/
def counted : Json → Json
  | .bool value => .ofInt64 (if value then 1 else 0)
  | other => other

/-- A value with the booleans counted at its top, and right inside a list at its top. -/
def allCounted : Json → Json
  | .array items => .array (items.map counted)
  | other => other.counted

theorem counted_of_ne {json : Json} (h : ∀ value, json ≠ .bool value) : json.counted = json := by
  cases json with
  | bool value => exact absurd rfl (h value)
  | _ => rfl

/-- Whether no filter compares with a value: floats, integers beyond 64 bits, objects, and
lists that hold null, a list or one of these. -/
inductive Unfit : Json → Prop
  | float (value : Double) : Unfit (.number (.double value))
  | large {value : Int} (h : value < -9223372036854775808 ∨ 9223372036854775808 ≤ value) :
      Unfit (.number (.int value))
  | object (members : List (String × Json)) : Unfit (.object members)
  | holdsNull {items : List Json} (h : .null ∈ items) : Unfit (.array items)
  | holdsList {items inner : List Json} (h : .array inner ∈ items) : Unfit (.array items)
  | holds {items : List Json} {item : Json} (hmem : item ∈ items) (h : item.Unfit) :
      Unfit (.array items)

end Json

theorem Decimal.large_of_int64? {n : Int} (h : int64? n = none) :
    n < -9223372036854775808 ∨ 9223372036854775808 ≤ n := by
  rw [int64?, ite_eq_right_iff] at h
  have hout : ¬(-9223372036854775808 ≤ n ∧ n < 9223372036854775808) := fun hin => by cases h hin
  omega

namespace ParamValue

/-- Booleans are not written for values. -/
theorem counted_json (value : ParamValue) : value.json.counted = value.json := by
  cases value <;> rfl

theorem json_injective : Function.Injective json := by
  intro left right h
  have hleft := left.ofDocument?_json
  rw [h, right.ofDocument?_json] at hleft
  exact (Option.some.inj hleft).symm

/-- A value is read from nothing but what is written for it. -/
theorem ofDocument?_eq_some_iff (json : Json) (value : ParamValue) :
    ofDocument? (.ofJson json) = some value ↔ json = value.json := by
  constructor
  · intro h
    cases json with
    | text text =>
        cases h
        rfl
    | number number =>
        obtain ⟨n, hn, rfl⟩ := Option.map_eq_some_iff.mp h
        cases number with
        | int m =>
            rw [← (Decimal.int64?_eq_some_iff m n).mp hn]
            rfl
        | double => cases hn
    | null => cases h
    | bool => cases h
    | array => cases h
    | object => cases h
  · rintro rfl
    exact value.ofDocument?_json

theorem decodeAll?_eq_some_iff (items : List Json) (values : List ParamValue) :
    Document.decodeAll? ofDocument? (Document.ofItems items) = some values ↔
      items = values.map json := by
  constructor
  · intro h
    induction items generalizing values with
    | nil =>
        cases h
        rfl
    | cons item rest ih =>
        obtain ⟨value, hvalue, h⟩ := Option.bind_eq_some_iff.mp h
        obtain ⟨others, hothers, h⟩ := Option.bind_eq_some_iff.mp h
        cases h
        rw [List.map_cons, ← (ofDocument?_eq_some_iff item value).mp hvalue, ← ih others hothers]
  · rintro rfl
    exact Document.list?_ofJson ofDocument?_json values

end ParamValue

namespace FilterValue

/-- A value of a condition is read from nothing but what is written for it. -/
theorem ofDocument?_eq_some_iff (json : Json) (value : FilterValue) :
    ofDocument? (.ofJson json) = some value ↔ json = value.json := by
  constructor
  · intro h
    cases json with
    | null =>
        cases h
        rfl
    | array items =>
        obtain ⟨values, hvalues, rfl⟩ := Option.map_eq_some_iff.mp h
        rw [(ParamValue.decodeAll?_eq_some_iff items values).mp hvalues]
        rfl
    | text text =>
        cases h
        rfl
    | number number =>
        obtain ⟨single, hsingle, rfl⟩ := Option.map_eq_some_iff.mp h
        exact (ParamValue.ofDocument?_eq_some_iff (.number number) single).mp hsingle
    | bool => cases h
    | object => cases h
  · rintro rfl
    exact value.ofDocument?_json

theorem scalar_json (value : ParamValue) : Scalar value.json value := by
  cases value with
  | int n => exact .int n
  | text text => exact .text text

/-- A scalar of a segment stands for what it is written for once it is counted. -/
theorem scalar_iff_counted (json : Json) (value : ParamValue) :
    Scalar json value ↔ json.counted = value.json := by
  constructor
  · rintro (text | bit | n) <;> rfl
  · intro h
    -- Only a boolean is counted as something else, and one value is written like that.
    by_cases hbool : ∃ bit, json = .bool bit
    · obtain ⟨bit, rfl⟩ := hbool
      obtain rfl : ParamValue.int (if bit then 1 else 0) = value := ParamValue.json_injective h
      exact .bool bit
    · rw [Json.counted_of_ne (not_exists.mp hbool)] at h
      exact h ▸ scalar_json value

theorem allCounted_json (value : FilterValue) : value.json.allCounted = value.json := by
  cases value with
  | none => rfl
  | single value => cases value <;> rfl
  | list values =>
      have hvalues :
          (values.map ParamValue.json).map Json.counted = values.map ParamValue.json := by
        rw [List.map_map]
        exact List.map_congr_left fun value _ => value.counted_json
      exact congrArg Json.array hvalues

/-- The value of a filter in a segment stands for what it is written for once its booleans are
counted. -/
theorem given_iff_counted (json : Json) (value : FilterValue) :
    Given json value ↔ json.allCounted = value.json := by
  constructor
  · rintro (_ | hsingle | hlist)
    · rfl
    · rename_i single
      rw [scalar_iff_counted] at hsingle
      cases json with
      | array => cases single <;> cases hsingle
      | _ => exact hsingle
    · rename_i items values
      have hitems : items.map Json.counted = values.map ParamValue.json := by
        rw [← List.forall₂_eq_eq_eq, List.forall₂_map_left_iff, List.forall₂_map_right_iff]
        exact hlist.imp fun item value => (scalar_iff_counted item value).mp
      exact congrArg Json.array hitems
  · intro h
    cases json with
    | null =>
        cases value with
        | none => exact .none
        | single single => cases single <;> cases h
        | list => cases h
    | array items =>
        cases value with
        | none => cases h
        | single single => cases single <;> cases h
        | list values =>
            have hitems : items.map Json.counted = values.map ParamValue.json := Json.array.inj h
            rw [← List.forall₂_eq_eq_eq, List.forall₂_map_left_iff,
              List.forall₂_map_right_iff] at hitems
            exact .list (hitems.imp fun item value => (scalar_iff_counted item value).mpr)
    | bool | number | text | object =>
        cases value with
        | none => cases h
        | single single => exact .single ((scalar_iff_counted _ single).mpr h)
        | list => cases h

/-- A value of a list that is no scalar is null, a list or fit for no filter. -/
theorem unfit_of_not_scalar {json : Json} (h : ∀ value, ¬Scalar json value) :
    json = .null ∨ (∃ items, json = .array items) ∨ json.Unfit := by
  cases json with
  | null => exact Or.inl rfl
  | array items => exact Or.inr (Or.inl ⟨items, rfl⟩)
  | object members => exact Or.inr (Or.inr (.object members))
  | bool value => exact absurd (.bool value) (h _)
  | text value => exact absurd (.text value) (h _)
  | number number =>
      refine Or.inr (Or.inr ?_)
      cases number with
      | double value => exact .float value
      | int n =>
          cases hn : Decimal.int64? n with
          | none => exact .large (Decimal.large_of_int64? hn)
          | some value =>
              rw [← (Decimal.int64?_eq_some_iff n value).mp hn] at h
              exact absurd (.int value) (h _)

/-- What is wrong with a value makes it unfit. -/
theorem Unreadable.unfit {json : Json} {problem : FilterProblem} (h : Unreadable json problem) :
    json.Unfit := by
  rcases h with ⟨hnull, hlist, hscalar⟩ | @⟨front, back, item, _, hitem⟩
  · rcases unfit_of_not_scalar hscalar with rfl | ⟨items, rfl⟩ | hunfit
    · exact absurd rfl hnull
    · exact absurd rfl (hlist items)
    · exact hunfit
  · have hmem : item ∈ front ++ item :: back := by simp
    rcases unfit_of_not_scalar hitem with rfl | ⟨items, rfl⟩ | hunfit
    · exact .holdsNull hmem
    · exact .holdsList hmem
    · exact .holds hmem hunfit

/-- Unfit values stand for nothing. -/
theorem not_given_of_unfit {json : Json} (h : json.Unfit) (value : FilterValue) :
    ¬Given json value := by
  have hitems : ∀ {items : List Json} {value : FilterValue}, Given (.array items) value →
      ∀ item ∈ items, ∃ single, Scalar item single := by
    rintro items value (_ | hsingle | hlist) item hitem
    · cases hsingle
    · exact exists_of_forall₂ hlist.flip hitem
  induction h generalizing value with
  | float double =>
      rintro (_ | ⟨⟨⟩⟩)
  | large hout =>
      rintro (_ | hscalar)
      rcases hscalar with _ | _ | n
      have hlow := Int64.le_toInt n
      have hhigh := Int64.toInt_lt n
      omega
  | object members =>
      rintro (_ | ⟨⟨⟩⟩)
  | holdsNull hmem =>
      intro hgiven
      obtain ⟨_, ⟨⟩⟩ := hitems hgiven _ hmem
  | holdsList hmem =>
      intro hgiven
      obtain ⟨_, ⟨⟩⟩ := hitems hgiven _ hmem
  | holds hmem _ ih =>
      intro hgiven
      obtain ⟨single, hsingle⟩ := hitems hgiven _ hmem
      exact ih _ (.single hsingle)

/-- Values are unfit or stand for something. -/
theorem unfit_iff (json : Json) : json.Unfit ↔ ∀ value, ¬Given json value := by
  constructor
  · exact not_given_of_unfit
  · intro h
    obtain ⟨_, hproblem, _⟩ := ofJson_of_not h
    exact hproblem.unfit

theorem exists_error_iff (json : Json) : (∃ error, ofJson json = .error error) ↔ json.Unfit := by
  rw [unfit_iff]
  constructor
  · rintro ⟨error, herror⟩ value hgiven
    rw [(ofJson_eq_ok_iff json value).mpr hgiven] at herror
    cases herror
  · intro h
    obtain ⟨_, _, herror⟩ := ofJson_of_not h
    exact ⟨_, herror⟩

theorem ofDocument?_eq_none_iff (json : Json) :
    ofDocument? (.ofJson json) = Option.none ↔ json.Unfit ∨ json.allCounted ≠ json := by
  rw [Option.eq_none_iff_forall_ne_some]
  constructor
  · intro h
    by_cases hcounted : json.allCounted = json
    · left
      rw [unfit_iff]
      intro value hgiven
      rw [given_iff_counted, hcounted] at hgiven
      exact h value ((ofDocument?_eq_some_iff json value).mpr hgiven)
    · exact Or.inr hcounted
  · rintro h value hvalue
    obtain rfl := (ofDocument?_eq_some_iff json value).mp hvalue
    have hcounted := value.allCounted_json
    rcases h with hunfit | hbool
    · exact not_given_of_unfit hunfit value ((given_iff_counted _ value).mpr hcounted)
    · exact hbool hcounted

/-- The reader for segments takes of a value what is written for a value of a filter once the
booleans are counted. -/
theorem ofJson_iff_counted (json : Json) (value : FilterValue) :
    ofJson json = .ok value ↔ json.allCounted = value.json :=
  (ofJson_eq_ok_iff json value).trans (given_iff_counted json value)

theorem ofDocument?_iff_ofJson (json : Json) (value : FilterValue) :
    ofDocument? (.ofJson json) = some value ↔ ofJson json = .ok value ∧ json.allCounted = json := by
  rw [ofDocument?_eq_some_iff, ofJson_iff_counted]
  constructor
  · rintro rfl
    exact ⟨value.allCounted_json, value.allCounted_json⟩
  · rintro ⟨hvalue, hcounted⟩
    exact hcounted.symm.trans hvalue

/-- The two readers agree but for booleans.  The one for segments reads of a value what the one
for conditions reads of it with the booleans counted.  The one for conditions reads just what is
written for a value, which is null, a text, a 64-bit integer or a list of the last two, and reads
it as the one for segments does, as long as there is no boolean to count.  The one for segments
refuses just the unfit values, and the one for conditions these and the ones with booleans. -/
theorem readers_agree (json : Json) :
    (∀ value, ofJson json = .ok value ↔ ofDocument? (.ofJson json.allCounted) = some value) ∧
    (∀ value, ofDocument? (.ofJson json) = some value ↔ json = value.json) ∧
    (∀ value, ofDocument? (.ofJson json) = some value ↔
      ofJson json = .ok value ∧ json.allCounted = json) ∧
    ((∃ error, ofJson json = .error error) ↔ json.Unfit) ∧
    (ofDocument? (.ofJson json) = Option.none ↔ json.Unfit ∨ json.allCounted ≠ json) :=
  ⟨fun value => (ofJson_iff_counted json value).trans (ofDocument?_eq_some_iff _ value).symm,
    ofDocument?_eq_some_iff json, ofDocument?_iff_ofJson json, exists_error_iff json,
    ofDocument?_eq_none_iff json⟩

-- A boolean in a list is one for segments only, and a whole float is no integer for either.
example : ofJson (.array [.bool true]) = .ok (.list [.int 1]) ∧
    ofDocument? (.ofJson (.array [.bool true])) = Option.none ∧
    ofDocument? (.ofJson (.number (.double Double.zero))) = Option.none :=
  ⟨rfl, rfl, rfl⟩

end FilterValue

end SegmentPaths
