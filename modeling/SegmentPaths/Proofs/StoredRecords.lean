/-
Records stored as JSON.  What is read of a record depends on its members only, those that
are left out standing for their standard values; so a record is read back from its stored
form, and whatever a record is read from, its stored form stands for the same record.
-/
import SegmentPaths.CustomObject.Basic
import SegmentPaths.CustomObject.Item
import SegmentPaths.Filter.Condition
import SegmentPaths.Segment.Filter
import SegmentPaths.Proofs.JsonValues

namespace SegmentPaths

section Lookups

variable {V : Type} {entries : List (String × V)}

theorem lookup_eq_none_of_notMem {name : String} (h : name ∉ entries.map Prod.fst) :
    entries.lookup name = none := by
  rw [List.lookup_eq_none_iff]
  intro entry hentry
  rw [bne_iff_ne]
  rintro rfl
  exact h (List.mem_map_of_mem hentry)

theorem lookup_eq_some_iff_mem (h : (entries.map Prod.fst).Nodup) (name : String) (value : V) :
    entries.lookup name = some value ↔ (name, value) ∈ entries := by
  induction entries with
  | nil => simp
  | cons entry rest ih =>
      obtain ⟨key, first⟩ := entry
      obtain ⟨hkey, hrest⟩ := List.nodup_cons.mp h
      by_cases hsame : name = key
      · subst hsame
        have hnot : (name, value) ∉ rest := fun hmem =>
          hkey (List.mem_map.mpr ⟨(name, value), hmem, rfl⟩)
        simp [hnot, eq_comm]
      · have hother : (name == key) = false := beq_false_of_ne hsame
        simp [List.lookup_cons, hother, hsame, ih hrest]

theorem lookup_eq_of_perm {others : List (String × V)} (h : (entries.map Prod.fst).Nodup)
    (hperm : others.Perm entries) (name : String) : others.lookup name = entries.lookup name := by
  have hothers : (others.map Prod.fst).Nodup := (hperm.map Prod.fst).nodup_iff.mpr h
  apply Option.ext
  intro value
  rw [lookup_eq_some_iff_mem h, lookup_eq_some_iff_mem hothers, hperm.mem_iff]

theorem lookup_filterMap (names : List String) (member? : String → Option V) (name : String) :
    (names.filterMap fun name => (member? name).map (name, ·)).lookup name =
      if name ∈ names then member? name else none := by
  induction names with
  | nil => rfl
  | cons first rest ih =>
      by_cases hsame : name = first
      · subst hsame
        cases hmember : member? name <;> simp [hmember, ih]
      · have hother : (name == first) = false := beq_false_of_ne hsame
        cases hmember : member? first <;> simp [hmember, List.lookup_cons, hother, hsame, ih]

theorem lookup_map {W : Type} (f : V → W) (entries : List (String × V)) (name : String) :
    (entries.map fun entry => (entry.1, f entry.2)).lookup name = (entries.lookup name).map f := by
  induction entries with
  | nil => rfl
  | cons entry rest ih =>
      rw [List.map_cons, List.lookup_cons, List.lookup_cons, ih]
      cases name == entry.1 <;> rfl

theorem map_fst_zip_sublist (names : List String) (values : List V) :
    ((names.zip values).map Prod.fst).Sublist names := by
  induction names generalizing values with
  | nil => simp
  | cons name rest ih =>
      cases values with
      | nil => simp
      | cons value others => exact (ih others).cons_cons name

end Lookups

namespace Document

/-- An object with these members. -/
def ofEntries (entries : Record) : Document :=
  .object (entries.map fun entry => (some entry.1, entry.2))

theorem ofJson_object (members : List (String × Json)) :
    ofJson (.object members) = ofEntries (members.map fun member => (member.1, ofJson member.2)) := by
  rw [ofJson, ofEntries, List.map_map]
  congr 1
  induction members with
  | nil => rfl
  | cons member rest ih =>
      rw [ofMembers, ih]
      rfl

/-- Under a name there is at most one member, if no name comes twice. -/
theorem under_ofEntries {entries : Record} (h : (entries.map Prod.fst).Nodup) (name : String) :
    under name (entries.map fun entry => (some entry.1, entry.2)) =
      (entries.lookup name).toList := by
  induction entries with
  | nil => rfl
  | cons entry rest ih =>
      obtain ⟨key, value⟩ := entry
      obtain ⟨hkey, hrest⟩ := List.nodup_cons.mp h
      have hunder := ih hrest
      by_cases hsame : name = key
      · subst hsame
        rw [lookup_eq_none_of_notMem hkey] at hunder
        simpa [under] using hunder
      · have hother : (name == key) = false := beq_false_of_ne hsame
        simpa [under, List.lookup_cons, hother, Ne.symm hsame] using hunder

theorem knownMembers?_ofEntries {entries : Record} (h : (entries.map Prod.fst).Nodup)
    (names : List String) :
    knownMembers? (entries.map fun entry => (some entry.1, entry.2)) names =
      some (names.filterMap fun name => (entries.lookup name).map (name, ·)) := by
  induction names with
  | nil => rfl
  | cons name rest ih =>
      rw [knownMembers?, ih, under_ofEntries h]
      cases hmember : entries.lookup name <;> simp [hmember]

/-- An object is read as the record of its members with known names. -/
theorem record?_ofEntries {entries : Record} (h : (entries.map Prod.fst).Nodup)
    (names : List String) : ∃ record, (ofEntries entries).record? .json names = some record ∧
      ∀ name ∈ names, record.lookup name = entries.lookup name := by
  have hspelled : namesSpelled (entries.map fun entry => (some entry.1, entry.2)) = true := by
    simp [namesSpelled]
  refine ⟨_, ?_, fun name hname => (lookup_filterMap _ _ name).trans (if_pos hname)⟩
  rw [ofEntries, record?, if_pos hspelled, knownMembers?_ofEntries h]

end Document

namespace Record

/-- A member of a record, or the standard one in its place if it is left out. -/
def filled (standard : List (String × Json)) (record : Record) (name : String) :
    Option Document :=
  (record.lookup name).or ((standard.lookup name).map Document.ofJson)

variable {A : Type} (record : Record) (standard : List (String × Json)) {name : String}
  {decode : Document → Option A}

theorem required?_eq (h : standard.lookup name = none) :
    record.required? name decode = (record.filled standard name).bind decode := by
  rw [required?, filled, h, Option.map_none, Option.or_none]

theorem default?_eq {value : Json} (h : standard.lookup name = some value) {missing : A}
    (hmissing : decode (.ofJson value) = some missing) :
    record.default? name missing decode = (record.filled standard name).bind decode := by
  rw [default?, filled, h]
  cases record.lookup name with
  | none => exact hmissing.symm
  | some document => rfl

end Record

/-- A kind of records that are stored as JSON: the names of their members, what stands for the
members that are left out, and how records are written and read, which depends on the members
with these names only. -/
structure RecordKind (A : Type) where
  memberNames : List String
  standard : List (String × Json)
  members : A → List (String × Json)
  ofMembers? : (String → Option Document) → Option A
  json : A → Json
  decode? : Document → Option A
  distinct : memberNames.Nodup
  named : ∀ value, (members value).map Prod.fst = memberNames
  written : ∀ value, json value = Json.ofMembers (members value)
  read : ∀ document, decode? document =
    (document.record? .json memberNames).bind fun record => ofMembers? (record.filled standard)
  ownMembers : ∀ left right, (∀ name ∈ memberNames, left name = right name) →
    ofMembers? left = ofMembers? right

/-- Whether a value is a record in normal form: an ordered object with just these members. -/
def Json.IsRecord (names : List String) (value : Json) : Prop :=
  value.Ordered ∧ ∃ members, value = .object members ∧ (members.map Prod.fst).Perm names

/-- Whether records with these members are stored faithfully, where some records are valid. -/
structure StoredFaithfully {A : Type} (names : List String) (standard : List (String × Json))
    (json : A → Json) (decode? : Document → Option A) (valid : A → Prop) : Prop where
  /-- A valid record is read back from what is stored of it. -/
  readBack : ∀ value, valid value → decode? (.ofJson (json value)) = some value
  /-- Whatever a record is read from, it is valid, and what is stored of it is in normal form
  and stands for the same record. -/
  normalForm : ∀ document value, decode? document = some value →
    valid value ∧ (json value).IsRecord names ∧ decode? (.ofJson (json value)) = some value
  /-- Objects are read alike if their members with known names are the same, those that are
  left out standing for their standard values. -/
  alike : ∀ left right : Record, (left.map Prod.fst).Nodup → (right.map Prod.fst).Nodup →
    (∀ name ∈ names, left.filled standard name = right.filled standard name) →
    decode? (.ofEntries left) = decode? (.ofEntries right)
  /-- A list of members is read as the object that gives them their names. -/
  listed : ∀ items : List Document, items.length ≤ names.length →
    decode? (.array items) = decode? (.ofEntries (names.zip items))

namespace RecordKind

variable {A : Type} (kind : RecordKind A)

theorem decode?_ofEntries {entries : Record} (h : (entries.map Prod.fst).Nodup) :
    kind.decode? (.ofEntries entries) = kind.ofMembers? (entries.filled kind.standard) := by
  obtain ⟨record, hrecord, hlookup⟩ := Document.record?_ofEntries h kind.memberNames
  rw [kind.read, hrecord, Option.bind_some]
  apply kind.ownMembers
  intro name hname
  rw [Record.filled, Record.filled, hlookup name hname]

/-- A list of members is read as the object that gives them their names. -/
theorem decode?_array {items : List Document} (h : items.length ≤ kind.memberNames.length) :
    kind.decode? (.array items) = kind.decode? (.ofEntries (kind.memberNames.zip items)) := by
  have hkeys : ((kind.memberNames.zip items).map Prod.fst).Nodup :=
    kind.distinct.sublist (map_fst_zip_sublist _ _)
  have hlength : ¬(Format.json = .json ∧ kind.memberNames.length < items.length) := by
    rintro ⟨_, hlong⟩
    omega
  rw [decode?_ofEntries kind hkeys, kind.read, Document.record?, if_neg hlength]
  rfl

/-- What is stored of a record is in normal form. -/
theorem isRecord_json {value : A} (h : ∀ member ∈ kind.members value, member.2.Ordered) :
    (kind.json value).IsRecord kind.memberNames := by
  have hkeys : ((kind.members value).map Prod.fst).Nodup := kind.named value ▸ kind.distinct
  rw [kind.written]
  refine ⟨Json.ordered_ofMembers h, _, rfl, ?_⟩
  rw [← kind.named value]
  exact (OrderedMap.toList_ofList_perm hkeys).map Prod.fst

/-- What is stored of a record is read as its members. -/
theorem decode?_json (value : A) :
    kind.decode? (.ofJson (kind.json value)) =
      kind.ofMembers? fun name => ((kind.members value).lookup name).map Document.ofJson := by
  have hkeys : ((kind.members value).map Prod.fst).Nodup := kind.named value ▸ kind.distinct
  have hperm := OrderedMap.toList_ofList_perm hkeys
  let stored := (OrderedMap.ofList (kind.members value)).toList
  have hstored : (stored.map Prod.fst).Nodup := (hperm.map Prod.fst).nodup_iff.mpr hkeys
  have hentries : ((stored.map fun member =>
      (member.1, Document.ofJson member.2)).map Prod.fst).Nodup := by
    rw [List.map_map]
    exact hstored
  rw [kind.written, Json.ofMembers, Document.ofJson_object, decode?_ofEntries kind hentries]
  apply kind.ownMembers
  intro name hname
  have hlookup : (stored.map fun member => (member.1, Document.ofJson member.2)).lookup name =
      ((kind.members value).lookup name).map Document.ofJson := by
    rw [lookup_map, lookup_eq_of_perm hkeys hperm]
  rw [← kind.named value] at hname
  obtain ⟨member, hmember, rfl⟩ := List.mem_map.mp hname
  have hgiven : (kind.members value).lookup member.1 = some member.2 :=
    (lookup_eq_some_iff_mem hkeys _ _).mpr hmember
  rw [Record.filled, hlookup, hgiven]
  rfl

/-- Records are stored faithfully if valid records are read back from their members, and no
others are ever read. -/
theorem faithful {valid : A → Prop}
    (hread : ∀ value, valid value →
      kind.ofMembers? (fun name => ((kind.members value).lookup name).map Document.ofJson) =
        some value)
    (hordered : ∀ value, valid value → ∀ member ∈ kind.members value, member.2.Ordered)
    (hvalid : ∀ document value, kind.decode? document = some value → valid value) :
    StoredFaithfully kind.memberNames kind.standard kind.json kind.decode? valid := by
  have hback : ∀ value, valid value → kind.decode? (.ofJson (kind.json value)) = some value :=
    fun value h => (kind.decode?_json value).trans (hread value h)
  refine ⟨hback, ?_, ?_, fun items => kind.decode?_array⟩
  · intro document value h
    have hvalue := hvalid document value h
    exact ⟨hvalue, kind.isRecord_json (hordered value hvalue), hback value hvalue⟩
  · intro left right hleft hright hsame
    rw [kind.decode?_ofEntries hleft, kind.decode?_ofEntries hright]
    exact kind.ownMembers _ _ hsame

end RecordKind

end SegmentPaths
