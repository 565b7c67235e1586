/-
Stored tables keep their keys.  A row is refused if another one has its key, so however
many rows are inserted, in a table of values that are no options no item has two values
of a field.
-/
import SegmentPaths.Proofs.Compilation
import SegmentPaths.Proofs.ReportRows
import SegmentPaths.Database.Run
import SegmentPaths.Database.Schema
import Mathlib.Data.List.Nodup

namespace SegmentPaths

namespace Relation

/-- The item and the field that a row holds a value of. -/
def valueKey (row : Row) : Datum × Datum := (row.value "custom_item_id", row.value "custom_field_id")

/-- No item has two rows for one field. -/
def OneEach (relation : Relation) : Prop := (relation.named.map valueKey).Nodup

end Relation

namespace StoredTable

/-- A table with rows of different keys, and otherwise like a blank one. -/
structure FilledFrom (blank table : StoredTable) : Prop where
  form : ∃ rows, table = { blank with rows := rows }
  keys : (table.rows.map table.keyOf).Nodup

/-- An inserted row comes last, and its key is new. -/
theorem insert_eq_ok {table next : StoredTable} {given : List Datum}
    (h : table.insert given = .ok next) :
    ∃ row, next = { table with rows := table.rows ++ [row] } ∧
      ∀ other ∈ table.rows, table.keyOf other ≠ table.keyOf row := by
  rw [insert] at h
  split at h
  · cases h
  · obtain ⟨row, -, h⟩ := bind_eq_ok h
    obtain ⟨_, -, h⟩ := bind_eq_ok h
    split at h
    · cases h
    · rename_i hrepeated
      refine ⟨row, (Except.ok.inj h).symm, ?_⟩
      intro other hother hsame
      exact hrepeated (List.any_eq_true.mpr ⟨other, hother, beq_iff_eq.mpr hsame⟩)

theorem FilledFrom.insert {blank table next : StoredTable} (hfilled : blank.FilledFrom table)
    {given : List Datum} (h : table.insert given = .ok next) : blank.FilledFrom next := by
  obtain ⟨row, rfl, hnew⟩ := insert_eq_ok h
  obtain ⟨⟨rows, rfl⟩, hkeys⟩ := hfilled
  refine ⟨⟨rows ++ [row], rfl⟩, ?_⟩
  change ((rows ++ [row]).map blank.keyOf).Nodup
  rw [List.map_append, List.map_singleton, List.nodup_append]
  refine ⟨hkeys, List.nodup_singleton _, ?_⟩
  intro key hkey other hother hsame
  obtain ⟨stored, hstored, rfl⟩ := List.mem_map.mp hkey
  exact hnew stored hstored (hsame.trans (List.mem_singleton.mp hother))

end StoredTable

namespace Store

/-- Tables that are filled from blank ones, in order. -/
abbrev FilledFrom (blank store : Store) : Prop := List.Forall₂ StoredTable.FilledFrom blank store

theorem FilledFrom.insert {blank store next : Store} (hfilled : blank.FilledFrom store)
    {name : String} {given : List Datum} (h : store.insert name given = .ok next) :
    blank.FilledFrom next := by
  induction hfilled generalizing next with
  | nil => cases h
  | @cons first table blanks rest hfirst hrest ih =>
      rw [Store.insert] at h
      split at h
      · obtain ⟨inserted, hinserted, rfl⟩ := exists_of_map_ok h
        exact .cons (hfirst.insert hinserted) hrest
      · obtain ⟨inserted, hinserted, rfl⟩ := exists_of_map_ok h
        exact .cons hfirst (ih hinserted)

theorem FilledFrom.insertAll {blank store next : Store} (hfilled : blank.FilledFrom store)
    {name : String} {rows : List (List Datum)} (h : store.insertAll name rows = .ok next) :
    blank.FilledFrom next := by
  induction rows generalizing store with
  | nil =>
      cases h
      exact hfilled
  | cons given rest ih =>
      obtain ⟨inserted, hinserted, hrest⟩ := bind_eq_ok h
      exact ih (hfilled.insert hinserted) hrest

/-- Whatever is inserted, tables are filled from what they were before. -/
theorem FilledFrom.insertInto {blank store next : Store} (hfilled : blank.FilledFrom store)
    {contents : Contents} (h : contents.insertInto store = .ok next) : blank.FilledFrom next := by
  have hrun : ∀ (tables : List (String × List (List Datum))) (store : Store),
      blank.FilledFrom store →
      tables.foldlM (fun store entry => store.insertAll entry.1 entry.2) store = .ok next →
      blank.FilledFrom next := by
    intro tables
    induction tables with
    | nil =>
        intro store hfilled h
        cases h
        exact hfilled
    | cons entry rest ih =>
        intro store hfilled h
        rw [List.foldlM_cons] at h
        obtain ⟨filled, hinserted, hrest⟩ := bind_eq_ok h
        exact ih filled (hfilled.insertAll hinserted) hrest
  exact hrun contents.tables store hfilled h

/-- A table is found under its name, filled. -/
theorem FilledFrom.table? {blank store : Store} (hfilled : blank.FilledFrom store) {name : String}
    {table : StoredTable} (h : blank.table? name = some table) :
    ∃ filled, store.table? name = some filled ∧ table.FilledFrom filled := by
  induction hfilled with
  | nil => cases h
  | @cons first filled blanks rest hfirst hrest ih =>
      have hname : filled.name = first.name := by
        obtain ⟨rows, rfl⟩ := hfirst.form
        rfl
      rw [Store.table?, List.find?_cons] at h ⊢
      rw [hname]
      cases hfound : first.name == name with
      | true =>
          rw [hfound] at h
          cases h
          exact ⟨filled, rfl, hfirst⟩
      | false =>
          rw [hfound] at h
          exact ih h

/-- Where the rows of an installation have been inserted, no item has two values of a field,
unless they are options. -/
theorem oneEach_of_insertInto {contents : Contents} {store : Store}
    (h : contents.insertInto (Schema.leads :: Schema.store) = .ok store) (params : Parameters)
    {kind : ValueKind} (hkind : kind ≠ .option) :
    ((store.database params).relation (Schema.tables.values kind)).OneEach := by
  have hblank : FilledFrom (Schema.leads :: Schema.store) (Schema.leads :: Schema.store) := by
    refine List.forall₂_same.mpr fun table htable => ?_
    have hempty : ∀ table ∈ Schema.leads :: Schema.store, table.rows = [] := by decide
    exact ⟨⟨table.rows, rfl⟩, by rw [hempty table htable]; exact List.nodup_nil⟩
  have htable : Store.table? (Schema.leads :: Schema.store) (Schema.tables.values kind) =
      some (Schema.values kind) := by
    cases kind <;> rfl
  obtain ⟨filled, hfound, ⟨rows, rfl⟩, hkeys⟩ := (hblank.insertInto h).table? htable
  have hrelation : (store.database params).relation (Schema.tables.values kind) =
      ⟨(Schema.values kind).columnNames, rows⟩ := by
    apply Database.relation_of_table?
    exact congrArg (Option.map fun table => Relation.mk table.columnNames table.rows) hfound
  have hkey : (Schema.values kind).key = ["custom_item_id", "custom_field_id"] := if_neg hkind
  have hkeyOf : (Schema.values kind).keyOf = fun row =>
      let key := Relation.valueKey ((Schema.values kind).columnNames.zip row)
      [key.1, key.2] := by
    funext row
    rw [StoredTable.keyOf, hkey]
    rfl
  change (rows.map (Schema.values kind).keyOf).Nodup at hkeys
  rw [hkeyOf] at hkeys
  rw [hrelation, Relation.OneEach, Relation.named, List.map_map]
  apply List.Nodup.of_map fun key : Datum × Datum => [key.1, key.2]
  rw [List.map_map]
  exact hkeys

end Store

end SegmentPaths
