/-
The rows of a fragment: from the source rows that meet its condition, over links,
to contacts.  The joins are followed one hop at a time, and what a scope shows
of a row depends only on its alias, so the outer scope has no say in it.
-/
import SegmentPaths.Proofs.Installation
import SegmentPaths.Proofs.Names

namespace SegmentPaths

namespace PathSource

/-- The tag of the alias of the source. -/
def aliasTag : PathSource → Tag
  | .fieldValue .. => ⟨.value, none⟩
  | .objectItem _ => ⟨.item, none⟩

/-- The tag of the placeholder for the id of the field or object. -/
def idTag : PathSource → Tag
  | .fieldValue .. => ⟨.fieldId, none⟩
  | .objectItem _ => ⟨.objectId, none⟩

/-- The word that placeholders of compared values are made with. -/
def comparedWord : PathSource → TagWord
  | .fieldValue .. => .value
  | .objectItem _ => .name

theorem seedName_aliasSuffix (source : PathSource) (seed : String) :
    seedName seed source.aliasSuffix = source.aliasTag.under seed := by
  cases source <;> rfl

theorem seedName_idColumn (source : PathSource) (seed : String) :
    seedName seed source.idColumn = source.idTag.under seed := by
  cases source <;> rfl

theorem seedName_comparedColumn (source : PathSource) (seed : String) :
    seedName seed source.comparedColumn = Tag.under seed ⟨source.comparedWord, none⟩ := by
  cases source <;> rfl

end PathSource

namespace Fragment

theorem linkAlias_eq_under (seed : String) (index : Nat) :
    linkAlias seed index = Tag.under seed ⟨.link, some index⟩ := by
  have hword : "item_xref_" = TagWord.link.text ++ "_" := by decide
  rw [linkAlias, Tag.under, Tag.text, hword]

theorem linkAlias_inj {seed : String} {m n : Nat} (h : linkAlias seed m = linkAlias seed n) :
    m = n := by
  rw [linkAlias_eq_under, linkAlias_eq_under] at h
  exact Option.some.inj (Tag.mk.inj (Tag.under_inj h).2).2

theorem linkAlias_ne_sourceAlias (seed : String) (index : Nat) (source : PathSource) :
    linkAlias seed index ≠ seedName seed source.aliasSuffix := by
  rw [linkAlias_eq_under, source.seedName_aliasSuffix]
  intro h
  have htag := (Tag.under_inj h).2
  cases source <;> cases htag

theorem contactAliasOf_eq_under (seed : String) :
    contactAliasOf seed = Tag.under seed ⟨.contact, none⟩ := rfl

theorem contactAliasOf_ne_linkAlias (seed : String) (index : Nat) :
    contactAliasOf seed ≠ linkAlias seed index := by
  rw [linkAlias_eq_under, contactAliasOf_eq_under]
  intro h
  cases (Tag.under_inj h).2

theorem contactAliasOf_ne_sourceAlias (seed : String) (source : PathSource) :
    contactAliasOf seed ≠ seedName seed source.aliasSuffix := by
  rw [source.seedName_aliasSuffix, contactAliasOf_eq_under]
  intro h
  have htag := (Tag.under_inj h).2
  cases source <;> cases htag

end Fragment

namespace Installation

/-- The ways over links along a path from an item: the linked rows under their
aliases, and the item they end at. -/
def trails (links : List LinkRow) (seed : String) :
    Nat → RelationshipPath → Datum → List (Scope × Datum)
  | _, [], item => [([], item)]
  | index, direction :: rest, item =>
    (links.filter fun link => link.near direction = item ∧ item ≠ .null).flatMap fun link =>
      (trails links seed (index + 1) rest (link.far direction)).map fun trail =>
        ((Fragment.linkAlias seed index, link.named) :: trail.1, trail.2)

/-- The items that links along a path lead to, each as often as it is reached. -/
def ends (links : List LinkRow) : RelationshipPath → Datum → List Datum
  | [], item => [item]
  | direction :: rest, item =>
    (links.filter fun link => link.near direction = item ∧ item ≠ .null).flatMap fun link =>
      ends links rest (link.far direction)

/-- The rows that link an item to contacts. -/
def contactsOf (installation : Installation) (item : Datum) : List ContactRow :=
  installation.contacts.filter fun row => item = row.item ∧ row.item ≠ .null

/-- The contacts at the end of a path from accepted source rows, each as often as
it is reached. -/
def reached (installation : Installation) (source : PathSource) (accepts : SourceRow → Bool)
    (path : RelationshipPath) : List ContactRow :=
  ((installation.sourceRows source).filter accepts).flatMap fun row =>
    (ends installation.links path row.item).flatMap installation.contactsOf

theorem mem_of_mem_reached {installation : Installation} {source : PathSource}
    {accepts : SourceRow → Bool} {path : RelationshipPath} {contact : ContactRow}
    (h : contact ∈ installation.reached source accepts path) :
    contact ∈ installation.contacts := by
  obtain ⟨row, _, hends⟩ := List.mem_flatMap.mp h
  obtain ⟨item, _, hcontact⟩ := List.mem_flatMap.mp hends
  exact (List.mem_filter.mp hcontact).1

theorem map_snd_trails (links : List LinkRow) (seed : String) (index : Nat)
    (path : RelationshipPath) (item : Datum) :
    (trails links seed index path item).map Prod.snd = ends links path item := by
  induction path generalizing index item with
  | nil => rfl
  | cons direction rest ih =>
      simp only [trails, ends, List.map_flatMap, List.map_map]
      exact congrArg List.flatten (List.map_congr_left fun link _ => ih (index + 1) _)

/-- Only aliases of links, counted from the first one, are added on the way. -/
theorem entry_of_mem_trails {links : List LinkRow} {seed : String} {index : Nat}
    {path : RelationshipPath} {item : Datum} {trail : Scope × Datum}
    (htrail : trail ∈ trails links seed index path item) :
    ∀ entry ∈ trail.1, ∃ n link, entry = (Fragment.linkAlias seed n, LinkRow.named link) := by
  induction path generalizing index item trail with
  | nil =>
      rw [List.mem_singleton.mp htrail]
      exact fun entry hentry => absurd hentry List.not_mem_nil
  | cons direction rest ih =>
      simp only [trails, List.mem_flatMap, List.mem_map] at htrail
      obtain ⟨link, _, tail, htail, rfl⟩ := htrail
      intro entry hentry
      rcases List.mem_cons.mp hentry with hentry | hentry
      · exact ⟨index, link, hentry⟩
      · exact ih htail entry hentry

end Installation

namespace Fragment

open Installation

variable {database : Database} {linkTable : String} {links : List LinkRow}

/-- The hop over one link adds the links that have the item at their near end. -/
theorem extend_link (hlinks : (database.relation linkTable).named = links.map LinkRow.named)
    (aliasName : String) (direction : Direction) {previous : Expr} {scope outer : Scope}
    {item : Datum} (hprevious : ∀ more, previous.value database (scope ++ more) = item)
    (hfresh : scope.lookup aliasName = none) :
    (Join.on .inner (.table linkTable (some aliasName))
        (.binary .equal (.tableColumn aliasName direction.fromColumn) previous)).extend
      database outer [scope] =
      (links.filter fun link => link.near direction = item ∧ item ≠ .null).map fun link =>
        scope ++ [(aliasName, link.named)] := by
  have hcondition : ∀ link : LinkRow,
      (Expr.binary .equal (.tableColumn aliasName direction.fromColumn) previous).holdsIn
          database (scope ++ [(aliasName, link.named)] ++ outer) =
        decide (link.near direction = item ∧ item ≠ .null) := by
    intro link
    have hnear : (Expr.tableColumn aliasName direction.fromColumn).value database
        (scope ++ [(aliasName, link.named)] ++ outer) = link.near direction :=
      Expr.value_tableColumn (Scope.lookup_added link.named outer hfresh)
        (link.lookup_fromColumn direction)
    have hitem := hprevious ([(aliasName, link.named)] ++ outer)
    rw [← List.append_assoc] at hitem
    rw [Expr.holdsIn_equal, hnear, hitem]
  rw [Join.extend_inner, hlinks, List.filter_map, List.map_map]
  simp only [Function.comp_def, hcondition]

/-- The joins of a path extend a scope by the trails from an item, and leave the
column they end at with the item at the end of the trail. -/
theorem scopes_linkJoins
    (hlinks : (database.relation linkTable).named = links.map LinkRow.named)
    (seed : String) (outer : Scope) (path : RelationshipPath) (index : Nat) {previous : Expr}
    {scope : Scope} {item : Datum}
    (hprevious : ∀ more, previous.value database (scope ++ more) = item)
    (hfresh : ∀ n, index ≤ n → scope.lookup (linkAlias seed n) = none) :
    Join.scopes database (linkJoins linkTable seed index path previous).1 outer [scope] =
        (trails links seed index path item).map (fun trail => scope ++ trail.1) ∧
      ∀ trail ∈ trails links seed index path item, ∀ more,
        (linkJoins linkTable seed index path previous).2.value database
          (scope ++ trail.1 ++ more) = trail.2 := by
  induction path generalizing index previous scope item with
  | nil =>
      simp only [linkJoins, Join.scopes, trails, List.map_cons, List.map_nil, List.append_nil,
        List.mem_singleton, true_and]
      rintro trail rfl more
      rw [List.append_nil]
      exact hprevious more
  | cons direction rest ih =>
      have hstep : ∀ link : LinkRow,
          let next := scope ++ [(linkAlias seed index, link.named)]
          (∀ more, (Expr.tableColumn (linkAlias seed index) direction.toColumn).value database
              (next ++ more) = link.far direction) ∧
            ∀ n, index + 1 ≤ n → next.lookup (linkAlias seed n) = none := by
        intro link
        refine ⟨fun more => ?_, fun n hn => ?_⟩
        · exact Expr.value_tableColumn
            (Scope.lookup_added link.named more (hfresh index (Nat.le_refl index)))
            (link.lookup_toColumn direction)
        · have hother : linkAlias seed n ≠ linkAlias seed index := by
            intro h
            have hsame := linkAlias_inj h
            omega
          rw [List.lookup_append, hfresh n (Nat.le_of_succ_le hn), Option.none_or]
          exact Scope.lookup_eq_none fun entry hentry => by
            rw [List.mem_singleton.mp hentry]
            exact hother
      constructor
      · simp only [linkJoins, Join.scopes, trails, List.map_flatMap, List.map_map]
        rw [extend_link hlinks (linkAlias seed index) direction hprevious
          (hfresh index (Nat.le_refl index)), List.map_eq_flatMap, Join.scopes_flatMap]
        refine congrArg List.flatten (List.map_congr_left fun link _ => ?_)
        rw [(ih (index + 1) (hstep link).1 (hstep link).2).1]
        simp only [Function.comp_def, List.append_assoc, List.singleton_append]
      · intro trail htrail more
        simp only [trails, List.mem_flatMap, List.mem_map] at htrail
        obtain ⟨link, _, tail, htail, rfl⟩ := htrail
        have hend := (ih (index + 1) (hstep link).1 (hstep link).2).2 tail htail more
        simp only [List.append_assoc, List.singleton_append] at hend
        simpa only [linkJoins, List.append_assoc, List.cons_append] using hend

/-- The scope of a source row, the links behind it and a contact row. -/
def routeScope (source : PathSource) (seed : String) (row : SourceRow) (trail : Scope × Datum)
    (contact : ContactRow) : Scope :=
  (seedName seed source.aliasSuffix, row.named source) :: trail.1 ++
    [(contactAliasOf seed, contact.named)]

/-- The table that a fragment starts in. -/
def routeStart (tables : TableNames) (source : PathSource) (seed : String) : Source :=
  .table (source.table tables) (some (seedName seed source.aliasSuffix))

/-- The joins of a fragment: those over links, and the one with contacts. -/
def routeJoins (tables : TableNames) (path : RelationshipPath) (source : PathSource)
    (seed : String) : List Join :=
  let hops := linkJoins tables.itemItem seed 1 path
    (.tableColumn (seedName seed source.aliasSuffix) source.itemColumn)
  hops.1 ++ [.on .inner (.table tables.itemContact (some (contactAliasOf seed)))
    (.binary .equal hops.2 (.tableColumn (contactAliasOf seed) "custom_item_id"))]

variable {installation : Installation} {metadata : Metadata} {source : PathSource}

theorem lookup_contactAlias_trail {seed : String} {index : Nat} {path : RelationshipPath}
    {item : Datum} {trail : Scope × Datum} (htrail : trail ∈ trails links seed index path item)
    (row : Row) :
    ((seedName seed source.aliasSuffix, row) :: trail.1).lookup (contactAliasOf seed) = none := by
  refine Scope.lookup_eq_none fun entry hentry => ?_
  rcases List.mem_cons.mp hentry with rfl | hentry
  · exact contactAliasOf_ne_sourceAlias seed source
  · obtain ⟨n, link, rfl⟩ := entry_of_mem_trails htrail entry hentry
    exact contactAliasOf_ne_linkAlias seed n

/-- Only the contact row of a route has a column for the contact. -/
theorem anyColumn_routeScope {seed : String} {index : Nat} {path : RelationshipPath}
    {item : Datum} {trail : Scope × Datum} (htrail : trail ∈ trails links seed index path item)
    (row : SourceRow) (contact : ContactRow) (outer : Scope) :
    (routeScope source seed row trail contact ++ outer).anyColumn "contact_id" =
      contact.contact := by
  have hnone : trail.1.findSome? (fun entry => entry.2.lookup "contact_id") = none := by
    refine List.findSome?_eq_none_iff.mpr fun entry hentry => ?_
    obtain ⟨n, link, rfl⟩ := entry_of_mem_trails htrail entry hentry
    exact link.lookup_contact
  simp only [Scope.anyColumn, routeScope, List.cons_append, List.findSome?_cons,
    SourceRow.lookup_contact, List.append_assoc, List.findSome?_append, hnone, Option.none_or,
    ContactRow.lookup_contact, Option.getD_some]

/-- The last join adds the contacts of the item that the links end at. -/
theorem extend_contact (hstored : installation.StoredIn metadata database) (seed : String)
    {last : Expr} {scope outer : Scope} {item : Datum}
    (hlast : ∀ more, last.value database (scope ++ more) = item)
    (hfresh : scope.lookup (contactAliasOf seed) = none) :
    (Join.on .inner (.table metadata.tables.itemContact (some (contactAliasOf seed)))
        (.binary .equal last (.tableColumn (contactAliasOf seed) "custom_item_id"))).extend
      database outer [scope] =
      (installation.contactsOf item).map fun contact =>
        scope ++ [(contactAliasOf seed, contact.named)] := by
  have hcondition : ∀ contact : ContactRow,
      (Expr.binary .equal last (.tableColumn (contactAliasOf seed) "custom_item_id")).holdsIn
          database (scope ++ [(contactAliasOf seed, contact.named)] ++ outer) =
        decide (item = contact.item ∧ contact.item ≠ .null) := by
    intro contact
    have hitem := hlast ([(contactAliasOf seed, contact.named)] ++ outer)
    have hcontact : (Expr.tableColumn (contactAliasOf seed) "custom_item_id").value database
        (scope ++ [(contactAliasOf seed, contact.named)] ++ outer) = contact.item :=
      Expr.value_tableColumn (Scope.lookup_added contact.named outer hfresh) contact.lookup_item
    rw [← List.append_assoc] at hitem
    rw [Expr.holdsIn_equal, hitem, hcontact]
  rw [Join.extend_inner, hstored.named_contacts, List.filter_map, List.map_map]
  simp only [Function.comp_def, hcondition]
  rfl

/-- The joins of a fragment follow every trail from every source row to every
contact of the item it ends at. -/
theorem joined_route (hstored : installation.StoredIn metadata database)
    (hknown : source.KnownTo metadata) (path : RelationshipPath) (seed : String)
    (outer : Scope) :
    Query.joined database (some (routeStart metadata.tables source seed))
        (routeJoins metadata.tables path source seed) outer =
      (installation.sourceRows source).flatMap fun row =>
        (trails installation.links seed 1 path row.item).flatMap fun trail =>
          (installation.contactsOf trail.2).map (routeScope source seed row trail) := by
  simp only [Query.joined, routeStart, routeJoins, Source.rows, Source.name, Option.getD_some,
    hstored.named_source hknown, List.map_map, Join.scopes_append]
  rw [List.map_eq_flatMap, Join.scopes_flatMap, Join.scopes_flatMap]
  refine congrArg List.flatten (List.map_congr_left fun row _ => ?_)
  have hitem : ∀ more, (Expr.tableColumn (seedName seed source.aliasSuffix)
      source.itemColumn).value database
        ([(seedName seed source.aliasSuffix, row.named source)] ++ more) = row.item :=
    fun more => Expr.value_tableColumn List.lookup_cons_self (row.lookup_itemColumn source)
  have hfresh : ∀ n, 1 ≤ n → List.lookup (linkAlias seed n)
      [(seedName seed source.aliasSuffix, row.named source)] = none :=
    fun n _ => Scope.lookup_eq_none fun entry hentry => by
      rw [List.mem_singleton.mp hentry]
      exact linkAlias_ne_sourceAlias seed n source
  obtain ⟨hscopes, hend⟩ := scopes_linkJoins hstored.named_links seed outer path 1 hitem hfresh
  simp only [Function.comp_apply]
  rw [hscopes, List.map_eq_flatMap, Join.scopes_flatMap]
  refine congrArg List.flatten (List.map_congr_left fun trail htrail => ?_)
  simp only [Join.scopes]
  exact extend_contact hstored seed (hend trail htrail) (lookup_contactAlias_trail htrail _)

/-- A condition that depends on the source row and the contact row only, in the
scope of a route. -/
theorem meets_routeScope {seed : String} {condition : Expr} {accepts : SourceRow → Bool}
    {allows : ContactRow → Bool}
    (hcondition : ∀ (scope : Scope) (row : SourceRow) (contact : ContactRow),
      scope.lookup (seedName seed source.aliasSuffix) = some (row.named source) →
      scope.lookup (contactAliasOf seed) = some contact.named →
      condition.holdsIn database scope = (accepts row && allows contact))
    {index : Nat} {path : RelationshipPath} {item : Datum} {trail : Scope × Datum}
    (htrail : trail ∈ trails links seed index path item) (row : SourceRow)
    (contact : ContactRow) (outer : Scope) :
    Query.meets database (some condition) (routeScope source seed row trail contact ++ outer) =
      (accepts row && allows contact) :=
  hcondition _ row contact List.lookup_cons_self
    (Scope.lookup_added contact.named outer (lookup_contactAlias_trail htrail _))

/-- The rows of a fragment whose condition depends on its source row and its
contact row only. -/
theorem rows_route (hstored : installation.StoredIn metadata database)
    (hknown : source.KnownTo metadata) (path : RelationshipPath) (seed : String)
    {condition : Expr} {accepts : SourceRow → Bool} {allows : ContactRow → Bool}
    (hcondition : ∀ (scope : Scope) (row : SourceRow) (contact : ContactRow),
      scope.lookup (seedName seed source.aliasSuffix) = some (row.named source) →
      scope.lookup (contactAliasOf seed) = some contact.named →
      condition.holdsIn database scope = (accepts row && allows contact))
    (outer : Scope) :
    (Query.select [.column none "contact_id"] (some (routeStart metadata.tables source seed))
        (routeJoins metadata.tables path source seed) (some condition)).rows database outer =
      ((installation.reached source accepts path).filter allows).map
        fun contact => [contact.contact] := by
  rw [Query.rows_select, joined_route hstored hknown]
  simp only [List.filter_flatMap, List.map_flatMap, reached]
  refine flatMap_eq_flatMap_filter (fun row hrow => ?_) (fun row hrow => ?_)
  · rw [← map_snd_trails installation.links seed 1 path row.item, List.flatMap_map]
    refine congrArg List.flatten (List.map_congr_left fun trail htrail => ?_)
    have hmeets := meets_routeScope hcondition htrail row
    simp only [List.filter_map, List.map_map, Function.comp_def, hmeets, hrow, Bool.true_and,
      Expr.values, Expr.value, anyColumn_routeScope htrail]
  · refine List.flatMap_eq_nil_iff.mpr fun trail htrail => ?_
    have hmeets := meets_routeScope hcondition htrail row
    simp only [List.filter_map, Function.comp_def, hmeets, hrow, Bool.false_and]
    simp

end Fragment

end SegmentPaths
