/-
How often a union returns a contact: once for every way from a source row that
meets the condition of the filter, over a walk of links, to a contact row.
-/
import Mathlib.Data.Set.Card
import SegmentPaths.Proofs.Compilation
import SegmentPaths.Proofs.Walks

namespace SegmentPaths

/-- A way from a source row over links to a contact row, each by its number. -/
structure Trace (sources links contacts : Nat) where
  source : Fin sources
  walk : List (Fin links)
  contact : Fin contacts
deriving DecidableEq

namespace Trace

variable (installation : Installation) (links : List ItemItemLink) (target : Target)
  (database : Database)

/-- Whether a trace leads to a contact: it starts at a source row of the target that
meets the condition, the walk from the item of that row stays below the depth, and it
arrives at the item that the contact row links to the contact. -/
def LeadsTo (depth : DepthLimit) (contact : Int64)
    (trace : Trace (installation.sourceRows target.source).length links.length
      installation.contacts.length) : Prop :=
  let start := (installation.sourceRows target.source).get trace.source
  let last := installation.contacts.get trace.contact
  target.accepts database start = true ∧ trace.walk.length < depth.depth ∧
    Walk.arrive? links start.item trace.walk = some last.item ∧ last.item ≠ .null ∧
    last.contact = .int contact

instance (depth : DepthLimit) (contact : Int64)
    (trace : Trace (installation.sourceRows target.source).length links.length
      installation.contacts.length) :
    Decidable (trace.LeadsTo installation links target database depth contact) :=
  inferInstanceAs (Decidable (_ ∧ _))

end Trace

namespace Walk

/-- All walks that stay below a depth. -/
def below (count : Nat) (limit : DepthLimit) : List (List (Fin count)) :=
  (List.range limit.depth).flatMap (sequences count)

theorem mem_below {count : Nat} (walk : List (Fin count)) (limit : DepthLimit) :
    walk ∈ below count limit ↔ walk.length < limit.depth := by
  simp only [below, List.mem_flatMap, List.mem_range, mem_sequences]
  exact ⟨fun ⟨_, hlt, hlength⟩ => hlength ▸ hlt, fun hlt => ⟨_, hlt, rfl⟩⟩

theorem below_nodup (count : Nat) (limit : DepthLimit) : (below count limit).Nodup := by
  refine List.nodup_flatMap.mpr ⟨fun length _ => sequences_nodup count length, ?_⟩
  refine List.nodup_range.imp fun {left right} hne walk hleft hright => hne ?_
  exact ((mem_sequences walk left).mp hleft).symm.trans ((mem_sequences walk right).mp hright)

variable {installation : Installation} {links : List ItemItemLink}

/-- Paths up to a depth reach what walks below that depth arrive at, each as often. -/
theorem reached_perm (hlinks : installation.links = links.map LinkRow.ofLink)
    (hordered : ∀ link ∈ links, link.lower < link.higher) (source : PathSource)
    (accepts : SourceRow → Bool) (limit : DepthLimit) :
    ((RelationshipPath.enumerate limit).flatMap (installation.reached source accepts)).Perm
      (((installation.sourceRows source).filter accepts).flatMap fun row =>
        ((below links.length limit).filterMap (arrive? links row.item)).flatMap
          installation.contactsOf) := by
  refine (flatMap_swap _ _ _).trans (List.Perm.flatMap_left _ fun row _ => ?_)
  have hends := (List.Perm.flatMap_left (List.range limit.depth) fun length _ =>
    ends_perm hordered length row.item).flatMap_right installation.contactsOf
  rw [hlinks, RelationshipPath.enumerate, below, List.filterMap_flatMap]
  simpa only [List.flatMap_assoc] using hends

end Walk

namespace Trace

variable {installation : Installation} {links : List ItemItemLink}

/-- All combinations of a source row, a walk below a depth and a contact row. -/
def all (sources links contacts : Nat) (limit : DepthLimit) :
    List (Trace sources links contacts) :=
  (List.finRange sources).flatMap fun source =>
    (Walk.below links limit).flatMap fun walk =>
      (List.finRange contacts).map fun contact => ⟨source, walk, contact⟩

theorem mem_all {sources links contacts : Nat} (trace : Trace sources links contacts)
    (limit : DepthLimit) :
    trace ∈ all sources links contacts limit ↔ trace.walk.length < limit.depth := by
  obtain ⟨source, walk, contact⟩ := trace
  simp [all, Walk.mem_below]

theorem all_nodup (sources links contacts : Nat) (limit : DepthLimit) :
    (all sources links contacts limit).Nodup := by
  have hmap : all sources links contacts limit =
      ((List.finRange sources).product ((Walk.below links limit).product
        (List.finRange contacts))).map fun parts => ⟨parts.1, parts.2.1, parts.2.2⟩ := by
    simp only [all, List.product, List.map_flatMap, List.map_map]
    rfl
  rw [hmap]
  refine List.Nodup.map ?_ ((List.nodup_finRange _).product
    ((Walk.below_nodup links limit).product (List.nodup_finRange _)))
  rintro ⟨source, walk, contact⟩ ⟨source', walk', contact'⟩ hsame
  cases hsame
  rfl

/-- A filter of numbered items is a filter of the items. -/
theorem map_get_filter {A : Type} (xs : List A) (keep : A → Bool) :
    (((List.finRange xs.length).filter fun index => keep (xs.get index)).map xs.get) =
      xs.filter keep := by
  conv_rhs => rw [← List.map_get_finRange xs, List.filter_map]
  rfl

theorem flatMap_filterMap {A B C : Type} (xs : List A) (f : A → Option B) (g : B → List C) :
    (xs.filterMap f).flatMap g = xs.flatMap fun x => ((f x).map g).getD [] := by
  induction xs with
  | nil => rfl
  | cons x rest ih =>
      cases hx : f x with
      | none => simp [hx, ih]
      | some y => simp [hx, ih]

/-- The contact rows at the end of one walk from a source row. -/
def lastRows (installation : Installation) (links : List ItemItemLink) (target : Target)
    (database : Database) (contact : Int64) (row : SourceRow) (walk : List (Fin links.length)) :
    List ContactRow :=
  installation.contacts.filter fun last =>
    target.accepts database row = true ∧
      Walk.arrive? links row.item walk = some last.item ∧ last.item ≠ .null ∧
      last.contact = .int contact

/-- The contact rows that traces lead to, source row by source row and walk by walk. -/
theorem map_contact_filter (target : Target) (database : Database) (limit : DepthLimit)
    (contact : Int64) :
    (((all (installation.sourceRows target.source).length links.length
        installation.contacts.length limit).filter fun trace =>
          trace.LeadsTo installation links target database limit contact).map fun trace =>
            installation.contacts.get trace.contact) =
      (installation.sourceRows target.source).flatMap fun row =>
        (Walk.below links.length limit).flatMap
          (lastRows installation links target database contact row) := by
  simp only [all, List.filter_flatMap, List.map_flatMap]
  rw [← Walk.flatMap_finRange (installation.sourceRows target.source)]
  refine congrArg List.flatten (List.map_congr_left fun source _ => ?_)
  refine congrArg List.flatten (List.map_congr_left fun walk hwalk => ?_)
  have hdepth := (Walk.mem_below walk limit).mp hwalk
  rw [List.filter_map, List.map_map, lastRows, ← map_get_filter installation.contacts]
  refine congrArg (List.map installation.contacts.get) (List.filter_congr fun last _ => ?_)
  simp only [Function.comp_apply, LeadsTo, hdepth, true_and]

/-- The contact rows that walks from accepted source rows arrive at. -/
theorem filter_contactsOf (target : Target) (database : Database) (limit : DepthLimit)
    (contact : Int64) :
    (((installation.sourceRows target.source).filter (target.accepts database)).flatMap
        fun row => ((Walk.below links.length limit).filterMap
          (Walk.arrive? links row.item)).flatMap installation.contactsOf).filter
            (fun row => decide (row.contact = .int contact)) =
      (installation.sourceRows target.source).flatMap fun row =>
        (Walk.below links.length limit).flatMap
          (lastRows installation links target database contact row) := by
  rw [List.filter_flatMap]
  refine (flatMap_eq_flatMap_filter (fun row hrow => ?_) fun row hrow => ?_).symm
  · rw [flatMap_filterMap, List.filter_flatMap]
    refine congrArg List.flatten (List.map_congr_left fun walk _ => ?_)
    cases harrive : Walk.arrive? links row.item walk with
    | none => simp [lastRows, harrive]
    | some last =>
        simp only [Option.map_some, Option.getD_some, Installation.contactsOf,
          List.filter_filter, lastRows, hrow, harrive, Option.some.injEq, true_and]
        refine List.filter_congr fun last _ => ?_
        simp only [← and_assoc, Bool.decide_and, Bool.and_comm]
  · refine List.flatMap_eq_nil_iff.mpr fun walk _ => ?_
    simp [lastRows, hrow]

theorem encard_eq_length {A : Type} [DecidableEq A] {items : Set A} {xs : List A}
    (hnodup : xs.Nodup) (hmem : ∀ x, x ∈ items ↔ x ∈ xs) : items.encard = xs.length := by
  have hitems : items = (xs.toFinset : Set A) := by
    ext x
    rw [hmem, Finset.mem_coe, List.mem_toFinset]
  rw [hitems, Set.encard_coe_eq_coe_finsetCard, List.toFinset_card_of_nodup hnodup]

/-- As many traces lead to a contact as contact rows of it are reached over paths. -/
theorem encard_leadsTo (hlinks : installation.links = links.map LinkRow.ofLink)
    (hordered : ∀ link ∈ links, link.lower < link.higher) (target : Target)
    (database : Database) (limit : DepthLimit) (contact : Int64) :
    {trace | LeadsTo installation links target database limit contact trace}.encard =
      (((RelationshipPath.enumerate limit).flatMap
        (installation.reached target.source (target.accepts database))).filter
          fun row => decide (row.contact = .int contact)).length := by
  have hperm := (Walk.reached_perm hlinks hordered target.source (target.accepts database)
    limit).filter fun row => decide (row.contact = .int contact)
  rw [hperm.length_eq, filter_contactsOf, ← map_contact_filter, List.length_map]
  refine encard_eq_length ((all_nodup _ _ _ limit).filter _) fun trace => ?_
  simp only [Set.mem_ofPred_eq, List.mem_filter, mem_all, decide_eq_true_eq]
  exact ⟨fun hleads => ⟨hleads.2.1, hleads⟩, And.right⟩

end Trace

/-- The union of a filter returns a contact exactly as often as traces lead to it: from
a row of its field or object that meets the positive form of the condition that the filter
gives, over a walk of links that stays below the depth, to a row that links the last item to
the contact.  The database may hold any rows, as long as every link leads from a lower to a
higher item. -/
theorem FragmentUnion.count_rows_eq_traces {dispatcher : Dispatcher} {filter : SegmentFilter}
    {seed : String} {union : FragmentUnion}
    (hbuild : dispatcher.build filter seed .allContacts = .ok union)
    {installation : Installation} {database : Database}
    (hstored : installation.StoredIn dispatcher.compiler.metadata database)
    {links : List ItemItemLink} (hlinks : installation.links = links.map LinkRow.ofLink)
    (hordered : ∀ link ∈ links, link.lower < link.higher) (contact : Int64) :
    ∃ target query params,
      filter.target? dispatcher.compiler.metadata = some target ∧
      union.query = .ok query ∧ union.params = .ok params ∧
      {trace | Trace.LeadsTo installation links target database dispatcher.compiler.depth
        contact trace}.encard =
        (query.rows (database.withParams params) []).count [.int contact] := by
  obtain ⟨target, htarget, hfollows⟩ := Dispatcher.build_follows hbuild
  obtain ⟨query, hquery⟩ := hfollows.exists_query
  obtain ⟨params, hparams, hextends, _⟩ := hfollows.exists_params
  refine ⟨target, query, params, htarget, hquery, hparams, ?_⟩
  rw [hfollows.rows hquery (hstored.withParams params) hextends, target.accepts_withParams,
    Trace.encard_leadsTo hlinks hordered, List.count, List.countP_map,
    List.countP_eq_length_filter, List.filter_filter]
  refine congrArg (fun rows : List ContactRow => (rows.length : ℕ∞)) ?_
  refine List.filter_congr fun row _ => ?_
  rw [Bool.eq_iff_iff]
  simp [ContactRestriction.allows]

namespace LinkedItems

/-- An item with the price 5 is linked to another one, and both are linked to contact 7.  An
item with the price 6 is linked to contact 8, and it has a 5 in another field. -/
def installation : Installation where
  items := [⟨.int 1, .int 1, .text "bag"⟩, ⟨.int 2, .int 1, .text "box"⟩,
    ⟨.int 3, .int 1, .text "cup"⟩]
  contacts := [⟨.int 1, .int 7⟩, ⟨.int 2, .int 7⟩, ⟨.int 3, .int 8⟩]
  links := [⟨.int 1, .int 2⟩]
  values table :=
    if table = "custom_field_value_int" then
      [⟨.int 1, .int 3, .int 5⟩, ⟨.int 3, .int 3, .int 6⟩, ⟨.int 3, .int 4, .int 5⟩]
    else []

def metadata : Metadata where
  valueTable := Schema.tables.valueTable
  field id := .ok ⟨id, 1, "Price", "price", "int"⟩
  object id := .ok (.new id "product" "Product")
  tables := Schema.tables

/-- The rows with a table of three contacts. -/
def database : Database := installation.database Schema.tables [.int 7, .int 8, .int 9]

/-- What compiles filters on these rows up to a depth. -/
def within (depth : DepthLimit) : Dispatcher := ⟨⟨metadata, depth, .perFragment⟩, none⟩

def dispatcher : Dispatcher := within ⟨2, by decide, by decide⟩

theorem storedIn : installation.StoredIn metadata database :=
  installation.storedIn_database rfl _

/-- The price is 5. -/
def filter : SegmentFilter := .customField .and ⟨3, some ⟨.eq, .single (.int 5)⟩⟩

/-- The price is not 5, which is spelled as a text. -/
def notFive : ValueCondition := ⟨.neq, .single (.text " 5 ")⟩

/-- The union of the negated condition returns contact 7 three times: for the item with the
price 5, for the item it is linked to, and for the way to that one and back. -/
theorem count_rows_linked :
    let filter := SegmentFilter.customField .and ⟨3, some notFive⟩
    let target : Target := ⟨.fieldValue "custom_field_value_int" 3, some (notFive, .int)⟩
    filter.target? metadata = some target ∧
    {trace | Trace.LeadsTo installation [⟨1, 2, by decide⟩] target database .standard 7
      trace}.encard = 3 ∧
    ∃ union query params,
      (within .standard).build filter "price" .allContacts = .ok union ∧
      union.query = .ok query ∧ union.params = .ok params ∧
      (query.rows (database.withParams params) []).count [.int 7] = 3 := by
  intro filter target
  have hlinks : installation.links = [⟨1, 2, by decide⟩].map LinkRow.ofLink := rfl
  have htarget : filter.target? metadata = some target := rfl
  obtain ⟨union, hbuild⟩ :
      ∃ union, (within .standard).build filter "price" .allContacts = .ok union := ⟨_, rfl⟩
  obtain ⟨found, query, params, hfound, hquery, hparams, hrows⟩ :=
    FragmentUnion.count_rows_eq_traces hbuild storedIn hlinks (by decide) 7
  obtain rfl : target = found := Option.some.inj (htarget.symm.trans hfound)
  have hcount : (query.rows (database.withParams params) []).count [.int 7] = 3 := by
    cases hbuild
    cases hquery
    cases hparams
    decide +kernel
  rw [hcount] at hrows
  exact ⟨htarget, hrows, union, query, params, hbuild, hquery, hparams, hcount⟩

end LinkedItems

end SegmentPaths
