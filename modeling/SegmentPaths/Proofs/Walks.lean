/-
Walks over links that may be crossed from either end, and the paths that cross
them in a given direction.  Where no link leads from an item to itself, every
crossing has exactly one direction, so the paths of a length reach the same ends
as the walks of that length, each as often.
-/
import Mathlib.Data.List.FinRange
import Mathlib.Data.List.Perm.Basic
import SegmentPaths.Proofs.FragmentRows

namespace SegmentPaths

/-- Where a link leads when it is crossed from an item. -/
def ItemItemLink.crossed? (link : ItemItemLink) : Datum → Option Datum
  | .int item => (link.other? item).map .int
  | _ => none

namespace Walk

/-- Where a walk from an item ends: the links with these numbers are crossed one
after the other, each from the item that the last one led to. -/
def arrive? (links : List ItemItemLink) : Datum → List (Fin links.length) → Option Datum
  | item, [] => some item
  | item, index :: rest => ((links.get index).crossed? item).bind fun next =>
      arrive? links next rest

/-- All sequences of a number of links. -/
def sequences (count : Nat) : Nat → List (List (Fin count))
  | 0 => [[]]
  | length + 1 => (List.finRange count).flatMap fun index =>
      (sequences count length).map (index :: ·)

theorem mem_sequences {count : Nat} (walk : List (Fin count)) (length : Nat) :
    walk ∈ sequences count length ↔ walk.length = length := by
  induction length generalizing walk with
  | zero => simp [sequences]
  | succ length ih =>
      cases walk with
      | nil => simp [sequences]
      | cons index rest => simp [sequences, ih]

theorem sequences_nodup (count length : Nat) : (sequences count length).Nodup := by
  induction length with
  | zero => exact List.nodup_singleton []
  | succ length ih =>
      refine List.nodup_flatMap.mpr ⟨fun index _ => ?_, ?_⟩
      · exact ih.map (List.cons_injective)
      · refine (List.nodup_finRange count).imp fun {left right} hne => ?_
        intro walk hleft hright
        obtain ⟨rest, _, rfl⟩ := List.mem_map.mp hleft
        obtain ⟨other, _, hsame⟩ := List.mem_map.mp hright
        exact hne (List.cons.inj hsame).1.symm

/-- Two nested passes reach the same whichever is the outer one. -/
theorem flatMap_swap {A B C : Type} (xs : List A) (ys : List B) (f : A → B → List C) :
    (xs.flatMap fun x => ys.flatMap (f x)).Perm (ys.flatMap fun y => xs.flatMap (f · y)) := by
  induction xs with
  | nil => simp
  | cons x rest ih =>
      simp only [List.flatMap_cons]
      exact (ih.append_left _).trans (List.flatMap_append_perm ys (f x) _)

/-- A pass over numbered items is a pass over the items. -/
theorem flatMap_finRange {A B : Type} (xs : List A) (f : A → List B) :
    ((List.finRange xs.length).flatMap fun index => f (xs.get index)) = xs.flatMap f := by
  conv_rhs => rw [← List.map_get_finRange xs, List.flatMap_map]

/-- The ends that a path reaches behind its first hop over one link. -/
def hop (link : LinkRow) (direction : Direction) (item : Datum) (behind : Datum → List Datum) :
    List Datum :=
  if link.near direction = item ∧ item ≠ .null then behind (link.far direction) else []

theorem ends_cons (links : List LinkRow) (direction : Direction) (path : RelationshipPath)
    (item : Datum) :
    Installation.ends links (direction :: path) item =
      links.flatMap fun link => hop link direction item (Installation.ends links path) := by
  rw [Installation.ends]
  refine (flatMap_eq_flatMap_filter (fun link hlink => ?_) fun link hlink => ?_).symm
  · rw [hop, if_pos (of_decide_eq_true hlink)]
  · rw [hop, if_neg (of_decide_eq_false hlink)]

/-- A link between different items is crossed in exactly one direction. -/
theorem hop_directions {link : ItemItemLink} (hordered : link.lower < link.higher)
    (item : Datum) (behind : Datum → List Datum) :
    hop (.ofLink link) .lowerToHigher item behind ++ hop (.ofLink link) .higherToLower item behind =
      ((link.crossed? item).map behind).getD [] := by
  have hne : link.lower ≠ link.higher := Int64.ne_of_lt hordered
  cases item with
  | null => rfl
  | text value => rfl
  | int value =>
      simp only [hop, LinkRow.ofLink, LinkRow.near, LinkRow.far, ItemItemLink.crossed?,
        ItemItemLink.other?, Datum.int.injEq]
      by_cases hlower : value = link.lower
      · simp [hlower, hne.symm]
      · by_cases hhigher : value = link.higher
        · simp [hhigher, hne, hne.symm]
        · simp [hlower, hhigher, eq_comm]

theorem filterMap_sequences_succ (links : List ItemItemLink) (length : Nat) (item : Datum) :
    (sequences links.length (length + 1)).filterMap (arrive? links item) =
      links.flatMap fun link => ((link.crossed? item).map fun next =>
        (sequences links.length length).filterMap (arrive? links next)).getD [] := by
  rw [← flatMap_finRange links, sequences, List.filterMap_flatMap]
  refine congrArg List.flatten (List.map_congr_left fun index _ => ?_)
  rw [List.filterMap_map]
  cases hcrossed : (links.get index).crossed? item with
  | none =>
      refine List.filterMap_eq_nil_iff.mpr fun walk _ => ?_
      rw [Function.comp_apply, arrive?, hcrossed, Option.bind_none]
  | some next =>
      refine List.filterMap_congr fun walk _ => ?_
      rw [Function.comp_apply, arrive?, hcrossed, Option.bind_some]

/-- The paths of a length reach the ends of the walks of that length, each as
often. -/
theorem ends_perm {links : List ItemItemLink}
    (hordered : ∀ link ∈ links, link.lower < link.higher) (length : Nat) (item : Datum) :
    ((RelationshipPath.ofLength length).flatMap fun path =>
        Installation.ends (links.map LinkRow.ofLink) path item).Perm
      ((sequences links.length length).filterMap (arrive? links item)) := by
  induction length generalizing item with
  | zero => exact .refl _
  | succ length ih =>
      let behind (next : Datum) : List Datum :=
        (RelationshipPath.ofLength length).flatMap fun path =>
          Installation.ends (links.map LinkRow.ofLink) path next
      have hdirection : ∀ direction : Direction,
          ((RelationshipPath.ofLength length).flatMap fun path =>
            Installation.ends (links.map LinkRow.ofLink) (direction :: path) item).Perm
          (links.flatMap fun link => hop (.ofLink link) direction item behind) := by
        intro direction
        simp only [ends_cons, List.flatMap_map]
        refine (flatMap_swap _ _ _).trans (.of_eq ?_)
        refine congrArg List.flatten (List.map_congr_left fun link _ => ?_)
        by_cases hnear : (LinkRow.ofLink link).near direction = item ∧ item ≠ .null
        · simp only [hop, if_pos hnear, behind]
        · simp only [hop, if_neg hnear]
          exact List.flatMap_eq_nil_iff.mpr fun _ _ => rfl
      rw [RelationshipPath.ofLength, List.flatMap_append, List.flatMap_map, List.flatMap_map,
        filterMap_sequences_succ]
      refine ((hdirection .lowerToHigher).append (hdirection .higherToLower)).trans ?_
      refine (List.flatMap_append_perm links _ _).trans (List.Perm.flatMap_left _ ?_)
      intro link hlink
      rw [hop_directions (hordered link hlink)]
      cases link.crossed? item with
      | none => exact .refl _
      | some next => exact ih next

end Walk

end SegmentPaths
