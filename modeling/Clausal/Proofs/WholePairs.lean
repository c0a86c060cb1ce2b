import Clausal.Proofs.Partition
import Clausal.Proofs.Sorting

/-!
# Pairs of integers among loose values

Grouping looks at its members only through equality, so members that are spelled in
another way, with equality kept, are grouped in the same way. As loose values, integers
are equal and ordered just as integers are. The classes of a loose list of integer pairs
are therefore the classes of the pairs themselves: reading the pairs and sorting the roots
never fail on them.

Other members are not spoken of here: neither texts, nor numbers of other forms.
-/

namespace Clausal

section Spelling

variable {α β : Type} {spell : α → β}

/-- The class with its members spelled in another way. -/
def Class.map (spell : α → β) (group : Class α) : Class β :=
  ⟨spell group.root, group.others.map spell⟩

namespace Grouping

/-- The grouping with all members spelled in another way. -/
def map (spell : α → β) (grouping : Grouping α) : Grouping β :=
  ⟨grouping.roots.map (Prod.map spell spell), grouping.classes.map (Class.map spell)⟩

variable [BEq α] [BEq β]
  (faithful : ∀ first second, (spell first == spell second) = (first == second))
include faithful

/-- A member that is spelled is found where the member is found, and what is found is spelled. -/
theorem lookup_spelled (roots : List (α × α)) (member : α) :
    (roots.map (Prod.map spell spell)).lookup (spell member) = (roots.lookup member).map spell := by
  induction roots with
  | nil => rfl
  | cons entry rest inductionHypothesis =>
    rw [List.map_cons, Prod.map, List.lookup_cons, List.lookup_cons, faithful, inductionHypothesis]
    split <;> rfl

/-- A spelled member joins the spelled class of its root. The tests for equality are passed alike
by what is spelled and by what it spells. -/
theorem join_spelled (root member : α) (classes : List (Class α)) :
    join (spell root) (spell member) (classes.map (Class.map spell)) =
      (join root member classes).map (Class.map spell) := by
  induction classes with
  | nil => rfl
  | cons group rest inductionHypothesis =>
    have same : ((group.map spell).root == spell root) = (group.root == root) :=
      faithful group.root root
    rw [List.map_cons, join, join, same, inductionHypothesis]
    split
    · simp [Class.map]
    · rfl

/-- A spelled member has the spelled root, and is met or not as the member is. -/
theorem rooted_spelled (grouping : Grouping α) (member : α) :
    (grouping.map spell).rooted (spell member) =
      (spell (grouping.rooted member).1,
        (grouping.rooted member).2.map (Prod.map spell spell)) := by
  have found : (grouping.map spell).roots.lookup (spell member) =
      (grouping.roots.lookup member).map spell := lookup_spelled faithful grouping.roots member
  rw [rooted, rooted, found]
  cases grouping.roots.lookup member with
  | none => simp [map]
  | some root => rfl

/-- A pair is taken in alike, however its members are spelled. -/
theorem link_spelled (grouping : Grouping α) (pair : α × α) :
    (grouping.map spell).link (Prod.map spell spell pair) = (grouping.link pair).map spell := by
  have found := lookup_spelled faithful (grouping.rooted pair.1).2 pair.2
  rw [link, link]
  simp only [Prod.map, rooted_spelled faithful]
  rw [found]
  cases (grouping.rooted pair.1).2.lookup pair.2 with
  | none => simp [map, join_spelled faithful]
  | some root => rfl

/-- Pairs make the same grouping, however their members are spelled. -/
theorem ofPairs_spelled (pairs : List (α × α)) :
    ofPairs (pairs.map (Prod.map spell spell)) = (ofPairs pairs).map spell := by
  rw [ofPairs, List.foldl_map]
  change pairs.foldl _ (map spell empty) = map spell (pairs.foldl link empty)
  apply List.foldl_hom
  exact link_spelled faithful

end Grouping

end Spelling

namespace Datum

/-- A pair of integers as a loose value. -/
def ofPair (pair : Int × Int) : Datum := .list [whole pair.1, whole pair.2]

/-- Different integers are different values. -/
theorem whole_injective : Function.Injective whole := by
  rintro first second ⟨⟩
  rfl

/-- Whole numbers are the same values exactly if they are equal, although values are compared
by their places. -/
theorem whole_beq (first second : Int) : (whole first == whole second) = (first == second) := by
  have same : ((0, (first : Rat)) = ((0, (second : Rat)) : Int × Rat)) ↔ first = second := by
    rw [Prod.mk.injEq, Rat.intCast_inj]
    exact and_iff_right rfl
  rw [Bool.eq_iff_iff, beq_iff_eq (a := first), ← same]
  exact decide_eq_true_iff

/-- Whole numbers have an order, and it is that of the integers. -/
theorem less?_whole (first second : Int) :
    (whole first).less? (whole second) = some (decide (first < second)) := by
  have before : (Number.whole first).less (.whole second) = decide (first < second) := by
    change (decide ((0 : Int) < 0) || decide ((0 : Int) = 0) && decide ((first : Rat) < second)) = _
    rw [decide_eq_decide.mpr Rat.intCast_lt_intCast]
    rfl
  rw [whole, whole, less?, before]

end Datum

namespace Grouping

/-- A pair of integers can be read and taken in. -/
theorem linkLoose_ofPair (grouping : Grouping Datum) (pair : Int × Int) :
    linkLoose grouping (Datum.ofPair pair) =
      .ok (grouping.link (Prod.map Datum.whole Datum.whole pair)) := rfl

/-- All pairs of integers can be read and taken in. -/
theorem linkLoose_ofPairs (pairs : List (Int × Int)) :
    (pairs.map Datum.ofPair).foldlM linkLoose empty =
      .ok ((ofPairs pairs).map Datum.whole) := by
  rw [List.foldlM_map, ← ofPairs_spelled Datum.whole_beq, ofPairs, List.foldl_map]
  simp only [linkLoose_ofPair]
  exact List.foldlM_pure

/-- The integer of a class's root. -/
def key (group : Class Datum) : Int := (Argument.integer? group.root).getD 0

/-- Classes of whole numbers are compared by the integers that are their roots, so no
comparison among them fails. -/
theorem lessRoot_compares (classes : List (Class Int)) :
    Sorting.Compares lessRoot key (classes.map (Class.map Datum.whole)) := by
  intro later laterListed earlier earlierListed
  obtain ⟨later, _, rfl⟩ := List.mem_map.mp laterListed
  obtain ⟨earlier, _, rfl⟩ := List.mem_map.mp earlierListed
  have answered := Datum.less?_whole later.root earlier.root
  simp only [lessRoot, Class.map, answered]
  rfl

/-- Sorting the classes by their roots gives what sorting them before spelling gives: no
root has two classes, so there is only one order. -/
theorem sort_spelled {classes : List (Class Int)} (distinct : (classes.map Class.root).Nodup) :
    Sorting.sort lessRoot (classes.map (Class.map Datum.whole)) =
      .ok ((classes.mergeSort fun first second => decide (first.root ≤ second.root)).map
        (Class.map Datum.whole)) := by
  obtain ⟨sorted, sorting, permuted, ascending⟩ := Sorting.sort_spec (lessRoot_compares classes)
  have strictly := sorted_roots distinct fun first second : Int => decide_eq_true_iff
  have only : sorted = (classes.mergeSort fun first second =>
      decide (first.root ≤ second.root)).map (Class.map Datum.whole) := by
    refine List.Perm.eq_of_pairwise ?_ ascending ?_ ?_
    · intro one other oneListed otherListed notAfter notBefore
      obtain ⟨group, grouped, rfl⟩ := List.mem_map.mp (permuted.mem_iff.mp oneListed)
      obtain ⟨twin, twinGrouped, rfl⟩ := List.mem_map.mp otherListed
      have sameRoot : group.root = twin.root := le_antisymm notAfter notBefore
      rw [List.inj_on_of_nodup_map distinct grouped (List.mem_mergeSort.mp twinGrouped) sameRoot]
    · exact List.pairwise_map.mpr (strictly.imp le_of_lt)
    · exact permuted.trans ((List.mergeSort_perm classes _).symm.map _)
  rw [sorting, only]

end Grouping

open Grouping

/-- The classes of a loose list of integer pairs are the classes of the pairs. Nothing is refused
on the way: every pair is one of numbers, and these can be compared. -/
theorem collectLoose_pairs (pairs : List (Int × Int)) :
    collectLoose (.list (pairs.map Datum.ofPair)) =
      .ok ((collect (fun first second => decide (first ≤ second)) pairs).map
        (List.map Datum.whole)) := by
  have reading : Argument.elements (.list (pairs.map Datum.ofPair)) =
      .ok (pairs.map Datum.ofPair) := rfl
  have sorting := sort_spelled (sound_ofPairs pairs).distinct
  have taking := linkLoose_ofPairs pairs
  simp only [collectLoose, reading, bind, Except.bind, pure, Except.pure] at taking ⊢
  rw [taking]
  simp only [Grouping.map, sorting, collect, List.map_map]
  rfl

end Clausal
