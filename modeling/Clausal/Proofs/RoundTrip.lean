import Clausal.Proofs.WholePairs
import Mathlib.Data.List.ProdSigma
import Mathlib.Logic.Relation

/-!
# Pairs out of classes

Pairs in order can be had back from their classes exactly if they spell out a transitive
relation. Whatever the pairs, classes do not overlap, so sharing a class is transitive, and
pairs that come back from classes are transitive, too. If the pairs are transitive, two share
a class just as a pair says, and the classes are the components of the graph that has the
pairs as its edges.

Of pairs that are not transitive it is said only that they do not come back, and nothing is
said of pairs in another order.
-/

namespace Clausal

variable {α : Type} [LinearOrder α]

/-- The pairs of two members of a group, the smaller one first. -/
def pairsWithin (group : List α) : List (α × α) :=
  (group ×ˢ group).filter fun pair => pair.1 < pair.2

/-- The pairs within all classes in lexicographic order. -/
def pairsOut (classes : List (List α)) : List (α × α) :=
  (classes.flatMap pairsWithin).mergeSort fun first second => decide (toLex first ≤ toLex second)

/-- Pairs in lexicographic order, none twice, with the smaller member of each first. -/
structure InOrder (pairs : List (α × α)) : Prop where
  /-- The smaller member stands first. -/
  ordered : ∀ pair ∈ pairs, pair.1 < pair.2
  /-- The pairs ascend. -/
  ascending : pairs.Pairwise Before

/-- Whichever two of the three pairs over three members are listed, the third is. -/
def TransitivelyClosed (pairs : List (α × α)) : Prop :=
  ∀ first second third, Linked pairs first second → Linked pairs second third → first ≠ third →
    Linked pairs first third

/-- Both members of each pair. -/
def members (pairs : List (α × α)) : List α := pairs.flatMap fun pair => [pair.1, pair.2]

omit [LinearOrder α] in
/-- A member is who stands in a pair with somebody. -/
theorem mem_members {pairs : List (α × α)} {member : α} :
    member ∈ members pairs ↔ ∃ other, Linked pairs member other := by
  simp only [members, List.mem_flatMap, List.mem_cons, List.not_mem_nil, or_false]
  constructor
  · rintro ⟨⟨first, second⟩, listed, rfl | rfl⟩
    · exact ⟨second, Or.inl listed⟩
    · exact ⟨first, Or.inr listed⟩
  · rintro ⟨other, listed | listed⟩
    · exact ⟨_, listed, Or.inl rfl⟩
    · exact ⟨_, listed, Or.inr rfl⟩

/-- Whether two members are linked can be looked up in the pairs. -/
instance (pairs : List (α × α)) (first second : α) : Decidable (Linked pairs first second) :=
  inferInstanceAs (Decidable (_ ∨ _))

/-- It is enough to look at the members that stand in the pairs. -/
instance (pairs : List (α × α)) : Decidable (TransitivelyClosed pairs) :=
  decidable_of_iff
    (∀ first ∈ members pairs, ∀ second ∈ members pairs, Linked pairs first second →
      ∀ third ∈ members pairs, Linked pairs second third → first ≠ third →
        Linked pairs first third)
    ⟨fun checked first second third firstLinked secondLinked =>
      checked first (mem_members.mpr ⟨second, firstLinked⟩)
        second (mem_members.mpr ⟨third, secondLinked⟩) firstLinked
        third (mem_members.mpr ⟨second, secondLinked.symm⟩) secondLinked,
    fun transitive first _ second _ firstLinked third _ =>
      transitive first second third firstLinked⟩

/-- What can be reached from a member by going along pairs. -/
def component (pairs : List (α × α)) (member : α) : Set α :=
  {other | Relation.ReflTransGen (Linked pairs) member other}

/-- The lists are the connected components of the pairs. -/
structure Components (pairs : List (α × α)) (classes : List (List α)) : Prop where
  /-- What a list holds is a component, and every component is what a list holds. -/
  exact : ∀ together : Set α, (∃ group ∈ classes, {member | member ∈ group} = together) ↔
    ∃ member ∈ members pairs, component pairs member = together
  /-- Every list ascends. -/
  ascending : ∀ group ∈ classes, group.Pairwise (· < ·)
  /-- The lists ascend by their smallest members. -/
  ordered : classes.Pairwise fun earlier later => ∃ first second,
    IsLeast {member | member ∈ earlier} first ∧ IsLeast {member | member ∈ later} second ∧
      first < second
  /-- A member of the pairs is in one list and no other. -/
  unique : ∀ member ∈ members pairs, ∃! group, group ∈ classes ∧ member ∈ group

section PairsOut

variable {classes : List (List α)}

/-- The pairs within a group are those of two members in ascending order. -/
theorem mem_pairsWithin {group : List α} {first second : α} :
    (first, second) ∈ pairsWithin group ↔ first ∈ group ∧ second ∈ group ∧ first < second := by
  simp [pairsWithin, and_assoc]

/-- The pairs that classes give back are the ascending ones within each of them. -/
theorem mem_pairsOut {first second : α} : (first, second) ∈ pairsOut classes ↔
    first < second ∧ ∃ group ∈ classes, first ∈ group ∧ second ∈ group := by
  simp only [pairsOut, List.mem_mergeSort, List.mem_flatMap, mem_pairsWithin]
  constructor
  · rintro ⟨group, listed, inside, otherInside, smaller⟩
    exact ⟨smaller, group, listed, inside, otherInside⟩
  · rintro ⟨smaller, group, listed, inside, otherInside⟩
    exact ⟨group, listed, inside, otherInside, smaller⟩

/-- Classes without repetition have no pair twice. -/
theorem pairsOut_ascending (disjoint : classes.flatten.Nodup) :
    (pairsOut classes).Pairwise Before := by
  obtain ⟨nodup, apart⟩ := List.nodup_flatten.mp disjoint
  have once : (pairsOut classes).Nodup := by
    rw [pairsOut, List.nodup_mergeSort, List.nodup_flatMap]
    constructor
    · intro group listed
      exact ((nodup group listed).product (nodup group listed)).filter _
    · apply apart.imp
      intro group other disjoint pair inGroup inOther
      exact disjoint (mem_pairsWithin.mp inGroup).1 (mem_pairsWithin.mp inOther).1
  have weakly : (pairsOut classes).Pairwise fun first second => toLex first ≤ toLex second := by
    refine (List.pairwise_mergeSort ?_ ?_ _).imp of_decide_eq_true
    · intro first second third
      simp only [decide_eq_true_iff]
      exact le_trans
    · intro first second
      simp only [Bool.or_eq_true, decide_eq_true_iff]
      exact le_total _ _
  apply (weakly.and once).imp
  rintro first second ⟨notAfter, different⟩
  exact lt_of_le_of_ne notAfter different

end PairsOut

namespace Partitions

variable {related : α → α → Prop} {classes : List (List α)} {group : List α} {member other : α}

/-- Beside a member there are those related to it. A class that is shared with the member is the
same class, since the classes are disjoint. -/
theorem mem_iff (partitions : Partitions related classes) (listed : group ∈ classes)
    (inside : member ∈ group) : other ∈ group ↔ other = member ∨ related member other := by
  by_cases same : other = member
  · simp [same, inside]
  · rw [← partitions.shared member other (Ne.symm same)]
    constructor
    · intro otherInside
      exact Or.inr ⟨group, listed, inside, otherInside⟩
    · rintro (equal | ⟨twin, twinListed, inTwin, otherInTwin⟩)
      · exact absurd equal same
      · rwa [partitions.eq_of_mem listed twinListed inside inTwin]

/-- A member of a class is related to another one, since every class has two members at least. -/
theorem exists_related (partitions : Partitions related classes) (listed : group ∈ classes)
    (inside : member ∈ group) : ∃ other, related member other := by
  have long : 2 ≤ group.length := partitions.proper group listed
  have ascends := partitions.ascending group listed
  match group, long with
  | first :: second :: rest, _ =>
    have smaller : first < second := List.rel_of_pairwise_cons ascends List.mem_cons_self
    by_cases same : first = member
    · have beside := (partitions.mem_iff listed inside).mp (by simp : second ∈ _)
      exact ⟨second, beside.resolve_left (same ▸ smaller.ne')⟩
    · have beside := (partitions.mem_iff listed inside).mp (by simp : first ∈ _)
      exact ⟨first, beside.resolve_left same⟩

end Partitions

variable {pairs : List (α × α)}

/-- Along closed pairs one gets no further than in one step. The induction is on the steps, and
closure under transitivity takes the last two together. -/
theorem Closed.mem_component (closed : Closed pairs) {member other : α} :
    other ∈ component pairs member ↔ other = member ∨ Linked pairs member other := by
  constructor
  · intro reached
    induction reached with
    | refl => exact Or.inl rfl
    | @tail middle last _ linked inductionHypothesis =>
      rcases inductionHypothesis with rfl | before
      · exact Or.inr linked
      · by_cases same : last = member
        · exact Or.inl same
        · exact Or.inr (closed.transitive member middle last before linked (Ne.symm same))
  · rintro (rfl | linked)
    · exact Relation.ReflTransGen.refl
    · exact Relation.ReflTransGen.single linked

/-- The classes of the relation that closed pairs spell out are the components. Every class is
the component of its members, and every member of a pair is in a class. -/
theorem Partitions.components {classes : List (List α)} (closed : Closed pairs)
    (partitions : Partitions (Linked pairs) classes) : Components pairs classes := by
  have whole {group : List α} {member : α} (listed : group ∈ classes) (inside : member ∈ group) :
      {member | member ∈ group} = component pairs member := by
    ext other
    exact (partitions.mem_iff listed inside).trans closed.mem_component.symm
  have covered {member : α} (stands : member ∈ members pairs) :
      ∃ group ∈ classes, member ∈ group := by
    obtain ⟨other, linked⟩ := mem_members.mp stands
    obtain ⟨group, listed, inside, _⟩ :=
      (partitions.shared member other (closed.ne_of_linked linked)).mpr linked
    exact ⟨group, listed, inside⟩
  constructor
  · intro together
    constructor
    · rintro ⟨group, listed, rfl⟩
      have long : 2 ≤ group.length := partitions.proper group listed
      obtain ⟨member, inside⟩ := List.exists_mem_of_length_pos (by omega : 0 < group.length)
      have stands := mem_members.mpr (partitions.exists_related listed inside)
      exact ⟨member, stands, (whole listed inside).symm⟩
    · rintro ⟨member, stands, rfl⟩
      obtain ⟨group, listed, inside⟩ := covered stands
      exact ⟨group, listed, whole listed inside⟩
  · exact partitions.ascending
  · exact partitions.ordered
  · intro member stands
    obtain ⟨group, listed, inside⟩ := covered stands
    refine ⟨group, ⟨listed, inside⟩, ?_⟩
    rintro twin ⟨twinListed, inTwin⟩
    exact partitions.eq_of_mem twinListed listed inTwin inside

/-- Pairs come out of the classes of the relation that they spell out. Both lists ascend, so it
is enough that they have the same pairs. -/
theorem Partitions.pairsOut_eq {classes : List (List α)} (closed : Closed pairs)
    (partitions : Partitions (Linked pairs) classes) : pairsOut classes = pairs := by
  apply (pairsOut_ascending partitions.disjoint).eq_of_mem_iff closed.ascending
  rintro ⟨first, second⟩
  rw [mem_pairsOut]
  constructor
  · rintro ⟨smaller, together⟩
    exact closed.mem_of_linked ((partitions.shared first second smaller.ne).mp together) smaller
  · intro listed
    have smaller : first < second := closed.ordered _ listed
    exact ⟨smaller, (partitions.shared first second smaller.ne).mpr (Or.inl listed)⟩

open Grouping

variable [BEq α] [LawfulBEq α]

/-- What comes out of classes is transitive, since no member is in two of them: the classes of
two links with a member in common are one. -/
theorem transitivelyClosed_of_pairsOut {before : α → α → Bool}
    (order : ∀ first second, before first second = true ↔ first ≤ second)
    (back : pairsOut (collect before pairs) = pairs) : TransitivelyClosed pairs := by
  have listed_iff (first second : α) : (first, second) ∈ pairs ↔
      first < second ∧ ∃ group ∈ collect before pairs, first ∈ group ∧ second ∈ group := by
    rw [← mem_pairsOut, back]
  have together {first second : α} : Linked pairs first second ↔
      first ≠ second ∧ ∃ group ∈ collect before pairs, first ∈ group ∧ second ∈ group := by
    rw [Linked, listed_iff first second, listed_iff second first]
    constructor
    · rintro (⟨smaller, shared⟩ | ⟨greater, group, listed, inside, otherInside⟩)
      · exact ⟨smaller.ne, shared⟩
      · exact ⟨greater.ne', group, listed, otherInside, inside⟩
    · rintro ⟨different, group, listed, inside, otherInside⟩
      rcases lt_or_gt_of_ne different with smaller | greater
      · exact Or.inl ⟨smaller, group, listed, inside, otherInside⟩
      · exact Or.inr ⟨greater, group, listed, otherInside, inside⟩
  intro first second third firstLinked secondLinked different
  obtain ⟨_, group, listed, firstInside, inside⟩ := together.mp firstLinked
  obtain ⟨_, twin, twinListed, inTwin, thirdInside⟩ := together.mp secondLinked
  -- The two classes have the member in the middle in common, so they are one.
  have disjoint := nodup_flatten_collect pairs order
  rw [eq_of_nodup_flatten disjoint listed twinListed inside inTwin] at firstInside
  exact together.mpr ⟨different, twin, twinListed, firstInside, thirdInside⟩

/-- Pairs in order come out of their classes exactly if they are transitive, and then the
classes are their components. -/
theorem pairsOut_collect_iff (inOrder : InOrder pairs) {before : α → α → Bool}
    (order : ∀ first second, before first second = true ↔ first ≤ second) :
    (pairsOut (collect before pairs) = pairs ↔ TransitivelyClosed pairs) ∧
      (TransitivelyClosed pairs → Components pairs (collect before pairs)) := by
  have partitioned (transitive : TransitivelyClosed pairs) :
      Closed pairs ∧ Partitions (Linked pairs) (collect before pairs) := by
    have closed : Closed pairs := { inOrder with transitive := transitive }
    exact ⟨closed, partitions_collect closed order⟩
  refine ⟨⟨transitivelyClosed_of_pairsOut order, ?_⟩, ?_⟩
  · intro transitive
    obtain ⟨closed, partitions⟩ := partitioned transitive
    exact partitions.pairsOut_eq closed
  · intro transitive
    obtain ⟨closed, partitions⟩ := partitioned transitive
    exact partitions.components closed

/-- A loose list of integer pairs in order has classes, which give the pairs back exactly if
these are transitive; then the classes are the components of the pairs. -/
theorem pairs_restored_iff_closed (pairs : List (Int × Int)) (inOrder : InOrder pairs) :
    ∃ classes : List (List Int),
      collectLoose (.list (pairs.map Datum.ofPair)) = .ok (classes.map (List.map Datum.whole)) ∧
        (pairsOut classes = pairs ↔ TransitivelyClosed pairs) ∧
          (TransitivelyClosed pairs → Components pairs classes) :=
  ⟨_, collectLoose_pairs pairs, pairsOut_collect_iff inOrder fun _ _ => decide_eq_true_iff⟩

/-- Two classes that cross each other, one of them a triangle. -/
def crossed : List (Int × Int) := [(1, 3), (1, 5), (2, 4), (3, 5)]

/-- Two pairs that meet, without the third one. -/
def forked : List (Int × Int) := [(1, 2), (1, 3)]

/-- The triangle has its third side, so the pairs come back; the fork brings its two ends
together, so one pair more comes out than went in. -/
theorem crossed_restored_forked_not :
    InOrder crossed ∧ TransitivelyClosed crossed ∧
      (∃ classes : List (List Int), collectLoose (.list (crossed.map Datum.ofPair)) =
          .ok (classes.map (List.map Datum.whole)) ∧
        pairsOut classes = crossed ∧ Components crossed classes) ∧
      InOrder forked ∧ ¬TransitivelyClosed forked ∧
      ∃ classes : List (List Int), collectLoose (.list (forked.map Datum.ofPair)) =
          .ok (classes.map (List.map Datum.whole)) ∧
        pairsOut classes ≠ forked := by
  have crossing : InOrder crossed := ⟨by decide, by decide⟩
  have closed : TransitivelyClosed crossed := by decide
  have forking : InOrder forked := ⟨by decide, by decide⟩
  have gap : ¬TransitivelyClosed forked := by decide
  obtain ⟨classes, made, back, components⟩ := pairs_restored_iff_closed crossed crossing
  obtain ⟨merged, joined, lost, _⟩ := pairs_restored_iff_closed forked forking
  exact ⟨crossing, closed, ⟨classes, made, back.mpr closed, components closed⟩, forking, gap,
    merged, joined, fun same => gap (lost.mp same)⟩

end Clausal
