import Clausal.Proofs.Grouping
import Clausal.Proofs.Pairs
import Mathlib.Data.List.Lattice
import Mathlib.Data.List.Pairwise
import Mathlib.Order.Bounds.Basic

/-!
# Classes of closed pairs

Classes are never merged, so the classes that pairs make are those of the relation that
the pairs spell out only if the pairs come in the right order and leave no gap. Pairs are
closed if they ascend, have their smaller member first and lack no third side of a
triangle. Then the smallest member of a class comes first of all its members: the pairs
that bring the others to it are the pairs it leads, and it leads them in order.
-/

namespace Clausal

variable {α : Type} [LinearOrder α]

/-- The two stand together in one of the pairs. -/
def Linked (pairs : List (α × α)) (first second : α) : Prop :=
  (first, second) ∈ pairs ∨ (second, first) ∈ pairs

/-- Ascending pairs that spell out a transitive relation. -/
structure Closed (pairs : List (α × α)) : Prop where
  /-- The smaller member stands first. -/
  ordered : ∀ pair ∈ pairs, pair.1 < pair.2
  /-- The pairs ascend. -/
  ascending : pairs.Pairwise Before
  /-- Two sides of a triangle bring the third. -/
  transitive : ∀ first second third, Linked pairs first second → Linked pairs second third →
    first ≠ third → Linked pairs first third

/-- The lists are the classes, of two or more, of a relation between different things. -/
structure Partitions (related : α → α → Prop) (classes : List (List α)) : Prop where
  /-- Two share a class if they are related. -/
  shared : ∀ first second, first ≠ second →
    ((∃ group ∈ classes, first ∈ group ∧ second ∈ group) ↔ related first second)
  /-- Nothing is in two classes or twice in one. -/
  disjoint : classes.flatten.Nodup
  /-- No class has a single member. -/
  proper : ∀ group ∈ classes, 2 ≤ group.length
  /-- Every class ascends. -/
  ascending : ∀ group ∈ classes, group.Pairwise (· < ·)
  /-- The classes ascend by their smallest members. -/
  ordered : classes.Pairwise fun earlier later => ∃ first second,
    IsLeast {member | member ∈ earlier} first ∧ IsLeast {member | member ∈ later} second ∧
      first < second

/-- The class of a member is itself and what it is linked with. -/
def classIn (pairs : List (α × α)) (member : α) : Set α :=
  {other | other = member ∨ Linked pairs other member}

omit [LinearOrder α] in
/-- A pair links its two members in both directions. -/
theorem Linked.symm {pairs : List (α × α)} {first second : α} (linked : Linked pairs first second) :
    Linked pairs second first := Or.symm linked

namespace Closed

variable {pairs : List (α × α)} {first second : α}

/-- Of two that are linked, the smaller one stands first. -/
theorem mem_of_linked (closed : Closed pairs) (linked : Linked pairs first second)
    (smaller : first < second) : (first, second) ∈ pairs := by
  cases linked with
  | inl listed => exact listed
  | inr listed => exact absurd (closed.ordered _ listed) (lt_asymm smaller)

/-- Closed pairs link nobody to themselves. -/
theorem ne_of_linked (closed : Closed pairs) (linked : Linked pairs first second) :
    first ≠ second := by
  cases linked with
  | inl listed => exact (closed.ordered _ listed).ne
  | inr listed => exact (closed.ordered _ listed).ne'

/-- Members that are linked have the same class. Each of the two classes is within the other, by
transitivity. -/
theorem classIn_eq (closed : Closed pairs) (linked : Linked pairs first second) :
    classIn pairs first = classIn pairs second := by
  have inclusion {one two : α} (linked : Linked pairs one two) :
      classIn pairs one ⊆ classIn pairs two := by
    rintro other (rfl | otherLinked)
    · exact Or.inr linked
    · by_cases same : other = two
      · exact Or.inl same
      · exact Or.inr (closed.transitive other one two otherLinked linked same)
  exact Set.Subset.antisymm (inclusion linked) (inclusion linked.symm)

/-- Different members with the same smallest member of their classes are linked. -/
theorem linked_of_isLeast (closed : Closed pairs) {root : α}
    (firstLeast : IsLeast (classIn pairs first) root)
    (secondLeast : IsLeast (classIn pairs second) root) (different : first ≠ second) :
    Linked pairs first second := by
  rcases firstLeast.1 with rfl | firstLinked
  · exact secondLeast.1.resolve_left different
  · rcases secondLeast.1 with rfl | secondLinked
    · exact firstLinked.symm
    · exact closed.transitive first root second firstLinked.symm secondLinked different

/-- What comes before a pair of the list is listed before it. -/
theorem mem_done {done todo : List (α × α)} {pair earlier : α × α}
    (closed : Closed (done ++ pair :: todo)) (listed : earlier ∈ done ++ pair :: todo)
    (before : Before earlier pair) : earlier ∈ done := by
  have ascending : (pair :: todo).Pairwise Before := (List.pairwise_append.mp closed.ascending).2.1
  cases List.mem_append.mp listed with
  | inl here => exact here
  | inr later =>
    rcases List.mem_cons.mp later with rfl | later
    · exact absurd before (irrefl earlier)
    · exact absurd before (asymm (List.rel_of_pairwise_cons ascending later))

end Closed

namespace Grouping

variable [BEq α] {pairs done todo : List (α × α)} {grouping : Grouping α}

/-- What holds of a grouping of closed pairs, of which some are done. The pairs that are done
come in order, so the smallest member of a class leads it. -/
structure Led (pairs done : List (α × α)) (grouping : Grouping α) : Prop extends
    Sound grouping where
  /-- Whoever stands in a pair has a root. -/
  met : ∀ member, grouping.rootOf member ≠ none ↔
    ∃ pair ∈ done, member = pair.1 ∨ member = pair.2
  /-- A root is the smallest member of the class. -/
  least : ∀ member root, grouping.rootOf member = some root →
    IsLeast (classIn pairs member) root
  /-- A member came to its root in a pair of the two. -/
  joined : ∀ root member, member ∈ grouping.beside root → (root, member) ∈ done
  /-- The members came to the root in order. -/
  inOrder : ∀ root, (grouping.beside root).Pairwise (· < ·)

/-- A first member without a root is the smallest of its class: in a pair with a smaller
one it would have been met before. -/
theorem Led.isLeast_of_unmet {first second : α} (closed : Closed (done ++ (first, second) :: todo))
    (led : Led (done ++ (first, second) :: todo) done grouping)
    (unmet : grouping.rootOf first = none) :
    IsLeast (classIn (done ++ (first, second) :: todo) first) first := by
  refine ⟨Or.inl rfl, ?_⟩
  rintro other (rfl | linked)
  · exact le_rfl
  · by_contra smaller
    have listed := closed.mem_of_linked linked (not_le.mp smaller)
    have before : Before (other, first) (first, second) :=
      before_iff.mpr (Or.inl (not_le.mp smaller))
    have earlier := closed.mem_done listed before
    exact (led.met first).mpr ⟨_, earlier, Or.inr rfl⟩ unmet

/-- The leader of a pair is the smallest of the first member's class. -/
theorem Led.isLeast_leader {first second : α} (closed : Closed (done ++ (first, second) :: todo))
    (led : Led (done ++ (first, second) :: todo) done grouping) :
    IsLeast (classIn (done ++ (first, second) :: todo) first) (grouping.leader first) := by
  cases known : grouping.rootOf first with
  | none =>
    rw [leader, known]
    exact led.isLeast_of_unmet closed known
  | some root =>
    rw [leader, known]
    exact led.least first root known

/-- Who joins does so in a pair with the leader itself: had the leader another pair with
the newcomer, that pair would have come before. -/
theorem Led.leader_eq {first second : α} (closed : Closed (done ++ (first, second) :: todo))
    (led : Led (done ++ (first, second) :: todo) done grouping)
    (joins : grouping.Joins first second) : grouping.leader first = first := by
  obtain ⟨inClass, below⟩ := led.isLeast_leader closed
  cases inClass with
  | inl same => exact same
  | inr linked =>
    exfalso
    have listed : (first, second) ∈ done ++ (first, second) :: todo := by simp
    have smaller : grouping.leader first < first :=
      lt_of_le_of_ne (below (Or.inl rfl)) (closed.ne_of_linked linked)
    have different : grouping.leader first ≠ second :=
      (smaller.trans (closed.ordered _ listed)).ne
    have further : Linked (done ++ (first, second) :: todo) (grouping.leader first) second :=
      closed.transitive _ first second linked (Or.inl listed) different
    have before : Before (grouping.leader first, second) (first, second) :=
      before_iff.mpr (Or.inl smaller)
    have earlier := closed.mem_done
      (closed.mem_of_linked further (smaller.trans (closed.ordered _ listed))) before
    exact (led.met second).mpr ⟨_, earlier, Or.inr rfl⟩ joins.2

/-- Before any pair is done, nobody was met. -/
theorem led_empty (pairs : List (α × α)) : Led pairs [] (empty : Grouping α) where
  toSound := sound_empty
  met := by simp [rootOf, empty]
  least := by rintro _ _ ⟨⟩
  joined := by simp [beside, empty, othersIn]
  inOrder := by simp [beside, empty, othersIn]

variable [LawfulBEq α]

/-- One pair more of the closed ones. If the second member joins, it does so behind
everybody who came to the same leader before. -/
theorem Led.link {first second : α} (closed : Closed (done ++ (first, second) :: todo))
    (led : Led (done ++ (first, second) :: todo) done grouping) :
    Led (done ++ (first, second) :: todo) (done ++ [(first, second)])
      (grouping.link (first, second)) where
  toSound := led.toSound.link (first, second)
  met := by
    intro member
    rw [rootOf_link_ne_none, led.met]
    simp [or_and_right, exists_or]
  least := by
    intro member root known
    rcases rootOf_link_eq_some.mp known with before | ⟨unmet, rfl, rfl⟩ | ⟨joins, rfl, rfl⟩
    · exact led.least member root before
    · exact led.isLeast_of_unmet closed unmet
    · have linked : Linked (done ++ (first, member) :: todo) first member := Or.inl (by simp)
      rw [← closed.classIn_eq linked]
      exact led.isLeast_leader closed
  joined := by
    intro root member
    rw [beside_link]
    split
    · next joined =>
      rw [joined.2, led.leader_eq closed joined.1]
      intro listed
      cases List.mem_append.mp listed with
      | inl before => exact List.mem_append_left _ (led.joined first member before)
      | inr new =>
        rw [List.mem_singleton.mp new]
        simp
    · intro before
      exact List.mem_append_left _ (led.joined root member before)
  inOrder := by
    intro root
    rw [beside_link]
    split
    · next joined =>
      rw [joined.2, led.leader_eq closed joined.1]
      refine List.pairwise_append.mpr ⟨led.inOrder first, List.pairwise_singleton _ _, ?_⟩
      intro member here other new
      rw [List.mem_singleton.mp new]
      have earlier : (first, member) ∈ done := led.joined first member here
      have before : Before (first, member) (first, second) :=
        (List.pairwise_append.mp closed.ascending).2.2 _ earlier _ List.mem_cons_self
      rcases before_iff.mp before with smaller | ⟨_, smaller⟩
      · exact absurd smaller (lt_irrefl first)
      · exact smaller
    · exact led.inOrder root

/-- The grouping of closed pairs. -/
theorem led_ofPairs (closed : Closed pairs) : Led pairs pairs (ofPairs pairs) := by
  apply ofPairs_induction (led_empty pairs)
  rintro done ⟨first, second⟩ todo grouping rfl led
  exact led.link closed

end Grouping

omit [LinearOrder α] in
/-- Of lists that have nothing in common, a member stands in one. -/
theorem eq_of_nodup_flatten {classes : List (List α)} (disjoint : classes.flatten.Nodup)
    {one other : List α} (oneListed : one ∈ classes) (otherListed : other ∈ classes) {member : α}
    (inOne : member ∈ one) (inOther : member ∈ other) : one = other := by
  by_contra different
  have apart := (List.nodup_flatten.mp disjoint).2
  have symmetric : Std.Symm (@List.Disjoint α) := ⟨fun _ _ disjoint => disjoint.symm⟩
  exact apart.forall oneListed otherListed different inOne inOther

/-- What shares a class with one member shares it with all of them. -/
theorem Partitions.eq_of_mem {related : α → α → Prop} {classes : List (List α)}
    (partitions : Partitions related classes) {one other : List α} (oneListed : one ∈ classes)
    (otherListed : other ∈ classes) {member : α} (inOne : member ∈ one)
    (inOther : member ∈ other) : one = other :=
  eq_of_nodup_flatten partitions.disjoint oneListed otherListed inOne inOther

/-- Relations that differ at most on the diagonal have the same classes. -/
theorem Partitions.congr {related other : α → α → Prop} {classes : List (List α)}
    (partitions : Partitions related classes)
    (same : ∀ first second, first ≠ second → (related first second ↔ other first second)) :
    Partitions other classes :=
  { partitions with
    shared := fun first second different =>
      (partitions.shared first second different).trans (same first second different) }

open Grouping

/-- Sorted by their roots, groups ascend strictly if no root has two. The sort ascends weakly,
and equal roots would be the same root twice. -/
theorem sorted_roots {classes : List (Class α)} (distinct : (classes.map Class.root).Nodup)
    {before : α → α → Bool}
    (order : ∀ first second, before first second = true ↔ first ≤ second) :
    (classes.mergeSort fun first second => before first.root second.root).Pairwise
      fun first second => first.root < second.root := by
  have weakly : (classes.mergeSort fun first second => before first.root second.root).Pairwise
      fun first second => before first.root second.root := by
    apply List.pairwise_mergeSort
    · intro first second third
      rw [order, order, order]
      exact le_trans
    · intro first second
      rw [Bool.or_eq_true, order, order]
      exact le_total _ _
  have permuted := (List.mergeSort_perm classes
    fun first second => before first.root second.root).map Class.root
  have different := List.pairwise_map.mp (permuted.nodup_iff.mpr distinct)
  apply (weakly.and different).imp
  rintro first second ⟨notAfter, notSame⟩
  exact lt_of_le_of_ne ((order _ _).mp notAfter) notSame

variable [BEq α] [LawfulBEq α] {pairs : List (α × α)}

/-- Two share a group of closed pairs just as the pairs say. A shared root is the smallest of
both their classes, and linked members have one class with one smallest member. -/
theorem shared_iff_linked (closed : Closed pairs) {first second : α} (different : first ≠ second) :
    (∃ group ∈ (ofPairs pairs).classes, first ∈ group.members ∧ second ∈ group.members) ↔
      Linked pairs first second := by
  have led := led_ofPairs closed
  rw [led.toSound.shared_iff different]
  constructor
  · rintro ⟨root, firstRoot, secondRoot⟩
    exact closed.linked_of_isLeast (led.least _ _ firstRoot) (led.least _ _ secondRoot) different
  · intro linked
    have rooted {one two : α} (linked : Linked pairs one two) :
        ∃ root, (ofPairs pairs).rootOf one = some root := by
      apply Option.ne_none_iff_exists'.mp
      rw [led.met]
      cases linked with
      | inl listed => exact ⟨_, listed, Or.inl rfl⟩
      | inr listed => exact ⟨_, listed, Or.inr rfl⟩
    obtain ⟨root, firstRoot⟩ := rooted linked
    obtain ⟨other, secondRoot⟩ := rooted linked.symm
    have firstLeast := led.least first root firstRoot
    rw [closed.classIn_eq linked] at firstLeast
    obtain rfl : root = other := firstLeast.unique (led.least second other secondRoot)
    exact ⟨root, firstRoot, secondRoot⟩

/-- A group of closed pairs ascends from its root. -/
theorem members_ascending (closed : Closed pairs) {group : Class α}
    (listed : group ∈ (ofPairs pairs).classes) : group.members.Pairwise (· < ·) := by
  have led := led_ofPairs closed
  rw [Class.members, List.pairwise_cons, others_eq_othersIn led.distinct listed]
  refine ⟨?_, led.inOrder group.root⟩
  intro member inside
  exact closed.ordered _ (led.joined group.root member inside)

/-- After all pairs of a closed list, the root of a class is its smallest member. -/
theorem isLeast_root (closed : Closed pairs) {group : Class α}
    (listed : group ∈ (ofPairs pairs).classes) :
    IsLeast {member | member ∈ group.members} group.root := by
  refine ⟨List.mem_cons_self, ?_⟩
  intro member inside
  rcases List.mem_cons.mp inside with rfl | other
  · exact le_rfl
  · exact (List.rel_of_pairwise_cons (members_ascending closed listed) other).le

/-- Nothing is in two classes or twice in one, whatever the pairs: a member has one root, and
each class its own. -/
theorem nodup_flatten_collect (pairs : List (α × α)) {before : α → α → Bool}
    (order : ∀ first second, before first second = true ↔ first ≤ second) :
    (collect before pairs).flatten.Nodup := by
  have sound := sound_ofPairs pairs
  rw [collect, List.nodup_flatten, List.pairwise_map]
  constructor
  · intro members inside
    obtain ⟨group, grouped, rfl⟩ := List.mem_map.mp inside
    exact sound.nodup_members (List.mem_mergeSort.mp grouped)
  · apply (sorted_roots sound.distinct order).imp_of_mem
    intro first second firstGrouped secondGrouped smaller member firstMember secondMember
    rw [List.mem_mergeSort] at firstGrouped secondGrouped
    have firstRoot := (sound.mem_members firstGrouped).mp firstMember
    have secondRoot := (sound.mem_members secondGrouped).mp secondMember
    rw [firstRoot] at secondRoot
    exact smaller.ne (Option.some.inj secondRoot)

/-- The classes of closed pairs are those of the relation that the pairs spell out. Each part
comes from what leads the classes after the last pair. -/
theorem partitions_collect (closed : Closed pairs) {before : α → α → Bool}
    (order : ∀ first second, before first second = true ↔ first ≤ second) :
    Partitions (Linked pairs) (collect before pairs) := by
  have led := led_ofPairs closed
  constructor
  · intro first second different
    rw [← shared_iff_linked closed different]
    simp [mem_collect]
  · exact nodup_flatten_collect pairs order
  · intro members listed
    exact two_le_length_collect listed
  · intro members listed
    obtain ⟨group, grouped, rfl⟩ := mem_collect.mp listed
    exact members_ascending closed grouped
  · rw [collect, List.pairwise_map]
    apply (sorted_roots led.distinct order).imp_of_mem
    intro first second firstGrouped secondGrouped smaller
    rw [List.mem_mergeSort] at firstGrouped secondGrouped
    exact ⟨first.root, second.root, isLeast_root closed firstGrouped,
      isLeast_root closed secondGrouped, smaller⟩

end Clausal
