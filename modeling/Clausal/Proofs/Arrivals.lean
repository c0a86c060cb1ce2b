import Clausal.Proofs.RoundTrip

/-!
# Classes of pairs in any order

Pairs may come in any order, more than once and either way round, a member may stand beside
itself, and the relation that they spell out may have gaps. Then the classes need not be the
components of the pairs, since two classes that have begun are never merged. What decides is
how a member comes up for the first time. If it is the second one of a pair with somebody else,
that one brings it, and from then on the two have the same root. Everybody else is a root, which
has a class as soon as somebody is brought into it.

So the classes are made by the arrivals. An arrival is a pair, which means that a chain of pairs
connects any two members of a class. Pairs of members that were all met before bring nobody and
leave the classes as they are.

The converse is not said, and does not hold: members that pairs connect may be in two classes or
in none.
-/

namespace Clausal

section Arrivals

variable {α : Type} {pairs done more : List (α × α)} {first second third : α}

/-- The second one comes up for the first time in a pair of the two. -/
def Brings (pairs : List (α × α)) (first second : α) : Prop :=
  ∃ before after, pairs = before ++ (first, second) :: after ∧ second ≠ first ∧
    second ∉ members before

/-- A chain of arrivals, each of them gone along in either direction, leads from the one to
the other. -/
def Companions (pairs : List (α × α)) : α → α → Prop := Relation.EqvGen (Brings pairs)

/-- Pairs that are appended name their members after those of the pairs before. -/
theorem members_append (done more : List (α × α)) :
    members (done ++ more) = members done ++ members more := List.flatMap_append

/-- Who brings somebody does so in a pair of the list. -/
theorem Brings.listed (brings : Brings pairs first second) : (first, second) ∈ pairs := by
  obtain ⟨before, after, rfl, _⟩ := brings
  simp

/-- Who has come up has done so, whatever comes later. -/
theorem Brings.append (brings : Brings done first second) (more : List (α × α)) :
    Brings (done ++ more) first second := by
  obtain ⟨before, after, rfl, different, new⟩ := brings
  exact ⟨before, after ++ more, by simp, different, new⟩

/-- A further pair brings its second member if nobody has met it. The pairs before it bring whom
they brought. -/
theorem brings_append_singleton {one other : α} :
    Brings (done ++ [(one, other)]) first second ↔
      Brings done first second ∨
        first = one ∧ second = other ∧ other ≠ one ∧ other ∉ members done := by
  constructor
  · rintro ⟨before, after, split, different, new⟩
    rcases List.eq_nil_or_concat after with rfl | ⟨rest, last, rfl⟩
    · obtain ⟨rfl, same⟩ := List.append_inj' split rfl
      obtain ⟨rfl, rfl⟩ := Prod.mk.inj (List.cons.inj same).1
      exact Or.inr ⟨rfl, rfl, different, new⟩
    · have split : done ++ [(one, other)] = (before ++ (first, second) :: rest) ++ [last] := by
        simpa using split
      obtain ⟨rfl, _⟩ := List.append_inj' split rfl
      exact Or.inl ⟨before, rest, rfl, different, new⟩
  · rintro (brings | ⟨rfl, rfl, different, new⟩)
    · exact brings.append _
    · exact ⟨done, [], rfl, different, new⟩

namespace Companions

/-- Who is brought is a companion of who brings them. -/
theorem of_brings (brings : Brings pairs first second) : Companions pairs first second :=
  Relation.EqvGen.rel first second brings

/-- Everybody is their own companion, also who stands in no pair. -/
theorem refl (member : α) : Companions pairs member member := Relation.EqvGen.refl member

/-- Companions are companions of one another. -/
theorem symm (companions : Companions pairs first second) : Companions pairs second first :=
  Relation.EqvGen.symm first second companions

/-- Companions of companions are companions. -/
theorem trans (earlier : Companions pairs first second) (later : Companions pairs second third) :
    Companions pairs first third :=
  Relation.EqvGen.trans first second third earlier later

/-- More pairs separate nobody: an arrival among the first of them is one among all. -/
theorem append (companions : Companions done first second) (more : List (α × α)) :
    Companions (done ++ more) first second :=
  Relation.EqvGen.mono (fun _ _ brings => Brings.append brings more) first second companions

/-- Arrivals go along pairs, so they do not lead out of a component. -/
theorem mem_component (companions : Companions pairs first second) :
    second ∈ component pairs first := by
  induction companions with
  | rel first second brings => exact Relation.ReflTransGen.single (Or.inl brings.listed)
  | refl first => exact Relation.ReflTransGen.refl
  | symm first second _ reached =>
    have symmetric : Std.Symm (Linked pairs) := ⟨fun _ _ => Linked.symm⟩
    exact Relation.ReflTransGen.stdSymm.symm first second reached
  | trans first second third _ _ reached further => exact reached.trans further

/-- Who has a companion stands in the pairs. -/
theorem mem_members (companions : Companions pairs first second) (different : first ≠ second) :
    first ∈ members pairs := by
  rcases Relation.ReflTransGen.cases_head companions.mem_component with same | ⟨next, linked, _⟩
  · exact absurd same different
  · exact Clausal.mem_members.mpr ⟨next, linked⟩

end Companions

end Arrivals

namespace Grouping

variable {α : Type} [BEq α] [LawfulBEq α] [DecidableEq α] {pairs done : List (α × α)}
  {grouping : Grouping α}

/-- What holds of a grouping of pairs in any order, of which some are done. -/
structure Kept (done : List (α × α)) (grouping : Grouping α) : Prop extends Sound grouping where
  /-- Whoever stands in a pair has a root. -/
  met : ∀ member, grouping.rootOf member ≠ none ↔ member ∈ members done
  /-- Arrivals lead from a member to its root. -/
  companions : ∀ member root, grouping.rootOf member = some root → Companions done member root
  /-- Who is brought has the root of who brought it. -/
  followed : ∀ first second, Brings done first second →
    grouping.rootOf second = grouping.rootOf first

omit [LawfulBEq α] in
/-- Without pairs nobody was met, so nothing is to be kept. -/
theorem kept_empty : Kept [] (empty : Grouping α) where
  toSound := sound_empty
  met := by simp [rootOf, empty, members]
  companions := by rintro _ _ ⟨⟩
  followed := by
    rintro _ _ ⟨before, after, split, _⟩
    simp at split

omit [LawfulBEq α] in
/-- Who joins is who is met for the first time. -/
theorem Kept.joins_iff (kept : Kept done grouping) {first second : α} :
    grouping.Joins first second ↔ second ≠ first ∧ second ∉ members done := by
  rw [Joins, ← kept.met second, not_ne_iff]

omit [LawfulBEq α] in
/-- Arrivals lead from a member to the one that leads its pairs. -/
theorem Kept.companions_leader (kept : Kept done grouping) (member : α) :
    Companions done member (grouping.leader member) := by
  cases known : grouping.rootOf member with
  | none =>
    rw [leader, known]
    exact Companions.refl member
  | some root =>
    rw [leader, known]
    exact kept.companions member root known

/-- One pair more: a newcomer gets the root of the first member, and nobody who has a root gets
another one. -/
theorem Kept.link (kept : Kept done grouping) (pair : α × α) :
    Kept (done ++ [pair]) (grouping.link pair) := by
  obtain ⟨one, other⟩ := pair
  constructor
  · exact kept.toSound.link (one, other)
  · intro member
    rw [rootOf_link_ne_none, kept.met, members_append, List.mem_append]
    simp [members]
  · intro member root known
    rcases rootOf_link_eq_some.mp known with before | ⟨_, rfl, rfl⟩ | ⟨joins, rfl, rfl⟩
    · exact (kept.companions member root before).append _
    · exact Companions.refl root
    · obtain ⟨different, new⟩ := kept.joins_iff.mp joins
      have brings : Brings (done ++ [(one, member)]) one member :=
        brings_append_singleton.mpr (Or.inr ⟨rfl, rfl, different, new⟩)
      exact (Companions.of_brings brings).symm.trans ((kept.companions_leader one).append _)
  · intro first second brings
    rcases brings_append_singleton.mp brings with before | ⟨rfl, rfl, different, new⟩
    · -- Both were met before, so both keep the root that they share.
      have met : grouping.rootOf first ≠ none :=
        (kept.met first).mpr (mem_members.mpr ⟨second, Or.inl before.listed⟩)
      obtain ⟨root, known⟩ := Option.ne_none_iff_exists'.mp met
      have same : grouping.rootOf second = some root :=
        (kept.followed first second before).trans known
      rw [rootOf_link_eq_some.mpr (Or.inl known), rootOf_link_eq_some.mpr (Or.inl same)]
    · have joins : grouping.Joins first second := kept.joins_iff.mpr ⟨different, new⟩
      rw [rootOf_link_first]
      exact rootOf_link_eq_some.mpr (Or.inr (Or.inr ⟨joins, rfl, rfl⟩))

/-- The grouping of pairs in any order. -/
theorem kept_ofPairs (pairs : List (α × α)) : Kept pairs (ofPairs pairs) := by
  apply ofPairs_induction kept_empty
  intro done pair todo grouping _ kept
  exact kept.link pair

omit [LawfulBEq α] in
/-- Companions have one root. -/
theorem Kept.rootOf_eq (kept : Kept pairs grouping) {first second : α}
    (companions : Companions pairs first second) :
    grouping.rootOf first = grouping.rootOf second := by
  induction companions with
  | rel first second brings => exact (kept.followed first second brings).symm
  | refl first => rfl
  | symm first second _ same => exact same.symm
  | trans first second third _ _ same further => exact same.trans further

omit [LawfulBEq α] in
/-- Two share a class exactly if arrivals lead from the one to the other. Roots are led to by
arrivals, and arrivals keep the root. -/
theorem Kept.shared_iff (kept : Kept pairs grouping) {first second : α}
    (different : first ≠ second) :
    (∃ group ∈ grouping.classes, first ∈ group.members ∧ second ∈ group.members) ↔
      Companions pairs first second := by
  rw [kept.toSound.shared_iff different]
  constructor
  · rintro ⟨root, firstRoot, secondRoot⟩
    exact (kept.companions first root firstRoot).trans
      (kept.companions second root secondRoot).symm
  · intro companions
    have met : grouping.rootOf first ≠ none :=
      (kept.met first).mpr (companions.mem_members different)
    obtain ⟨root, known⟩ := Option.ne_none_iff_exists'.mp met
    exact ⟨root, known, (kept.rootOf_eq companions).symm.trans known⟩

/-- Pairs of members that were met before change nothing. The induction is on these pairs, and
each of them finds both of its members with a root. -/
theorem ofPairs_append_met {more : List (α × α)} (met : members more ⊆ members pairs) :
    ofPairs (pairs ++ more) = ofPairs pairs := by
  have kept := kept_ofPairs pairs
  rw [ofPairs, List.foldl_append, ← ofPairs]
  induction more with
  | nil => rfl
  | cons pair rest inductionHypothesis =>
    obtain ⟨first, second⟩ := pair
    have split : members ((first, second) :: rest) = first :: second :: members rest := rfl
    rw [split, List.cons_subset, List.cons_subset] at met
    obtain ⟨firstMet, secondMet, restMet⟩ := met
    rw [List.foldl_cons, link_eq_self ((kept.met first).mpr firstMet)
      ((kept.met second).mpr secondMet)]
    exact inductionHypothesis restMet

end Grouping

open Grouping

/-- The lists are the classes that the arrivals make. Unlike the classes of closed pairs they
need not ascend within, and not all that pairs connect is in one class. -/
structure Gathers {α : Type} [LT α] (pairs : List (α × α)) (classes : List (List α)) : Prop where
  /-- Nothing is in two classes or twice in one. -/
  disjoint : classes.flatten.Nodup
  /-- No class has a single member. -/
  proper : ∀ group ∈ classes, 2 ≤ group.length
  /-- The classes ascend by their first members. -/
  ordered : classes.Pairwise fun earlier later => ∃ first second,
    earlier.head? = some first ∧ later.head? = some second ∧ first < second
  /-- A chain of pairs connects any two members of a class. -/
  connected : ∀ group ∈ classes, ∀ first ∈ group, ∀ second ∈ group,
    second ∈ component pairs first
  /-- Two share a class if a chain of arrivals connects them. -/
  shared : ∀ first second, first ≠ second →
    ((∃ group ∈ classes, first ∈ group ∧ second ∈ group) ↔ Companions pairs first second)

/-- Whatever the pairs and their order, their classes are those of the arrivals. Chains of pairs
connect what arrivals do, but not the other way round. -/
theorem gathers_collect {α : Type} [LinearOrder α] [BEq α] [LawfulBEq α] (pairs : List (α × α))
    {before : α → α → Bool}
    (order : ∀ first second, before first second = true ↔ first ≤ second) :
    Gathers pairs (collect before pairs) := by
  have kept := kept_ofPairs pairs
  have shared (first second : α) (different : first ≠ second) :
      (∃ group ∈ collect before pairs, first ∈ group ∧ second ∈ group) ↔
        Companions pairs first second := by
    rw [← kept.shared_iff different]
    simp [mem_collect]
  constructor
  · exact nodup_flatten_collect pairs order
  · intro members listed
    exact two_le_length_collect listed
  · rw [collect, List.pairwise_map]
    apply (sorted_roots kept.distinct order).imp
    intro first second smaller
    exact ⟨first.root, second.root, rfl, rfl, smaller⟩
  · intro group listed first firstInside second secondInside
    by_cases same : first = second
    · exact same ▸ Relation.ReflTransGen.refl
    · have companions : Companions pairs first second :=
        (shared first second same).mp ⟨group, listed, firstInside, secondInside⟩
      exact companions.mem_component
  · exact shared

/-- Any loose list of integer pairs has classes. They do not overlap, have two members or more
and ascend by their first ones, and two integers share a class only if a chain of the pairs
connects them, exactly if a chain of arrivals does. Further pairs of integers that the list has
already leave the classes as they are. -/
theorem integer_pairs_gathered (pairs : List (Int × Int)) :
    ∃ classes : List (List Int),
      collectLoose (.list (pairs.map Datum.ofPair)) = .ok (classes.map (List.map Datum.whole)) ∧
        Gathers pairs classes ∧
          ∀ further : List (Int × Int), members further ⊆ members pairs →
            collectLoose (.list ((pairs ++ further).map Datum.ofPair)) =
              .ok (classes.map (List.map Datum.whole)) := by
  refine ⟨_, collectLoose_pairs pairs, gathers_collect pairs fun _ _ => decide_eq_true_iff, ?_⟩
  intro further met
  rw [collectLoose_pairs, collect, collect, ofPairs_append_met met]

/-- Pairs out of order: one of a member with itself, one both ways round, one twice. The last
one connects two classes that have begun. -/
def scattered : List (Int × Int) :=
  [(5, 5), (4, 1), (1, 4), (-2, 5), (7, -2), (-2, 9), (9, 3), (9, 3), (3, 1)]

/-- Other pairs of the same members. -/
def reunions : List (Int × Int) := [(5, 7), (1, 9), (7, 7)]

/-- The two classes are not merged. Five and seven are in none: they stand beside members of a
class, but neither brings anybody nor is brought. The reunions change nothing. -/
theorem scattered_unmoved_by_reunions :
    members reunions ⊆ members scattered ∧ Gathers scattered [[-2, 9, 3], [4, 1]] ∧
      collectLoose (.list ((scattered ++ reunions).map Datum.ofPair)) =
        .ok ([[-2, 9, 3], [4, 1]].map (List.map Datum.whole)) := by
  have met : members reunions ⊆ members scattered := by decide
  have made : collectLoose (.list (scattered.map Datum.ofPair)) =
      .ok ([[-2, 9, 3], [4, 1]].map (List.map Datum.whole)) := rfl
  obtain ⟨classes, collected, gathers, unmoved⟩ := integer_pairs_gathered scattered
  obtain rfl : classes = [[-2, 9, 3], [4, 1]] :=
    Datum.whole_injective.list_map.list_map (Except.ok.inj (collected.symm.trans made))
  exact ⟨met, gathers, unmoved reunions met⟩

end Clausal
