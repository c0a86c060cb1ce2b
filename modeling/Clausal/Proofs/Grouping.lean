import Clausal.Grouping
import Mathlib.Data.List.Nodup
import Mathlib.Tactic.ByContra

/-!
# What grouping keeps, whatever the pairs

A grouping is read in two ways: the root of a member, and the members beside a root. Both
change by one equation each when a pair is taken in, so nothing outside this module looks
at how roots and classes are stored.

Whatever the pairs and their order, a root is its own root, and the members beside it are
those that have it as their root. A member that has a root keeps it.
-/

namespace Clausal

namespace Grouping

variable {α : Type} [BEq α] [LawfulBEq α] [DecidableEq α]

/-- The root of a member, if it was met. -/
def rootOf (grouping : Grouping α) (member : α) : Option α := grouping.roots.lookup member

/-- The other members of a root's class. -/
def othersIn (root : α) : List (Class α) → List α
  | [] => []
  | group :: rest => if group.root = root then group.others else othersIn root rest

/-- The members beside a root. -/
def beside (grouping : Grouping α) (root : α) : List α := othersIn root grouping.classes

/-- The roots that have a class, in the order in which the classes began. -/
def begun (grouping : Grouping α) : List α := grouping.classes.map Class.root

/-- Joining a class changes the members beside its root and no others. The induction is on the
classes; the new member comes last among those of its root. -/
theorem othersIn_join (root member other : α) (classes : List (Class α)) :
    othersIn other (join root member classes) =
      if other = root then othersIn other classes ++ [member] else othersIn other classes := by
  induction classes with
  | nil =>
    by_cases same : other = root
    · simp [join, othersIn, same]
    · simp [join, othersIn, same, Ne.symm same]
  | cons group rest inductionHypothesis =>
    by_cases here : group.root = root
    · by_cases same : other = root
      · simp [join, othersIn, here, same]
      · simp [join, othersIn, here, same, Ne.symm same]
    · by_cases there : group.root = other
      · have different : ¬other = root := there ▸ here
        simp [join, othersIn, there, different]
      · simp [join, othersIn, here, there, inductionHypothesis]

/-- Joining a class begins it if there is none yet. The classes that have begun keep their order. -/
theorem map_root_join (root member : α) (classes : List (Class α)) :
    (join root member classes).map Class.root =
      if root ∈ classes.map Class.root then classes.map Class.root
      else classes.map Class.root ++ [root] := by
  induction classes with
  | nil => simp [join]
  | cons group rest inductionHypothesis =>
    by_cases here : group.root = root
    · simp [join, here]
    · by_cases later : root ∈ rest.map Class.root
      · simp only [join, beq_iff_eq, here, if_false, List.map_cons, inductionHypothesis, later,
          if_true, List.mem_cons, or_true]
      · simp only [join, beq_iff_eq, here, if_false, List.map_cons, inductionHypothesis, later,
          List.mem_cons, Ne.symm here, or_self, List.cons_append]

omit [BEq α] [LawfulBEq α] in
/-- Where every root has one class, a class is what its root says. So a statement about roots is
one about classes. -/
theorem others_eq_othersIn {classes : List (Class α)} (distinct : (classes.map Class.root).Nodup)
    {group : Class α} (member : group ∈ classes) : group.others = othersIn group.root classes := by
  induction classes with
  | nil => cases member
  | cons head rest inductionHypothesis =>
    obtain ⟨notLater, restDistinct⟩ := List.nodup_cons.mp distinct
    rcases List.mem_cons.mp member with rfl | later
    · simp [othersIn]
    · have different : head.root ≠ group.root := by
        intro same
        exact notLater (same ▸ List.mem_map_of_mem later)
      rw [othersIn, if_neg different]
      exact inductionHypothesis restDistinct later

/-- The root that the first member of a pair has once the pair is taken in. -/
def leader (grouping : Grouping α) (first : α) : α := (grouping.rootOf first).getD first

/-- What is added to the roots is found where nothing was before. -/
theorem lookup_added (roots : List (α × α)) (added root member : α) :
    (roots ++ [(added, root)]).lookup member =
      (roots.lookup member).or (if member = added then some root else none) := by
  rw [List.lookup_append]
  by_cases same : member = added
  · simp [same]
  · have different : (member == added) = false := beq_eq_false_iff_ne.mpr same
    simp [List.lookup_cons, same, different]

/-- Taking in a pair first makes its first member a root unless it has one. The root that comes
of it leads the pair. -/
theorem rooted_spec (grouping : Grouping α) (first : α) :
    (grouping.rooted first).1 = grouping.leader first ∧
      ∀ member, (grouping.rooted first).2.lookup member =
        (grouping.rootOf member).or (if member = first then some first else none) := by
  unfold rooted leader rootOf
  cases known : grouping.roots.lookup first with
  | none => exact ⟨rfl, lookup_added grouping.roots first first⟩
  | some root =>
    refine ⟨rfl, ?_⟩
    intro member
    by_cases same : member = first
    · simp [same, known]
    · simp [same]

/-- The second member of a pair joins a class if it has no root, unless it is the first
member itself. -/
def Joins (grouping : Grouping α) (first second : α) : Prop :=
  second ≠ first ∧ grouping.rootOf second = none

/-- Whether two members are joined can be seen from their roots. -/
instance (grouping : Grouping α) (first second : α) : Decidable (grouping.Joins first second) :=
  inferInstanceAs (Decidable (_ ∧ _))

/-- The second member is looked at after the first one has its root, so a member paired with
itself joins nobody. -/
theorem link_eq (grouping : Grouping α) (first second : α) :
    grouping.link (first, second) =
      if grouping.Joins first second then
        ⟨(grouping.rooted first).2 ++ [(second, grouping.leader first)],
          join (grouping.leader first) second grouping.classes⟩
      else { grouping with roots := (grouping.rooted first).2 } := by
  obtain ⟨leads, found⟩ := grouping.rooted_spec first
  unfold link
  simp only [leads, found]
  by_cases joins : grouping.Joins first second
  · rw [if_pos joins]
    simp [joins.1, joins.2]
  · rw [if_neg joins]
    by_cases same : second = first
    · cases grouping.rootOf first <;> simp [same]
    · have known : grouping.rootOf second ≠ none := fun unknown => joins ⟨same, unknown⟩
      obtain ⟨root, known⟩ := Option.ne_none_iff_exists'.mp known
      simp [known]

/-- Taking in a pair gives roots to its members where they have none, and changes no root that
was given before. Classes are never merged. -/
theorem rootOf_link (grouping : Grouping α) (first second member : α) :
    (grouping.link (first, second)).rootOf member = (grouping.rootOf member).or
      (if member = first then some first
      else if member = second then some (grouping.leader first) else none) := by
  obtain ⟨_, found⟩ := grouping.rooted_spec first
  rw [link_eq]
  by_cases joins : grouping.Joins first second
  · rw [if_pos joins]
    change ((grouping.rooted first).2 ++ [(second, grouping.leader first)]).lookup member = _
    rw [lookup_added, found, Option.or_assoc]
    by_cases isFirst : member = first <;> simp [isFirst]
  · rw [if_neg joins]
    change (grouping.rooted first).2.lookup member = _
    rw [found]
    by_cases isFirst : member = first
    · simp [isFirst]
    · by_cases isSecond : member = second
      · have known : grouping.rootOf second ≠ none := by
          intro unknown
          exact joins ⟨isSecond ▸ isFirst, unknown⟩
        obtain ⟨root, known⟩ := Option.ne_none_iff_exists'.mp known
        simp [isSecond, known]
      · simp [isFirst, isSecond]

/-- A pair of members that have their roots changes nothing. -/
theorem link_eq_self {grouping : Grouping α} {first second : α}
    (firstMet : grouping.rootOf first ≠ none) (secondMet : grouping.rootOf second ≠ none) :
    grouping.link (first, second) = grouping := by
  obtain ⟨root, known⟩ := Option.ne_none_iff_exists'.mp firstMet
  have rooted : grouping.rooted first = (root, grouping.roots) := by
    unfold Grouping.rooted
    rw [show grouping.roots.lookup first = some root from known]
  rw [link_eq, if_neg fun joins => secondMet joins.2, rooted]

/-- The three ways in which a member can have a root after a pair was taken in. -/
theorem rootOf_link_eq_some {grouping : Grouping α} {first second member root : α} :
    (grouping.link (first, second)).rootOf member = some root ↔
      grouping.rootOf member = some root ∨
        grouping.rootOf member = none ∧ member = first ∧ root = first ∨
        grouping.Joins first second ∧ member = second ∧ root = grouping.leader first := by
  rw [rootOf_link, Joins]
  cases known : grouping.rootOf member with
  | some old => grind
  | none => grind

/-- The first member of a pair then has its leader as its root. -/
theorem rootOf_link_first (grouping : Grouping α) (first second : α) :
    (grouping.link (first, second)).rootOf first = some (grouping.leader first) := by
  rw [rootOf_link, leader]
  cases grouping.rootOf first <;> simp

/-- After a pair was taken in, its members have roots and nobody has lost one. -/
theorem rootOf_link_ne_none {grouping : Grouping α} {first second member : α} :
    (grouping.link (first, second)).rootOf member ≠ none ↔
      grouping.rootOf member ≠ none ∨ member = first ∨ member = second := by
  rw [rootOf_link]
  cases grouping.rootOf member with
  | some old => simp
  | none => by_cases isFirst : member = first <;> simp [isFirst]

/-- Taking in a pair changes what is beside its leader, if the second member joins. -/
theorem beside_link (grouping : Grouping α) (first second root : α) :
    (grouping.link (first, second)).beside root =
      if grouping.Joins first second ∧ root = grouping.leader first then
        grouping.beside root ++ [second]
      else grouping.beside root := by
  unfold beside
  rw [link_eq]
  by_cases joins : grouping.Joins first second
  · rw [if_pos joins]
    simp only [joins, true_and]
    exact othersIn_join (grouping.leader first) second root grouping.classes
  · simp [joins]

/-- Taking in a pair begins the class of its leader, if there is none yet and the second
member joins. -/
theorem begun_link (grouping : Grouping α) (first second : α) :
    (grouping.link (first, second)).begun =
      if grouping.Joins first second ∧ grouping.leader first ∉ grouping.begun then
        grouping.begun ++ [grouping.leader first]
      else grouping.begun := by
  unfold begun
  rw [link_eq]
  by_cases joins : grouping.Joins first second
  · rw [if_pos joins]
    simp only [joins, true_and]
    rw [map_root_join]
    split <;> simp_all
  · simp [joins]

/-- What holds of a grouping whatever pairs it took in. -/
structure Sound (grouping : Grouping α) : Prop where
  /-- A root is its own root. -/
  fixed : ∀ member root, grouping.rootOf member = some root → grouping.rootOf root = some root
  /-- No root has two classes. -/
  distinct : grouping.begun.Nodup
  /-- A class has begun as soon as somebody is beside the root. -/
  begun_iff : ∀ root, root ∈ grouping.begun ↔ grouping.beside root ≠ []
  /-- Beside a root are the other members that have it as their root. -/
  mem_beside : ∀ root member, member ∈ grouping.beside root ↔
    grouping.rootOf member = some root ∧ member ≠ root
  /-- Nobody joins twice. -/
  nodup : ∀ root, (grouping.beside root).Nodup

omit [LawfulBEq α] in
/-- A grouping without members has nothing to get wrong. -/
theorem sound_empty : Sound (empty : Grouping α) where
  fixed := by rintro _ _ ⟨⟩
  distinct := List.nodup_nil
  begun_iff := by simp [begun, beside, empty, othersIn]
  mem_beside := by simp [beside, empty, othersIn, rootOf]
  nodup := by simp [beside, empty, othersIn]

omit [LawfulBEq α] in
/-- Who joins is not the leader: it has no root yet, and the leader is its own root by then. -/
theorem Sound.ne_leader {grouping : Grouping α} (sound : Sound grouping) {first second : α}
    (joins : grouping.Joins first second) : second ≠ grouping.leader first := by
  intro same
  cases known : grouping.rootOf first with
  | none =>
    rw [leader, known] at same
    exact joins.1 same
  | some root =>
    rw [leader, known] at same
    have fixed : grouping.rootOf root = some root := sound.fixed first root known
    rw [← show second = root from same, joins.2] at fixed
    cases fixed

/-- One pair more: the leader is its own root, and the members beside it are followed by
one that had no root before. -/
theorem Sound.link {grouping : Grouping α} (sound : Sound grouping) (pair : α × α) :
    Sound (grouping.link pair) := by
  obtain ⟨first, second⟩ := pair
  constructor
  · intro member root known
    rcases rootOf_link_eq_some.mp known with before | ⟨unknown, rfl, rfl⟩ | ⟨joins, rfl, rfl⟩
    · exact rootOf_link_eq_some.mpr (Or.inl (sound.fixed member root before))
    · exact known
    · cases leads : grouping.rootOf first with
      | none =>
        have isFirst : grouping.leader first = first := by rw [leader, leads]; rfl
        exact rootOf_link_eq_some.mpr (Or.inr (Or.inl (by simp [isFirst, leads])))
      | some root =>
        have isRoot : grouping.leader first = root := by rw [leader, leads]; rfl
        have fixed := sound.fixed first root leads
        exact rootOf_link_eq_some.mpr (Or.inl (by rw [isRoot, fixed]))
  · rw [begun_link]
    split
    · next new => exact List.nodup_append.mpr ⟨sound.distinct, by simp, by grind⟩
    · exact sound.distinct
  · intro root
    rw [begun_link, beside_link]
    have before := sound.begun_iff root
    by_cases joins : grouping.Joins first second
    · by_cases leads : root = grouping.leader first
      · by_cases old : grouping.leader first ∈ grouping.begun <;> simp [joins, leads, old]
      · by_cases old : grouping.leader first ∈ grouping.begun <;> simp [joins, leads, old, before]
    · simp [joins, before]
  · intro root member
    rw [beside_link, rootOf_link_eq_some]
    have before := sound.mem_beside root member
    by_cases joined : grouping.Joins first second ∧ root = grouping.leader first
    · have notLeader : second ≠ root := joined.2 ▸ sound.ne_leader joined.1
      rw [if_pos joined, List.mem_append, List.mem_singleton, before]
      grind
    · rw [if_neg joined, before]
      grind
  · intro root
    rw [beside_link]
    split
    · next joined =>
      have absent : second ∉ grouping.beside root := by
        intro member
        have known := ((sound.mem_beside root second).mp member).1
        rw [joined.1.2] at known
        cases known
      exact List.nodup_append.mpr ⟨sound.nodup root, by simp, by grind⟩
    · exact sound.nodup root

omit [LawfulBEq α] in
/-- The members of a class that was begun are those with its root. The root itself is one, since
a class begins with somebody beside it. -/
theorem Sound.mem_members {grouping : Grouping α} (sound : Sound grouping) {group : Class α}
    (listed : group ∈ grouping.classes) {member : α} :
    member ∈ group.members ↔ grouping.rootOf member = some group.root := by
  have others : group.others = grouping.beside group.root :=
    others_eq_othersIn sound.distinct listed
  have begun : group.root ∈ grouping.begun := List.mem_map_of_mem listed
  obtain ⟨other, inside⟩ := List.exists_mem_of_ne_nil _ ((sound.begun_iff _).mp begun)
  have rooted := ((sound.mem_beside _ _).mp inside).1
  have fixed : grouping.rootOf group.root = some group.root := sound.fixed other _ rooted
  rw [Class.members, List.mem_cons, others, sound.mem_beside]
  by_cases same : member = group.root
  · simp [same, fixed]
  · simp [same]

omit [LawfulBEq α] in
/-- A root that somebody else has leads a class. -/
theorem Sound.exists_class {grouping : Grouping α} (sound : Sound grouping) {member root : α}
    (known : grouping.rootOf member = some root) (different : member ≠ root) :
    ∃ group ∈ grouping.classes, group.root = root := by
  have inside : member ∈ grouping.beside root :=
    (sound.mem_beside root member).mpr ⟨known, different⟩
  have begun : root ∈ grouping.begun := (sound.begun_iff root).mpr (List.ne_nil_of_mem inside)
  exact List.mem_map.mp begun

omit [LawfulBEq α] in
/-- Two share a class exactly if they have the same root. A root alone has no class, but it does
not share one with anybody either. -/
theorem Sound.shared_iff {grouping : Grouping α} (sound : Sound grouping) {first second : α}
    (different : first ≠ second) :
    (∃ group ∈ grouping.classes, first ∈ group.members ∧ second ∈ group.members) ↔
      ∃ root, grouping.rootOf first = some root ∧ grouping.rootOf second = some root := by
  constructor
  · rintro ⟨group, listed, firstMember, secondMember⟩
    exact ⟨group.root, (sound.mem_members listed).mp firstMember,
      (sound.mem_members listed).mp secondMember⟩
  · rintro ⟨root, firstRoot, secondRoot⟩
    -- One of the two is not the root, so its class has begun.
    have begun : ∃ group ∈ grouping.classes, group.root = root := by
      by_cases isRoot : first = root
      · exact sound.exists_class secondRoot (isRoot ▸ different.symm)
      · exact sound.exists_class firstRoot isRoot
    obtain ⟨group, listed, rfl⟩ := begun
    exact ⟨group, listed, (sound.mem_members listed).mpr firstRoot,
      (sound.mem_members listed).mpr secondRoot⟩

omit [LawfulBEq α] in
/-- A class has a member beside its root. -/
theorem Sound.two_le_length {grouping : Grouping α} (sound : Sound grouping) {group : Class α}
    (listed : group ∈ grouping.classes) : 2 ≤ group.members.length := by
  have others : group.others = grouping.beside group.root :=
    others_eq_othersIn sound.distinct listed
  have nonempty : group.others ≠ [] :=
    others ▸ (sound.begun_iff group.root).mp (List.mem_map_of_mem listed)
  have positive : 0 < group.others.length := List.length_pos_iff.mpr nonempty
  rw [Class.members, List.length_cons]
  omega

omit [LawfulBEq α] in
/-- Nobody is twice in a class: the root is not beside itself. -/
theorem Sound.nodup_members {grouping : Grouping α} (sound : Sound grouping) {group : Class α}
    (listed : group ∈ grouping.classes) : group.members.Nodup := by
  have others : group.others = grouping.beside group.root :=
    others_eq_othersIn sound.distinct listed
  rw [Class.members, others, List.nodup_cons, sound.mem_beside]
  exact ⟨fun beside => beside.2 rfl, sound.nodup group.root⟩

omit [LawfulBEq α] [DecidableEq α] in
/-- What holds at the start and survives each pair, with what came before it and what is
still to come, holds at the end. The induction is on the pairs to come. -/
theorem ofPairs_induction {motive : List (α × α) → Grouping α → Prop} {pairs : List (α × α)}
    (start : motive [] empty)
    (step : ∀ done pair todo grouping, pairs = done ++ pair :: todo → motive done grouping →
      motive (done ++ [pair]) (grouping.link pair)) : motive pairs (ofPairs pairs) := by
  have onwards (todo : List (α × α)) : ∀ done grouping, pairs = done ++ todo →
      motive done grouping → motive pairs (todo.foldl Grouping.link grouping) := by
    induction todo with
    | nil =>
      intro done grouping split reached
      rw [split, List.append_nil]
      exact reached
    | cons pair rest inductionHypothesis =>
      intro done grouping split reached
      have further : pairs = done ++ [pair] ++ rest := by rw [split, List.append_assoc]; rfl
      exact inductionHypothesis _ _ further (step done pair rest grouping split reached)
  exact onwards pairs [] empty rfl start

/-- Whatever the pairs and their order, their grouping is sound. -/
theorem sound_ofPairs (pairs : List (α × α)) : Sound (ofPairs pairs) := by
  apply ofPairs_induction sound_empty
  intro done pair todo grouping _ sound
  exact sound.link pair

end Grouping

open Grouping

/-- What is collected are the members of the classes, in whatever order. -/
theorem mem_collect {α : Type} [BEq α] {before : α → α → Bool} {pairs : List (α × α)}
    {members : List α} :
    members ∈ collect before pairs ↔
      ∃ group ∈ (ofPairs pairs).classes, group.members = members := by
  simp [collect]

/-- No class has a single member, whatever the pairs. -/
theorem two_le_length_collect {α : Type} [BEq α] [LawfulBEq α] [DecidableEq α]
    {before : α → α → Bool} {pairs : List (α × α)} {members : List α}
    (listed : members ∈ collect before pairs) : 2 ≤ members.length := by
  obtain ⟨group, grouped, rfl⟩ := mem_collect.mp listed
  exact (sound_ofPairs pairs).two_le_length grouped

end Clausal
