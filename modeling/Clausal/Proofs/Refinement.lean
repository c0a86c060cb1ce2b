import Clausal.Proofs.AgreementClasses

/-!
# Clauses with fewer models

Clauses that lose models keep what is true in all of them. What was impossible stays
impossible and what was entailed stays entailed. If a model is left, a forced literal stays
forced the same way. Variables that were alike stay alike, but they may come to be forced,
and then they are forced alike and no longer count as agreeing; so an agreeing pair, or a
whole class, either stays together or is forced together.
-/

namespace Clausal

variable {before after : List Clause}

/-- The later clauses have no other models than the earlier ones, and they have some unless
they are the earlier ones. -/
structure Refines (before after : List Clause) : Prop where
  models : ∀ assignment, Models assignment after → Models assignment before
  consistent : after = before ∨ Satisfiable after []

/-- What can be assumed after a refinement could be assumed before. -/
theorem Refines.satisfiable (refines : Refines before after) {literals : List Literal}
    (satisfiable : Satisfiable after literals) : Satisfiable before literals := by
  obtain ⟨assignment, models, hold⟩ := satisfiable
  exact ⟨assignment, refines.models assignment models, hold⟩

/-- Extra clauses that leave a model after a refinement left one before. -/
theorem Refines.alongside (refines : Refines before after) {extra : List Clause}
    (satisfiable : Satisfiable (after ++ extra) []) : Satisfiable (before ++ extra) [] := by
  obtain ⟨assignment, models⟩ := satisfiable_nil_iff.mp satisfiable
  obtain ⟨models, extraModels⟩ := models_append.mp models
  exact satisfiable_nil_iff.mpr
    ⟨assignment, models_append.mpr ⟨refines.models assignment models, extraModels⟩⟩

/-- What was entailed stays entailed. -/
theorem Refines.entails (refines : Refines before after) {premise conclusion : Literal}
    (entails : Entails before premise conclusion) : Entails after premise conclusion :=
  fun assignment models => entails assignment (refines.models assignment models)

/-- Variables that were alike stay alike. -/
theorem Refines.alike (refines : Refines before after) {first second : Variable}
    (alike : Alike before first second) : Alike after first second :=
  fun assignment models => alike assignment (refines.models assignment models)

/-- A forced literal stays forced: it still cannot be false, and a model is left. -/
theorem Refines.forced (refines : Refines before after) {var : Variable} {literal : Literal}
    (forced : forcedUnder before var = some literal) : forcedUnder after var = some literal := by
  rcases refines.consistent with rfl | satisfiable
  · exact forced
  · have staysTrue : ¬Satisfiable after [-literal] := fun possible =>
      not_satisfiable_of_forcedUnder forced (refines.satisfiable possible)
    rw [← var_of_forcedUnder forced]
    exact forcedUnder_of_not_satisfiable satisfiable staysTrue

/-- A hard entailment is lost only where its conclusion is forced. -/
theorem Refines.entailsHard (refines : Refines before after) {premise conclusion : Literal}
    (hard : EntailsHard before premise conclusion) (lost : ¬EntailsHard after premise conclusion) :
    ¬Satisfiable after [-conclusion] :=
  fun possible => lost ⟨refines.entails hard.1, possible⟩

variable {clauses : List Clause} {first second : Variable}

/-- Variables that are alike are forced the same way. What the one can be in a model,
the other can be, too. -/
theorem Alike.forced (alike : Alike clauses first second) {positive : Bool}
    (forced : forcedUnder clauses first = some ⟨first, positive⟩) :
    forcedUnder clauses second = some ⟨second, positive⟩ := by
  have same (value : Bool) :
      Satisfiable clauses [⟨first, value⟩] ↔ Satisfiable clauses [⟨second, value⟩] := by
    rw [satisfiable_singleton_iff, satisfiable_singleton_iff]
    refine exists_congr fun assignment => and_congr_right fun models => ?_
    rw [Literal.Holds, Literal.Holds, alike assignment models]
  unfold forcedUnder at forced ⊢
  rw [same, same] at forced
  split at forced
  · next cannotBeFalse =>
    cases forced
    exact if_pos cannotBeFalse
  · next canBeFalse =>
    rw [if_neg canBeFalse]
    split at forced
    · next cannotBeTrue =>
      cases forced
      exact if_pos cannotBeTrue
    · cases forced

/-- A variable that is alike to an undetermined one is undetermined. -/
theorem Alike.undetermined (alike : Alike clauses first second)
    (undetermined : Undetermined clauses first) : Undetermined clauses second := by
  intro value
  obtain ⟨assignment, models, given⟩ := undetermined value
  exact ⟨assignment, models, (alike assignment models).symm.trans given⟩

/-- A variable is undetermined or forced to one of its literals. -/
theorem undetermined_or_forced (clauses : List Clause) (var : Variable) :
    Undetermined clauses var ∨ ∃ positive, forcedUnder clauses var = some ⟨var, positive⟩ := by
  cases forced : forcedUnder clauses var with
  | none => exact Or.inl (forcedUnder_eq_none_iff.mp forced)
  | some literal =>
    obtain rfl := var_of_forcedUnder forced
    exact Or.inr ⟨literal.positive, rfl⟩

/-- Fewer variables come first among more. -/
theorem Variable.upTo_prefix {highest higher : Nat} (grown : highest ≤ higher) :
    upTo highest <+: upTo higher := by
  obtain ⟨more, rfl⟩ := Nat.exists_eq_add_of_le grown
  rw [upTo, upTo, List.range_add, List.map_append]
  exact List.prefix_append _ _

/-- Where a second scan keeps whatever the first one keeps, it finds as much and more, in the
same order. -/
theorem filterMap_sublist {α β : Type} {scan other : α → Option β}
    (keeps : ∀ item value, scan item = some value → other item = some value) (items : List α) :
    (items.filterMap scan).Sublist (items.filterMap other) := by
  induction items with
  | nil => exact List.Sublist.slnil
  | cons item rest inductionHypothesis =>
    rw [List.filterMap_cons, List.filterMap_cons]
    cases found : scan item with
    | none =>
      cases other item with
      | none => exact inductionHypothesis
      | some value => exact inductionHypothesis.cons value
    | some value =>
      rw [keeps item value found]
      exact inductionHypothesis.cons_cons value

variable {highest higher : Nat}

/-- The forced literals stay in their order, and others come between and after them. -/
theorem Refines.forcedUpTo_sublist (refines : Refines before after) (grown : highest ≤ higher) :
    (forcedUpTo before highest).Sublist (forcedUpTo after higher) :=
  (filterMap_sublist (fun _ _ => refines.forced) _).trans
    ((Variable.upTo_prefix grown).sublist.filterMap _)

/-- Inseparable variables stay inseparable while one of them is undetermined. -/
theorem Refines.inseparable (refines : Refines before after) (grown : highest ≤ higher)
    (inseparable : Inseparable before highest first second) (free : Undetermined after first) :
    Inseparable after higher first second := by
  obtain ⟨firstInRange, secondInRange, _, _, alikeBefore⟩ := inseparable
  have alike : Alike after first second := refines.alike alikeBefore
  exact ⟨firstInRange.trans grown, secondInRange.trans grown, free, alike.undetermined free, alike⟩

/-- If one of them is forced, the other is forced the same way. -/
theorem Refines.forced_together (refines : Refines before after) (grown : highest ≤ higher)
    (inseparable : Inseparable before highest first second) {positive : Bool}
    (forced : forcedUnder after first = some ⟨first, positive⟩) :
    ⟨first, positive⟩ ∈ forcedUpTo after higher ∧ ⟨second, positive⟩ ∈ forcedUpTo after higher := by
  obtain ⟨firstInRange, secondInRange, _, _, alike⟩ := inseparable
  rw [mem_forcedUpTo, mem_forcedUpTo]
  exact ⟨⟨firstInRange.trans grown, forced⟩, secondInRange.trans grown,
    (refines.alike alike).forced forced⟩

/-- A pair of undetermined variables still agrees or is forced together. With more clauses the
two stay alike, and the only question is whether they stay undetermined. -/
theorem Refines.undetermined_pair (refines : Refines before after) (grown : highest ≤ higher)
    {pair : Variable × Variable} (listed : pair ∈ agreeingUpTo before highest) :
    pair ∈ agreeingUpTo after higher ∨ ∃ positive,
      ⟨pair.1, positive⟩ ∈ forcedUpTo after higher ∧
        ⟨pair.2, positive⟩ ∈ forcedUpTo after higher := by
  obtain ⟨first, second⟩ := pair
  obtain ⟨ordered, inRange, alike⟩ := mem_agreeing_undetermined.mp listed
  have inseparable : Inseparable before highest first second :=
    ⟨(Variable.le_iff.mp ordered.le).trans inRange, inRange, alike⟩
  rcases undetermined_or_forced after first with free | ⟨positive, forced⟩
  · obtain ⟨_, stillInRange, stillAlike⟩ := refines.inseparable grown inseparable free
    exact Or.inl (mem_agreeing_undetermined.mpr ⟨ordered, stillInRange, stillAlike⟩)
  · exact Or.inr ⟨positive, refines.forced_together grown inseparable forced⟩

/-- A pair outside pinned numbers still agrees, or both have come to be forced true. The pair
goes only if it cannot be false any more. -/
theorem Refines.unpinned_pair (refines : Refines before after) (grown : highest ≤ higher)
    {pinned : List Int} {pair : Variable × Variable}
    (listed : pair ∈ agreeingAmong before (unpinned highest pinned)) :
    pair ∈ agreeingAmong after (unpinned higher pinned) ∨
      ⟨pair.1, true⟩ ∈ forcedUpTo after higher ∧ ⟨pair.2, true⟩ ∈ forcedUpTo after higher := by
  obtain ⟨first, second⟩ := pair
  rw [mem_agreeingAmong (unpinned_ascending highest pinned), mem_unpinned, mem_unpinned] at listed
  rw [mem_agreeingAmong (unpinned_ascending higher pinned), mem_unpinned, mem_unpinned,
    mem_forcedUpTo, mem_forcedUpTo]
  obtain ⟨⟨firstInRange, firstFree⟩, ⟨secondInRange, secondFree⟩, ordered, alikeBefore, _⟩ := listed
  have alike : Alike after first second := refines.alike alikeBefore
  by_cases canBeFalse : Satisfiable after [⟨first, false⟩]
  · exact Or.inl ⟨⟨firstInRange.trans grown, firstFree⟩, ⟨secondInRange.trans grown, secondFree⟩,
      ordered, alike, satisfiable_singleton_iff.mp canBeFalse⟩
  · have forced : forcedUnder after first = some ⟨first, true⟩ := if_pos canBeFalse
    exact Or.inr ⟨⟨firstInRange.trans grown, forced⟩, secondInRange.trans grown,
      alike.forced forced⟩

/-- Members that are all related to the first of them are in one class. Each shares one with the
first, and the classes are disjoint. -/
theorem Partitions.exists_class {α : Type} [LinearOrder α] {related : α → α → Prop}
    {classes : List (List α)} (partitions : Partitions related classes) {first second : α}
    {rest : List α} (different : ∀ other ∈ second :: rest, first ≠ other)
    (together : ∀ other ∈ second :: rest, related first other) :
    ∃ group ∈ classes, first :: second :: rest ⊆ group := by
  have shared (other : α) (member : other ∈ second :: rest) :
      ∃ group ∈ classes, first ∈ group ∧ other ∈ group :=
    (partitions.shared first other (different other member)).mpr (together other member)
  obtain ⟨group, listed, firstInside, _⟩ := shared second List.mem_cons_self
  refine ⟨group, listed, List.cons_subset.mpr ⟨firstInside, fun other member => ?_⟩⟩
  obtain ⟨alsoGroup, alsoListed, alsoInside, inside⟩ := shared other member
  exact partitions.eq_of_mem alsoListed listed alsoInside firstInside ▸ inside

/-- The classes of the agreeing pairs are those of the inseparable variables. -/
theorem partitions_classesOf (clauses : List Clause) (highest : Nat) :
    Partitions (Inseparable clauses highest) (classesOf (agreeingUpTo clauses highest)) := by
  have order (first second : Variable) :
      decide (first.number ≤ second.number) = true ↔ first ≤ second :=
    decide_eq_true_iff.trans Variable.le_iff.symm
  apply (partitions_collect (closed_agreeing clauses highest) order).congr
  intro first second different
  rw [linked_agreeing_iff]
  exact and_iff_right different

/-- A class stays together, within one class or forced the same way. Its first member
decides which. -/
theorem Refines.whole_class (refines : Refines before after) (grown : highest ≤ higher)
    {group : List Variable} (listed : group ∈ classesOf (agreeingUpTo before highest)) :
    (∃ larger ∈ classesOf (agreeingUpTo after higher), group ⊆ larger) ∨
      ∃ positive, ∀ var ∈ group, ⟨var, positive⟩ ∈ forcedUpTo after higher := by
  have partitions := partitions_classesOf before highest
  obtain ⟨first, second, rest, rfl⟩ : ∃ first second rest, group = first :: second :: rest := by
    match group, partitions.proper group listed with
    | first :: second :: rest, _ => exact ⟨first, second, rest, rfl⟩
  have ascending (other : Variable) (member : other ∈ second :: rest) : first < other :=
    List.rel_of_pairwise_cons (partitions.ascending _ listed) member
  have together (other : Variable) (member : other ∈ second :: rest) :
      Inseparable before highest first other :=
    (partitions.shared first other (ascending other member).ne).mp
      ⟨_, listed, List.mem_cons_self, List.mem_cons_of_mem _ member⟩
  -- The others are alike to the first member, so it decides for all of them.
  rcases undetermined_or_forced after first with free | ⟨positive, forced⟩
  · left
    apply (partitions_classesOf after higher).exists_class
    · exact fun other member => (ascending other member).ne
    · exact fun other member => refines.inseparable grown (together other member) free
  · right
    refine ⟨positive, List.forall_mem_cons.mpr ⟨?_, fun other member => ?_⟩⟩
    · exact (refines.forced_together grown (together second List.mem_cons_self) forced).1
    · exact (refines.forced_together grown (together other member) forced).2

end Clausal
