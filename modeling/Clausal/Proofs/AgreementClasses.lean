import Clausal.Proofs.Partition
import Clausal.Proofs.Replies

/-!
# The classes of variables that agree

The agreeing pairs of undetermined variables are closed: they are found in lexicographic
order, and variables that are alike to a third are alike to each other. So although no
two classes are ever merged, the classes are exactly those of the undetermined variables
that have the same value in every model.
-/

namespace Clausal

variable {clauses : List Clause} {highest : Nat}

/-- Both are undetermined variables up to the highest and have the same value in every
model. -/
def Inseparable (clauses : List Clause) (highest : Nat) (first second : Variable) : Prop :=
  first.number ≤ highest ∧ second.number ≤ highest ∧ Undetermined clauses first ∧
    Undetermined clauses second ∧ Alike clauses first second

/-- Inseparable variables are so in both directions. -/
theorem Inseparable.symm {first second : Variable}
    (inseparable : Inseparable clauses highest first second) :
    Inseparable clauses highest second first := by
  obtain ⟨firstInRange, secondInRange, firstFree, secondFree, alike⟩ := inseparable
  exact ⟨secondInRange, firstInRange, secondFree, firstFree,
    fun assignment models => (alike assignment models).symm⟩

/-- Variables inseparable from a third are inseparable, so the finder can put them in classes. -/
theorem Inseparable.trans {first second third : Variable}
    (earlier : Inseparable clauses highest first second)
    (later : Inseparable clauses highest second third) :
    Inseparable clauses highest first third := by
  obtain ⟨firstInRange, _, firstFree, _, alike⟩ := earlier
  obtain ⟨_, thirdInRange, _, thirdFree, alikeLater⟩ := later
  exact ⟨firstInRange, thirdInRange, firstFree, thirdFree, fun assignment models =>
    (alike assignment models).trans (alikeLater assignment models)⟩

/-- What the pairs link are the inseparable variables, in either order. -/
theorem linked_agreeing_iff {first second : Variable} :
    Linked (agreeingAmong clauses (undeterminedUpTo clauses highest)) first second ↔
      first ≠ second ∧ Inseparable clauses highest first second := by
  have listed {one two : Variable} :
      (one, two) ∈ agreeingAmong clauses (undeterminedUpTo clauses highest) ↔
        one < two ∧ Inseparable clauses highest one two := by
    rw [mem_agreeing_undetermined]
    constructor
    · rintro ⟨ordered, inRange, alike⟩
      exact ⟨ordered, (Variable.le_iff.mp ordered.le).trans inRange, inRange, alike⟩
    · rintro ⟨ordered, _, inRange, alike⟩
      exact ⟨ordered, inRange, alike⟩
  rw [Linked, listed, listed]
  constructor
  · rintro (⟨smaller, inseparable⟩ | ⟨greater, inseparable⟩)
    · exact ⟨smaller.ne, inseparable⟩
    · exact ⟨greater.ne', inseparable.symm⟩
  · rintro ⟨different, inseparable⟩
    cases lt_or_gt_of_ne different with
    | inl smaller => exact Or.inl ⟨smaller, inseparable⟩
    | inr greater => exact Or.inr ⟨greater, inseparable.symm⟩

/-- The pairs found are closed. To be inseparable is an equivalence on the undetermined
variables, and the scan lists its pairs in order. -/
theorem closed_agreeing (clauses : List Clause) (highest : Nat) :
    Closed (agreeingAmong clauses (undeterminedUpTo clauses highest)) where
  ordered := by
    rintro ⟨first, second⟩ listed
    exact (mem_agreeing_undetermined.mp listed).1
  ascending := agreeingAmong_ascending (undeterminedUpTo_ascending highest)
  transitive := by
    intro first second third earlier later different
    rw [linked_agreeing_iff] at earlier later ⊢
    exact ⟨different, earlier.2.trans later.2⟩

open RuleBase

/-- In an open rule base that any run led to, the classes that a query is answered with
partition the undetermined variables that agree with another one: two variables share a
class exactly if they are inseparable. The query is answered unless a decision is not
made, and without limits it is answered. -/
theorem agreement_classes_exact {base : RuleBase} (reachable : Reachable base)
    (isOpen : base.isOpen = true) {oracle : Oracle} (lawful : oracle.Lawful) :
    (∀ answer, base.reply oracle .classes = .ok answer →
      ∃ classes, answer = .classes classes ∧
        Partitions (Inseparable base.clauses base.highest) classes) ∧
    ((∃ answer, base.reply oracle .classes = .ok answer) ∨ base.limits ≠ Limits.none ∧
      ∃ fault, base.reply oracle .classes = .error fault ∧ base.Declines fault) := by
  have coherent : base.Coherent := reachable.coherent
  constructor
  · intro answer answered
    refine ⟨_, reply_classes lawful coherent answered, ?_⟩
    have order (first second : Variable) :
        decide (first.number ≤ second.number) = true ↔ first ≤ second :=
      decide_eq_true_iff.trans Variable.le_iff.symm
    have closed := closed_agreeing base.clauses base.highest
    apply (partitions_collect closed order).congr
    intro first second different
    rw [linked_agreeing_iff]
    exact and_iff_right different
  · exact reply_or_declined lawful coherent isOpen .classes

/-- The chain was closed by a clause whose check gave up. Its variables are one class, and
the two that are forced false are in none. -/
theorem mirrored_classes :
    Reachable mirrored ∧ mirrored.isOpen = true ∧ Oracle.search.Lawful ∧
      Partitions (Inseparable mirrored.clauses mirrored.highest)
        [[⟨1, by decide⟩, ⟨2, by decide⟩, ⟨4, by decide⟩]] := by
  have isOpen : mirrored.isOpen = true := by cbv
  have answered : mirrored.reply .search .classes =
      .ok (.classes [[⟨1, by decide⟩, ⟨2, by decide⟩, ⟨4, by decide⟩]]) := by cbv
  obtain ⟨exact, _⟩ := agreement_classes_exact mirrored_reachable isOpen Oracle.search_lawful
  obtain ⟨classes, ⟨⟩, partitions⟩ := exact _ answered
  exact ⟨mirrored_reachable, isOpen, Oracle.search_lawful, partitions⟩

end Clausal
