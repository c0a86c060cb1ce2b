import Clausal.Residual

/-!
# What unit propagation refutes

Propagation ends in a conflict exactly if the clauses are refuted in the sense of
`Refuted`, which is stated without the procedure. In one direction every settled
literal is forced. In the other, the settled literals of a run that ends without a
conflict are closed under forcing: a clause that none of them makes true still has
two different literals that none of them refutes.
-/

namespace Clausal.Residual

/-- Every remainder comes from a clause whose other literals are refuted. -/
def Traced (clauses : List Clause) (residual : Residual) : Prop :=
  ∀ rest ∈ residual, ∃ clause ∈ clauses, (∀ literal ∈ rest, literal ∈ clause.literals) ∧
    ∀ literal ∈ clause.literals, literal ∈ rest ∨ Forced clauses (-literal)

/-- The settled literals leave exactly the residual: each clause contains a settled
literal, or its remainder lists the literals that no settled one refutes. -/
structure Settles (clauses : List Clause) (settled : List Literal) (residual : Residual) :
    Prop where
  consistent : ∀ literal ∈ settled, -literal ∉ settled
  covers : ∀ clause ∈ clauses, (∃ literal ∈ clause.literals, literal ∈ settled) ∨
    clause.literals.filter (fun literal => !settled.contains (-literal)) ∈ residual

/-- What is left after a literal is settled comes from the remainders without the literal, and
from each of them its denial is gone. -/
theorem mem_assign {residual : Residual} {literal : Literal} {rest : List Literal} :
    rest ∈ residual.assign literal ↔ ∃ before ∈ residual, literal ∉ before ∧
      rest = before.filter (fun other => other != -literal) := by
  induction residual with
  | nil => simp [assign]
  | cons head others inductionHypothesis =>
    rw [assign_cons]
    by_cases inside : literal ∈ head
    · rw [if_pos (List.elem_iff.2 inside), inductionHypothesis]
      constructor
      · rintro ⟨before, member, absent, equal⟩
        exact ⟨before, List.mem_cons_of_mem _ member, absent, equal⟩
      · rintro ⟨before, member, absent, equal⟩
        rcases List.mem_cons.1 member with rfl | later
        · exact absurd inside absent
        · exact ⟨before, later, absent, equal⟩
    · rw [if_neg fun contained => inside (List.elem_iff.1 contained), List.mem_cons,
        inductionHypothesis]
      constructor
      · rintro (equal | ⟨before, member, absent, equal⟩)
        · exact ⟨head, List.mem_cons_self, inside, equal⟩
        · exact ⟨before, List.mem_cons_of_mem _ member, absent, equal⟩
      · rintro ⟨before, member, absent, equal⟩
        rcases List.mem_cons.1 member with rfl | later
        · exact Or.inl equal
        · exact Or.inr ⟨before, later, absent, equal⟩

/-- A residual is refuted if nothing is left of one of its clauses. -/
theorem isRefuted_iff {residual : Residual} : residual.isRefuted = true ↔ [] ∈ residual := by
  simp [isRefuted, List.isEmpty_iff]

/-- A unit comes from a remainder that names nothing else. -/
theorem exists_of_unit? {residual : Residual} {literal : Literal}
    (found : residual.unit? = some literal) :
    ∃ rest ∈ residual, literal ∈ rest ∧ ∀ other ∈ rest, other = literal := by
  fun_induction unit? residual with
  | case1 => cases found
  | case2 others inductionHypothesis =>
    obtain ⟨rest, member, inside⟩ := inductionHypothesis found
    exact ⟨rest, List.mem_cons_of_mem _ member, inside⟩
  | case3 head rest others all =>
    cases found
    refine ⟨_, List.mem_cons_self, List.mem_cons_self, fun other member => ?_⟩
    rcases List.mem_cons.1 member with equal | later
    · exact equal
    · exact beq_iff_eq.1 (List.all_eq_true.1 all other later)
  | case4 head rest others notAll inductionHypothesis =>
    obtain ⟨found, member, inside⟩ := inductionHypothesis found
    exact ⟨found, List.mem_cons_of_mem _ member, inside⟩

/-- Where no unit is found, every remainder that is left names two literals. -/
theorem exists_ne_of_unit?_eq_none {residual : Residual} (none : residual.unit? = none)
    {rest : List Literal} (member : rest ∈ residual) {literal : Literal} (inside : literal ∈ rest) :
    ∃ other ∈ rest, other ≠ literal := by
  fun_induction unit? residual with
  | case1 => cases member
  | case2 others inductionHypothesis =>
    rcases List.mem_cons.1 member with rfl | later
    · cases inside
    · exact inductionHypothesis none later
  | case3 head tail others all => cases none
  | case4 head tail others notAll inductionHypothesis =>
    rcases List.mem_cons.1 member with rfl | later
    · obtain ⟨other, inTail, differs⟩ : ∃ other ∈ tail, other ≠ head := by
        simpa using notAll
      rcases Decidable.em (other = literal) with rfl | different
      · exact ⟨head, List.mem_cons_self, differs.symm⟩
      · exact ⟨other, List.mem_cons_of_mem _ inTail, different⟩
    · exact inductionHypothesis none later

/-- Before anything is settled, every remainder is a whole clause. -/
theorem traced_ofClauses (clauses : List Clause) : Traced clauses (ofClauses clauses) := by
  intro rest member
  obtain ⟨clause, inClauses, rfl⟩ := List.mem_map.1 member
  exact ⟨clause, inClauses, fun _ inside => inside, fun _ inside => Or.inl inside⟩

/-- The last literal of a remainder is forced: the others of its clause are refuted by forced
ones. This is the step by which forced literals are defined. -/
theorem Traced.forced {clauses : List Clause} {residual : Residual} {literal : Literal}
    (traced : Traced clauses residual) (found : residual.unit? = some literal) :
    Forced clauses literal := by
  obtain ⟨rest, member, inside, only⟩ := exists_of_unit? found
  obtain ⟨clause, inClauses, within, others⟩ := traced rest member
  refine .unit inClauses (within literal inside) fun other inClause differs => ?_
  exact (others other inClause).resolve_left fun inRest => differs (only other inRest)

/-- Settling a forced literal takes only refuted literals away, so the remainders still come
from clauses whose other literals are refuted. -/
theorem Traced.assign {clauses : List Clause} {residual : Residual} {literal : Literal}
    (traced : Traced clauses residual) (forced : Forced clauses literal) :
    Traced clauses (residual.assign literal) := by
  intro rest member
  obtain ⟨before, inResidual, _, rfl⟩ := mem_assign.1 member
  obtain ⟨clause, inClauses, within, others⟩ := traced before inResidual
  refine ⟨clause, inClauses, fun other inside => within other (List.mem_filter.1 inside).1,
    fun other inClause => ?_⟩
  rcases others other inClause with inBefore | refuted
  · rcases Decidable.em (other = -literal) with rfl | differs
    · exact Or.inr (by rwa [Literal.neg_neg])
    · exact Or.inl (List.mem_filter.2 ⟨inBefore, bne_iff_ne.2 differs⟩)
  · exact Or.inr refuted

/-- A conflict refutes the clauses. -/
theorem Traced.refuted {clauses : List Clause} {residual : Residual}
    (traced : Traced clauses residual) (conflict : residual.propagate = none) :
    Refuted clauses := by
  fun_induction propagate residual with
  | case1 residual empty =>
    obtain ⟨clause, inClauses, _, others⟩ := traced [] (isRefuted_iff.1 empty)
    exact ⟨clause, inClauses, fun literal inside =>
      (others literal inside).resolve_left fun impossible => by cases impossible⟩
  | case2 residual _ _ => cases conflict
  | case3 residual _ literal found inductionHypothesis =>
    exact inductionHypothesis (traced.assign (traced.forced found)) conflict

/-- Where no literal is settled, the residual of the clauses leaves them as they are. -/
theorem settles_ofClauses (clauses : List Clause) : Settles clauses [] (ofClauses clauses) where
  consistent := fun _ member => by cases member
  covers := fun clause member => Or.inr (List.mem_map.2
    ⟨clause, member, (List.filter_eq_self.2 fun _ _ => rfl).symm⟩)

/-- Settling one more literal in the residual is settling it in the clauses, as long as its
denial is not settled already. -/
theorem Settles.assign {clauses : List Clause} {settled : List Literal} {residual : Residual}
    {literal : Literal} (settles : Settles clauses settled residual)
    (unsettled : -literal ∉ settled) :
    Settles clauses (literal :: settled) (residual.assign literal) where
  consistent := by
    intro other member
    rcases List.mem_cons.1 member with rfl | later
    · rw [List.mem_cons, not_or]
      exact ⟨(Literal.ne_neg _).symm, unsettled⟩
    · rw [List.mem_cons, not_or]
      refine ⟨fun equal => ?_, settles.consistent other later⟩
      rw [← equal, Literal.neg_neg] at unsettled
      exact unsettled later
  covers := by
    intro clause member
    rcases settles.covers clause member with ⟨found, inside, already⟩ | remains
    · exact Or.inl ⟨found, inside, List.mem_cons_of_mem _ already⟩
    · rcases Decidable.em (literal ∈ clause.literals) with inside | absent
      · exact Or.inl ⟨literal, inside, List.mem_cons_self⟩
      · refine Or.inr (mem_assign.2 ⟨_, remains, fun inside => absent (List.mem_filter.1 inside).1,
          ?_⟩)
        rw [List.filter_filter]
        refine List.filter_congr fun other _ => ?_
        rw [Bool.eq_iff_iff]
        simp only [Bool.not_eq_true', List.contains_cons, Bool.or_eq_false_iff, bne_iff_ne, ne_eq,
          Bool.and_eq_true, beq_eq_false_iff_ne]
        constructor
        · rintro ⟨differs, notSettled⟩
          refine ⟨fun equal => differs ?_, notSettled⟩
          rw [equal, Literal.neg_neg]
        · rintro ⟨differs, notSettled⟩
          refine ⟨fun equal => differs ?_, notSettled⟩
          rw [← equal, Literal.neg_neg]

/-- Where propagation has come to rest, every forced literal is settled. The induction is on the
reasons for which it is forced: once the other literals of its clause are refuted, it would be
left alone in the remainder. -/
theorem Settles.closed {clauses : List Clause} {settled : List Literal} {residual : Residual}
    (settles : Settles clauses settled residual) (unrefuted : residual.isRefuted = false)
    (noUnit : residual.unit? = none) {literal : Literal} (forced : Forced clauses literal) :
    literal ∈ settled := by
  induction forced with
  | @unit clause literal member inside others inductionHypothesis =>
    rcases settles.covers clause member with ⟨found, inClause, already⟩ | remains
    · rcases Decidable.em (found = literal) with rfl | differs
      · exact already
      · exact absurd (inductionHypothesis found inClause differs) (settles.consistent found already)
    · have only : ∀ other ∈ clause.literals.filter fun literal => !settled.contains (-literal),
          other = literal := by
        intro other inRest
        obtain ⟨inClause, notSettled⟩ := List.mem_filter.1 inRest
        rcases Decidable.em (other = literal) with equal | differs
        · exact equal
        · have := inductionHypothesis other inClause differs
          rw [Bool.not_eq_true', ← Bool.not_eq_true] at notSettled
          exact absurd (List.elem_iff.2 this) notSettled
      revert remains only
      cases clause.literals.filter fun literal => !settled.contains (-literal) with
      | nil =>
        intro remains _
        rw [← Bool.not_eq_true] at unrefuted
        exact absurd (isRefuted_iff.2 remains) unrefuted
      | cons head tail =>
        intro remains only
        obtain ⟨other, inOther, differs⟩ :=
          exists_ne_of_unit?_eq_none noUnit remains List.mem_cons_self
        exact absurd ((only other inOther).trans (only head List.mem_cons_self).symm) differs

/-- Without a conflict the clauses are not refuted. The induction follows propagation to where it
comes to rest, where a clause with refuted literals only would have an empty remainder. -/
theorem Settles.not_refuted {clauses : List Clause} {settled : List Literal}
    {residual last : Residual} (settles : Settles clauses settled residual)
    (fresh : ∀ rest ∈ residual, ∀ literal ∈ rest, -literal ∉ settled)
    (ended : residual.propagate = some last) : ¬Refuted clauses := by
  fun_induction propagate residual generalizing settled with
  | case1 residual empty => cases ended
  | case2 residual unrefuted noUnit =>
    rw [Bool.not_eq_true] at unrefuted
    rintro ⟨clause, member, refuted⟩
    rcases settles.covers clause member with ⟨found, inClause, already⟩ | remains
    · exact settles.consistent found already
        (settles.closed unrefuted noUnit (refuted found inClause))
    · have empty : clause.literals.filter (fun literal => !settled.contains (-literal)) = [] := by
        refine List.filter_eq_nil_iff.2 fun literal inside => ?_
        have := settles.closed unrefuted noUnit (refuted literal inside)
        simp [this]
      rw [empty] at remains
      rw [← Bool.not_eq_true] at unrefuted
      exact unrefuted (isRefuted_iff.2 remains)
  | case3 residual unrefuted literal found inductionHypothesis =>
    obtain ⟨rest, member, inside, _⟩ := exists_of_unit? found
    refine inductionHypothesis (settles.assign (fresh rest member literal inside)) ?_ ended
    intro after inAfter other inOther
    obtain ⟨before, inResidual, _, rfl⟩ := mem_assign.1 inAfter
    obtain ⟨inBefore, differs⟩ := List.mem_filter.1 inOther
    rw [List.mem_cons, not_or]
    refine ⟨fun equal => ?_, fresh before inResidual other inBefore⟩
    rw [← equal, Literal.neg_neg, bne_self_eq_false] at differs
    cases differs

end Clausal.Residual

namespace Clausal

/-- Propagation meets a conflict exactly if unit propagation alone refutes the clauses. One way
its steps are traced back to forced literals, the other way it settles all of these. -/
theorem conflicts_eq_true_iff (clauses : List Clause) :
    conflicts clauses = true ↔ Refuted clauses := by
  unfold conflicts
  cases ended : (Residual.ofClauses clauses).propagate with
  | none => exact iff_of_true rfl ((Residual.traced_ofClauses clauses).refuted ended)
  | some last =>
    refine iff_of_false Bool.false_ne_true ?_
    refine (Residual.settles_ofClauses clauses).not_refuted ?_ ended
    intro rest _ literal _ impossible
    cases impossible

end Clausal
