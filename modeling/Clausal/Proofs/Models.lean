import Clausal.Meaning
import Clausal.Residual
import Mathlib.Data.List.Forall2

/-!
# Models of clauses that grow

Adding clauses removes models and never brings one back. What unit propagation
settles holds in every model, so a conflict that propagation meets leaves none.

A model of further clauses makes a literal true in each of them. So clauses that are
added together leave a model exactly if some choice of one literal from each of
them can be assumed together.
-/

namespace Clausal

variable {clauses added : List Clause} {literals : List Literal} {assignment : Assignment}

/-- Without assumptions, satisfiability asks for a model and nothing more. -/
theorem satisfiable_nil_iff :
    Satisfiable clauses [] ↔ ∃ assignment, Models assignment clauses := by
  simp [Satisfiable]

/-- One assumed literal asks for a model in which it is true. -/
theorem satisfiable_singleton_iff {literal : Literal} :
    Satisfiable clauses [literal] ↔
      ∃ assignment, Models assignment clauses ∧ literal.Holds assignment := by
  simp [Satisfiable]

/-- A model of the assumptions is a model. -/
theorem Satisfiable.nil (satisfiable : Satisfiable clauses literals) : Satisfiable clauses [] := by
  obtain ⟨assignment, models, _⟩ := satisfiable
  exact satisfiable_nil_iff.mpr ⟨assignment, models⟩

/-- Fewer clauses have every model that more clauses have. -/
theorem Satisfiable.of_append (satisfiable : Satisfiable (clauses ++ added) literals) :
    Satisfiable clauses literals := by
  obtain ⟨assignment, models, hold⟩ := satisfiable
  exact ⟨assignment, (models_append.mp models).1, hold⟩

/-- Whether an assignment is a model depends on the variables of the clauses only. -/
theorem Models.of_agree {other : Assignment} (models : Models assignment clauses)
    (agree : ∀ var : Variable, var.number ≤ Clause.highestOf (clauses.flatMap Clause.literals) →
      assignment var = other var) :
    Models other clauses := by
  intro clause member
  obtain ⟨literal, inside, isTrue⟩ := models clause member
  have listed : literal ∈ clauses.flatMap Clause.literals :=
    List.mem_flatMap.mpr ⟨clause, member, inside⟩
  have same : assignment literal.var = other literal.var :=
    agree literal.var (Clause.le_highestOf listed)
  exact ⟨literal, inside, same.symm.trans isTrue⟩

/-- A forced literal is true in every model. The induction is on the derivation: a
model makes some literal of the forcing clause true, and it can be no other literal,
since the negations of the others hold already. -/
theorem Forced.holds {literal : Literal} (forced : Forced clauses literal)
    (models : Models assignment clauses) : literal.Holds assignment := by
  induction forced with
  | @unit clause literal member inside others inductionHypothesis =>
    obtain ⟨found, inClause, isTrue⟩ := models clause member
    by_cases same : found = literal
    · exact same ▸ isTrue
    · have isFalse : ¬found.Holds assignment :=
        Literal.holds_neg.mp (inductionHypothesis found inClause same)
      exact absurd isTrue isFalse

/-- More clauses force what fewer clauses force. -/
theorem Forced.append {literal : Literal} (forced : Forced clauses literal) :
    Forced (clauses ++ added) literal := by
  induction forced with
  | unit member inside _ inductionHypothesis =>
    exact .unit (List.mem_append_left added member) inside inductionHypothesis

/-- A conflict that propagation meets does not go away. -/
theorem Refuted.append (refuted : Refuted clauses) : Refuted (clauses ++ added) := by
  obtain ⟨clause, member, allForced⟩ := refuted
  exact ⟨clause, List.mem_append_left added member,
    fun literal inside => (allForced literal inside).append⟩

/-- Refuted clauses have no model. -/
theorem Refuted.not_satisfiable (refuted : Refuted clauses) : ¬Satisfiable clauses literals := by
  rintro ⟨assignment, models, _⟩
  obtain ⟨clause, member, allForced⟩ := refuted
  obtain ⟨literal, inside, isTrue⟩ := models clause member
  exact Literal.holds_neg.mp ((allForced literal inside).holds models) isTrue

/-- One literal is chosen from each of the clauses, in their order. -/
def Chooses (choice : List Literal) (added : List Clause) : Prop :=
  List.Forall₂ (fun literal clause => literal ∈ clause.literals) choice added

/-- A choice whose literals are true makes the clauses true. -/
theorem Chooses.models {choice : List Literal} (chooses : Chooses choice added)
    (hold : ∀ literal ∈ choice, literal.Holds assignment) : Models assignment added := by
  induction chooses with
  | nil => exact fun clause member => absurd member List.not_mem_nil
  | cons inside _ inductionHypothesis =>
    obtain ⟨isTrue, restTrue⟩ := List.forall_mem_cons.mp hold
    exact List.forall_mem_cons.mpr ⟨⟨_, inside, isTrue⟩, inductionHypothesis restTrue⟩

/-- A model of the clauses makes some choice true. -/
theorem exists_chooses (models : Models assignment added) :
    ∃ choice, Chooses choice added ∧ ∀ literal ∈ choice, literal.Holds assignment := by
  induction added with
  | nil => exact ⟨[], List.Forall₂.nil, fun _ member => absurd member List.not_mem_nil⟩
  | cons clause rest inductionHypothesis =>
    obtain ⟨⟨literal, inside, isTrue⟩, restModels⟩ := List.forall_mem_cons.mp models
    obtain ⟨choice, chooses, hold⟩ := inductionHypothesis restModels
    exact ⟨literal :: choice, List.Forall₂.cons inside chooses,
      List.forall_mem_cons.mpr ⟨isTrue, hold⟩⟩

/-- Conjunction distributes over the disjunctions that are added: together they leave
a model exactly if the literals of some choice can be assumed together. -/
theorem satisfiable_append_iff :
    Satisfiable (clauses ++ added) [] ↔
      ∃ choice, Chooses choice added ∧ Satisfiable clauses choice := by
  constructor
  · intro satisfiable
    obtain ⟨assignment, models⟩ := satisfiable_nil_iff.mp satisfiable
    obtain ⟨models, addedModels⟩ := models_append.mp models
    obtain ⟨choice, chooses, hold⟩ := exists_chooses addedModels
    exact ⟨choice, chooses, assignment, models, hold⟩
  · rintro ⟨choice, chooses, assignment, models, hold⟩
    exact satisfiable_nil_iff.mpr
      ⟨assignment, models_append.mpr ⟨models, chooses.models hold⟩⟩

end Clausal
