import Clausal.Clause

/-!
# What clauses mean

Assignments are total: they give a value to every variable there is, also to
those no clause names. Satisfiability is stated over them, so it never depends on
which variables happen to be in use.
-/

namespace Clausal

/-- A truth value for every variable. -/
abbrev Assignment := Variable → Bool

/-- The literal is true under the assignment. -/
def Literal.Holds (assignment : Assignment) (literal : Literal) : Prop :=
  assignment literal.var = literal.positive

/-- Whether a literal holds can be computed, since it compares two truth values. -/
instance (assignment : Assignment) (literal : Literal) : Decidable (literal.Holds assignment) :=
  inferInstanceAs (Decidable (_ = _))

/-- Some literal of the clause is true under the assignment. -/
def Clause.Holds (assignment : Assignment) (clause : Clause) : Prop :=
  ∃ literal ∈ clause.literals, literal.Holds assignment

/-- The assignment makes every clause true. -/
def Models (assignment : Assignment) (clauses : List Clause) : Prop :=
  ∀ clause ∈ clauses, clause.Holds assignment

/-- Some model of the clauses makes every listed literal true. -/
def Satisfiable (clauses : List Clause) (literals : List Literal) : Prop :=
  ∃ assignment, Models assignment clauses ∧ ∀ literal ∈ literals, literal.Holds assignment

/-- A literal is denied exactly where it does not hold. Assignments are total, so there is
no third case. -/
theorem Literal.holds_neg {assignment : Assignment} {literal : Literal} :
    (-literal).Holds assignment ↔ ¬literal.Holds assignment := by
  unfold Literal.Holds
  rw [Literal.neg_var, Literal.neg_positive]
  cases assignment literal.var <;> cases literal.positive <;> simp

/-- A literal as a clause of its own says what the literal says. -/
theorem Clause.holds_unit {assignment : Assignment} {literal : Literal} :
    (Clause.unit literal).Holds assignment ↔ literal.Holds assignment := by
  simp [Clause.Holds, Clause.unit]

/-- A model of all clauses is a model of the first ones and of the others. -/
theorem models_append {assignment : Assignment} {first second : List Clause} :
    Models assignment (first ++ second) ↔ Models assignment first ∧ Models assignment second := by
  simp [Models, or_imp, forall_and]

/-- A model of a single clause is an assignment that makes it true. -/
theorem models_singleton {assignment : Assignment} {clause : Clause} :
    Models assignment [clause] ↔ clause.Holds assignment := by
  simp [Models]

end Clausal
