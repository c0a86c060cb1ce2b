import Clausal.Meaning

/-!
# Questions

A question asks of given clauses whether they have a model, under literals assumed
for the moment or together with clauses added for the moment. Neither outlives the
question.
-/

namespace Clausal

/-- A question for an oracle. -/
inductive Question
  /-- Is there a model in which the literals hold? -/
  | assuming (literals : List Literal)
  /-- Is there a model that also makes the extra clauses true? -/
  | alongside (extra : List Clause)

namespace Question

/-- The literals assumed; extra clauses are asked about without any. -/
def assumptions : Question → List Literal
  | assuming literals => literals
  | alongside _ => []

/-- The clauses added for the moment. -/
def extra : Question → List Clause
  | assuming _ => []
  | alongside extra => extra

/-- The true answer, for given clauses, is yes. -/
def Affirmed (clauses : List Clause) (question : Question) : Prop :=
  Satisfiable (clauses ++ question.extra) question.assumptions

/-- A question under assumptions is affirmed if the clauses have a model in which the
assumptions hold. -/
theorem affirmed_assuming {clauses : List Clause} {literals : List Literal} :
    (assuming literals).Affirmed clauses ↔ Satisfiable clauses literals := by
  simp [Affirmed, extra, assumptions]

/-- A question about extra clauses is affirmed if the clauses and the extra ones have a model
together. -/
theorem affirmed_alongside {clauses added : List Clause} :
    (alongside added).Affirmed clauses ↔ Satisfiable (clauses ++ added) [] := Iff.rfl

end Question

end Clausal
