import Clausal.RuleBase

/-!
# All models

What holds of every model at once, so that nothing said here depends on which model
an oracle happens to find. The models over a range of variables are listed by growing
partial ones, a variable at a time and false first, and dropping each that has no
model above it; so they come in ascending order of their codes.
-/

namespace Clausal

/-- The unlimited oracle finds a model of the clauses in which the literals hold. -/
def Oracle.possible (oracle : Oracle) (clauses : List Clause) (literals : List Literal) : Bool :=
  match oracle.decide 0 Limits.none clauses literals with
  | .satisfiable _ => true
  | _ => false

/-- The models that extend the chosen literals over further variables, where
`possible` tells which choices have a model. -/
def extensions (possible : List Literal → Bool) (chosen : List Literal) :
    List Variable → List (List Literal)
  | [] => [chosen]
  | var :: rest =>
    [false, true].flatMap fun positive =>
      let chosen := chosen ++ [⟨var, positive⟩]
      if possible chosen then extensions possible chosen rest else []

/-- All models over the variables up to the highest in which the assumptions hold. -/
def allModels (oracle : Oracle) (highest : Nat) (clauses : List Clause)
    (assumptions : List Literal) : List (List Literal) :=
  let possible (chosen : List Literal) := oracle.possible clauses (assumptions ++ chosen)
  if possible [] then extensions possible [] (Variable.upTo highest) else []

/-- The entries of a model that all models share in which the assumptions hold; an
entry that some model has otherwise is left out. -/
def sharedEntries (oracle : Oracle) (clauses : List Clause) (assumptions model : List Literal) :
    List (Option Literal) :=
  model.map fun literal =>
    if oracle.possible clauses (assumptions ++ [-literal]) then none else some literal

end Clausal
