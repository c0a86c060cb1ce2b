import Clausal.Agreement
import Clausal.Grouping

/-!
# Surveys

Everything the finders know about a rule base in one inquiry: its backbone, its
agreeing pairs, the classes they make, and what finding them cost in decisions.
-/

namespace Clausal

/-- The classes of agreeing variables, by their smallest members. -/
def classesOf (pairs : List (Variable × Variable)) : List (List Variable) :=
  collect (fun first second => first.number ≤ second.number) pairs

/-- The classes of the variables outside the backbone that agree in every model. -/
def agreementClasses (highest : Nat) : Inquiry (List (List Variable)) := do
  return classesOf (← agreement highest none)

/-- What a survey found. -/
structure Survey where
  /-- The variables up to this one were examined. -/
  highest : Nat
  /-- The backbone. -/
  forced : List Literal
  /-- The agreeing pairs outside the backbone. -/
  agreeing : List (Variable × Variable)
  /-- The classes that the agreeing pairs make. -/
  classes : List (List Variable)
  /-- The decisions that the survey cost. -/
  decisions : Nat

/-- The variables that can be both true and false. -/
def Survey.free (survey : Survey) : List Variable :=
  unpinned survey.highest (survey.forced.map Literal.code)

/-- Finds the backbone and, outside it, the agreeing pairs. -/
def examine (highest : Nat) : Inquiry (List Literal × List (Variable × Variable)) := do
  let forced ← backbone highest
  return (forced, ← agreeingPairs highest (forced.map Literal.code))

/-- Surveys the variables up to the highest. -/
def survey (highest : Nat) : Inquiry Survey := do
  let ((forced, agreeing), decisions) ← (examine highest).metered 0
  let classes := classesOf agreeing
  Inquiry.record (.surveyed forced.length agreeing.length classes.length decisions)
  return { highest, forced, agreeing, classes, decisions }

end Clausal
