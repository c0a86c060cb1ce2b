import Clausal.Datum.Order
import Clausal.Fault

/-!
# Reading arguments

Loose values are read into literals, clauses and limits before anything is done with
them. Reading goes from left to right and stops at the first fault. A truth value is
read as one or zero, so the true value is the literal of the first variable; a
decimal is never a literal, even if it is whole.
-/

namespace Clausal.Argument

/-- The values met when going through a value. -/
def elements (given : Datum) : Except Fault (List Datum) :=
  match given.elements? with
  | some items => .ok items
  | none => .error (.notIterable given.kind)

/-- The integer that a value is by its form, if it is one. -/
def integer? : Datum → Option Int
  | .number value => value.integer?
  | _ => none

/-- A single literal. Whether the value is an integer at all is seen first, and then whether it
is zero. -/
def literal (place : Place) (given : Datum) : Except Fault Literal :=
  match integer? given with
  | none => .error (.notLiteral place given)
  | some code =>
    match Literal.ofCode? code with
    | some literal => .ok literal
    | none => .error (.zeroLiteral place)

/-- A clause. Its literals are read one by one, and that there is none is seen at the end. -/
def clause (place : Place) (given : Datum) : Except Fault Clause := do
  let literals ← (← elements given).mapM (literal place)
  match Clause.ofList? literals with
  | some clause => .ok clause
  | none => .error (.emptyClause place)

/-- Several clauses, each read in full before the next one. -/
def clauses (place : Place) (given : Datum) : Except Fault (List Clause) := do
  (← elements given).mapM (clause place)

/-- Literals to be assumed together. A single integer stands for itself. -/
def literals (place : Place) (given : Datum) : Except Fault (List Literal) := do
  match integer? given with
  | some _ => return [← literal place given]
  | none => (← elements given).mapM (literal place)

/-- The two ends of an entailment. That the conclusion can be negated is seen first;
then the premise is read, and then the conclusion by its negation. -/
def entailment (premise conclusion : Datum) : Except Fault (Literal × Literal) := do
  let denied ← match conclusion with
    | .number value => .ok (Datum.number value.neg)
    | other => .error (.noNegation other.kind)
  let premise ← literal .satisfiability premise
  let denied ← literal .satisfiability denied
  return (premise, -denied)

/-- The integer that a number equals, whatever its form; a value that is no number
has no magnitude and is refused. -/
def measured (given : Datum) : Except Fault (Option Int) :=
  match given with
  | .number value => .ok value.integral?
  | other => .error (.noMagnitude other.kind)

/-- The numbers that pin variables. A number that is not whole pins none. -/
def pinned (given : Datum) : Except Fault (List Int) := do
  return (← (← elements given).mapM measured).filterMap id

/-- A batch of clauses, each read on its own. A blank value is an empty batch, and a
value that cannot be gone through is one unreadable clause. -/
def batch (given : Datum) : List (Except Fault Clause) :=
  if given.isBlank then []
  else
    match given.elements? with
    | some items => items.map (clause .construction)
    | none => [.error (.notIterable given.kind)]

/-- One limit, which must be a positive number if it is given at all. -/
def limit (name : LimitName) : Datum → Except Fault (Option Number)
  | .null => .ok none
  | .number value =>
    if (Number.whole 0).less value then .ok (some value) else .error (.limitNotPositive name value)
  | other => .error (.limitKind other.kind)

/-- Both limits. The limit in seconds is read first, so its fault hides the other. -/
def limits (timeout conflicts : Datum) : Except Fault Limits := do
  return ⟨← limit .timeout timeout, ← limit .conflicts conflicts⟩

/-- The notice of a contradiction over any values, or over none. -/
def contradiction (clause : Datum) : Except Fault Notice :=
  match clause with
  | .null => .ok (.contradiction none)
  | given => return .contradiction (some (← elements given))

/-- The notice of a decision that gave up under any values. A blank budget is not
mentioned. -/
def gaveUp (assumptions budget : Datum) : Except Fault Notice := do
  return .gaveUp (← elements assumptions) (if budget.isBlank then "" else budget.plain)

end Clausal.Argument
