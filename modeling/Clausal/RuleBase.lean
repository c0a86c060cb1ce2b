import Clausal.Event
import Clausal.Fault
import Clausal.Oracle

/-!
# Rule bases

A rule base is a growing conjunction of clauses together with a solver that holds
the same clauses for as long as the rule base is open. Clauses are only ever added.
An addition that leaves no model is refused and marks the rule base as no longer
trusted, but nothing is rolled back: the clause is stored before it is checked, so a
refusal, a decision that gives up and a closed rule base all leave it in place.

Every operation takes a rule base to an outcome and the rule base afterwards, also
when it fails. Questions never store anything but their count and their events.
-/

namespace Clausal

/-- The permanent solver: the clauses that it was given, the decisions that it has made,
latest first, and whether it is known to it that its clauses have no model. -/
structure Solver where
  database : List Clause
  past : List Decision
  refuted : Bool

namespace Solver

/-- Every decision is remembered, and may help to see a conflict later. A solver refuted
without any assumption is refuted for good. -/
def learn (solver : Solver) (assumptions : List Literal) (verdict : Verdict) : Solver :=
  { solver with
    past := ⟨solver.database, assumptions, verdict⟩ :: solver.past
    refuted := solver.refuted || (verdict.isRefutation && assumptions.isEmpty) }

/-- Gives a clause to the solver. Once a conflict is seen, the solver stays refuted. -/
def insert (oracle : Oracle) (solver : Solver) (clause : Clause) : Solver :=
  let database := solver.database ++ [clause]
  { solver with
    database := database
    refuted := solver.refuted || oracle.conflicts solver.past database }

end Solver

/-- A growing conjunction of clauses. -/
structure RuleBase where
  /-- The name of the backend, as it was given. -/
  backend : String
  limits : Limits
  /-- The clauses in the order in which they came. -/
  clauses : List Clause
  /-- The largest variable number in any clause. -/
  highest : Nat
  /-- Decisions made so far. -/
  decisions : Nat
  /-- No addition has left the clauses without a model. -/
  trusted : Bool
  /-- The solver, until the rule base is closed. -/
  solver : Option Solver
  /-- The audit trail, latest event first. -/
  journal : List Event

/-- What an operation comes to: a result or a fault, and the rule base afterwards. -/
abbrev Outcome (α : Type) := Except Fault α × RuleBase

namespace RuleBase

/-- An open rule base without clauses. Its solver has decided nothing and refuted nothing. -/
def empty (backend : String) (limits : Limits) : RuleBase where
  backend := backend
  limits := limits
  clauses := []
  highest := 0
  decisions := 0
  trusted := true
  solver := some ⟨[], [], false⟩
  journal := []

/-- The rule base has not been closed. -/
def isOpen (base : RuleBase) : Bool := base.solver.isSome

/-- A closed rule base is one without a solver. -/
theorem isOpen_eq_false_iff {base : RuleBase} : base.isOpen = false ↔ base.solver = none :=
  Option.isSome_eq_false_iff.trans Option.isNone_iff_eq_none

/-- Records an event. -/
def log (base : RuleBase) (event : Event) : RuleBase :=
  { base with journal := event :: base.journal }

/-- Counts a decision. -/
def count (base : RuleBase) : RuleBase := { base with decisions := base.decisions + 1 }

/-- Releases the solver, once. -/
def close (base : RuleBase) : RuleBase :=
  match base.solver with
  | none => base
  | some _ => { base with solver := none }.log .closed

/-- Turns the verdict on a counted question into its outcome. -/
def settle (base : RuleBase) (question : Question) : Verdict → Outcome (Option (List Literal))
  | .satisfiable witness => (.ok (some witness), base.log (.decided question true))
  | .unsatisfiable => (.ok none, base.log (.decided question false))
  | .unknown =>
    (.error (.gaveUp question.assumptions base.limits), base.log (.gaveUp question base.limits))

/-- Makes one decision, which gives a witness if there is a model. Assumptions are
decided by the permanent solver and need an open rule base; extra clauses are decided
by a solver of their own, which is given the stored clauses and the extra ones. -/
def ask (oracle : Oracle) (base : RuleBase) (question : Question) :
    Outcome (Option (List Literal)) :=
  match question with
  | .assuming literals =>
    match base.solver with
    | none => (.error .closed, base)
    | some solver =>
      if base.limits.isCountable then
        let verdict := oracle.decide base.decisions base.limits solver.database literals
        { base.count with solver := some (solver.learn literals verdict) }.settle question verdict
      else (.error (.notWhole .decimal), base.count)
  | .alongside extra =>
    if base.limits.isCountable then
      base.count.settle question
        (oracle.decide base.decisions base.limits (base.clauses ++ extra) [])
    else (.error (.notWhole .decimal), base.count)

/-- Stores a clause, with no check at all. -/
def store (base : RuleBase) (clause : Clause) : RuleBase :=
  { base with
    clauses := base.clauses ++ [clause]
    highest := max base.highest clause.highest }

/-- Stores a clause and hands it to the solver; the result tells whether the solver
sees no conflict. -/
def insert (oracle : Oracle) (base : RuleBase) (clause : Clause) : Outcome Bool :=
  match base.solver with
  | none => (.error .closed, base.store clause)
  | some solver =>
    let solver := solver.insert oracle clause
    (.ok !solver.refuted, { base.store clause with solver := some solver })

/-- Refuses: the clauses have no model, and the rule base is not trusted again. -/
def refuse (base : RuleBase) (clause : Option Clause) : Outcome Unit :=
  (.error (.contradiction clause), { base with trusted := false }.log (.contradiction clause))

/-- Accepts the clauses if they have a model and refuses them otherwise, blaming the
given clause. -/
def certify (oracle : Oracle) (base : RuleBase) (blamed : Option Clause) : Outcome Unit :=
  match base.ask oracle (.assuming []) with
  | (.error fault, base) => (.error fault, base)
  | (.ok none, base) => base.refuse blamed
  | (.ok (some _), base) => (.ok (), base)

/-- Adds a clause. A conflict that the solver sees by itself needs no decision. -/
def add (oracle : Oracle) (base : RuleBase) (clause : Clause) : Outcome Unit :=
  match base.insert oracle clause with
  | (.error fault, base) => (.error fault, base)
  | (.ok false, base) => base.refuse (some clause)
  | (.ok true, base) => base.certify oracle (some clause)

/-- Adds a clause and records it. -/
def tell (oracle : Oracle) (base : RuleBase) (clause : Clause) : Outcome Unit :=
  match base.add oracle clause with
  | (.error fault, base) => (.error fault, base)
  | (.ok _, base) => (.ok (), base.log (.clauseAdded clause))

/-- Adds a literal as a clause of its own and records it. -/
def tellFact (oracle : Oracle) (base : RuleBase) (literal : Literal) : Outcome Unit :=
  match base.add oracle (Clause.unit literal) with
  | (.error fault, base) => (.error fault, base)
  | (.ok _, base) => (.ok (), base.log (.factAdded literal))

/-- Takes in a batch. Each clause is read only when its turn comes, so a conflict
hides the malformed clauses after it. What no conflict shows is left to one decision
at the end. -/
def load (oracle : Oracle) (base : RuleBase) : List (Except Fault Clause) → Outcome Unit
  | [] => if base.clauses.isEmpty then (.ok (), base) else base.certify oracle none
  | .error fault :: _ => (.error fault, base)
  | .ok clause :: rest =>
    match base.insert oracle clause with
    | (.error fault, base) => (.error fault, base)
    | (.ok false, base) => base.refuse (some clause)
    | (.ok true, base) => base.load oracle rest

/-- Builds a rule base from a batch of clauses. One that cannot be built is closed. -/
def create (oracle : Oracle) (backend : String) (limits : Limits)
    (batch : List (Except Fault Clause)) : Outcome Unit :=
  match (empty backend limits).load oracle batch with
  | (.error fault, base) => (.error fault, base.close)
  | (.ok _, base) =>
    (.ok (), base.log (.created base.clauses.length base.highest backend))

/-- A line that describes the rule base. -/
def describe (base : RuleBase) : String :=
  "RuleSet(" ++ toString base.clauses.length ++ " clauses, highest_variable="
    ++ toString base.highest ++ ", solver=" ++ Text.quoted base.backend ++ ")"

end RuleBase

end Clausal
