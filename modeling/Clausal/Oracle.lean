import Clausal.Limits
import Clausal.Residual

/-!
# Decision procedures

An oracle does two things for a rule base: it tells whether a solver that takes in a
clause sees a conflict, and it decides clauses under assumptions. Both may depend on
what went before, since a procedure that learns as it goes need not find the same
model twice, and may see a conflict that it would have missed without an earlier
decision.

A lawful oracle is free in which model it finds, in whether it leaves variables out
of it or names variables that no clause has, and, under limits, in when it gives up.
It is free in how much it remembers of its decisions, as long as it sees whatever
unit propagation sees and is never wrong. It is bound in everything else.
-/

namespace Clausal

/-- The outcome of one decision. A witness lists literals that suffice to make the
clauses true. -/
inductive Verdict
  | satisfiable (witness : List Literal)
  | unsatisfiable
  | unknown

/-- The verdict is that there is no model. -/
def Verdict.isRefutation : Verdict → Bool
  | unsatisfiable => true
  | _ => false

/-- Of the three verdicts, only one is that there is no model. -/
theorem Verdict.isRefutation_iff {verdict : Verdict} :
    verdict.isRefutation = true ↔ verdict = .unsatisfiable := by
  cases verdict <;> simp [isRefutation]

/-- A decision that a solver has made: the clauses that it held at the time, what it was
to assume, and what it found. -/
structure Decision where
  clauses : List Clause
  assumptions : List Literal
  verdict : Verdict

/-- A decision procedure. -/
structure Oracle where
  /-- A solver with these decisions behind it, latest first, takes in the last of the
  clauses and sees that they have no model. -/
  conflicts : (past : List Decision) → List Clause → Bool
  /-- Decides the clauses under assumptions, at a given turn and within limits. -/
  decide : (turn : Nat) → Limits → List Clause → List Literal → Verdict

/-- The literals name no variable twice, include the assumptions, and every
assignment that agrees with them is a model of the clauses. -/
structure Witnesses (witness : List Literal) (clauses : List Clause)
    (assumptions : List Literal) : Prop where
  distinct : (witness.map Literal.var).Nodup
  assumed : ∀ literal ∈ assumptions, literal ∈ witness
  models : ∀ assignment : Assignment, (∀ literal ∈ witness, literal.Holds assignment) →
    Models assignment clauses

/-- The decision was about the first of these clauses, and if it found no model, these had
none. So what it showed holds of all the clauses. -/
structure Decision.TrueOf (decision : Decision) (clauses : List Clause) : Prop where
  earlier : decision.clauses <+: clauses
  refutes : decision.verdict = .unsatisfiable →
    ¬Satisfiable decision.clauses decision.assumptions

/-- A decision stays true when clauses are added at the end. -/
theorem Decision.TrueOf.append {decision : Decision} {clauses : List Clause}
    (isTrue : decision.TrueOf clauses) (added : List Clause) :
    decision.TrueOf (clauses ++ added) :=
  ⟨isTrue.earlier.trans (List.prefix_append clauses added), isTrue.refutes⟩

namespace Oracle

/-- What every correct decision procedure promises. Of a conflict it promises two things:
one that unit propagation meets is seen whatever was decided before, and one that is
seen after decisions that were right is there. -/
structure Lawful (oracle : Oracle) : Prop where
  propagates : ∀ {past clauses}, Refuted clauses → oracle.conflicts past clauses = true
  sees : ∀ {past clauses}, (∀ decision ∈ past, decision.TrueOf clauses) →
    oracle.conflicts past clauses = true → ¬Satisfiable clauses []
  witnesses : ∀ {turn limits clauses assumptions witness},
    oracle.decide turn limits clauses assumptions = .satisfiable witness →
      Witnesses witness clauses assumptions
  refutes : ∀ {turn limits clauses assumptions},
    oracle.decide turn limits clauses assumptions = .unsatisfiable →
      ¬Satisfiable clauses assumptions
  limited : ∀ {turn limits clauses assumptions},
    oracle.decide turn limits clauses assumptions = .unknown → limits.isLimited = true

/-- A solver that has decided nothing yet sees no conflict but those that unit propagation
meets. What it takes decisions to learn it does not know before the first one. -/
def PropagatesOnly (oracle : Oracle) : Prop :=
  ∀ {clauses}, oracle.conflicts [] clauses = true → Refuted clauses

/-- The same oracle, but every limited decision from the given turn on gives up. -/
def exhaustedFrom (oracle : Oracle) (turn : Nat) : Oracle where
  conflicts := oracle.conflicts
  decide now limits clauses assumptions :=
    if limits.isLimited && turn ≤ now then .unknown
    else oracle.decide now limits clauses assumptions

/-- Exhaustion leaves an oracle lawful. It only turns verdicts under limits into giving up, and
what is seen of conflicts stays as it is. -/
theorem Lawful.exhaustedFrom {oracle : Oracle} (lawful : oracle.Lawful) (turn : Nat) :
    (oracle.exhaustedFrom turn).Lawful where
  propagates := lawful.propagates
  sees := lawful.sees
  witnesses := by
    intro now limits clauses assumptions witness verdict
    unfold Oracle.exhaustedFrom at verdict
    simp only at verdict
    split at verdict
    · cases verdict
    · exact lawful.witnesses verdict
  refutes := by
    intro now limits clauses assumptions verdict
    unfold Oracle.exhaustedFrom at verdict
    simp only at verdict
    split at verdict
    · cases verdict
    · exact lawful.refutes verdict
  limited := by
    intro now limits clauses assumptions verdict
    unfold Oracle.exhaustedFrom at verdict
    simp only at verdict
    split at verdict
    · next exhausted => exact (Bool.and_eq_true _ _ ▸ exhausted).1
    · exact lawful.limited verdict

end Oracle

/-- Where no variable is named twice, a variable settles the literal. Two literals over it would
name it twice. -/
theorem eq_of_var_eq {literals : List Literal} (distinct : (literals.map Literal.var).Nodup)
    {first second : Literal} (firstMember : first ∈ literals) (secondMember : second ∈ literals)
    (sameVariable : first.var = second.var) : first = second := by
  induction literals with
  | nil => cases firstMember
  | cons head rest inductionHypothesis =>
    rw [List.map_cons, List.nodup_cons] at distinct
    rcases List.mem_cons.1 firstMember with firstHead | firstRest <;>
      rcases List.mem_cons.1 secondMember with secondHead | secondRest
    · rw [firstHead, secondHead]
    · exact absurd (firstHead ▸ sameVariable ▸ List.mem_map_of_mem secondRest) distinct.1
    · exact absurd (secondHead ▸ sameVariable ▸ List.mem_map_of_mem firstRest) distinct.1
    · exact inductionHypothesis distinct.2 firstRest secondRest

/-- A witness with an agreeing assignment: its clauses and assumptions have a model. The
assignment makes true what the witness lists as positive; since no variable is named twice, it
agrees with the negative literals as well. -/
theorem Witnesses.satisfiable {witness : List Literal} {clauses : List Clause}
    {assumptions : List Literal} (witnesses : Witnesses witness clauses assumptions) :
    Satisfiable clauses assumptions := by
  let assignment : Assignment := fun var => decide (⟨var, true⟩ ∈ witness)
  have agrees : ∀ literal ∈ witness, literal.Holds assignment := by
    intro literal member
    obtain ⟨var, positive⟩ := literal
    change decide (⟨var, true⟩ ∈ witness) = positive
    cases positive with
    | true => exact decide_eq_true member
    | false =>
      refine decide_eq_false fun other => ?_
      have same := eq_of_var_eq witnesses.distinct member other rfl
      cases same
  exact ⟨assignment, witnesses.models assignment agrees,
    fun literal member => agrees literal (witnesses.assumed literal member)⟩

end Clausal
