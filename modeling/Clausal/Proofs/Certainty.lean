import Clausal.Proofs.Verdicts

/-!
# Certain rule bases

Without limits every decision is made, so nothing is left in doubt: an addition that takes
the last model away is refused, and with its refusal the permanent solver knows that there is
no model. What a solver knows it does not forget. A rule base is certain if it has no limits
and a solver that knows where there is no model, and every call keeps it so.

Certainty settles what a solver is known to have refuted, for that is then a fact about the
clauses. It does not settle what the solver would see with one more clause, which also
depends on the decisions that it remembers.
-/

namespace Clausal

/-- A refuted solver stays so, whatever it decides next. -/
theorem Solver.refuted_learn {solver : Solver} (refuted : solver.refuted = true)
    (assumptions : List Literal) (verdict : Verdict) :
    (solver.learn assumptions verdict).refuted = true :=
  refuted_learn_iff.mpr (Or.inl refuted)

namespace RuleBase

variable {α : Type} {oracle : Oracle} {base : RuleBase}

/-- Nothing limits the decisions, and a solver whose clauses have no model knows it. -/
structure Certain (base : RuleBase) : Prop where
  coherent : base.Coherent
  unlimited : base.limits.isLimited = false
  knows : ∀ solver, base.solver = some solver → ¬Satisfiable base.clauses [] →
    solver.refuted = true

/-- What the permanent solver of a certain rule base takes to be refuted is refuted, and the
other way round. -/
theorem Certain.refuted_iff (certain : base.Certain) {solver : Solver}
    (held : base.solver = some solver) :
    solver.refuted = true ↔ ¬Satisfiable base.clauses [] :=
  ⟨(certain.coherent.sound solver held).refuted, certain.knows solver held⟩

/-- An entry in the audit trail puts nothing in doubt. -/
theorem Certain.log (certain : base.Certain) (event : Event) : (base.log event).Certain :=
  ⟨certain.coherent.log event, certain.unlimited, certain.knows⟩

/-- After a question the solver is the same, or it has learnt from the verdict. In either case
it still knows what it knew. -/
theorem ask_knows (oracle : Oracle) (base : RuleBase) (question : Question)
    (known : ∀ solver, base.solver = some solver → solver.refuted = true) :
    ∀ solver, (base.ask oracle question).2.solver = some solver → solver.refuted = true := by
  cases question with
  | assuming literals =>
    unfold ask
    cases held : base.solver with
    | none => exact known
    | some solver =>
      dsimp only
      split
      · intro after learned
        rw [settle_solver] at learned
        obtain rfl := Option.some.inj learned
        exact Solver.refuted_learn (known solver held) literals _
      · exact known
  | alongside extra =>
    unfold ask
    dsimp only
    split
    · rw [settle_solver]
      exact known
    · exact known

/-- A question keeps certainty: the clauses are the same, and the solver forgets nothing. -/
theorem Certain.ask (certain : base.Certain) (lawful : oracle.Lawful) (question : Question) :
    (base.ask oracle question).2.Certain := by
  have conducted := conducted_ask lawful certain.coherent question
  refine ⟨conducted.coherent, conducted.unaltered.limits ▸ certain.unlimited, ?_⟩
  intro solver held hopeless
  rw [conducted.unaltered.clauses] at hopeless
  exact ask_knows oracle base question (fun before present => certain.knows before present hopeless)
    solver held

/-- So does an inquiry, question by question. -/
theorem Certain.run (certain : base.Certain) (lawful : oracle.Lawful) (inquiry : Inquiry α) :
    (inquiry.run oracle base).2.Certain := by
  induction inquiry generalizing base with
  | done result => exact certain
  | note event rest inductionHypothesis => exact inductionHypothesis (certain.log event)
  | ask question next inductionHypothesis =>
    have asked := certain.ask lawful question
    rw [Inquiry.run]
    rcases ended : base.ask oracle question with ⟨fault | answer, after⟩ <;> rw [ended] at asked
    · exact asked
    · exact inductionHypothesis answer asked

/-- A solver that was asked in vain for a model knows that there is none. -/
theorem ask_refuted {after : RuleBase}
    (asked : base.ask oracle (.assuming []) = (.ok none, after)) :
    ∀ solver, after.solver = some solver → solver.refuted = true := by
  unfold ask at asked
  dsimp only at asked
  split at asked
  · cases asked
  · next solver held =>
    split at asked
    · cases verdict : oracle.decide base.decisions base.limits solver.database [] with
      | satisfiable witness => rw [verdict] at asked; cases asked
      | unknown => rw [verdict] at asked; cases asked
      | unsatisfiable =>
        rw [verdict] at asked
        obtain ⟨-, rfl⟩ := Prod.mk.inj asked
        rintro _ ⟨⟩
        exact Solver.refuted_learn_iff.mpr (Or.inr ⟨rfl, rfl⟩)
    · cases asked

/-- A check that finds no model leaves a solver that knows it: to assume nothing and be answered
no is remembered. -/
theorem certify_refuted {blamed reported : Option Clause}
    (refused : (base.certify oracle blamed).1 = .error (.contradiction reported)) :
    ∀ solver, (base.certify oracle blamed).2.solver = some solver → solver.refuted = true := by
  rw [certify_eq] at refused ⊢
  rcases asked : base.ask oracle (.assuming []) with ⟨fault | _ | witness, after⟩ <;>
    rw [asked] at refused
  · -- No decision fails for a contradiction.
    obtain rfl : fault = .contradiction reported := Except.error.inj refused
    rcases ask_ends oracle base (.assuming []) with
      ⟨_, _, ended, _⟩ | ⟨_, ended, _⟩ | ended | ended <;> rw [asked] at ended <;> cases ended
  · have known : ∀ solver, after.solver = some solver → solver.refuted = true := ask_refuted asked
    exact known
  · cases refused

/-- An addition that is refused leaves a solver that knows why, be it from a conflict that it saw
itself or from the decision. -/
theorem add_refuted {clause : Clause} {reported : Option Clause}
    (refused : (base.add oracle clause).1 = .error (.contradiction reported)) :
    ∀ solver, (base.add oracle clause).2.solver = some solver → solver.refuted = true := by
  cases held : base.solver with
  | none =>
    rw [add_closed held] at refused
    cases refused
  | some before =>
    cases known : (before.insert oracle clause).refuted with
    | true =>
      rw [add_known held known]
      rintro solver ⟨⟩
      exact known
    | false =>
      rw [add_unknown held known] at refused ⊢
      exact certify_refuted refused

end RuleBase

open RuleBase

variable {oracle : Oracle} {start base : RuleBase} {history : List Exchange}

/-- An addition keeps certainty. If its clauses have no model it was refused, since nothing
kept the check from being made. -/
theorem RuleBase.Certain.add (certain : base.Certain) (lawful : oracle.Lawful) (clause : Clause) :
    (base.add oracle clause).2.Certain := by
  have checked := checked_add lawful certain.coherent clause
  refine ⟨checked.coherent, checked.limits ▸ certain.unlimited, fun solver held hopeless => ?_⟩
  rw [checked.clauses] at hopeless
  cases ended : (base.add oracle clause).1 with
  | ok result => exact absurd (checked.accepted result ended).1 hopeless
  | error fault =>
    rcases checked.failed fault ended with ⟨rfl, _⟩ | ⟨declines, _⟩
    · exact add_refuted ended solver held
    · have isOpen : (base.store clause).isOpen = true := by
        rw [← checked.isOpen, RuleBase.isOpen, held, Option.isSome_some]
      exact absurd declines (not_declines isOpen certain.unlimited)

/-- What is recorded of an addition puts nothing in doubt. -/
theorem RuleBase.Certain.acknowledged {outcome : Outcome Unit} (certain : outcome.2.Certain)
    (event : Event) : (acknowledged event outcome).2.Certain := by
  rcases outcome with ⟨_ | _, after⟩
  · exact certain
  · exact certain.log event

/-- A closed rule base has no solver that could miss anything. -/
theorem RuleBase.Certain.close (certain : base.Certain) : base.close.Certain where
  coherent := certain.coherent.close
  unlimited := base.close_limits ▸ certain.unlimited
  knows := by
    intro solver held
    rw [isOpen_eq_false_iff.mp (close_isOpen base)] at held
    cases held

/-- Every request keeps certainty. Only an addition stores anything, and it is checked. -/
theorem RuleBase.Certain.request (certain : base.Certain) (lawful : oracle.Lawful)
    (request : Request) : (request.perform oracle base).2.Certain := by
  cases request with
  | tellFact literal =>
    rw [Request.perform, tellFact_silent]
    exact (certain.add lawful (Clause.unit literal)).acknowledged _
  | tell clause =>
    rw [Request.perform, tell_silent]
    exact (certain.add lawful clause).acknowledged _
  | inquire query => exact certain.run lawful _
  | close => exact certain.close
  | enter => exact certain
  | describe => exact certain
  | listing => exact certain

/-- Every call keeps certainty. -/
theorem RuleBase.Certain.perform (certain : base.Certain) (lawful : oracle.Lawful) (call : Call) :
    (call.perform oracle base).2.Certain := by
  unfold Call.perform
  cases call.read with
  | error fault => exact certain
  | ok request => exact certain.request lawful request

/-- What could be built has a model, so there is nothing for its solver to know. -/
theorem Built.certain (built : Built base) (unlimited : base.limits.isLimited = false) :
    base.Certain :=
  ⟨built.coherent, unlimited, fun _ _ hopeless => absurd built.satisfiable hopeless⟩

/-- Certainty is kept along every run, under any lawful oracles. -/
theorem Run.certain (certain : start.Certain) (run : Run start history base) : base.Certain := by
  induction run with
  | begun => exact certain
  | called _ oracle lawful call inductionHypothesis => exact inductionHypothesis.perform lawful call

end Clausal
