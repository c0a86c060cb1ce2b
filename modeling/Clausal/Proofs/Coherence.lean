import Clausal.Proofs.Truthful

/-!
# Coherent rule bases

A rule base keeps its clauses twice: once to report them and to give them to solvers
of their own, and once in the permanent solver. Coherence says that the two agree while
the rule base is open, and that whatever the rule base holds about having no model (a
refuted solver, the decisions that it remembers, the loss of trust) is true of the
clauses.

Questions leave the stored part of a rule base alone. Carrying out an inquiry under a
lawful oracle therefore either gives a result that truthful answers about the stored
clauses lead to, or ends in a decision that was not made.
-/

namespace Clausal

namespace Solver

variable {oracle : Oracle} {solver : Solver} {clauses : List Clause} {assumptions : List Literal}
  {verdict : Verdict}

/-- A solver for the given clauses that is right about them. It holds these clauses and no
others, what it remembers of its decisions is true of them, and if it takes them to be
refuted, they have no model. -/
structure Sound (solver : Solver) (clauses : List Clause) : Prop where
  database : solver.database = clauses
  past : ∀ decision ∈ solver.past, decision.TrueOf clauses
  refuted : solver.refuted = true → ¬Satisfiable clauses []

/-- A solver that has decided nothing and takes nothing to be refuted is right about the
clauses that it holds. -/
theorem sound_unasked (clauses : List Clause) : Sound ⟨clauses, [], false⟩ clauses where
  database := rfl
  past := fun _ impossible => absurd impossible List.not_mem_nil
  refuted := Bool.noConfusion

/-- To remember a decision changes no clause of the solver. -/
@[simp] theorem learn_database (solver : Solver) (assumptions : List Literal)
    (verdict : Verdict) : (solver.learn assumptions verdict).database = solver.database := rfl

/-- A decision tells a solver that there is no model if the solver was asked for one without
assumptions, and in vain. All else that it takes to be refuted it did before. -/
theorem refuted_learn_iff : (solver.learn assumptions verdict).refuted = true ↔
    solver.refuted = true ∨ verdict = .unsatisfiable ∧ assumptions = [] := by
  simp only [learn, Bool.or_eq_true, Bool.and_eq_true, Verdict.isRefutation_iff,
    List.isEmpty_iff]

/-- A solver stays right with one more decision, if that was right about the clauses. What it
remembers is then true of them, and it takes them to be refuted only where they are. -/
theorem Sound.learn (sound : solver.Sound clauses)
    (refutes : verdict = .unsatisfiable → ¬Satisfiable clauses assumptions) :
    (solver.learn assumptions verdict).Sound clauses where
  database := sound.database
  past := by
    have made : Decision.TrueOf ⟨solver.database, assumptions, verdict⟩ clauses := by
      rw [sound.database]
      exact ⟨List.prefix_rfl, refutes⟩
    exact List.forall_mem_cons.mpr ⟨made, sound.past⟩
  refuted := by
    intro refuted
    rcases refuted_learn_iff.mp refuted with already | ⟨verdict, rfl⟩
    · exact sound.refuted already
    · exact refutes verdict

/-- A solver stays right with one more clause. The decisions that it remembers were about
fewer clauses, so they are still true, and a conflict that it sees after them is there. -/
theorem Sound.insert (lawful : oracle.Lawful) (sound : solver.Sound clauses) (clause : Clause) :
    (solver.insert oracle clause).Sound (clauses ++ [clause]) where
  database := congrArg (· ++ [clause]) sound.database
  past := fun decision member => (sound.past decision member).append [clause]
  refuted := by
    intro refuted
    rw [Solver.insert, sound.database, Bool.or_eq_true] at refuted
    rcases refuted with already | conflict
    · exact fun satisfiable => sound.refuted already satisfiable.of_append
    · exact lawful.sees (fun decision member => (sound.past decision member).append [clause])
        conflict

end Solver

namespace RuleBase

/-- What is true of a rule base whatever was done to it. -/
structure Coherent (base : RuleBase) : Prop where
  /-- The highest number is that of the clauses. -/
  highest : base.highest = Clause.highestOf (base.clauses.flatMap Clause.literals)
  /-- The permanent solver holds the stored clauses, and is right about them. -/
  sound : ∀ solver, base.solver = some solver → solver.Sound base.clauses
  /-- Trust is lost only where there is no model. -/
  distrusted : base.trusted = false → ¬Satisfiable base.clauses []

/-- The stored part is the same. -/
structure Unaltered (before after : RuleBase) : Prop where
  backend : after.backend = before.backend
  limits : after.limits = before.limits
  clauses : after.clauses = before.clauses
  highest : after.highest = before.highest
  trusted : after.trusted = before.trusted
  isOpen : after.isOpen = before.isOpen

/-- The faults of decisions that are not made: the rule base is closed, the decision
gives up within its limits, or the limit on conflicts is no whole number of them. -/
inductive Declines (base : RuleBase) : Fault → Prop
  | closed (closed : base.isOpen = false) : Declines base .closed
  | gaveUp (assumptions : List Literal) (limited : base.limits.isLimited = true) :
      Declines base (.gaveUp assumptions base.limits)
  | uncountable (uncountable : base.limits.isCountable = false) :
      Declines base (.notWhole .decimal)

/-- Nothing is altered where nothing happens. -/
theorem Unaltered.refl (base : RuleBase) : Unaltered base base := ⟨rfl, rfl, rfl, rfl, rfl, rfl⟩

/-- To record an event alters none of what is stored. -/
theorem Unaltered.log (base : RuleBase) (event : Event) : Unaltered base (base.log event) :=
  ⟨rfl, rfl, rfl, rfl, rfl, rfl⟩

/-- To count a decision alters none of what is stored. -/
theorem Unaltered.count (base : RuleBase) : Unaltered base base.count :=
  ⟨rfl, rfl, rfl, rfl, rfl, rfl⟩

/-- What is unaltered twice is unaltered, so an inquiry of any length alters no more than one
question does. -/
theorem Unaltered.trans {first second third : RuleBase} (earlier : Unaltered first second)
    (later : Unaltered second third) : Unaltered first third where
  backend := later.backend.trans earlier.backend
  limits := later.limits.trans earlier.limits
  clauses := later.clauses.trans earlier.clauses
  highest := later.highest.trans earlier.highest
  trusted := later.trusted.trans earlier.trusted
  isOpen := later.isOpen.trans earlier.isOpen

/-- What can be declined depends on the stored part only. -/
theorem Declines.of_unaltered {before after : RuleBase} {fault : Fault}
    (unaltered : Unaltered before after) (declines : after.Declines fault) :
    before.Declines fault := by
  cases declines with
  | closed closed => exact .closed (unaltered.isOpen ▸ closed)
  | gaveUp assumptions limited =>
    rw [unaltered.limits] at limited ⊢
    exact .gaveUp assumptions limited
  | uncountable uncountable => exact .uncountable (unaltered.limits ▸ uncountable)

/-- Closing keeps the name of the backend. -/
@[simp] theorem close_backend (base : RuleBase) : base.close.backend = base.backend := by
  unfold close
  split <;> rfl

/-- Closing keeps the limits, which bind decisions about extra clauses from then on. -/
@[simp] theorem close_limits (base : RuleBase) : base.close.limits = base.limits := by
  unfold close
  split <;> rfl

/-- Closing keeps the clauses, which can still be listed and decided with extra ones. -/
@[simp] theorem close_clauses (base : RuleBase) : base.close.clauses = base.clauses := by
  unfold close
  split <;> rfl

/-- Closing keeps the highest variable. -/
@[simp] theorem close_highest (base : RuleBase) : base.close.highest = base.highest := by
  unfold close
  split <;> rfl

/-- Closing takes no decision. -/
@[simp] theorem close_decisions (base : RuleBase) : base.close.decisions = base.decisions := by
  unfold close
  split <;> rfl

/-- Closing neither ends nor restores trust. -/
@[simp] theorem close_trusted (base : RuleBase) : base.close.trusted = base.trusted := by
  unfold close
  split <;> rfl

/-- Without clauses there is nothing to disagree about. -/
theorem coherent_empty (backend : String) (limits : Limits) : (empty backend limits).Coherent where
  highest := rfl
  sound := by
    rintro solver ⟨⟩
    exact Solver.sound_unasked []
  distrusted := Bool.noConfusion

/-- Coherence does not speak of the audit trail. -/
theorem Coherent.log {base : RuleBase} (coherent : base.Coherent) (event : Event) :
    (base.log event).Coherent :=
  ⟨coherent.highest, coherent.sound, coherent.distrusted⟩

/-- Coherence does not speak of the number of decisions. -/
theorem Coherent.count {base : RuleBase} (coherent : base.Coherent) : base.count.Coherent :=
  ⟨coherent.highest, coherent.sound, coherent.distrusted⟩

/-- Closing leaves no solver to be wrong. -/
theorem Coherent.close {base : RuleBase} (coherent : base.Coherent) : base.close.Coherent := by
  unfold RuleBase.close
  split
  · exact coherent
  · refine ⟨coherent.highest, ?_, coherent.distrusted⟩
    rintro _ ⟨⟩

/-- A solver that is right about the clauses can take the place of the permanent one. -/
theorem Coherent.withSolver {base : RuleBase} {solver : Solver} (coherent : base.Coherent)
    (sound : solver.Sound base.clauses) : { base with solver := some solver }.Coherent where
  highest := coherent.highest
  sound := by
    rintro _ ⟨⟩
    exact sound
  distrusted := coherent.distrusted

variable {α : Type} {oracle : Oracle} {base : RuleBase}

/-- An inquiry was carried out on the rule base with this outcome. A result is one that
truthful answers about the stored clauses lead to, and its cost was counted. -/
structure Conducted (base : RuleBase) (inquiry : Inquiry α) (outcome : Outcome α) : Prop where
  coherent : outcome.2.Coherent
  unaltered : Unaltered base outcome.2
  answered : ∀ result, outcome.1 = .ok result → ∃ cost,
    inquiry.Yields base.clauses cost result ∧ outcome.2.decisions = base.decisions + cost
  declined : ∀ fault, outcome.1 = .error fault → base.Declines fault

/-- A verdict that a lawful oracle gives on the clauses settles a counted question
truthfully, unless it is no verdict. -/
theorem conducted_settle {asked : RuleBase} {question : Question} {verdict : Verdict}
    (coherent : asked.Coherent) (unaltered : Unaltered base asked)
    (counted : asked.decisions = base.decisions + 1)
    (witnesses : ∀ witness, verdict = .satisfiable witness →
      Witnesses witness (base.clauses ++ question.extra) question.assumptions)
    (refutes : verdict = .unsatisfiable → ¬question.Affirmed base.clauses)
    (limited : verdict = .unknown → base.limits.isLimited = true) :
    Conducted base (.ask question .done) (asked.settle question verdict) := by
  have logged (event : Event) : Unaltered base (asked.log event) :=
    unaltered.trans (.log asked event)
  cases verdict with
  | satisfiable witness =>
    refine ⟨coherent.log _, logged _, ?_, ?_⟩ <;> rintro _ ⟨⟩
    exact ⟨1, ⟨some witness, 0, witnesses witness rfl, ⟨rfl, rfl⟩, rfl⟩, counted⟩
  | unsatisfiable =>
    refine ⟨coherent.log _, logged _, ?_, ?_⟩ <;> rintro _ ⟨⟩
    exact ⟨1, ⟨none, 0, refutes rfl, ⟨rfl, rfl⟩, rfl⟩, counted⟩
  | unknown =>
    refine ⟨coherent.log _, logged _, ?_, ?_⟩ <;> rintro _ ⟨⟩
    rw [unaltered.limits]
    exact .gaveUp question.assumptions (limited rfl)

/-- A question that is counted and then fails for want of a countable limit. -/
theorem conducted_uncountable {question : Question} (coherent : base.Coherent)
    (uncountable : ¬base.limits.isCountable = true) :
    Conducted base (.ask question .done) (.error (.notWhole .decimal), base.count) where
  coherent := coherent.count
  unaltered := .count base
  answered := by rintro _ ⟨⟩
  declined := by
    rintro _ ⟨⟩
    exact .uncountable (Bool.not_eq_true _ ▸ uncountable)

/-- One question, put to the permanent solver or to one of its own. It is answered truthfully or
not at all, and either way nothing that is stored is altered. -/
theorem conducted_ask (lawful : oracle.Lawful) (coherent : base.Coherent)
    (question : Question) : Conducted base (.ask question .done) (base.ask oracle question) := by
  cases question with
  | assuming literals =>
    unfold RuleBase.ask
    simp only
    split
    · next isClosed =>
      refine ⟨coherent, .refl base, ?_, ?_⟩ <;> rintro _ ⟨⟩
      exact .closed (by rw [isOpen, isClosed]; rfl)
    · next solver isOpen =>
      have sound : solver.Sound base.clauses := coherent.sound solver isOpen
      split
      · -- The verdict is on the solver's clauses, which coherence makes the stored ones.
        rw [sound.database]
        refine conducted_settle (coherent.count.withSolver (sound.learn lawful.refutes)) ?_ rfl
          ?_ ?_ lawful.limited
        · exact ⟨rfl, rfl, rfl, rfl, rfl, by simp [RuleBase.isOpen, isOpen]⟩
        · intro witness verdict
          simpa [Question.extra, Question.assumptions] using lawful.witnesses verdict
        · intro verdict
          rw [Question.affirmed_assuming]
          exact lawful.refutes verdict
      · next uncountable => exact conducted_uncountable coherent uncountable
  | alongside extra =>
    unfold RuleBase.ask
    simp only
    split
    · exact conducted_settle coherent.count (.count base) rfl
        (fun witness => lawful.witnesses) lawful.refutes lawful.limited
    · next uncountable => exact conducted_uncountable coherent uncountable

/-- Carrying out an inquiry: the induction is on the inquiry, with the rule base left
general, since each question leaves another one behind that stores the same. -/
theorem conducted_run (lawful : oracle.Lawful) (coherent : base.Coherent)
    (inquiry : Inquiry α) : Conducted base inquiry (inquiry.run oracle base) := by
  induction inquiry generalizing base with
  | done result =>
    refine ⟨coherent, .refl base, ?_, ?_⟩ <;> rintro _ ⟨⟩
    exact ⟨0, ⟨rfl, rfl⟩, rfl⟩
  | note event rest inductionHypothesis =>
    obtain ⟨after, unaltered, answered, declined⟩ := inductionHypothesis (coherent.log event)
    have logged : Unaltered base (base.log event) := .log base event
    exact ⟨after, logged.trans unaltered, answered, fun fault failed =>
      (declined fault failed).of_unaltered logged⟩
  | ask question next inductionHypothesis =>
    obtain ⟨after, unaltered, answered, declined⟩ := conducted_ask lawful coherent question
    rw [Inquiry.run]
    split
    · next fault asked failed =>
      rw [failed] at after unaltered declined
      refine ⟨after, unaltered, ?_, ?_⟩ <;> rintro _ ⟨⟩
      exact declined fault rfl
    · next answer asked given =>
      rw [given] at after unaltered answered
      obtain ⟨_, ⟨_, _, truthful, ⟨rfl, rfl⟩, rfl⟩, counted⟩ := answered answer rfl
      obtain ⟨afterwards, later, results, faults⟩ := inductionHypothesis answer after
      refine ⟨afterwards, unaltered.trans later, ?_, fun fault failed =>
        (faults fault failed).of_unaltered unaltered⟩
      intro result ended
      obtain ⟨cost, yields, total⟩ := results result ended
      rw [show asked.clauses = base.clauses from unaltered.clauses] at yields
      refine ⟨cost + 1, ⟨answer, cost, truthful, yields, rfl⟩, ?_⟩
      rw [total, counted]
      omega

end RuleBase

end Clausal
