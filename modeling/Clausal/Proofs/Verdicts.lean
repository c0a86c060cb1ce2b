import Clausal.Proofs.AuditTrail
import Clausal.Proofs.Closing
import Clausal.Proofs.Responsive

/-!
# What an addition tells

An addition that is answered tells whether the clauses that are stored have a model together
with the added one, whatever happened before: a contradiction, a clause that was stored
without a check, a loss of trust. The verdict comes from the permanent solver, and a solver
of its own that is asked beforehand gives the same.

The permanent solver may know the verdict without a decision, and it does so in three cases
at least: propagation sees a conflict, or an earlier addition was refused without a question,
or an earlier question without assumptions was answered no. What the solver knows before it
has the clause can therefore be read off the exchanges and the audit trail. What it sees with
the clause, beyond what propagation sees, depends on what its decisions have taught it. It is
never wrong, so a decision is saved in this way only where the addition is refused.
-/

namespace Clausal

/-- With another clause a solver is refuted if it was before or if propagation sees a
conflict. What else it may see depends on its past. -/
theorem Solver.refuted_insert {oracle : Oracle} (lawful : oracle.Lawful) {solver : Solver}
    {clause : Clause} (known : solver.refuted = true ∨ Refuted (solver.database ++ [clause])) :
    (solver.insert oracle clause).refuted = true := by
  rw [insert, Bool.or_eq_true]
  exact known.imp_right lawful.propagates

namespace RuleBase

variable {α : Type} {oracle : Oracle} {base : RuleBase} {clause : Clause} {blamed : Option Clause}
  {solver : Solver} {conflicted : Prop}

/-- The solver, if there is one, knows that there is no model exactly if there was a conflict
or the trail has a question without assumptions that was answered no. -/
def Aware (conflicted : Prop) (base : RuleBase) : Prop :=
  ∀ solver, base.solver = some solver →
    (solver.refuted = true ↔ conflicted ∨ .decided (.assuming []) false ∈ base.journal)

/-- Awareness is of a fact, and any statement of that fact will do. -/
theorem Aware.congr {other : Prop} (aware : base.Aware conflicted) (same : conflicted ↔ other) :
    base.Aware other :=
  fun solver held => (aware solver held).trans (or_congr_left same)

/-- An event that records no decision teaches nothing. -/
theorem Aware.log (aware : base.Aware conflicted) {event : Event}
    (silent : event.question? = none) : (base.log event).Aware conflicted := by
  intro solver held
  have other : event ≠ .decided (.assuming []) false := by
    rintro rfl
    cases silent
  simp [RuleBase.log, aware solver held, other.symm]

/-- A verdict on a question is a no without assumptions if the solver learns from it. -/
theorem mem_settle {question : Question} {verdict : Verdict} :
    .decided (.assuming []) false ∈ (base.settle question verdict).2.journal ↔
      .decided (.assuming []) false ∈ base.journal ∨
        verdict = .unsatisfiable ∧ question = .assuming [] := by
  cases verdict <;> simp [settle, log, eq_comm, or_comm]

/-- A question keeps a rule base aware: it adds no clause, and what the solver learns by it is
on record. -/
theorem Aware.ask (aware : base.Aware conflicted) (oracle : Oracle) (question : Question) :
    (base.ask oracle question).2.Aware conflicted := by
  cases question with
  | assuming literals =>
    unfold RuleBase.ask
    cases held : base.solver with
    | none => exact aware
    | some solver =>
      dsimp only
      split
      · intro after learned
        rw [settle_solver] at learned
        obtain rfl := Option.some.inj learned
        rw [Solver.refuted_learn_iff, mem_settle, aware solver held, or_assoc,
          Question.assuming.injEq]
        rfl
      · exact aware
  | alongside extra =>
    unfold RuleBase.ask
    dsimp only
    split
    · intro solver held
      rw [settle_solver] at held
      simpa [mem_settle, count] using aware solver held
    · exact aware

/-- A modest inquiry keeps a rule base aware. The induction is on the inquiry, and each of its
own records is about something else. -/
theorem Aware.run (aware : base.Aware conflicted) {inquiry : Inquiry α}
    (modest : inquiry.Modest) : (inquiry.run oracle base).2.Aware conflicted := by
  induction inquiry generalizing base with
  | done result => exact aware
  | note event rest inductionHypothesis =>
    exact inductionHypothesis (aware.log modest.1) modest.2
  | ask question next inductionHypothesis =>
    have reached := aware.ask oracle question
    rw [Inquiry.run]
    rcases asked : base.ask oracle question with ⟨fault | answer, after⟩ <;> rw [asked] at reached
    · exact reached
    · exact inductionHypothesis answer reached (modest answer)

/-- A closed rule base has no solver that could know anything. -/
theorem aware_of_closed (closed : base.solver = none) : base.Aware conflicted := by
  intro solver held
  rw [closed] at held
  cases held

/-- The clause is stored, and the solver has it too. -/
def handed (oracle : Oracle) (base : RuleBase) (solver : Solver) (clause : Clause) : RuleBase :=
  { base.store clause with solver := some (solver.insert oracle clause) }

/-- A clause is refused without a question if the solver knows by then that there is no
model. -/
theorem add_known (held : base.solver = some solver)
    (known : (solver.insert oracle clause).refuted = true) :
    base.add oracle clause = (base.handed oracle solver clause).refuse (some clause) := by
  simp only [RuleBase.add, RuleBase.insert, held, known, Bool.not_true]
  rfl

/-- What the solver does not know by itself is left to the check. -/
theorem add_unknown (held : base.solver = some solver)
    (unknown : (solver.insert oracle clause).refuted = false) :
    base.add oracle clause = (base.handed oracle solver clause).certify oracle (some clause) := by
  simp only [RuleBase.add, RuleBase.insert, held, unknown, Bool.not_false]
  rfl

/-- A refusal puts no question. -/
theorem questions_refuse (base : RuleBase) (blamed : Option Clause) :
    (base.refuse blamed).2.questions = base.questions :=
  questions_silent { base with trusted := false } rfl

/-- A check that refuses has put its question. One that put none fails without a verdict. -/
theorem questions_of_refused {reported : Option Clause}
    (refused : (base.certify oracle blamed).1 = .error (.contradiction reported)) :
    (base.certify oracle blamed).2.questions = base.questions ++ [.assuming []] := by
  rw [certify_eq] at refused ⊢
  rw [(concludes_certified blamed).questions]
  rcases ask_ends oracle base (.assuming []) with
    ⟨answer, after, ended, journal, _⟩ | ⟨_, ended, _⟩ | ended | ended
  · have logged : after.questions =
        (base.log (.decided (.assuming []) answer.isSome)).questions := questions_congr journal
    rw [ended, logged, questions_log]
    rfl
  · rw [ended] at refused
    cases refused
  · rw [ended] at refused
    cases refused
  · rw [ended] at refused
    cases refused

/-- Certifying keeps a rule base aware, also where it refuses: what is answered no is remembered
by the solver and recorded in the journal, both at once. -/
theorem Aware.certify (aware : base.Aware conflicted) (blamed : Option Clause) :
    (base.certify oracle blamed).2.Aware conflicted := by
  have reached := aware.ask oracle (.assuming [])
  rw [certify_eq]
  rcases asked : base.ask oracle (.assuming []) with ⟨fault | _ | witness, after⟩ <;>
    rw [asked] at reached
  · exact reached
  · have distrusted : { after with trusted := false }.Aware conflicted := reached
    exact distrusted.log rfl
  · exact reached

/-- The clause was refused, and no question was put about it. -/
def Refusal (base : RuleBase) (clause : Clause) (outcome : Outcome α) : Prop :=
  outcome.1 = .error (.contradiction (some clause)) ∧ outcome.2.questions = base.questions

/-- An addition is one more conflict if it is refused without a question. Otherwise the
solver knows of it what the answer to its question tells. -/
theorem Aware.add (aware : base.Aware conflicted) (clause : Clause) :
    (base.add oracle clause).2.Aware
      (conflicted ∨ Refusal base clause (base.add oracle clause)) := by
  cases held : base.solver with
  | none =>
    rw [add_closed held]
    exact aware_of_closed held
  | some solver =>
    cases known : (solver.insert oracle clause).refuted with
    | true =>
      have refusal : Refusal base clause
          ((base.handed oracle solver clause).refuse (some clause)) :=
        ⟨rfl, questions_refuse _ _⟩
      rw [add_known held known]
      rintro _ ⟨⟩
      exact ⟨fun _ => Or.inl (Or.inr refusal), fun _ => known⟩
    | false =>
      have before : solver.refuted = false := by
        rw [Solver.insert, Bool.or_eq_false_iff] at known
        exact known.1
      have handed : (base.handed oracle solver clause).Aware conflicted := by
        have nothing := aware solver held
        rw [before] at nothing
        rintro _ ⟨⟩
        rw [known]
        exact nothing
      rw [add_unknown held known]
      refine (handed.certify (some clause)).congr (or_iff_left ?_).symm
      rintro ⟨refused, silent⟩
      have asked : (base.handed oracle solver clause).questions ++ [.assuming []] =
          (base.handed oracle solver clause).questions :=
        (questions_of_refused refused).symm.trans silent
      simp at asked

end RuleBase

open RuleBase

variable {oracle : Oracle} {start base : RuleBase} {history : List Exchange} {call : Call}
  {clause : Clause}

/-- The call was to add a clause, and it was refused without a question. -/
def Exchange.Conflicted (exchange : Exchange) : Prop :=
  ∃ clause, exchange.call.Adds clause ∧ Refusal exchange.before clause exchange.outcome

/-- The decision of the call, if there was one, was made and did not give up. -/
def Exchange.Answered (exchange : Exchange) : Prop := ¬exchange.GaveUp ∧ ¬exchange.Uncountable

/-- A call adds one clause only. -/
theorem Call.Adds.unique {other : Clause} (adds : call.Adds clause) (alsoAdds : call.Adds other) :
    clause = other := by
  rw [← Call.added?_eq_some_iff] at adds alsoAdds
  exact Option.some.inj (adds.symm.trans alsoAdds)

/-- What is recorded of an addition changes nothing about its refusal. -/
theorem RuleBase.refusal_acknowledged {event : Event} (silent : event.question? = none)
    {outcome : Outcome Unit} :
    Refusal base clause (acknowledged event outcome) ↔ Refusal base clause outcome := by
  have concludes := concludes_acknowledged silent
  rw [Refusal, Refusal, concludes.questions]
  rcases outcome with ⟨fault | _, after⟩ <;> simp [acknowledged]

/-- What is recorded of an addition teaches the solver nothing. -/
theorem RuleBase.Aware.acknowledged {conflicted : Prop} {outcome : Outcome Unit}
    (aware : outcome.2.Aware conflicted) {event : Event} (silent : event.question? = none) :
    (acknowledged event outcome).2.Aware conflicted := by
  rcases outcome with ⟨fault | _, after⟩
  · exact aware
  · exact aware.log silent

/-- A request that adds nothing teaches the solver what its answers tell. -/
theorem Request.aware_perform {conflicted : Prop} (aware : base.Aware conflicted)
    {request : Request} (adds : request.added? = none) :
    (request.perform oracle base).2.Aware conflicted := by
  cases request with
  | tellFact literal => cases adds
  | tell clause => cases adds
  | inquire query => exact aware.run (query.modest_inquiry base.highest)
  | close =>
    have closed : base.close.solver = none :=
      isOpen_eq_false_iff.mp (close_isOpen base)
    exact aware_of_closed closed
  | enter => exact aware
  | describe => exact aware
  | listing => exact aware

/-- One call: the solver knows that there is no model if it knew before, or the call is
refused without a question, or a question of the call is answered no. -/
theorem Call.aware_perform {conflicted : Prop} (aware : base.Aware conflicted) (call : Call) :
    (call.perform oracle base).2.Aware
      (conflicted ∨ (Exchange.mk oracle base call).Conflicted) := by
  cases adds : call.added? with
  | some clause =>
    have adds : call.Adds clause := Call.added?_eq_some_iff.mp adds
    obtain ⟨event, silent, performs⟩ := Call.adds_perform adds
    rw [performs]
    refine ((aware.add clause).acknowledged silent).congr (or_congr_right ?_)
    rw [← refusal_acknowledged silent, ← performs]
    constructor
    · exact fun refusal => ⟨clause, adds, refusal⟩
    · rintro ⟨other, alsoAdds, refusal⟩
      exact adds.unique alsoAdds ▸ refusal
  | none =>
    have other : ¬(Exchange.mk oracle base call).Conflicted := by
      rintro ⟨clause, alsoAdds, _⟩
      exact Call.added?_eq_none_iff.mp adds clause alsoAdds
    refine RuleBase.Aware.congr ?_ (or_iff_left other).symm
    unfold perform
    cases read : call.read with
    | error fault => exact aware
    | ok request =>
      rw [added?, read] at adds
      exact request.aware_perform aware adds

/-- Along a run the solver knows that there is no model exactly if an addition was refused
without a question or a question without assumptions was answered no. -/
theorem Run.aware (aware : start.Aware False) (run : Run start history base) :
    base.Aware (∃ exchange ∈ history, exchange.Conflicted) := by
  induction run with
  | begun => exact aware.congr (by simp)
  | @called history base earlier oracle lawful call inductionHypothesis =>
    exact (call.aware_perform inductionHypothesis).congr (by simp [or_comm])

/-- What could be built has a model, so its solver knows of nothing to the contrary, and its
journal has no answer to the contrary either. -/
theorem Built.aware (built : Built start) : start.Aware False := by
  intro solver held
  obtain ⟨_, truthful⟩ := built.recorded
  have unknown : ¬solver.refuted = true := by
    intro refuted
    exact (built.coherent.sound solver held).refuted refuted built.satisfiable
  have unanswered : .decided (.assuming []) false ∉ start.journal := by
    intro answered
    have affirmed := (truthful _ false answered).mpr
      (Question.affirmed_assuming.mpr built.satisfiable)
    cases affirmed
  exact iff_of_false unknown (not_or_intro id unanswered)

/-- A call that is not refused and does not fail was answered. -/
theorem Exchange.answered_of_ok {exchange : Exchange} {answer : Answer}
    (ended : exchange.outcome.1 = .ok answer) : exchange.Answered :=
  ⟨by simp [GaveUp, ended], by simp [Uncountable, ended]⟩

/-- An answered call on an open rule base fails for no want of a decision. -/
theorem Exchange.Answered.not_declines {exchange : Exchange} (answered : exchange.Answered)
    (isOpen : exchange.before.isOpen = true) {fault : Fault}
    (failed : exchange.outcome.1 = .error fault) : ¬exchange.before.Declines fault := by
  intro declines
  cases declines with
  | closed closed =>
    rw [isOpen] at closed
    cases closed
  | gaveUp assumptions limited => exact answered.1 ⟨assumptions, failed⟩
  | uncountable uncountable => exact answered.2 ⟨uncountable, failed⟩

/-- A query whose decisions were made has an answer. Queries fail for want of a decision and for
nothing else. -/
theorem Exchange.Answered.reply {query : Query}
    (answered : (Exchange.mk oracle base call).Answered)
    (performs : call.perform oracle base = (Request.inquire query).perform oracle base)
    (lawful : oracle.Lawful) (coherent : base.Coherent) (isOpen : base.isOpen = true) :
    ∃ answer, base.reply oracle query = .ok answer := by
  rcases reply_cases lawful coherent query with answers | ⟨fault, failed, declines⟩
  · exact answers
  · have ended : (Exchange.mk oracle base call).outcome.1 = .error fault := by
      rw [Exchange.outcome, performs]
      exact failed
    exact absurd declines (answered.not_declines isOpen ended)

/-- An answered addition is accepted if there is a model with its clause, and trust is as it
was. Otherwise it is refused, and trust is lost. -/
theorem Call.verdict (lawful : oracle.Lawful) (coherent : base.Coherent)
    (isOpen : base.isOpen = true) (adds : call.Adds clause)
    (answered : (Exchange.mk oracle base call).Answered) :
    (Satisfiable (base.clauses ++ [clause]) [] → (call.perform oracle base).1 = .ok .nothing ∧
      (call.perform oracle base).2.trusted = base.trusted) ∧
    (¬Satisfiable (base.clauses ++ [clause]) [] →
      (call.perform oracle base).1 = .error (.contradiction (some clause)) ∧
        (call.perform oracle base).2.trusted = false) := by
  have adds : call.added? = some clause := Call.added?_eq_some_iff.mpr adds
  have checked := call.checked_perform lawful coherent adds
  obtain ⟨accepts, refuses⟩ := checked.verdict fun fault failed declines =>
    answered.not_declines isOpen failed (declines_store declines)
  constructor
  · intro satisfiable
    obtain ⟨answer, ended⟩ := accepts satisfiable
    obtain rfl := Call.silent_perform adds ended
    obtain ⟨_, trusted⟩ := checked.accepted .nothing ended
    exact ⟨ended, trusted⟩
  · intro hopeless
    have ended := refuses hopeless
    rcases checked.failed _ ended with ⟨_, _, lost⟩ | ⟨declines, _⟩
    · exact ⟨ended, lost⟩
    · cases declines

/-- An addition puts no question if the solver is refuted once it has the clause. -/
theorem Call.adds_silent {solver : Solver} (held : base.solver = some solver)
    (adds : call.Adds clause) (known : (solver.insert oracle clause).refuted = true) :
    (call.perform oracle base).2.questions = base.questions ∧
      (call.perform oracle base).2.decisions = base.decisions := by
  obtain ⟨event, silent, performs⟩ := Call.adds_perform adds
  have concludes := concludes_acknowledged silent
  rw [performs, concludes.questions, concludes.decisions, add_known held known]
  exact ⟨questions_refuse _ _, rfl⟩

/-- Otherwise an addition that is answered puts one question, which assumes nothing. -/
theorem Call.adds_asks {solver : Solver} (held : base.solver = some solver)
    (adds : call.Adds clause) (unknown : (solver.insert oracle clause).refuted = false)
    (answered : (Exchange.mk oracle base call).Answered) :
    (call.perform oracle base).2.questions = base.questions ++ [.assuming []] ∧
      (call.perform oracle base).2.decisions = base.decisions + 1 := by
  obtain ⟨event, silent, performs⟩ := Call.adds_perform adds
  have concludes := concludes_acknowledged silent
  have added := add_unknown held unknown
  have isOpen : (base.handed oracle solver clause).isOpen = true := rfl
  cases countable : base.limits.isCountable with
  | true =>
    rw [performs, concludes.questions, concludes.decisions, added]
    exact certify_asks isOpen countable oracle (some clause)
  | false =>
    have failed : (call.perform oracle base).1 = .error (.notWhole .decimal) := by
      rw [performs, added, certify_uncountable isOpen countable]
      rfl
    exact absurd ⟨countable, failed⟩ answered.2

/-- Built without limits from four clauses that hold only where the first variable is true,
which propagation does not see. -/
def RuleBase.veiled : RuleBase :=
  let batch := [.list [.whole 1, .whole 2, .whole 3], .list [.whole 1, .whole 2, .whole (-3)],
    .list [.whole 1, .whole (-2), .whole 3], .list [.whole 1, .whole (-2), .whole (-3)]]
  (create .search "m22" .none (Argument.batch (.list batch))).2

/-- The veiled clauses have a model, so their construction succeeds. -/
theorem RuleBase.veiled_built : Built veiled := built_create Oracle.search_lawful (by cbv)

/-- It was asked whether the first variable can be false. The answer is no, and from it the
solver learns that the first variable is true. -/
def RuleBase.unveiled : List Exchange × RuleBase :=
  serve .search veiled [.satisfiableWith (.whole (-1))]

end Clausal
