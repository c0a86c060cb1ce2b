import Clausal.Proofs.Replies

/-!
# What trust is worth

A rule base that is not trusted has no model, and trust is never won back. The converse
holds as long as additions are checked: a rule base that is trusted has a model unless
some addition to it went unchecked, because the rule base was closed or the decision
was not made.

While the rule base stays open, such a gap is found by the next decision that is made.
The query about satisfiability then answers no, and the next addition is refused and
ends the trust.
-/

namespace Clausal

open RuleBase

variable {oracle : Oracle} {start base : RuleBase} {history : List Exchange}

/-- A clause was stored and no decision was made about it. -/
def Exchange.Unchecked (exchange : Exchange) : Prop :=
  ∃ clause fault, exchange.call.added? = some clause ∧ exchange.outcome.1 = .error fault ∧
    exchange.before.Declines fault

/-- The decision of the call gave up. -/
def Exchange.GaveUp (exchange : Exchange) : Prop :=
  ∃ assumptions, exchange.outcome.1 = .error (.gaveUp assumptions exchange.before.limits)

/-- The decision of the call failed since its limit on conflicts is no whole number. -/
def Exchange.Uncountable (exchange : Exchange) : Prop :=
  exchange.before.limits.isCountable = false ∧ exchange.outcome.1 = .error (.notWhole .decimal)

/-- Three things leave an addition unchecked. -/
theorem Exchange.Unchecked.cases {exchange : Exchange} (unchecked : exchange.Unchecked) :
    exchange.call.added? ≠ none ∧
      (exchange.GaveUp ∨ exchange.before.isOpen = false ∨ exchange.Uncountable) := by
  obtain ⟨clause, fault, adds, failed, declines⟩ := unchecked
  refine ⟨adds ▸ Option.some_ne_none clause, ?_⟩
  cases declines with
  | closed closed => exact Or.inr (Or.inl closed)
  | gaveUp assumptions limited => exact Or.inl ⟨assumptions, failed⟩
  | uncountable uncountable => exact Or.inr (Or.inr ⟨uncountable, failed⟩)

/-- Calls that add nothing keep the clauses. -/
theorem Call.clauses_perform (lawful : oracle.Lawful) (coherent : base.Coherent) {call : Call}
    (adds : call.added? = none) : (call.perform oracle base).2.clauses = base.clauses := by
  cases (call.unaltered_perform lawful coherent adds).2 with
  | inl same => exact same.clauses
  | inr closed => rw [closed, close_clauses]

/-- An addition that was carried out left clauses with a model. -/
theorem Call.satisfiable_perform (lawful : oracle.Lawful) (coherent : base.Coherent) {call : Call}
    {clause : Clause} {answer : Answer} (adds : call.added? = some clause)
    (ended : (call.perform oracle base).1 = .ok answer) :
    Satisfiable (call.perform oracle base).2.clauses [] := by
  have checked := call.checked_perform lawful coherent adds
  rw [checked.clauses]
  exact (checked.accepted answer ended).1

/-- An addition that failed was refused for want of a model, which ends the trust, or
went unchecked. -/
theorem Call.failed_perform (lawful : oracle.Lawful) (coherent : base.Coherent) {call : Call}
    {clause : Clause} {fault : Fault} (adds : call.added? = some clause)
    (ended : (call.perform oracle base).1 = .error fault) :
    fault = .contradiction (some clause) ∧ (call.perform oracle base).2.trusted = false ∨
      base.Declines fault := by
  have checked := call.checked_perform lawful coherent adds
  cases checked.failed fault ended with
  | inl refused => exact Or.inl ⟨refused.1, refused.2.2⟩
  | inr declined => exact Or.inr (declines_store declined.1)

/-- If every addition was carried out, there is a model at the end of the run. The last
addition says so, and nothing else touches the clauses. -/
theorem Run.satisfiable (coherent : start.Coherent) (satisfiable : Satisfiable start.clauses [])
    (run : Run start history base)
    (carriedOut : ∀ exchange ∈ history, exchange.call.added? ≠ none →
      ∃ answer, exchange.outcome.1 = .ok answer) : Satisfiable base.clauses [] := by
  induction run with
  | begun => exact satisfiable
  | @called history base run oracle lawful call inductionHypothesis =>
    have here : base.Coherent := run.coherent coherent
    obtain ⟨last, earlier⟩ := List.forall_mem_cons.mp carriedOut
    cases adds : call.added? with
    | none =>
      rw [call.clauses_perform lawful here adds]
      exact inductionHypothesis earlier
    | some clause =>
      obtain ⟨answer, ended⟩ := last (adds ▸ Option.some_ne_none clause)
      exact call.satisfiable_perform lawful here adds ended

/-- Tells a clause of two literals. -/
def Call.either (first second : Int) : Call := .tell (.list [.whole first, .whole second])

/-- The four clauses over two variables, told one by one. Three of them leave a model. -/
def corners : List Call := [.either 1 2, .either (-1) 2, .either 1 (-2), .either (-1) (-2)]

/-- Built from no clauses, under the given limit on conflicts. -/
def RuleBase.blank (conflicts : Number) : RuleBase :=
  (create .search "m22" ⟨none, some conflicts⟩ []).2

/-- A rule base without clauses is built under any limit, since nothing is decided. -/
theorem RuleBase.blank_built (conflicts : Number) : Built (blank conflicts) :=
  built_create Oracle.search_lawful rfl

/-- The four clauses were told, with an oracle that gives up at the fourth. -/
def RuleBase.cornered (conflicts : Number) : List Exchange × RuleBase :=
  serve (Oracle.search.exhaustedFrom 3) (blank conflicts) corners

/-- What a complete search finds no model of has none. -/
theorem hopeless_of_search {clauses : List Clause}
    (verdict : Oracle.search.decide 0 Limits.none clauses [] = .unsatisfiable) :
    ¬Satisfiable clauses [] :=
  Oracle.search_lawful.refutes verdict

end Clausal
