import Clausal.Proofs.Equivalence

/-!
# Findings that are asserted

What a survey reports follows from the clauses already: its literals are true in every
model, and its pairs have the same value in every model. So asserting it, in any order and
any number of times, and with any queries in between, succeeds and adds nothing. The models
stay the same, and nothing that is asked later shows a difference, not even the cost of a
survey.

The report is also complete. The negation of a reported literal is refused, and a variable
that is reported as free can be asserted either way.
-/

namespace Clausal

/-- The clause that says that the premise implies the conclusion. -/
def Clause.implies (premise conclusion : Literal) : Clause := ⟨[-premise, conclusion], by simp⟩

/-- The clause asserts something that the survey found: a forced literal, or one direction
of the agreement of two variables. -/
def Survey.Restates (found : Survey) (clause : Clause) : Prop :=
  (∃ literal ∈ found.forced, clause = Clause.unit literal) ∨
    ∃ pair ∈ found.agreeing, clause = Clause.implies ⟨pair.1, true⟩ ⟨pair.2, true⟩ ∨
      clause = Clause.implies ⟨pair.2, true⟩ ⟨pair.1, true⟩

variable {clauses : List Clause} {assignment : Assignment}

/-- An implication is true where the premise's truth brings the conclusion's. -/
theorem Clause.holds_implies {premise conclusion : Literal} :
    (Clause.implies premise conclusion).Holds assignment ↔
      (premise.Holds assignment → conclusion.Holds assignment) := by
  simp [Clause.Holds, Clause.implies, Literal.holds_neg, Decidable.imp_iff_not_or]

variable {highest : Nat} {clause : Clause}

/-- A finding is true in every model. -/
theorem Survey.Restates.holds (restates : (surveyOf clauses highest).Restates clause)
    (models : Models assignment clauses) : clause.Holds assignment := by
  rcases restates with ⟨literal, listed, rfl⟩ | ⟨⟨first, second⟩, listed, either⟩
  · exact Clause.holds_unit.mpr (holds_of_forcedUnder (mem_forcedUpTo.mp listed).2 models)
  · obtain ⟨_, _, _, _, alike⟩ := mem_agreeing_undetermined.mp listed
    have same : assignment first = assignment second := alike assignment models
    rcases either with rfl | rfl
    · exact Clause.holds_implies.mpr same.symm.trans
    · exact Clause.holds_implies.mpr same.trans

/-- A finding names no new variable. A survey speaks of none above the highest. -/
theorem Survey.Restates.highest_le (restates : (surveyOf clauses highest).Restates clause) :
    clause.highest ≤ highest := by
  obtain ⟨literal, member, attained⟩ := clause.exists_eq_highest
  rw [← attained]
  rcases restates with ⟨found, listed, rfl⟩ | ⟨⟨first, second⟩, listed, either⟩
  · obtain rfl := List.mem_singleton.mp member
    exact (mem_forcedUpTo.mp listed).1
  · obtain ⟨ordered, inRange, _⟩ := mem_agreeing_undetermined.mp listed
    have alsoInRange : first.number ≤ highest := (Variable.le_iff.mp ordered.le).trans inRange
    rcases either with rfl | rfl <;> rcases List.mem_pair.mp member with rfl | rfl <;> assumption

open RuleBase

variable {oracle : Oracle} {base after : RuleBase} {history : List Exchange}

/-- One step: a call that adds at most a finding keeps the models and the highest
variable. -/
theorem Call.perform_restated (lawful : oracle.Lawful) (coherent : base.Coherent) {call : Call}
    (restated : ∀ clause, call.added? = some clause → (surveyOf clauses highest).Restates clause)
    (equivalent : Equivalent clauses base.clauses) (sameHighest : base.highest = highest) :
    Equivalent clauses (call.perform oracle base).2.clauses ∧
      (call.perform oracle base).2.highest = highest := by
  cases adds : call.added? with
  | none =>
    rw [call.clauses_perform lawful coherent adds]
    refine ⟨equivalent, ?_⟩
    rcases (call.unaltered_perform lawful coherent adds).2 with unaltered | closed
    · exact unaltered.highest.trans sameHighest
    · rw [closed, close_highest, sameHighest]
  | some clause =>
    have restates := restated clause adds
    have checked := call.checked_perform lawful coherent adds
    rw [checked.clauses, checked.highest]
    -- The clause is stored, but every model has it true already, over variables in range.
    constructor
    · exact equivalent.append_entailed fun assignment => restates.holds
    · change max base.highest clause.highest = highest
      rw [sameHighest]
      exact max_eq_left restates.highest_le

/-- A run that adds findings only keeps the models and the highest variable. -/
theorem Run.restated (coherent : base.Coherent) (run : Run base history after)
    (restated : ∀ exchange ∈ history, ∀ clause, exchange.call.added? = some clause →
      (surveyOf base.clauses base.highest).Restates clause) :
    Equivalent base.clauses after.clauses ∧ after.highest = base.highest := by
  induction run with
  | begun => exact ⟨.refl _, rfl⟩
  | called run oracle lawful call inductionHypothesis =>
    obtain ⟨last, earlier⟩ := List.forall_mem_cons.mp restated
    obtain ⟨equivalent, highest⟩ := inductionHypothesis earlier
    exact call.perform_restated lawful (run.coherent coherent) last equivalent highest

/-- Where there is a model, every finding that is added is accepted. The induction is on the
run; the findings before the last one have changed nothing. -/
theorem Run.restated_accepted (responsive : base.Responsive)
    (satisfiable : Satisfiable base.clauses []) (run : Run base history after)
    (isOpen : after.isOpen = true)
    (restated : ∀ exchange ∈ history, ∀ clause, exchange.call.added? = some clause →
      (surveyOf base.clauses base.highest).Restates clause) :
    ∀ exchange ∈ history, exchange.call.added? ≠ none → exchange.outcome.1 = .ok .nothing := by
  induction run with
  | begun => exact fun exchange member => absurd member List.not_mem_nil
  | @called history reached run oracle lawful call inductionHypothesis =>
    have coherent : reached.Coherent := run.coherent responsive.coherent
    -- Openness is handed back from the end of the run to its last call.
    have wasOpen : reached.isOpen = true := (call.grown_perform lawful coherent).isOpen isOpen
    obtain ⟨last, earlier⟩ := List.forall_mem_cons.mp restated
    refine List.forall_mem_cons.mpr ⟨fun adds => ?_, inductionHypothesis wasOpen earlier⟩
    obtain ⟨clause, added⟩ := Option.ne_none_iff_exists'.mp adds
    obtain ⟨equivalent, _⟩ := run.restated responsive.coherent earlier
    have known := equivalent.append_entailed fun assignment => (last clause added).holds
    exact ((responsive.run run wasOpen).accepts lawful added
      (known.satisfiable_iff.mp satisfiable)).1

/-- An undetermined variable can be asserted either way. -/
theorem Undetermined.satisfiable {var : Variable} (undetermined : Undetermined clauses var)
    (positive : Bool) : Satisfiable (clauses ++ [Clause.unit ⟨var, positive⟩]) [] := by
  obtain ⟨assignment, models, value⟩ := undetermined positive
  refine satisfiable_nil_iff.mpr ⟨assignment, models_append.mpr ⟨models, ?_⟩⟩
  exact models_singleton.mpr (Clause.holds_unit.mpr value)

/-- A forced literal cannot be denied. -/
theorem hopeless_of_forcedUnder {var : Variable} {literal : Literal}
    (forced : forcedUnder clauses var = some literal) :
    ¬Satisfiable (clauses ++ [Clause.unit (-literal)]) [] := by
  intro satisfiable
  obtain ⟨assignment, models⟩ := satisfiable_nil_iff.mp satisfiable
  obtain ⟨models, denied⟩ := models_append.mp models
  apply not_satisfiable_of_forcedUnder forced
  rw [models_singleton, Clause.holds_unit] at denied
  exact satisfiable_singleton_iff.mpr ⟨assignment, models, denied⟩

/-- Findings, in every open rule base without limits that a run led to and that has a model.
A survey is answered, and asserting what it found, any number of times and between any other
calls that leave the rule base open, always succeeds and changes nothing: the highest
variable is the same, every settled query has the same answer, and so has the survey.
Before and after, the negation of a forced literal is refused, and a free variable can be
asserted with either sign. -/
theorem findings_add_nothing (reachable : Reachable base) (isOpen : base.isOpen = true)
    (unlimited : base.limits.isLimited = false) (satisfiable : Satisfiable base.clauses []) :
    ∃ found : Survey, (∀ oracle : Oracle, oracle.Lawful →
        base.reply oracle .survey = .ok (.survey found)) ∧
      ∀ (history : List Exchange) (after : RuleBase), Run base history after → after.isOpen = true →
        (∀ exchange ∈ history, ∀ clause, exchange.call.added? = some clause →
          found.Restates clause) →
        (∀ exchange ∈ history, exchange.call.added? ≠ none →
          exchange.outcome.1 = .ok .nothing) ∧
        after.highest = base.highest ∧ base.Indistinct after ∧
        ∀ oracle : Oracle, oracle.Lawful →
          after.reply oracle .survey = .ok (.survey found) ∧
          (∀ call : Call, ∀ literal ∈ found.forced,
            call.added? = some (Clause.unit (-literal)) → (call.perform oracle after).1 =
              .error (.contradiction (some (Clause.unit (-literal))))) ∧
          ∀ (call : Call) (positive : Bool), ∀ var ∈ found.free,
            call.added? = some (Clause.unit ⟨var, positive⟩) →
              (call.perform oracle after).1 = .ok .nothing := by
  have responsive : base.Responsive := ⟨reachable.coherent, isOpen, unlimited⟩
  have surveyed (oracle : Oracle) (lawful : oracle.Lawful) :
      base.reply oracle .survey = .ok (.survey (surveyOf base.clauses base.highest)) := by
    obtain ⟨answer, answered⟩ := responsive.reply lawful .survey
    rw [answered, reply_survey lawful responsive.coherent answered]
  refine ⟨_, surveyed, fun history after run stillOpen restated => ?_⟩
  obtain ⟨equivalent, highest⟩ := run.restated responsive.coherent restated
  have responsiveAfter : after.Responsive := responsive.run run stillOpen
  have indistinct : base.Indistinct after :=
    responsive.indistinct responsiveAfter equivalent highest.symm
  refine ⟨run.restated_accepted responsive satisfiable stillOpen restated, highest, indistinct,
    fun oracle lawful => ⟨?_, ?_, ?_⟩⟩
  · obtain ⟨answer, before, later⟩ := indistinct .survey trivial oracle oracle lawful lawful
    rwa [← before, surveyed oracle lawful] at later
  · intro call literal listed adds
    apply responsiveAfter.refuses lawful adds
    rw [← (equivalent.append _).satisfiable_iff]
    exact hopeless_of_forcedUnder (mem_forcedUpTo.mp listed).2
  · intro call positive var listed adds
    rw [free_surveyOf, mem_undeterminedUpTo] at listed
    apply (responsiveAfter.accepts lawful adds _).1
    rw [← (equivalent.append _).satisfiable_iff]
    exact listed.2.satisfiable positive

/-- Built without limits: variables 1 and 2 agree, 3 is true, and 4 or 5 is. -/
def RuleBase.paired : RuleBase :=
  let batch := [.list [.whole (-1), .whole 2], .list [.whole 1, .whole (-2)], .list [.whole 3],
    .list [.whole 4, .whole 5]]
  (create .search "m22" .none (Argument.batch (.list batch))).2

/-- The fact and one direction of the agreement, with a survey in between. -/
def echoes : List Call := [.tellFact (.whole 3), .survey, .tell (.list [.whole (-2), .whole 1])]

/-- After the fact and the direction are asserted again, the survey is the same, the fact
cannot be denied, and variable 5 can still be false. -/
theorem paired_findings :
    Reachable paired ∧ paired.isOpen = true ∧ paired.limits.isLimited = false ∧
      Satisfiable paired.clauses [] ∧
      (serve .search paired echoes).2.reply .search .survey = paired.reply .search .survey ∧
      (Call.perform .search (serve .search paired echoes).2 (.tellFact (.whole (-3)))).1 =
        .error (.contradiction (some (Clause.unit ⟨⟨3, by decide⟩, false⟩))) ∧
      (Call.perform .search (serve .search paired echoes).2 (.tellFact (.whole (-5)))).1 =
        .ok .nothing := by
  have built : Built paired := built_create Oracle.search_lawful (by cbv)
  have reachable : Reachable paired := ⟨paired, [], built, .begun⟩
  have isOpen : paired.isOpen = true := by cbv
  have unlimited : paired.limits.isLimited = false := by cbv
  obtain ⟨found, surveyed, anywhere⟩ :=
    findings_add_nothing reachable isOpen unlimited built.satisfiable
  have answered := surveyed .search Oracle.search_lawful
  have report : paired.reply .search .survey = .ok (.survey
      ⟨5, [⟨⟨3, by decide⟩, true⟩], [(⟨1, by decide⟩, ⟨2, by decide⟩)],
        [[⟨1, by decide⟩, ⟨2, by decide⟩]], 18⟩) := by cbv
  obtain rfl := Answer.survey.inj (Except.ok.inj (answered.symm.trans report))
  have fact : (Call.tellFact (.whole 3)).added? =
      some (Clause.unit ⟨⟨3, by decide⟩, true⟩) := by cbv
  have direction : (Call.tell (.list [.whole (-2), .whole 1])).added? =
      some (Clause.implies ⟨⟨2, by decide⟩, true⟩ ⟨⟨1, by decide⟩, true⟩) := by cbv
  obtain ⟨_, _, _, later⟩ := anywhere _ _ (run_serve Oracle.search_lawful echoes) (by cbv) (by
    intro exchange member clause adds
    have call := call_of_mem_serve member
    simp only [echoes, List.mem_cons, List.not_mem_nil, or_false] at call
    rcases call with call | call | call <;> rw [call] at adds
    · obtain rfl := Option.some.inj (fact.symm.trans adds)
      exact Or.inl ⟨_, List.mem_singleton.mpr rfl, rfl⟩
    · cases adds
    · obtain rfl := Option.some.inj (direction.symm.trans adds)
      exact Or.inr ⟨_, List.mem_singleton.mpr rfl, Or.inr rfl⟩)
  obtain ⟨same, denied, free⟩ := later .search Oracle.search_lawful
  have undetermined : (⟨5, by decide⟩ : Variable) ∈ Survey.free
      ⟨5, [⟨⟨3, by decide⟩, true⟩], [(⟨1, by decide⟩, ⟨2, by decide⟩)],
        [[⟨1, by decide⟩, ⟨2, by decide⟩]], 18⟩ := by decide
  exact ⟨reachable, isOpen, unlimited, built.satisfiable, same.trans report.symm,
    denied _ _ (List.mem_singleton.mpr rfl) (by cbv), free _ false _ undetermined (by cbv)⟩

end Clausal
