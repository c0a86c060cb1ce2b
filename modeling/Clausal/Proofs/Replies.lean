import Clausal.Proofs.Runs
import Clausal.Proofs.Surveys

/-!
# Replies to queries

A query is answered unless a decision is not made, and an answer is one that truthful
answers to its questions lead to. For the plain queries that pins the answer down: it is
read off the models of the stored clauses. Which model is shown, if there are several,
stays open.
-/

namespace Clausal

variable {oracle : Oracle} {base : RuleBase} {answer : Answer}

namespace RuleBase

/-- The rule base's reply to a query under an oracle. -/
def reply (oracle : Oracle) (base : RuleBase) (query : Query) : Except Fault Answer :=
  ((Request.inquire query).perform oracle base).1

/-- An answer is one that truthful answers to the query's questions lead to. -/
theorem yields_of_reply (lawful : oracle.Lawful) (coherent : base.Coherent) {query : Query}
    (answered : base.reply oracle query = .ok answer) :
    ∃ cost, (query.inquiry base.highest).Yields base.clauses cost answer := by
  have conducted := query.conducted_perform lawful coherent
  obtain ⟨cost, yields, _⟩ := conducted.answered answer answered
  exact ⟨cost, yields⟩

/-- A query is answered unless a decision is not made. -/
theorem reply_cases (lawful : oracle.Lawful) (coherent : base.Coherent) (query : Query) :
    (∃ answer, base.reply oracle query = .ok answer) ∨
      ∃ fault, base.reply oracle query = .error fault ∧ base.Declines fault := by
  have conducted := query.conducted_perform lawful coherent
  cases ended : base.reply oracle query with
  | ok answer => exact Or.inl ⟨answer, rfl⟩
  | error fault => exact Or.inr ⟨fault, rfl, conducted.declined fault ended⟩

/-- An open rule base without limits answers every query. -/
theorem reply_or_declined (lawful : oracle.Lawful) (coherent : base.Coherent)
    (isOpen : base.isOpen = true) (query : Query) :
    (∃ answer, base.reply oracle query = .ok answer) ∨ base.limits ≠ Limits.none ∧
      ∃ fault, base.reply oracle query = .error fault ∧ base.Declines fault := by
  rcases reply_cases lawful coherent query with answered | ⟨fault, failed, declines⟩
  · exact Or.inl answered
  · refine Or.inr ⟨?_, fault, failed, declines⟩
    intro unlimited
    exact not_declines isOpen (unlimited ▸ Limits.isLimited_none) declines

/-- Whether literals can be assumed is answered truthfully. -/
theorem reply_satisfiable (lawful : oracle.Lawful) (coherent : base.Coherent)
    {literals : List Literal} (answered : base.reply oracle (.satisfiable literals) = .ok answer) :
    ∃ possible, answer = .flag possible ∧
      (possible = true ↔ Satisfiable base.clauses literals) := by
  obtain ⟨cost, yields⟩ := yields_of_reply lawful coherent answered
  obtain ⟨possible, asked, rfl⟩ := Inquiry.yields_wrap.mp yields
  obtain ⟨rfl, _⟩ := yields_satisfiableWith asked
  exact ⟨_, rfl, by simp⟩

/-- Whether extra clauses leave a model is answered truthfully. -/
theorem reply_alongside (lawful : oracle.Lawful) (coherent : base.Coherent)
    {extra : List Clause} (answered : base.reply oracle (.alongside extra) = .ok answer) :
    ∃ possible, answer = .flag possible ∧
      (possible = true ↔ Satisfiable (base.clauses ++ extra) []) := by
  obtain ⟨cost, yields⟩ := yields_of_reply lawful coherent answered
  obtain ⟨possible, asked, rfl⟩ := Inquiry.yields_wrap.mp yields
  obtain ⟨rfl, _⟩ := yields_satisfiableAlongside asked
  exact ⟨_, rfl, by simp⟩

/-- A model is found exactly where there is one. -/
theorem reply_model (lawful : oracle.Lawful) (coherent : base.Coherent)
    {literals : List Literal} (answered : base.reply oracle (.model literals) = .ok answer) :
    ∃ found, answer = .model found ∧
      (found.isSome = true ↔ Satisfiable base.clauses literals) := by
  obtain ⟨cost, yields⟩ := yields_of_reply lawful coherent answered
  obtain ⟨found, asked, rfl⟩ := Inquiry.yields_wrap.mp yields
  exact ⟨found, rfl, (yields_modelWith asked).1⟩

/-- Agreement outside the backbone is answered with the pairs of undetermined variables. -/
theorem reply_agreement_none (lawful : oracle.Lawful) (coherent : base.Coherent)
    (answered : base.reply oracle (.agreement none) = .ok answer) :
    answer = .pairs
      (agreeingAmong base.clauses (undeterminedUpTo base.clauses base.highest)) := by
  obtain ⟨cost, yields⟩ := yields_of_reply lawful coherent answered
  obtain ⟨pairs, scanned, rfl⟩ := Inquiry.yields_wrap.mp yields
  rw [yields_agreement_none scanned]

/-- The classes are those that the pairs of undetermined variables make. -/
theorem reply_classes (lawful : oracle.Lawful) (coherent : base.Coherent)
    (answered : base.reply oracle .classes = .ok answer) :
    answer = .classes (classesOf
      (agreeingAmong base.clauses (undeterminedUpTo base.clauses base.highest))) := by
  obtain ⟨cost, yields⟩ := yields_of_reply lawful coherent answered
  obtain ⟨classes, asked, rfl⟩ := Inquiry.yields_wrap.mp yields
  obtain ⟨pairs, scanned, rfl⟩ := Inquiry.yields_wrap.mp asked
  rw [yields_agreement_none scanned]

/-- Agreement outside pinned numbers is answered with the pairs of the other variables. -/
theorem reply_agreement_some (lawful : oracle.Lawful) (coherent : base.Coherent)
    {pinned : List Int} (answered : base.reply oracle (.agreement (some pinned)) = .ok answer) :
    answer = .pairs (agreeingAmong base.clauses (unpinned base.highest pinned)) := by
  obtain ⟨cost, yields⟩ := yields_of_reply lawful coherent answered
  obtain ⟨pairs, scanned, rfl⟩ := Inquiry.yields_wrap.mp yields
  rw [(yields_agreeingPairs scanned).1]

/-- Entailment is answered truthfully. -/
theorem reply_entails (lawful : oracle.Lawful) (coherent : base.Coherent)
    {premise conclusion : Literal}
    (answered : base.reply oracle (.entails premise conclusion) = .ok answer) :
    ∃ holds, answer = .flag holds ∧ (holds = true ↔ Entails base.clauses premise conclusion) := by
  obtain ⟨cost, yields⟩ := yields_of_reply lawful coherent answered
  obtain ⟨holds, asked, rfl⟩ := Inquiry.yields_wrap.mp yields
  obtain ⟨rfl, _⟩ := yields_entails asked
  exact ⟨_, rfl, by simp⟩

/-- Hard entailment is answered truthfully. -/
theorem reply_entailsHard (lawful : oracle.Lawful) (coherent : base.Coherent)
    {premise conclusion : Literal}
    (answered : base.reply oracle (.entailsHard premise conclusion) = .ok answer) :
    ∃ holds, answer = .flag holds ∧
      (holds = true ↔ EntailsHard base.clauses premise conclusion) := by
  obtain ⟨cost, yields⟩ := yields_of_reply lawful coherent answered
  obtain ⟨holds, asked, rfl⟩ := Inquiry.yields_wrap.mp yields
  obtain ⟨rfl, _⟩ := yields_entailsHard asked
  exact ⟨_, rfl, by simp⟩

/-- The backbone is answered with the forced literals. -/
theorem reply_backbone (lawful : oracle.Lawful) (coherent : base.Coherent)
    (answered : base.reply oracle .backbone = .ok answer) :
    answer = .literals (forcedUpTo base.clauses base.highest) := by
  obtain ⟨cost, yields⟩ := yields_of_reply lawful coherent answered
  obtain ⟨forced, searched, rfl⟩ := Inquiry.yields_wrap.mp yields
  rw [(yields_backbone searched).1, forcedUpTo]

/-- A survey is answered with what the models have it report. -/
theorem reply_survey (lawful : oracle.Lawful) (coherent : base.Coherent)
    (answered : base.reply oracle .survey = .ok answer) :
    answer = .survey (surveyOf base.clauses base.highest) := by
  obtain ⟨cost, yields⟩ := yields_of_reply lawful coherent answered
  obtain ⟨found, surveyed, rfl⟩ := Inquiry.yields_wrap.mp yields
  rw [(yields_survey surveyed).1]

end RuleBase

end Clausal
