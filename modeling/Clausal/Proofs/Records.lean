import Clausal.Proofs.PlainInquiries
import Clausal.Proofs.Runs

/-!
# Inquiries leave the recording of decisions to the rule base

Every decision that is put to an oracle is recorded where it is made, with its question,
whether it was answered or given up. No inquiry records one of its own accord, so the audit
trail tells which questions were put, in order and without repetition.
-/

namespace Clausal

/-- The question that the event records a decision of, be it answered or given up. -/
def Event.question? : Event → Option Question
  | decided question _ | gaveUp question _ => some question
  | _ => none

/-- Decisions are recorded in the name of the rule base. -/
theorem Event.question?_eq_none {event : Event} (unofficial : event.isOfficial = false) :
    event.question? = none := by
  cases event with
  | decided question affirmed => cases unofficial
  | gaveUp question limits => cases unofficial
  | _ => rfl

namespace Inquiry

variable {α : Type}

/-- The inquiry records no decision of its own accord. -/
def Modest : Inquiry α → Prop
  | done _ => True
  | note event rest => event.question? = none ∧ rest.Modest
  | ask _ next => ∀ answer, (next answer).Modest

/-- A discreet inquiry is modest: decisions are recorded in the name of the rule base, which a
discreet inquiry does not use. -/
theorem Discreet.modest {inquiry : Inquiry α} (discreet : inquiry.Discreet) : inquiry.Modest := by
  induction inquiry with
  | done result => trivial
  | note event rest inductionHypothesis =>
    exact ⟨Event.question?_eq_none discreet.1, inductionHypothesis discreet.2⟩
  | ask question next inductionHypothesis =>
    exact fun answer => inductionHypothesis answer (discreet answer)

end Inquiry

/-- The inquiry of every query is modest, also of the one for a model. -/
theorem Query.modest_inquiry (query : Query) (highest : Nat) : (query.inquiry highest).Modest :=
  (query.discreet_inquiry highest).modest

namespace RuleBase

/-- The questions that were put to an oracle, in order, as the audit trail has them. -/
def questions (base : RuleBase) : List Question :=
  base.journal.reverse.filterMap Event.question?

/-- An event adds its question to those on record, if it is about one. -/
theorem questions_log (base : RuleBase) (event : Event) :
    (base.log event).questions = base.questions ++ event.question?.toList := by
  simp only [questions, log, List.reverse_cons, List.filterMap_append]
  cases found : event.question? <;> simp [found]

/-- The questions on record depend on the journal only. -/
theorem questions_congr {first second : RuleBase} (journal : first.journal = second.journal) :
    first.questions = second.questions := by
  rw [questions, questions, journal]

/-- An event that is not about a decision leaves the questions as they are. -/
theorem questions_silent (base : RuleBase) {event : Event} (silent : event.question? = none) :
    (base.log event).questions = base.questions := by
  rw [questions_log, silent, Option.toList_none, List.append_nil]

/-- Closing puts no question on record. -/
theorem questions_close (base : RuleBase) : base.close.questions = base.questions := by
  unfold close
  split
  · rfl
  · exact questions_silent { base with solver := none } rfl

/-- A verdict is recorded together with its question. -/
theorem settle_questions (base : RuleBase) (question : Question) (verdict : Verdict) :
    (base.settle question verdict).2.questions = base.questions ++ [question] := by
  cases verdict <;> exact questions_log base _

/-- To settle a verdict leaves the solver as it is. What it learns, it learns before. -/
theorem settle_solver (base : RuleBase) (question : Question) (verdict : Verdict) :
    (base.settle question verdict).2.solver = base.solver := by
  cases verdict <;> rfl

end RuleBase

end Clausal
