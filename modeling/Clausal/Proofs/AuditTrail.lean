import Clausal.Proofs.Surveys
import Clausal.Proofs.Trails
import Clausal.Proofs.WellFormed

/-!
# The audit trail is exact

What is recorded of a run is neither more nor less than what happened. Every decision that
was counted is recorded as answered or as given up, and an answer is recorded as it is; an
addition is recorded if it was carried out, and a refusal and a decision that gave up are
recorded if the call failed for them. A survey reports as many decisions as were answered
while it was made.

A bound on conflicts that is no whole number is left out, since a decision under it is
counted but never made.
-/

namespace Clausal

open RuleBase

variable {oracle : Oracle} {start base : RuleBase} {history : List Exchange} {call : Call}

/-- No call is short of a decision whose limit on conflicts is a whole number. -/
theorem Call.unmade_perform (lawful : oracle.Lawful) (coherent : base.Coherent)
    (countable : base.limits.isCountable = true) (call : Call) :
    (call.perform oracle base).unmade = 0 := by
  refine Outcome.unmade_eq_zero fun failed => ?_
  rcases call.perform_failed lawful coherent failed with malformed | ⟨_, ⟨⟩⟩ | declines
  · exact malformed
  · cases declines with
    | uncountable uncountable =>
      rw [countable] at uncountable
      cases uncountable

/-- The decisions that were counted are those that are recorded as answered or given up. -/
def RuleBase.Accounted (base : RuleBase) : Prop :=
  base.decisions = base.journal.countP Event.isAnswered + base.journal.countP Event.isGivenUp

/-- An operation that leaves no counted decision unmade keeps the account. -/
theorem RuleBase.Trail.accounted {α : Type} {events : List Event} {outcome : Outcome α}
    (trail : Trail base events outcome) (made : outcome.unmade = 0) (accounted : base.Accounted) :
    outcome.2.Accounted := by
  have counted := trail.counted
  rw [made, Event.length_questions, accounted] at counted
  rw [Accounted, trail.journal, List.countP_append, List.countP_append, List.countP_reverse,
    List.countP_reverse]
  omega

/-- What could be built has an account of its decisions and has recorded them as they were. Its
journal is the trail of its construction and nothing else. -/
theorem Built.recorded (built : Built base) :
    base.Accounted ∧ ∀ question affirmed, .decided question affirmed ∈ base.journal →
      (affirmed = true ↔ question.Affirmed base.clauses) := by
  obtain ⟨oracle, backend, limits, batch, lawful, created⟩ := built
  have unread (fault : Fault) (failed : (create oracle backend limits batch).1 = .error fault) :
      Except.error fault ∈ batch → fault.Untraced := by
    rw [created] at failed
    cases failed
  obtain ⟨events, trail⟩ := trail_create lawful backend limits unread
  rw [created] at trail
  refine ⟨trail.accounted rfl rfl, fun question affirmed member => ?_⟩
  have journal : base.journal = events.reverse := trail.journal.trans (List.append_nil _)
  rw [journal, List.mem_reverse] at member
  exact trail.truthful question affirmed member

/-- Along a run the account is kept. The induction is on the run; a limit that can be counted
makes every counted decision a recorded one. -/
theorem Run.accounted (coherent : start.Coherent) (countable : start.limits.isCountable = true)
    (accounted : start.Accounted) (run : Run start history base) : base.Accounted := by
  induction run with
  | begun => exact accounted
  | @called history base earlier oracle lawful call inductionHypothesis =>
    have here : base.Coherent := earlier.coherent coherent
    have stillCountable : base.limits.isCountable = true :=
      (earlier.grown coherent).limits ▸ countable
    obtain ⟨trail, _⟩ := Exchange.trail lawful here call
    exact trail.accounted (call.unmade_perform lawful here stillCountable) inductionHypothesis

/-- The journal of a run is that of its exchanges, one after the other. -/
theorem Run.journal (coherent : start.Coherent) (run : Run start history base) :
    base.journal = (history.flatMap fun exchange => exchange.events.reverse) ++ start.journal := by
  induction run with
  | begun => rfl
  | @called history base earlier oracle lawful call inductionHypothesis =>
    obtain ⟨trail, _⟩ := Exchange.trail lawful (earlier.coherent coherent) call
    rw [trail.journal, inductionHypothesis, List.flatMap_cons, List.append_assoc]

end Clausal
