import Clausal.Proofs.Replies
import Clausal.Proofs.Trust

/-!
# Rule bases that decide everything

An open rule base without limits makes every decision it is asked to make. So every query
is answered, and every addition is either accepted, because the clauses have a model
together with the added one, or refused, because they have none.
-/

namespace Clausal

/-- The rule base is open and nothing limits its decisions. -/
structure RuleBase.Responsive (base : RuleBase) : Prop where
  coherent : base.Coherent
  isOpen : base.isOpen = true
  unlimited : base.limits.isLimited = false

open RuleBase

variable {oracle : Oracle} {base : RuleBase} {call : Call} {clause : Clause}

/-- Every query is answered. -/
theorem RuleBase.Responsive.reply (responsive : base.Responsive) (lawful : oracle.Lawful)
    (query : Query) : ∃ answer, base.reply oracle query = .ok answer := by
  rcases reply_cases lawful responsive.coherent query with answered | ⟨fault, _, declines⟩
  · exact answered
  · exact absurd declines (not_declines responsive.isOpen responsive.unlimited)

/-- A run from a responsive rule base ends in one, unless it closes the rule base. -/
theorem RuleBase.Responsive.run (responsive : base.Responsive) {history : List Exchange}
    {after : RuleBase} (run : Run base history after) (isOpen : after.isOpen = true) :
    after.Responsive where
  coherent := run.coherent responsive.coherent
  isOpen := isOpen
  unlimited := (run.grown responsive.coherent).limits ▸ responsive.unlimited

/-- An addition that is carried out has nothing to say. -/
theorem Call.silent_perform {answer : Answer} (adds : call.added? = some clause)
    (ended : (call.perform oracle base).1 = .ok answer) : answer = .nothing := by
  have silent {outcome : Outcome Unit} (said : outcome.silent.1 = .ok answer) :
      answer = .nothing := by
    rcases outcome with ⟨_ | _, after⟩
    · cases said
    · exact (Except.ok.inj said).symm
  unfold added? at adds
  unfold perform at ended
  cases read : call.read with
  | error fault =>
    rw [read] at adds
    cases adds
  | ok request =>
    rw [read] at adds ended
    cases request with
    | tellFact literal => exact silent ended
    | tell given => exact silent ended
    | inquire query => cases adds
    | close => cases adds
    | enter => cases adds
    | describe => cases adds
    | listing => cases adds

/-- An addition stores its clause and leaves the rule base responsive, whether or not it is
accepted. -/
theorem RuleBase.Responsive.added (responsive : base.Responsive) (lawful : oracle.Lawful)
    (adds : call.added? = some clause) :
    (call.perform oracle base).2.Responsive ∧
      (call.perform oracle base).2.clauses = base.clauses ++ [clause] := by
  have checked := call.checked_perform lawful responsive.coherent adds
  refine ⟨⟨checked.coherent, ?_, ?_⟩, checked.clauses⟩
  · exact checked.isOpen.trans responsive.isOpen
  · rw [checked.limits]
    exact responsive.unlimited

/-- An addition that leaves a model is accepted, and trust is as it was. Without limits the
decision is made, and it is right. -/
theorem RuleBase.Responsive.accepts (responsive : base.Responsive) (lawful : oracle.Lawful)
    (adds : call.added? = some clause) (satisfiable : Satisfiable (base.clauses ++ [clause]) []) :
    (call.perform oracle base).1 = .ok .nothing ∧
      (call.perform oracle base).2.trusted = base.trusted := by
  have checked := call.checked_perform lawful responsive.coherent adds
  cases ended : (call.perform oracle base).1 with
  | ok answer =>
    obtain rfl := Call.silent_perform adds ended
    exact ⟨rfl, (checked.accepted .nothing ended).2⟩
  | error fault =>
    rcases checked.failed fault ended with ⟨_, hopeless, _⟩ | ⟨declines, _⟩
    · exact absurd satisfiable hopeless
    · exact absurd (declines_store declines) (not_declines responsive.isOpen responsive.unlimited)

/-- An addition that leaves no model is refused and blamed for it, whether the solver sees the
conflict or is asked. -/
theorem RuleBase.Responsive.refuses (responsive : base.Responsive) (lawful : oracle.Lawful)
    (adds : call.added? = some clause) (hopeless : ¬Satisfiable (base.clauses ++ [clause]) []) :
    (call.perform oracle base).1 = .error (.contradiction (some clause)) := by
  cases ended : (call.perform oracle base).1 with
  | ok answer =>
    have checked := call.checked_perform lawful responsive.coherent adds
    exact absurd (checked.accepted answer ended).1 hopeless
  | error fault =>
    rcases call.failed_perform lawful responsive.coherent adds ended with ⟨rfl, _⟩ | declines
    · rfl
    · exact absurd declines (not_declines responsive.isOpen responsive.unlimited)

end Clausal
