import Clausal.RuleBase

/-!
# Inquiries

An inquiry is a plan of questions: what is asked next may depend on the answers so
far, and on the way events may be noted. It is a finite tree and changes nothing by
itself, so everything that is asked of a rule base goes through one function, `run`.

A question that fails ends the run at once, with no answer. Which questions are
asked, and how many, can be read off the tree and the answers.
-/

namespace Clausal

/-- A plan of questions that ends in a result. A question is answered by a witness
if there is a model. -/
inductive Inquiry (α : Type)
  | done (result : α)
  | note (event : Event) (rest : Inquiry α)
  | ask (question : Question) (next : Option (List Literal) → Inquiry α)

namespace Inquiry

variable {α β γ : Type}

/-- Goes on with a second inquiry once the first has its result. -/
def bind : Inquiry α → (α → Inquiry β) → Inquiry β
  | done result, after => after result
  | note event rest, after => note event (rest.bind after)
  | ask question next, after => ask question fun answer => (next answer).bind after

/-- Inquiries are put together by asking one after the other. -/
instance : Monad Inquiry where
  pure := done
  bind := bind

/-- Notes an event. -/
def record (event : Event) : Inquiry Unit := note event (done ())

/-- Carries an inquiry out on a rule base. -/
def run (oracle : Oracle) : Inquiry α → RuleBase → Outcome α
  | done result, base => (.ok result, base)
  | note event rest, base => rest.run oracle (base.log event)
  | ask question next, base =>
    match base.ask oracle question with
    | (.error fault, base) => (.error fault, base)
    | (.ok answer, base) => (next answer).run oracle base

/-- The inquiry with the number of its questions added to the result. -/
def metered : Inquiry α → (asked : Nat) → Inquiry (α × Nat)
  | done result, asked => done (result, asked)
  | note event rest, asked => note event (rest.metered asked)
  | ask question next, asked => ask question fun answer => (next answer).metered (asked + 1)

/-- To go on with nothing is to stop. -/
theorem bind_pure (inquiry : Inquiry α) : inquiry.bind done = inquiry := by
  induction inquiry with
  | done result => rfl
  | note event rest inductionHypothesis => exact congrArg (note event) inductionHypothesis
  | ask question next inductionHypothesis =>
    exact congrArg (ask question) (funext inductionHypothesis)

/-- Of three inquiries in turn, it does not matter which two are put together first. -/
theorem bind_bind (inquiry : Inquiry α) (second : α → Inquiry β) (third : β → Inquiry γ) :
    (inquiry.bind second).bind third = inquiry.bind fun result => (second result).bind third := by
  induction inquiry with
  | done result => rfl
  | note event rest inductionHypothesis => exact congrArg (note event) inductionHypothesis
  | ask question next inductionHypothesis =>
    exact congrArg (ask question) (funext inductionHypothesis)

/-- The laws of inquiries in turn, by which they can be taken apart again. -/
instance : LawfulMonad Inquiry :=
  LawfulMonad.mk' Inquiry bind_pure (fun _ _ => rfl) bind_bind

end Inquiry

/-- Is there a model in which the literals hold? -/
def satisfiableWith (literals : List Literal) : Inquiry Bool :=
  .ask (.assuming literals) fun answer => .done answer.isSome

/-- Is there a model that makes the extra clauses true? -/
def satisfiableAlongside : List Clause → Inquiry Bool
  | [] => satisfiableWith []
  | extra => .ask (.alongside extra) fun answer => .done answer.isSome

/-- A full model over the variables up to the highest, from the literals that a
witness lists. What the witness leaves open is false. -/
def complete (highest : Nat) (witness : List Literal) : List Literal :=
  (Variable.upTo highest).map fun var => ⟨var, witness.contains ⟨var, true⟩⟩

/-- A full model in which the literals hold, if there is one. -/
def modelWith (highest : Nat) (literals : List Literal) : Inquiry (Option (List Literal)) :=
  .ask (.assuming literals) fun answer => .done (answer.map (complete highest))

end Clausal
