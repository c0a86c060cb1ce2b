import Clausal.Proofs.Responsive

/-!
# Clauses with the same models

Clauses can be written in many ways that have the same models. No question tells them
apart, since a truthful answer about the one is a truthful answer about the other, and so
no inquiry tells them apart either, not even by its cost.

What is left is the choice among several models where one is to be shown. Every other
query has one right answer only, so two rule bases that have the same models and the same
highest variable answer it alike.
-/

namespace Clausal

open Inquiry

/-- The clauses have the same models. -/
def Equivalent (first second : List Clause) : Prop :=
  ∀ assignment, Models assignment first ↔ Models assignment second

variable {first second third : List Clause}

/-- Clauses have the models that they have. -/
theorem Equivalent.refl (clauses : List Clause) : Equivalent clauses clauses := fun _ => Iff.rfl

/-- Equivalence has no direction. -/
theorem Equivalent.symm (equivalent : Equivalent first second) : Equivalent second first :=
  fun assignment => (equivalent assignment).symm

/-- Equivalence is passed on through clauses in the middle. -/
theorem Equivalent.trans (earlier : Equivalent first second) (later : Equivalent second third) :
    Equivalent first third := fun assignment => (earlier assignment).trans (later assignment)

/-- Adding the same clauses to both keeps the models the same. -/
theorem Equivalent.append (equivalent : Equivalent first second) (added : List Clause) :
    Equivalent (first ++ added) (second ++ added) := by
  intro assignment
  rw [models_append, models_append, equivalent assignment]

/-- Adding what holds in every model anyway keeps the models. -/
theorem Equivalent.append_entailed (equivalent : Equivalent first second) {clause : Clause}
    (entailed : ∀ assignment, Models assignment first → clause.Holds assignment) :
    Equivalent first (second ++ [clause]) := by
  intro assignment
  rw [models_append, models_singleton, ← equivalent assignment]
  exact ⟨fun models => ⟨models, entailed assignment models⟩, And.left⟩

/-- Under equivalent clauses the same literals can be assumed. -/
theorem Equivalent.satisfiable_iff (equivalent : Equivalent first second)
    {literals : List Literal} : Satisfiable first literals ↔ Satisfiable second literals :=
  exists_congr fun assignment => and_congr_left fun _ => equivalent assignment

/-- An answer is truthful about both or about neither. -/
theorem Truthful.congr (equivalent : Equivalent first second) {question : Question}
    {answer : Option (List Literal)} (truthful : Truthful first question answer) :
    Truthful second question answer := by
  have together := equivalent.append question.extra
  cases answer with
  | none => exact fun affirmed => truthful (together.satisfiable_iff.mpr affirmed)
  | some witness =>
    obtain ⟨distinct, assumed, models⟩ := truthful
    exact ⟨distinct, assumed, fun assignment hold =>
      (together assignment).mp (models assignment hold)⟩

/-- What an inquiry can yield, and at which cost, depends on the models only. -/
theorem Inquiry.Yields.congr {α : Type} (equivalent : Equivalent first second)
    {inquiry : Inquiry α} {cost : Nat} {result : α} (yields : inquiry.Yields first cost result) :
    inquiry.Yields second cost result := by
  induction inquiry generalizing cost with
  | done value => exact yields
  | note event rest inductionHypothesis => exact inductionHypothesis yields
  | ask question next inductionHypothesis =>
    obtain ⟨answer, remaining, truthful, later, total⟩ := yields
    exact ⟨answer, remaining, truthful.congr equivalent, inductionHypothesis answer later, total⟩

/-- The query has one right answer. A model to be shown may be any of several. -/
def Query.Settled : Query → Prop
  | model _ => False
  | _ => True

/-- A wrapped result is settled if the result is. -/
theorem settled_wrap {clauses : List Clause} {α β : Type} {inquiry : Inquiry α} {wrap : α → β}
    {right : α} (only : ∀ {cost result}, inquiry.Yields clauses cost result → result = right)
    {cost : Nat} {answer : β}
    (yields : (inquiry >>= fun value => pure (wrap value)).Yields clauses cost answer) :
    answer = wrap right := by
  obtain ⟨value, reached, rfl⟩ := yields_wrap.mp yields
  rw [only reached]

/-- Truthful answers lead a settled query to one answer only. The query for a model is the one
that is not settled, since several models may be shown. -/
theorem Query.Settled.answer {query : Query} (settled : query.Settled) (clauses : List Clause)
    (highest : Nat) : ∃ right, ∀ cost answer,
      (query.inquiry highest).Yields clauses cost answer → answer = right := by
  cases query with
  | satisfiable literals =>
    exact ⟨_, fun _ _ => settled_wrap fun asked => (yields_satisfiableWith asked).1⟩
  | alongside extra =>
    exact ⟨_, fun _ _ => settled_wrap fun asked => (yields_satisfiableAlongside asked).1⟩
  | model literals => exact settled.elim
  | entails premise conclusion =>
    exact ⟨_, fun _ _ => settled_wrap fun asked => (yields_entails asked).1⟩
  | entailsHard premise conclusion =>
    exact ⟨_, fun _ _ => settled_wrap fun asked => (yields_entailsHard asked).1⟩
  | backbone => exact ⟨_, fun _ _ => settled_wrap fun searched => (yields_backbone searched).1⟩
  | agreement pinned =>
    cases pinned with
    | none => exact ⟨_, fun _ _ => settled_wrap fun scanned => yields_agreement_none scanned⟩
    | some pinned =>
      exact ⟨_, fun _ _ => settled_wrap fun scanned => (yields_agreeingPairs scanned).1⟩
  | classes =>
    exact ⟨_, fun _ _ => settled_wrap fun grouped =>
      settled_wrap (fun scanned => yields_agreement_none scanned) grouped⟩
  | survey => exact ⟨_, fun _ _ => settled_wrap fun surveyed => (yields_survey surveyed).1⟩

/-- Both rule bases answer every settled query, and they answer it alike, whichever
oracles they ask. -/
def RuleBase.Indistinct (one other : RuleBase) : Prop :=
  ∀ query : Query, query.Settled → ∀ oracle prober : Oracle, oracle.Lawful → prober.Lawful →
    ∃ answer, one.reply oracle query = .ok answer ∧ other.reply prober query = .ok answer

/-- Responsive rule bases with the same models and the same highest variable cannot be told
apart. -/
theorem RuleBase.Responsive.indistinct {one other : RuleBase} (responsive : one.Responsive)
    (alsoResponsive : other.Responsive) (equivalent : Equivalent one.clauses other.clauses)
    (highest : one.highest = other.highest) : one.Indistinct other := by
  intro query settled oracle prober lawful probing
  obtain ⟨right, only⟩ := settled.answer other.clauses other.highest
  obtain ⟨answer, answered⟩ := responsive.reply lawful query
  obtain ⟨found, probed⟩ := alsoResponsive.reply probing query
  obtain ⟨cost, yields⟩ := yields_of_reply lawful responsive.coherent answered
  obtain ⟨spent, follows⟩ := yields_of_reply probing alsoResponsive.coherent probed
  rw [highest] at yields
  -- Both answers are right about the second rule base, where only one answer is.
  have same : answer = found :=
    (only cost answer (yields.congr equivalent)).trans (only spent found follows).symm
  exact ⟨answer, answered, same ▸ probed⟩

end Clausal
