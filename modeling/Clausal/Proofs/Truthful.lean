import Clausal.Inquiry
import Clausal.Proofs.Models
import Mathlib.Algebra.Ring.Nat

/-!
# What an inquiry yields when it is answered truthfully

A truthful answer to a question is a witness if there is a model and no witness if
there is none. Which witness it is stays open. An inquiry yields a result at a cost if
some truthful answers lead to it and that many questions are asked on the way.

The laws below follow the ways in which inquiries are put together, so what a finder
yields is read off its parts. They mention no oracle and no rule base.
-/

namespace Clausal

/-- The answer to a question about the clauses tells whether there is a model, and a
witness it brings is one. -/
def Truthful (clauses : List Clause) (question : Question) : Option (List Literal) → Prop
  | some witness => Witnesses witness (clauses ++ question.extra) question.assumptions
  | none => ¬question.Affirmed clauses

/-- Whatever the witness, a truthful answer brings one exactly if the answer is yes. -/
theorem Truthful.isSome_iff {clauses : List Clause} {question : Question}
    {answer : Option (List Literal)} (truthful : Truthful clauses question answer) :
    answer.isSome = true ↔ question.Affirmed clauses := by
  cases answer with
  | none => exact iff_of_false Bool.false_ne_true truthful
  | some witness => exact iff_of_true rfl (Witnesses.satisfiable truthful)

namespace Inquiry

variable {α β : Type} {clauses : List Clause} {cost : Nat}

/-- Truthful answers can lead the inquiry to the result, at the cost of that many
questions. -/
def Yields (clauses : List Clause) : Inquiry α → Nat → α → Prop
  | done value, cost, result => cost = 0 ∧ result = value
  | note _ rest, cost, result => rest.Yields clauses cost result
  | ask question next, cost, result => ∃ answer remaining,
      Truthful clauses question answer ∧ (next answer).Yields clauses remaining result ∧
        cost = remaining + 1

/-- What needs no question costs nothing and has one result. -/
@[simp] theorem yields_pure {value result : α} :
    (pure value : Inquiry α).Yields clauses cost result ↔ cost = 0 ∧ result = value := Iff.rfl

/-- What an inquiry records makes no difference to what it yields. -/
@[simp] theorem yields_recorded {event : Event} {inquiry : Unit → Inquiry β} {result : β} :
    (record event >>= inquiry).Yields clauses cost result ↔
      (inquiry ()).Yields clauses cost result := Iff.rfl

/-- Costs add up when one inquiry follows another. The induction is on the first inquiry, and
each of its questions is paid for once on either side. -/
theorem yields_bind {inquiry : Inquiry α} {after : α → Inquiry β} {result : β} :
    (inquiry >>= after).Yields clauses cost result ↔ ∃ middle first second,
      inquiry.Yields clauses first middle ∧ (after middle).Yields clauses second result ∧
        cost = first + second := by
  change (inquiry.bind after).Yields clauses cost result ↔ _
  induction inquiry generalizing cost with
  | done value =>
    constructor
    · intro yields
      exact ⟨value, 0, cost, ⟨rfl, rfl⟩, yields, (Nat.zero_add cost).symm⟩
    · rintro ⟨middle, first, second, ⟨rfl, rfl⟩, yields, rfl⟩
      exact (Nat.zero_add second).symm ▸ yields
  | note event rest inductionHypothesis => exact inductionHypothesis
  | ask question next inductionHypothesis =>
    constructor
    · rintro ⟨answer, remaining, truthful, yields, rfl⟩
      obtain ⟨middle, first, second, leads, follows, rfl⟩ :=
        (inductionHypothesis answer).mp yields
      exact ⟨middle, first + 1, second, ⟨answer, first, truthful, leads, rfl⟩, follows,
        by omega⟩
    · rintro ⟨middle, _, second, ⟨answer, first, truthful, leads, rfl⟩, follows, rfl⟩
      refine ⟨answer, first + second, truthful, ?_, by omega⟩
      exact (inductionHypothesis answer).mpr ⟨middle, first, second, leads, follows, rfl⟩

/-- Wrapping up a result costs nothing. -/
theorem yields_wrap {inquiry : Inquiry α} {wrap : α → β} {result : β} :
    (inquiry >>= fun value => pure (wrap value)).Yields clauses cost result ↔
      ∃ value, inquiry.Yields clauses cost value ∧ result = wrap value := by
  rw [yields_bind]
  constructor
  · rintro ⟨value, first, _, yields, ⟨rfl, rfl⟩, rfl⟩
    exact ⟨value, yields, rfl⟩
  · rintro ⟨value, yields, rfl⟩
    exact ⟨value, cost, 0, yields, ⟨rfl, rfl⟩, rfl⟩

/-- If every step of a scan has only one result, at only one price, so has the scan. This is how
the finders come to be functions of the models although the oracle is free. -/
theorem yields_filterMapM {step : α → Inquiry (Option β)} {outcome : α → Option β}
    {price : α → Nat} {items : List α} {results : List β}
    (each : ∀ item ∈ items, ∀ {cost result}, (step item).Yields clauses cost result →
      result = outcome item ∧ cost = price item)
    (yields : (items.filterMapM step).Yields clauses cost results) :
    results = items.filterMap outcome ∧ cost = (items.map price).sum := by
  induction items generalizing cost results with
  | nil =>
    rw [List.filterMapM_nil, yields_pure] at yields
    exact ⟨yields.2, yields.1⟩
  | cons item rest inductionHypothesis =>
    obtain ⟨eachHere, eachLater⟩ := List.forall_mem_cons.mp each
    rw [List.filterMapM_cons, yields_bind] at yields
    obtain ⟨found, first, second, leads, follows, rfl⟩ := yields
    obtain ⟨same, rfl⟩ := eachHere leads
    rw [List.filterMap_cons, List.map_cons, List.sum_cons, ← same]
    cases found with
    | none =>
      obtain ⟨rfl, rfl⟩ := inductionHypothesis eachLater follows
      exact ⟨rfl, rfl⟩
    | some value =>
      obtain ⟨tail, third, fourth, scanned, ended, rfl⟩ := yields_bind.mp follows
      obtain ⟨rfl, rfl⟩ := inductionHypothesis eachLater scanned
      obtain ⟨rfl, rfl⟩ := yields_pure.mp ended
      exact ⟨rfl, by omega⟩

end Inquiry

open Classical Inquiry

variable {clauses : List Clause} {cost : Nat}

/-- One question tells whether the literals can be assumed together. -/
theorem yields_satisfiableWith {literals : List Literal} {answer : Bool}
    (yields : (satisfiableWith literals).Yields clauses cost answer) :
    answer = decide (Satisfiable clauses literals) ∧ cost = 1 := by
  obtain ⟨witness, remaining, truthful, ⟨rfl, rfl⟩, rfl⟩ := yields
  have truth : witness.isSome = true ↔ Satisfiable clauses literals :=
    truthful.isSome_iff.trans Question.affirmed_assuming
  exact ⟨by rw [Bool.eq_iff_iff, decide_eq_true_iff, truth], rfl⟩

/-- One question tells whether the extra clauses leave a model. No extra clauses are
no different from no assumptions. -/
theorem yields_satisfiableAlongside {extra : List Clause} {answer : Bool}
    (yields : (satisfiableAlongside extra).Yields clauses cost answer) :
    answer = decide (Satisfiable (clauses ++ extra) []) ∧ cost = 1 := by
  cases extra with
  | nil => simpa using yields_satisfiableWith yields
  | cons clause rest =>
    obtain ⟨witness, remaining, truthful, ⟨rfl, rfl⟩, rfl⟩ := yields
    have truth : witness.isSome = true ↔ Satisfiable (clauses ++ clause :: rest) [] :=
      truthful.isSome_iff.trans Question.affirmed_alongside
    exact ⟨by rw [Bool.eq_iff_iff, decide_eq_true_iff, truth], rfl⟩

/-- One question finds a model in which the literals hold, if there is any. -/
theorem yields_modelWith {highest : Nat} {literals : List Literal}
    {model : Option (List Literal)}
    (yields : (modelWith highest literals).Yields clauses cost model) :
    (model.isSome = true ↔ Satisfiable clauses literals) ∧ cost = 1 := by
  obtain ⟨witness, remaining, truthful, ⟨rfl, rfl⟩, rfl⟩ := yields
  rw [Option.isSome_map]
  exact ⟨truthful.isSome_iff.trans Question.affirmed_assuming, rfl⟩

end Clausal
