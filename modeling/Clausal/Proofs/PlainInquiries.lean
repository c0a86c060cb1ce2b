import Clausal.Request

/-!
# Plain inquiries

The finders ask yes-or-no questions: what they do next may depend on whether there is a
model, never on which one an oracle found. And what they record is their own business;
whatever the audit trail says about decisions, clauses and closing comes from the rule base
itself. Inquiries of this kind are plain. The query for a model is the only one that looks
at a witness, and it is still discreet in what it records.

Both are read off the tree of an inquiry and are closed under the ways in which inquiries
are put together.
-/

namespace Clausal

/-- The event speaks for the rule base itself. -/
def Event.isOfficial (event : Event) : Bool := event.topic == .ruleBase

namespace Inquiry

variable {α β : Type}

/-- The inquiry records nothing in the name of the rule base. -/
def Discreet : Inquiry α → Prop
  | done _ => True
  | note event rest => event.isOfficial = false ∧ rest.Discreet
  | ask _ next => ∀ answer, (next answer).Discreet

/-- The inquiry is discreet, and all witnesses are the same to it. -/
def Plain : Inquiry α → Prop
  | done _ => True
  | note event rest => event.isOfficial = false ∧ rest.Plain
  | ask _ next => (∀ witness other, next (some witness) = next (some other)) ∧
      ∀ answer, (next answer).Plain

/-- A plain inquiry is discreet. The induction is on the tree of the inquiry, and drops what is
said of witnesses. -/
theorem Plain.discreet {inquiry : Inquiry α} (plain : inquiry.Plain) : inquiry.Discreet := by
  induction inquiry with
  | done result => trivial
  | note event rest inductionHypothesis => exact ⟨plain.1, inductionHypothesis plain.2⟩
  | ask question next inductionHypothesis =>
    exact fun answer => inductionHypothesis answer (plain.2 answer)

/-- A result that is given without any question is plain. -/
theorem plain_pure (result : α) : (pure result : Inquiry α).Plain := trivial

/-- To record an event is plain if the event does not speak for the rule base. -/
theorem plain_record {event : Event} (own : event.isOfficial = false) : (record event).Plain :=
  ⟨own, trivial⟩

/-- A question that is taken for yes or no. -/
theorem plain_ask (question : Question) : (ask question fun answer => done answer.isSome).Plain :=
  ⟨fun _ _ => rfl, fun _ => trivial⟩

/-- Of two inquiries in turn, both must be plain, the second one whatever the result of the
first. The induction is on the first inquiry, at whose ends the second begins. -/
theorem Plain.bind {inquiry : Inquiry α} {after : α → Inquiry β} (plain : inquiry.Plain)
    (goesOn : ∀ value, (after value).Plain) : (inquiry >>= after).Plain := by
  change (inquiry.bind after).Plain
  induction inquiry with
  | done result => exact goesOn result
  | note event rest inductionHypothesis => exact ⟨plain.1, inductionHypothesis plain.2⟩
  | ask question next inductionHypothesis =>
    obtain ⟨blind, each⟩ := plain
    refine ⟨fun witness other => ?_, fun answer => inductionHypothesis answer (each answer)⟩
    exact congrArg (Inquiry.bind · after) (blind witness other)

/-- Wrapping up a result asks and records nothing. -/
theorem Plain.wrap {inquiry : Inquiry α} (plain : inquiry.Plain) (wrap : α → β) :
    (do return wrap (← inquiry)).Plain :=
  plain.bind fun _ => plain_pure _

/-- A scan is plain if each of its steps is. The induction is on what is scanned. -/
theorem plain_filterMapM {step : α → Inquiry (Option β)} (each : ∀ item, (step item).Plain)
    (items : List α) : (items.filterMapM step).Plain := by
  induction items with
  | nil => exact plain_pure []
  | cons item rest inductionHypothesis =>
    rw [List.filterMapM_cons]
    refine (each item).bind fun found => ?_
    cases found with
    | none => exact inductionHypothesis
    | some value => exact inductionHypothesis.bind fun _ => plain_pure _

/-- Counting the questions of a plain inquiry leaves it plain. The count goes up at each
question, whatever the answer and whatever the witness. -/
theorem Plain.metered {inquiry : Inquiry α} (plain : inquiry.Plain) (asked : Nat) :
    (inquiry.metered asked).Plain := by
  induction inquiry generalizing asked with
  | done result => trivial
  | note event rest inductionHypothesis => exact ⟨plain.1, inductionHypothesis plain.2 asked⟩
  | ask question next inductionHypothesis =>
    obtain ⟨blind, each⟩ := plain
    refine ⟨fun witness other => ?_, fun answer =>
      inductionHypothesis answer (each answer) (asked + 1)⟩
    exact congrArg (Inquiry.metered · (asked + 1)) (blind witness other)

end Inquiry

open Inquiry

/-- The question under assumptions is taken for yes or no. -/
theorem plain_satisfiableWith (literals : List Literal) : (satisfiableWith literals).Plain :=
  plain_ask _

/-- So is the question about extra clauses, which falls back on the other one if there are none. -/
theorem plain_satisfiableAlongside (extra : List Clause) : (satisfiableAlongside extra).Plain := by
  cases extra with
  | nil => exact plain_satisfiableWith []
  | cons clause rest => exact plain_ask _

/-- Entailment asks one question and records what it concludes under its own topic. -/
theorem plain_entails (premise conclusion : Literal) : (entails premise conclusion).Plain :=
  (plain_satisfiableWith _).bind fun _ => (plain_record rfl).bind fun _ => plain_pure _

/-- Hard entailment asks a second question if the premise does entail the conclusion. -/
theorem plain_entailsHard (premise conclusion : Literal) :
    (entailsHard premise conclusion).Plain := by
  refine (plain_entails premise conclusion).bind fun entailed => ?_
  cases entailed with
  | true =>
    exact (plain_satisfiableWith _).bind fun _ => (plain_record rfl).bind fun _ => plain_pure _
  | false => exact (plain_record rfl).bind fun _ => plain_pure _

/-- For one variable, the search for the backbone asks whether it can be false and, if it can,
whether it can be true. -/
theorem plain_forcedLiteral (var : Variable) : (forcedLiteral var).Plain := by
  refine (plain_satisfiableWith _).bind fun canBeFalse => ?_
  cases canBeFalse with
  | false => exact plain_pure _
  | true =>
    refine (plain_satisfiableWith _).bind fun canBeTrue => ?_
    cases canBeTrue <;> exact plain_pure _

/-- The backbone is a scan of the variables, with a record at its end. -/
theorem plain_backbone (highest : Nat) : (backbone highest).Plain := by
  refine (plain_filterMapM (fun var => ?_) _).bind fun _ =>
    (plain_record rfl).bind fun _ => plain_pure _
  refine (plain_forcedLiteral var).bind fun found => ?_
  cases found with
  | none => exact plain_pure _
  | some literal => exact (plain_record rfl).bind fun _ => plain_pure _

/-- Two variables are compared by hard entailment in one direction and then in the other. -/
theorem plain_agree (first second : Variable) : (agree first second).Plain := by
  refine (plain_entailsHard _ _).bind fun there => ?_
  cases there with
  | true => exact plain_entailsHard _ _
  | false => exact plain_pure _

/-- The agreeing pairs are a scan of the pairs, with a record for each and one at the end. -/
theorem plain_agreeingPairs (highest : Nat) (pinned : List Int) :
    (agreeingPairs highest pinned).Plain := by
  refine (plain_filterMapM (fun pair => ?_) _).bind fun _ =>
    (plain_record rfl).bind fun _ => plain_pure _
  refine (plain_agree pair.1 pair.2).bind fun agreeing => ?_
  cases agreeing with
  | true => exact (plain_record rfl).bind fun _ => plain_pure _
  | false => exact plain_pure _

/-- Where no numbers are pinned, the backbone is found before the pairs. -/
theorem plain_agreement (highest : Nat) (pinned : Option (List Int)) :
    (agreement highest pinned).Plain := by
  cases pinned with
  | none => exact (plain_backbone highest).bind fun _ => plain_agreeingPairs _ _
  | some pinned => exact plain_agreeingPairs highest pinned

/-- A survey puts the finders together, counts their questions and records its own end. -/
theorem plain_survey (highest : Nat) : (survey highest).Plain := by
  have examined : (examine highest).Plain :=
    (plain_backbone highest).bind fun _ => (plain_agreeingPairs _ _).wrap _
  exact (examined.metered 0).bind fun _ => (plain_record rfl).bind fun _ => plain_pure _

/-- Every query is plain but the one that shows a model. Each is a finder whose result is wrapped
up as an answer. -/
theorem Query.plain_inquiry {query : Query} (settled : ∀ literals, query ≠ .model literals)
    (highest : Nat) : (query.inquiry highest).Plain := by
  cases query with
  | satisfiable literals => exact (plain_satisfiableWith literals).wrap _
  | alongside extra => exact (plain_satisfiableAlongside extra).wrap _
  | model literals => exact absurd rfl (settled literals)
  | entails premise conclusion => exact (plain_entails premise conclusion).wrap _
  | entailsHard premise conclusion => exact (plain_entailsHard premise conclusion).wrap _
  | backbone => exact (plain_backbone highest).wrap _
  | agreement pinned => exact (plain_agreement highest pinned).wrap _
  | classes => exact ((plain_agreement highest none).wrap _).wrap _
  | survey => exact (plain_survey highest).wrap _

/-- Every query is discreet. -/
theorem Query.discreet_inquiry (query : Query) (highest : Nat) :
    (query.inquiry highest).Discreet := by
  by_cases shown : ∃ literals, query = .model literals
  · obtain ⟨literals, rfl⟩ := shown
    exact fun _ => trivial
  · exact (query.plain_inquiry (fun literals same => shown ⟨literals, same⟩) highest).discreet

end Clausal
