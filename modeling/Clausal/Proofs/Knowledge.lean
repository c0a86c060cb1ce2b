import Clausal.Proofs.Refinement
import Clausal.Proofs.Trust

/-!
# Knowledge is never lost

Additions that are carried out take models away and leave some. So a rule base that they
lead to knows what it knew before: its answers may change, but only towards fewer
possibilities and more conclusions.

There are two ways to stop counting as known. A hard entailment ceases to be hard when its
conclusion is forced, and agreeing variables cease to agree when they are forced, which
happens to all of a class at once and with the same sign.
-/

namespace Clausal

open RuleBase

/-- Along a run whose additions are all carried out, the clauses change only into clauses
with a model. -/
theorem Run.consistent {base later : RuleBase} {history : List Exchange} (coherent : base.Coherent)
    (run : Run base history later)
    (carriedOut : ∀ exchange ∈ history, exchange.call.added? ≠ none →
      ∃ answer, exchange.outcome.1 = .ok answer) :
    later.clauses = base.clauses ∨ Satisfiable later.clauses [] := by
  induction run with
  | begun => exact Or.inl rfl
  | called run oracle lawful call inductionHypothesis =>
    have here := run.coherent coherent
    obtain ⟨last, earlier⟩ := List.forall_mem_cons.mp carriedOut
    cases adds : call.added? with
    | none =>
      rw [call.clauses_perform lawful here adds]
      exact inductionHypothesis earlier
    | some clause =>
      obtain ⟨answer, ended⟩ := last (adds ▸ Option.some_ne_none clause)
      exact Or.inr (call.satisfiable_perform lawful here adds ended)

/-- Such a run refines the clauses and does not lower the highest variable. -/
theorem Run.refines {base later : RuleBase} {history : List Exchange} (coherent : base.Coherent)
    (run : Run base history later)
    (carriedOut : ∀ exchange ∈ history, exchange.call.added? ≠ none →
      ∃ answer, exchange.outcome.1 = .ok answer) :
    Refines base.clauses later.clauses ∧ base.highest ≤ later.highest := by
  obtain ⟨added, together⟩ := (run.grown coherent).clauses
  refine ⟨⟨fun assignment models => ?_, run.consistent coherent carriedOut⟩, ?_⟩
  · rw [← together] at models
    exact (models_append.mp models).1
  · rw [coherent.highest, (run.coherent coherent).highest, ← together, List.flatMap_append,
      Clause.highestOf_append]
    exact Nat.le_max_left _ _

/-- With some lawful oracle, the rule base answers the query so. -/
def RuleBase.Answers (base : RuleBase) (query : Query) (answer : Answer) : Prop :=
  ∃ oracle : Oracle, oracle.Lawful ∧ base.reply oracle query = .ok answer

namespace RuleBase.Answers

variable {base : RuleBase}

/-- Whatever oracle gave the answer, it tells whether the literals can be assumed. -/
theorem satisfiable (coherent : base.Coherent) {literals : List Literal} {possible : Bool}
    (answers : base.Answers (.satisfiable literals) (.flag possible)) :
    possible = true ↔ Satisfiable base.clauses literals := by
  obtain ⟨oracle, lawful, answered⟩ := answers
  obtain ⟨_, ⟨⟩, truth⟩ := reply_satisfiable lawful coherent answered
  exact truth

/-- Likewise for extra clauses, which a solver of their own decides. -/
theorem alongside (coherent : base.Coherent) {extra : List Clause} {possible : Bool}
    (answers : base.Answers (.alongside extra) (.flag possible)) :
    possible = true ↔ Satisfiable (base.clauses ++ extra) [] := by
  obtain ⟨oracle, lawful, answered⟩ := answers
  obtain ⟨_, ⟨⟩, truth⟩ := reply_alongside lawful coherent answered
  exact truth

/-- Likewise for a model, which is found exactly if there is one. -/
theorem model (coherent : base.Coherent) {literals : List Literal}
    {found : Option (List Literal)} (answers : base.Answers (.model literals) (.model found)) :
    found.isSome = true ↔ Satisfiable base.clauses literals := by
  obtain ⟨oracle, lawful, answered⟩ := answers
  obtain ⟨_, ⟨⟩, truth⟩ := reply_model lawful coherent answered
  exact truth

/-- Likewise for entailment. -/
theorem entails (coherent : base.Coherent) {premise conclusion : Literal} {holds : Bool}
    (answers : base.Answers (.entails premise conclusion) (.flag holds)) :
    holds = true ↔ Entails base.clauses premise conclusion := by
  obtain ⟨oracle, lawful, answered⟩ := answers
  obtain ⟨_, ⟨⟩, truth⟩ := reply_entails lawful coherent answered
  exact truth

/-- Likewise for hard entailment. -/
theorem entailsHard (coherent : base.Coherent) {premise conclusion : Literal} {holds : Bool}
    (answers : base.Answers (.entailsHard premise conclusion) (.flag holds)) :
    holds = true ↔ EntailsHard base.clauses premise conclusion := by
  obtain ⟨oracle, lawful, answered⟩ := answers
  obtain ⟨_, ⟨⟩, truth⟩ := reply_entailsHard lawful coherent answered
  exact truth

/-- There is one answer that the backbone can have, the forced literals in order. -/
theorem backbone (coherent : base.Coherent) {found : List Literal}
    (answers : base.Answers .backbone (.literals found)) :
    found = forcedUpTo base.clauses base.highest := by
  obtain ⟨oracle, lawful, answered⟩ := answers
  exact Answer.literals.inj (reply_backbone lawful coherent answered)

/-- There is one answer that agreement can have outside the backbone. -/
theorem agreement_none (coherent : base.Coherent) {found : List (Variable × Variable)}
    (answers : base.Answers (.agreement none) (.pairs found)) :
    found = agreeingUpTo base.clauses base.highest := by
  obtain ⟨oracle, lawful, answered⟩ := answers
  exact Answer.pairs.inj (reply_agreement_none lawful coherent answered)

/-- There is one answer that agreement can have outside given numbers, which need not be those
of the backbone. -/
theorem agreement_some (coherent : base.Coherent) {pinned : List Int}
    {found : List (Variable × Variable)}
    (answers : base.Answers (.agreement (some pinned)) (.pairs found)) :
    found = agreeingAmong base.clauses (unpinned base.highest pinned) := by
  obtain ⟨oracle, lawful, answered⟩ := answers
  exact Answer.pairs.inj (reply_agreement_some lawful coherent answered)

/-- There is one answer that the classes can have, and the agreeing pairs tell it. -/
theorem classes (coherent : base.Coherent) {found : List (List Variable)}
    (answers : base.Answers .classes (.classes found)) :
    found = classesOf (agreeingUpTo base.clauses base.highest) := by
  obtain ⟨oracle, lawful, answered⟩ := answers
  exact Answer.classes.inj (reply_classes lawful coherent answered)

end RuleBase.Answers

/-- What the one rule base knows, as far as its answers tell, the later one knows too. -/
structure RuleBase.Deepens (base later : RuleBase) : Prop where
  /-- The forced literals stay, in their order. -/
  forced : ∀ fewer more, base.Answers .backbone (.literals fewer) →
    later.Answers .backbone (.literals more) → fewer.Sublist more
  /-- What cannot be assumed can never be assumed again. -/
  impossible : ∀ literals possible, base.Answers (.satisfiable literals) (.flag false) →
    later.Answers (.satisfiable literals) (.flag possible) → possible = false
  /-- Extra clauses that leave no model never leave one again. -/
  excluded : ∀ extra possible, base.Answers (.alongside extra) (.flag false) →
    later.Answers (.alongside extra) (.flag possible) → possible = false
  /-- Where no model was found, none is found again. -/
  lacking : ∀ literals model, base.Answers (.model literals) (.model none) →
    later.Answers (.model literals) (.model model) → model = none
  /-- What is entailed stays entailed. -/
  entailed : ∀ premise conclusion holds, base.Answers (.entails premise conclusion) (.flag true) →
    later.Answers (.entails premise conclusion) (.flag holds) → holds = true
  /-- A hard entailment is lost only if its conclusion cannot be false any more. -/
  entailedHard : ∀ premise conclusion possible,
    base.Answers (.entailsHard premise conclusion) (.flag true) →
    later.Answers (.entailsHard premise conclusion) (.flag false) →
    later.Answers (.satisfiable [-conclusion]) (.flag possible) → possible = false
  /-- An agreeing pair stays one, or both variables are forced the same way. -/
  agreeing : ∀ pinned pairs others literals, base.Answers (.agreement pinned) (.pairs pairs) →
    later.Answers (.agreement pinned) (.pairs others) →
    later.Answers .backbone (.literals literals) →
    ∀ pair ∈ pairs, pair ∈ others ∨
      ∃ positive, ⟨pair.1, positive⟩ ∈ literals ∧ ⟨pair.2, positive⟩ ∈ literals
  /-- A class stays within one class, or all its members are forced the same way. -/
  classes : ∀ classes others literals, base.Answers .classes (.classes classes) →
    later.Answers .classes (.classes others) → later.Answers .backbone (.literals literals) →
    ∀ group ∈ classes, (∃ larger ∈ others, group ⊆ larger) ∨
      ∃ positive, ∀ var ∈ group, ⟨var, positive⟩ ∈ literals

/-- Where the later clauses refine the earlier ones, the later rule base knows what the
earlier one knew. -/
theorem RuleBase.deepens_of_refines {base later : RuleBase} (coherent : base.Coherent)
    (stillCoherent : later.Coherent) (refines : Refines base.clauses later.clauses)
    (grown : base.highest ≤ later.highest) : base.Deepens later where
  forced := by
    intro fewer more before after
    rw [before.backbone coherent, after.backbone stillCoherent]
    exact refines.forcedUpTo_sublist grown
  impossible := by
    intro literals possible before after
    refine Bool.eq_false_iff.mpr fun isTrue => Bool.false_ne_true ?_
    exact (before.satisfiable coherent).mpr
      (refines.satisfiable ((after.satisfiable stillCoherent).mp isTrue))
  excluded := by
    intro extra possible before after
    refine Bool.eq_false_iff.mpr fun isTrue => Bool.false_ne_true ?_
    exact (before.alongside coherent).mpr
      (refines.alongside ((after.alongside stillCoherent).mp isTrue))
  lacking := by
    intro literals model before after
    refine Option.not_isSome_iff_eq_none.mp fun isSome => Bool.false_ne_true ?_
    exact (before.model coherent).mpr
      (refines.satisfiable ((after.model stillCoherent).mp isSome))
  entailed := by
    intro premise conclusion holds before after
    exact (after.entails stillCoherent).mpr (refines.entails ((before.entails coherent).mp rfl))
  entailedHard := by
    intro premise conclusion possible before lost after
    have hard := (before.entailsHard coherent).mp rfl
    have notHard := (lost.entailsHard stillCoherent).not.mp Bool.false_ne_true
    refine Bool.eq_false_iff.mpr fun isTrue => ?_
    exact refines.entailsHard hard notHard ((after.satisfiable stillCoherent).mp isTrue)
  agreeing := by
    intro pinned pairs others literals before after forced pair listed
    rw [forced.backbone stillCoherent]
    cases pinned with
    | none =>
      rw [before.agreement_none coherent] at listed
      rw [after.agreement_none stillCoherent]
      exact refines.undetermined_pair grown listed
    | some pinned =>
      rw [before.agreement_some coherent] at listed
      rw [after.agreement_some stillCoherent]
      exact (refines.unpinned_pair grown listed).imp_right fun bothTrue => ⟨true, bothTrue⟩
  classes := by
    intro classes others literals before after forced group listed
    rw [before.classes coherent] at listed
    rw [after.classes stillCoherent, forced.backbone stillCoherent]
    exact refines.whole_class grown listed

/-- Knowledge along every run that starts where any run led to, leaves the rule base open
and carries its additions out: the later rule base knows what the earlier one knew. Before
and after, every query is answered unless limits keep a decision from being made. -/
theorem knowledge_deepens {base later : RuleBase} {history : List Exchange}
    (reachable : Reachable base) (run : Run base history later) (isOpen : later.isOpen = true)
    (carriedOut : ∀ exchange ∈ history, exchange.call.added? ≠ none →
      ∃ answer, exchange.outcome.1 = .ok answer) :
    base.Deepens later ∧ ∀ oracle : Oracle, oracle.Lawful → ∀ query,
      ((∃ answer, base.reply oracle query = .ok answer) ∨ base.limits ≠ Limits.none ∧
        ∃ fault, base.reply oracle query = .error fault ∧ base.Declines fault) ∧
      ((∃ answer, later.reply oracle query = .ok answer) ∨ later.limits ≠ Limits.none ∧
        ∃ fault, later.reply oracle query = .error fault ∧ later.Declines fault) := by
  have coherent : base.Coherent := reachable.coherent
  have stillCoherent : later.Coherent := run.coherent coherent
  have wasOpen : base.isOpen = true := (run.grown coherent).isOpen isOpen
  obtain ⟨refines, grown⟩ := run.refines coherent carriedOut
  refine ⟨deepens_of_refines coherent stillCoherent refines grown, ?_⟩
  intro oracle lawful query
  exact ⟨reply_or_declined lawful coherent wasOpen query,
    reply_or_declined lawful stillCoherent isOpen query⟩

/-- The closed chain with variable 2 stated as a fact. -/
def RuleBase.pinnedDown : RuleBase := (serve .search mirrored [.tellFact (.whole 2)]).2

/-- The class of the chain is gone once its middle is a fact, and all of it is forced true. -/
theorem pinnedDown_forces_class :
    Reachable mirrored ∧ pinnedDown.isOpen = true ∧ pinnedDown.Answers .classes (.classes []) ∧
      ∃ positive, ∀ var ∈ ([⟨1, by decide⟩, ⟨2, by decide⟩, ⟨4, by decide⟩] : List Variable),
        (⟨var, positive⟩ : Literal) ∈ ([⟨⟨1, by decide⟩, true⟩, ⟨⟨2, by decide⟩, true⟩,
          ⟨⟨3, by decide⟩, false⟩, ⟨⟨4, by decide⟩, true⟩, ⟨⟨5, by decide⟩, false⟩] :
          List Literal) := by
  have isOpen : pinnedDown.isOpen = true := by cbv
  have classes : mirrored.Answers .classes
      (.classes [[⟨1, by decide⟩, ⟨2, by decide⟩, ⟨4, by decide⟩]]) :=
    ⟨.search, Oracle.search_lawful, by cbv⟩
  have noClasses : pinnedDown.Answers .classes (.classes []) :=
    ⟨.search, Oracle.search_lawful, by cbv⟩
  have forced : pinnedDown.Answers .backbone (.literals [⟨⟨1, by decide⟩, true⟩,
      ⟨⟨2, by decide⟩, true⟩, ⟨⟨3, by decide⟩, false⟩, ⟨⟨4, by decide⟩, true⟩,
      ⟨⟨5, by decide⟩, false⟩]) :=
    ⟨.search, Oracle.search_lawful, by cbv⟩
  have carriedOut : (Call.perform .search mirrored (.tellFact (.whole 2))).1 = .ok .nothing := by
    cbv
  have run : Run mirrored [⟨.search, mirrored, .tellFact (.whole 2)⟩] pinnedDown :=
    .called .begun .search Oracle.search_lawful _
  obtain ⟨deepens, _⟩ := knowledge_deepens mirrored_reachable run isOpen
    (List.forall_mem_singleton.mpr fun _ => ⟨_, carriedOut⟩)
  refine ⟨mirrored_reachable, isOpen, noClasses, ?_⟩
  rcases deepens.classes _ _ _ classes noClasses forced _ List.mem_cons_self with
    ⟨_, listed, _⟩ | together
  · cases listed
  · exact together

end Clausal
