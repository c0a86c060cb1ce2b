import Clausal.Proofs.Verdicts
import Mathlib.Algebra.BigOperators.Group.Finset.Basic
import Mathlib.Algebra.Group.Action.Defs
import Mathlib.Algebra.Order.BigOperators.Group.List
import Mathlib.Data.Finset.Prod
import Mathlib.Tactic.Ring

/-!
# What a survey costs

A survey reports what the finders report on their own, and it splits the variables into forced
and free ones. Its price can be told exactly. Every variable takes two questions, but one that
no model has false takes one. A pair of free variables takes one question, two more if the
first entails the second, and another one if they entail each other: the second question of
a hard entailment is never in vain, since a free variable is false in some model.

So a survey of free variables that are all alike is the dearest, with four questions a pair.
-/

namespace Clausal

open Classical

variable {clauses : List Clause} {highest : Nat}

/-- Between free variables every entailment is a hard one. -/
theorem Undetermined.entailsHard_iff {premise : Literal} {var : Variable}
    (free : Undetermined clauses var) :
    EntailsHard clauses premise ⟨var, true⟩ ↔ Entails clauses premise ⟨var, true⟩ :=
  and_iff_left (undetermined_iff.mp free).1

/-- The questions that a pair of free variables takes. -/
noncomputable def freePairPrice (clauses : List Clause) (first second : Variable) : Nat :=
  1 + 2 * (if Entails clauses ⟨first, true⟩ ⟨second, true⟩ then 1 else 0) +
    if Entails clauses ⟨first, true⟩ ⟨second, true⟩ ∧
      Entails clauses ⟨second, true⟩ ⟨first, true⟩ then 1 else 0

/-- The way back is asked exactly if the first free variable entails the second. -/
theorem pairPrice_of_undetermined {first second : Variable}
    (free : Undetermined clauses second) :
    pairPrice clauses first second = freePairPrice clauses first second := by
  rw [pairPrice, free.entailsHard_iff, hardPrice, hardPrice, freePairPrice]
  by_cases there : Entails clauses ⟨first, true⟩ ⟨second, true⟩ <;>
    by_cases back : Entails clauses ⟨second, true⟩ ⟨first, true⟩ <;> simp [there, back]

/-- A pair of undetermined variables costs four decisions at most, two for each direction. -/
theorem freePairPrice_le (clauses : List Clause) (first second : Variable) :
    freePairPrice clauses first second ≤ 4 := by
  unfold freePairPrice
  split <;> split <;> omega

/-- No model has the variable false. -/
def NeverFalse (clauses : List Clause) (var : Variable) : Prop :=
  ¬∃ assignment, Models assignment clauses ∧ assignment var = false

/-- Of two questions about each variable, one is saved where no model has it false. The second
question is asked only if the first is answered yes. -/
theorem sum_add_neverFalse (clauses : List Clause) (vars : List Variable) :
    (vars.map fun var => if Satisfiable clauses [⟨var, false⟩] then 2 else 1).sum +
        vars.countP (fun var => decide (NeverFalse clauses var)) = 2 * vars.length := by
  induction vars with
  | nil => rfl
  | cons var rest inductionHypothesis =>
    have possible : Satisfiable clauses [⟨var, false⟩] ↔
        ∃ assignment, Models assignment clauses ∧ assignment var = false :=
      satisfiable_singleton_iff
    have saved : NeverFalse clauses var ↔ ¬Satisfiable clauses [⟨var, false⟩] :=
      not_congr possible.symm
    rw [List.map_cons, List.sum_cons, List.countP_cons, List.length_cons, saved]
    by_cases canBeFalse : Satisfiable clauses [⟨var, false⟩]
    · simp only [canBeFalse, if_true, not_true, decide_false, Bool.false_eq_true, if_false]
      omega
    · simp only [canBeFalse, if_false, not_false_iff, decide_true, if_true]
      omega

/-- The number of pairs, counted twice to have no halves. -/
theorem two_mul_length_pairsOf {α : Type} (items : List α) :
    2 * (pairsOf items).length = items.length * (items.length - 1) := by
  induction items with
  | nil => rfl
  | cons first rest inductionHypothesis =>
    rw [pairsOf, List.length_append, List.length_map, Nat.mul_add, inductionHypothesis,
      List.length_cons, Nat.add_sub_cancel]
    cases rest.length with
    | zero => rfl
    | succ earlier =>
      rw [Nat.add_sub_cancel]
      ring

/-- No pair of an ascending list comes twice, because the pairs ascend strictly. -/
theorem nodup_pairsOf {items : List Variable} (ascending : items.Pairwise (· < ·)) :
    (pairsOf items).Nodup := by
  refine (pairsOf_ascending ascending).imp fun {pair other} before => ?_
  rintro rfl
  rcases before_iff.mp before with less | ⟨_, less⟩
  · exact lt_irrefl _ less
  · exact lt_irrefl _ less

/-- The pairs of ascending variables are those with the smaller variable first. -/
theorem toFinset_pairsOf {items : List Variable} (ascending : items.Pairwise (· < ·)) :
    (pairsOf items).toFinset =
      (items.toFinset ×ˢ items.toFinset).filter fun pair => pair.1 < pair.2 := by
  ext ⟨first, second⟩
  simp [mem_pairsOf ascending, and_assoc]

/-- What a survey costs, from the models alone. Its pairs are of undetermined variables, for
which the price of a pair is the simpler one. -/
theorem surveyPrice_add (clauses : List Clause) (highest : Nat) :
    surveyPrice clauses highest +
        (Variable.upTo highest).countP (fun var => decide (NeverFalse clauses var)) =
      2 * highest + ((pairsOf (undeterminedUpTo clauses highest)).map fun pair =>
        freePairPrice clauses pair.1 pair.2).sum := by
  have pairs : (pairsOf (undeterminedUpTo clauses highest)).map
      (fun pair => pairPrice clauses pair.1 pair.2) =
        (pairsOf (undeterminedUpTo clauses highest)).map
          (fun pair => freePairPrice clauses pair.1 pair.2) := by
    apply List.map_congr_left
    rintro ⟨first, second⟩ member
    have free := ((mem_pairsOf (undeterminedUpTo_ascending highest)).mp member).2.1
    exact pairPrice_of_undetermined (mem_undeterminedUpTo.mp free).2
  have vars := sum_add_neverFalse clauses (Variable.upTo highest)
  rw [Variable.length_upTo] at vars
  rw [surveyPrice, pairs]
  omega

/-- A survey takes at most two questions for each variable and four for each pair. There
are no more pairs than there would be if no variable were forced. -/
theorem surveyPrice_le (clauses : List Clause) (highest : Nat) :
    surveyPrice clauses highest ≤ 2 * highest + 2 * highest * (highest - 1) := by
  have exact := surveyPrice_add clauses highest
  have each (price : Nat) (member : price ∈ (pairsOf (undeterminedUpTo clauses highest)).map
      fun pair => freePairPrice clauses pair.1 pair.2) : price ≤ 4 := by
    obtain ⟨pair, _, rfl⟩ := List.mem_map.mp member
    exact freePairPrice_le clauses pair.1 pair.2
  have prices := List.sum_le_card_nsmul _ 4 each
  have pairs := two_mul_length_pairsOf (undeterminedUpTo clauses highest)
  have fewer : (undeterminedUpTo clauses highest).length ≤ highest :=
    (List.length_filter_le _ _).trans (Variable.length_upTo highest).le
  have most := Nat.mul_le_mul fewer (Nat.sub_le_sub_right fewer 1)
  rw [List.length_map, smul_eq_mul] at prices
  rw [Nat.mul_assoc]
  omega

/-- The forced variables are those that are not undetermined, in their order. So the two fields
of a survey part the variables among them. -/
theorem var_forcedUpTo (clauses : List Clause) (highest : Nat) :
    (forcedUpTo clauses highest).map Literal.var =
      (Variable.upTo highest).filter fun var => !decide (Undetermined clauses var) := by
  rw [forcedUpTo, List.map_filterMap, ← List.filterMap_eq_filter]
  congr 1
  funext var
  cases forced : forcedUnder clauses var with
  | none =>
    have free := forcedUnder_eq_none_iff.mp forced
    simp [Option.guard, free]
  | some literal =>
    have pinned : ¬Undetermined clauses var := by
      rw [← forcedUnder_eq_none_iff, forced]
      exact Option.some_ne_none literal
    simp [Option.guard, pinned, var_of_forcedUnder forced]

/-- Every variable is forced or free, and none is both. -/
theorem forced_free_perm (clauses : List Clause) (highest : Nat) :
    ((forcedUpTo clauses highest).map Literal.var ++ undeterminedUpTo clauses highest).Perm
      (Variable.upTo highest) := by
  rw [var_forcedUpTo, undeterminedUpTo]
  exact List.perm_append_comm.trans (List.filter_append_perm _ _)

open RuleBase

/-- A survey of an open rule base that any run led to, if its decisions are made, is answered.
What it reports as forced, agreeing and alike is what the finders report on their own, before
it or after it. The forced variables and the free ones are all variables, each once, and the
free ones are those with a model on both sides. The number of decisions that it reports is
that by which the count grows, and it can be told from the models. -/
theorem survey_price_exact {base : RuleBase} (reachable : Reachable base)
    (isOpen : base.isOpen = true) {oracle : Oracle} (lawful : oracle.Lawful)
    (answered : (Exchange.mk oracle base .survey).Answered) :
    ∃ found : Survey, (Call.survey.perform oracle base).1 = .ok (.survey found) ∧
      found.highest = base.highest ∧
      (∀ other seen, Oracle.Lawful other →
        (seen = base ∨ seen = (Call.survey.perform oracle base).2) →
        ((Exchange.mk other seen .backbone).Answered →
          (Call.backbone.perform other seen).1 = .ok (.literals found.forced)) ∧
        ((Exchange.mk other seen (.agreement .null)).Answered →
          ((Call.agreement .null).perform other seen).1 = .ok (.pairs found.agreeing)) ∧
        ((Exchange.mk other seen .classes).Answered →
          (Call.classes.perform other seen).1 = .ok (.classes found.classes))) ∧
      (found.forced.map Literal.var ++ found.free).Perm (Variable.upTo base.highest) ∧
      (∀ var, var ∈ found.free ↔ var.number ≤ base.highest ∧ Undetermined base.clauses var) ∧
      (Call.survey.perform oracle base).2.decisions = base.decisions + found.decisions ∧
      found.decisions + (Variable.upTo base.highest).countP
          (fun var => decide (NeverFalse base.clauses var)) =
        2 * base.highest + ∑ pair ∈ found.free.toFinset ×ˢ found.free.toFinset
          with pair.1 < pair.2,
            (1 + 2 * (if Entails base.clauses ⟨pair.1, true⟩ ⟨pair.2, true⟩ then 1 else 0) +
              if Entails base.clauses ⟨pair.1, true⟩ ⟨pair.2, true⟩ ∧
                Entails base.clauses ⟨pair.2, true⟩ ⟨pair.1, true⟩ then 1 else 0) ∧
      found.decisions ≤ 2 * base.highest + 2 * base.highest * (base.highest - 1) := by
  have coherent := reachable.coherent
  have conducted := Query.conducted_perform lawful coherent .survey
  obtain ⟨answer, answers⟩ := answered.reply rfl lawful coherent isOpen
  obtain rfl := reply_survey lawful coherent answers
  obtain ⟨cost, yields, counted⟩ := conducted.answered _ answers
  obtain ⟨found, surveyed, same⟩ := Inquiry.yields_wrap.mp yields
  obtain ⟨rfl, rfl⟩ := yields_survey surveyed
  refine ⟨surveyOf base.clauses base.highest, answers, rfl, ?_, ?_, ?_, counted, ?_,
    surveyPrice_le base.clauses base.highest⟩
  · intro other seen otherLawful place
    have settled : seen.Coherent ∧ Unaltered base seen := by
      rcases place with rfl | rfl
      · exact ⟨coherent, .refl seen⟩
      · exact ⟨conducted.coherent, conducted.unaltered⟩
    obtain ⟨seenCoherent, unaltered⟩ := settled
    have seenOpen := unaltered.isOpen.trans isOpen
    rw [surveyOf, agreeingUpTo, ← unaltered.clauses, ← unaltered.highest]
    refine ⟨fun made => ?_, fun made => ?_, fun made => ?_⟩
    · obtain ⟨answer, answers⟩ := made.reply rfl otherLawful seenCoherent seenOpen
      obtain rfl := reply_backbone otherLawful seenCoherent answers
      exact answers
    · obtain ⟨answer, answers⟩ := made.reply rfl otherLawful seenCoherent seenOpen
      obtain rfl := reply_agreement_none otherLawful seenCoherent answers
      exact answers
    · obtain ⟨answer, answers⟩ := made.reply rfl otherLawful seenCoherent seenOpen
      obtain rfl := reply_classes otherLawful seenCoherent answers
      exact answers
  · rw [free_surveyOf]
    exact forced_free_perm base.clauses base.highest
  · intro var
    rw [free_surveyOf, mem_undeterminedUpTo]
  · have ascending : (undeterminedUpTo base.clauses base.highest).Pairwise (· < ·) :=
      undeterminedUpTo_ascending base.highest
    rw [free_surveyOf, ← toFinset_pairsOf ascending, List.sum_toFinset _ (nodup_pairsOf ascending)]
    exact surveyPrice_add base.clauses base.highest

/-- The first variable entails the second, and the third is a fact. -/
def RuleBase.graded : List Exchange × RuleBase :=
  serve .search (blank (.whole 1000)) [.either (-1) 2, .tellFact (.whole 3)]

/-- The survey takes eight decisions: two for each of the three variables, of which the fact
saves one, and three for the only pair. The finders report the same after it, and a survey of
three variables never takes more than eighteen. -/
theorem graded_survey_takes_eight :
    Reachable graded.2 ∧ graded.2.isOpen = true ∧ Oracle.search.Lawful ∧
      (Exchange.mk .search graded.2 .survey).Answered ∧ graded.2.highest = 3 ∧
      ∃ found : Survey, (Call.survey.perform .search graded.2).1 = .ok (.survey found) ∧
        found.decisions = 8 ∧ found.free = [⟨1, by decide⟩, ⟨2, by decide⟩] ∧
        (Call.survey.perform .search graded.2).2.decisions = graded.2.decisions + 8 ∧
        (Call.backbone.perform .search (Call.survey.perform .search graded.2).2).1 =
          .ok (.literals found.forced) ∧
        Undetermined graded.2.clauses ⟨1, by decide⟩ ∧
        ¬Undetermined graded.2.clauses ⟨3, by decide⟩ ∧ found.decisions ≤ 18 := by
  have reachable : Reachable graded.2 := ⟨_, _, blank_built (.whole 1000),
    run_serve Oracle.search_lawful [.either (-1) 2, .tellFact (.whole 3)]⟩
  have isOpen : graded.2.isOpen = true := by cbv
  have highest : graded.2.highest = 3 := by cbv
  have reported : (Exchange.mk .search graded.2 .survey).outcome.1 =
      .ok (.survey ⟨3, [⟨⟨3, by decide⟩, true⟩], [], [], 8⟩) := by cbv
  have answered := Exchange.answered_of_ok reported
  have afterwards : (Exchange.mk .search (Call.survey.perform .search graded.2).2
      .backbone).outcome.1 = .ok (.literals [⟨⟨3, by decide⟩, true⟩]) := by cbv
  have alsoAnswered := Exchange.answered_of_ok afterwards
  obtain ⟨found, found?, _, finders, _, free, grown, _, most⟩ :=
    survey_price_exact reachable isOpen Oracle.search_lawful answered
  have same : found = ⟨3, [⟨⟨3, by decide⟩, true⟩], [], [], 8⟩ :=
    Answer.survey.inj (Except.ok.inj (found?.symm.trans reported))
  subst same
  have listed : (Survey.mk 3 [⟨⟨3, by decide⟩, true⟩] [] [] 8).free =
      [⟨1, by decide⟩, ⟨2, by decide⟩] := by cbv
  rw [highest] at free most
  rw [listed] at free
  have backbone := (finders .search _ Oracle.search_lawful (Or.inr rfl)).1 alsoAnswered
  refine ⟨reachable, isOpen, Oracle.search_lawful, answered, highest, _, reported, rfl, listed,
    grown, backbone, ?_, ?_, most⟩
  · exact ((free _).mp List.mem_cons_self).2
  · intro undetermined
    have member := (free _).mpr ⟨le_rfl, undetermined⟩
    simp at member

end Clausal
