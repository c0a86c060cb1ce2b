import Clausal.Proofs.AgreementScan
import Clausal.Proofs.SurveyCost

/-!
# What the backbone lists

The backbone lists a variable as true if every model has it true, and as false if there is a
model and every model has it false. The condition that there is a model makes a difference
only to the false ones: without a model every variable is listed, and as true, since already
the question whether it can be false is answered no.

Where there is a model, a variable that no clause has can be changed in it at will. So the
backbone leaves gaps between the variables of the clauses as they are.
-/

namespace Clausal

variable {clauses : List Clause} {highest : Nat} {var : Variable}

/-- Some clause has a literal over the variable. -/
def Mentioned (clauses : List Clause) (var : Variable) : Prop :=
  ∃ clause ∈ clauses, ∃ literal ∈ clause.literals, literal.var = var

/-- A model stays one if a variable is changed that no clause has. -/
theorem Models.update {assignment : Assignment} (models : Models assignment clauses)
    (absent : ¬Mentioned clauses var) (value : Bool) :
    Models (Function.update assignment var value) clauses := by
  intro clause member
  obtain ⟨literal, inside, isTrue⟩ := models clause member
  have different : literal.var ≠ var := fun same =>
    absent ⟨clause, member, literal, inside, same⟩
  refine ⟨literal, inside, ?_⟩
  rw [Literal.Holds, Function.update_of_ne different]
  exact isTrue

/-- A variable that no clause has is undetermined if there is a model. -/
theorem undetermined_of_absent (satisfiable : Satisfiable clauses [])
    (absent : ¬Mentioned clauses var) : Undetermined clauses var := by
  intro value
  obtain ⟨assignment, models⟩ := satisfiable_nil_iff.mp satisfiable
  exact ⟨Function.update assignment var value, models.update absent value,
    Function.update_self var value assignment⟩

/-- A variable cannot be assumed to have a value exactly if every model has the other. -/
theorem not_satisfiable_value_iff (clauses : List Clause) (var : Variable) (value : Bool) :
    ¬Satisfiable clauses [⟨var, !value⟩] ↔
      ∀ assignment, Models assignment clauses → assignment var = value := by
  rw [satisfiable_singleton_iff]
  simp [Literal.Holds]

/-- A variable is forced true exactly if it is true in every model, also where there is none. -/
theorem forcedUnder_eq_true_iff : forcedUnder clauses var = some ⟨var, true⟩ ↔
    ∀ assignment, Models assignment clauses → assignment var = true := by
  have never : ¬Satisfiable clauses [⟨var, false⟩] ↔
      ∀ assignment, Models assignment clauses → assignment var = true :=
    not_satisfiable_value_iff clauses var true
  rw [← never, forcedUnder]
  by_cases canBeFalse : Satisfiable clauses [⟨var, false⟩]
  · by_cases canBeTrue : Satisfiable clauses [⟨var, true⟩] <;> simp [canBeFalse, canBeTrue]
  · simp [canBeFalse]

/-- A variable is forced to be false only where there is a model. -/
theorem forcedUnder_eq_false_iff :
    forcedUnder clauses var = some ⟨var, false⟩ ↔ ForcedFalse clauses var := by
  have never : ¬Satisfiable clauses [⟨var, true⟩] ↔
      ∀ assignment, Models assignment clauses → assignment var = false :=
    not_satisfiable_value_iff clauses var false
  rw [ForcedFalse, ← never, ← satisfiable_nil_iff]
  constructor
  · intro forced
    have cannotBeTrue : ¬Satisfiable clauses [⟨var, true⟩] :=
      not_satisfiable_of_forcedUnder forced
    refine ⟨?_, cannotBeTrue⟩
    by_contra hopeless
    -- Whether it can be false is asked first, and without a model that settles it.
    have forcedTrue : forcedUnder clauses var = some ⟨var, true⟩ :=
      if_pos fun canBeFalse => hopeless canBeFalse.nil
    simp [forced] at forcedTrue
  · rintro ⟨satisfiable, cannotBeTrue⟩
    have forced : forcedUnder clauses (⟨var, false⟩ : Literal).var = some ⟨var, false⟩ :=
      forcedUnder_of_not_satisfiable satisfiable cannotBeTrue
    exact forced

/-- The backbone ascends by variable, so it has at most one literal of each. -/
theorem forcedUpTo_ascending (clauses : List Clause) (highest : Nat) :
    (forcedUpTo clauses highest).Pairwise fun earlier later => earlier.var < later.var := by
  rw [← List.pairwise_map, var_forcedUpTo]
  exact (Variable.upTo_ascending highest).filter _

/-- Without a model every variable is listed as true. -/
theorem forcedUpTo_of_hopeless (hopeless : ¬Satisfiable clauses []) :
    forcedUpTo clauses highest = (Variable.upTo highest).map fun var => ⟨var, true⟩ := by
  rw [forcedUpTo, ← List.filterMap_eq_map]
  congr 1
  funext var
  exact if_pos fun canBeFalse => hopeless canBeFalse.nil

open RuleBase

/-- The backbone of an open rule base that any run led to, if its decisions are made, is
answered, and the answer ascends by variable. A variable up to the highest is listed as true
exactly if every model has it true, and as false exactly if there is a model and every model
has it false. So without any model all variables are listed as true, and where there is a
model no variable is listed that no clause has. -/
theorem backbone_exact {base : RuleBase} (reachable : Reachable base)
    (isOpen : base.isOpen = true) {oracle : Oracle} (lawful : oracle.Lawful)
    (answered : (Exchange.mk oracle base .backbone).Answered) :
    ∃ forced : List Literal, (Call.backbone.perform oracle base).1 = .ok (.literals forced) ∧
      forced.Pairwise (fun earlier later => earlier.var < later.var) ∧
      (∀ var, ⟨var, true⟩ ∈ forced ↔ var.number ≤ base.highest ∧
        ∀ assignment, Models assignment base.clauses → assignment var = true) ∧
      (∀ var, ⟨var, false⟩ ∈ forced ↔ var.number ≤ base.highest ∧
        (∃ assignment, Models assignment base.clauses) ∧
          ∀ assignment, Models assignment base.clauses → assignment var = false) ∧
      (¬Satisfiable base.clauses [] →
        forced = (Variable.upTo base.highest).map fun var => ⟨var, true⟩) ∧
      (Satisfiable base.clauses [] → ∀ var, ¬Mentioned base.clauses var →
        ∀ literal ∈ forced, literal.var ≠ var) := by
  have coherent : base.Coherent := reachable.coherent
  obtain ⟨answer, answers⟩ := answered.reply rfl lawful coherent isOpen
  obtain rfl := reply_backbone lawful coherent answers
  refine ⟨forcedUpTo base.clauses base.highest, answers, forcedUpTo_ascending _ _, ?_, ?_,
    forcedUpTo_of_hopeless, ?_⟩
  · intro var
    exact mem_forcedUpTo.trans (and_congr_right fun _ => forcedUnder_eq_true_iff)
  · intro var
    exact mem_forcedUpTo.trans (and_congr_right fun _ => forcedUnder_eq_false_iff)
  · rintro satisfiable var absent literal listed rfl
    have forced := (mem_forcedUpTo.mp listed).2
    rw [forcedUnder_eq_none_iff.mpr (undetermined_of_absent satisfiable absent)] at forced
    cases forced

/-- The first variable is a fact and entails the fourth, the third is false, and no clause has
the second. -/
def RuleBase.settled : List Exchange × RuleBase :=
  serve .search (blank (.whole 1000))
    [.tellFact (.whole 1), .either (-1) 4, .tellFact (.whole (-3))]

/-- The backbone skips the variable that no clause has. Of the four clauses over two variables,
which have no model and of which the last was never checked, it lists both variables. -/
theorem settled_backbone_skips_gap :
    Reachable settled.2 ∧ settled.2.isOpen = true ∧ Oracle.search.Lawful ∧
      (Exchange.mk .search settled.2 .backbone).Answered ∧
      (∃ forced : List Literal, (Call.backbone.perform .search settled.2).1 =
          .ok (.literals forced) ∧ forced.map Literal.code = [1, -3, 4] ∧
        (∀ assignment, Models assignment settled.2.clauses → assignment ⟨4, by decide⟩ = true) ∧
        ForcedFalse settled.2.clauses ⟨3, by decide⟩ ∧
        ∀ literal ∈ forced, literal.var ≠ ⟨2, by decide⟩) ∧
      ¬Satisfiable (cornered (.whole 1000)).2.clauses [] ∧
      (Call.backbone.perform .search (cornered (.whole 1000)).2).1 =
        .ok (.literals [⟨⟨1, by decide⟩, true⟩, ⟨⟨2, by decide⟩, true⟩]) := by
  have reachable : Reachable settled.2 :=
    ⟨_, _, blank_built (.whole 1000), run_serve Oracle.search_lawful _⟩
  have isOpen : settled.2.isOpen = true := by cbv
  have reported : (Exchange.mk .search settled.2 .backbone).outcome.1 = .ok (.literals
      [⟨⟨1, by decide⟩, true⟩, ⟨⟨3, by decide⟩, false⟩, ⟨⟨4, by decide⟩, true⟩]) := by cbv
  have answered := Exchange.answered_of_ok reported
  obtain ⟨forced, listed, _, isTrue, isFalse, _, gaps⟩ :=
    backbone_exact reachable isOpen Oracle.search_lawful answered
  obtain rfl := Answer.literals.inj (Except.ok.inj (listed.symm.trans reported))
  have thirdFalse : ForcedFalse settled.2.clauses ⟨3, by decide⟩ := ((isFalse _).mp (by simp)).2
  have satisfiable : Satisfiable settled.2.clauses [] := satisfiable_nil_iff.mpr thirdFalse.1
  have unmentioned : ¬Mentioned settled.2.clauses ⟨2, by decide⟩ := by
    have clauses : settled.2.clauses = [Clause.unit ⟨⟨1, by decide⟩, true⟩,
      ⟨[⟨⟨1, by decide⟩, false⟩, ⟨⟨4, by decide⟩, true⟩], by simp⟩,
      Clause.unit ⟨⟨3, by decide⟩, false⟩] := by cbv
    simp [clauses, Mentioned, Clause.unit]
  have hopeless : ¬Satisfiable (cornered (.whole 1000)).2.clauses [] :=
    hopeless_of_search (by cbv)
  have cornering : Reachable (cornered (.whole 1000)).2 :=
    ⟨_, _, blank_built (.whole 1000), run_serve (Oracle.search_lawful.exhaustedFrom 3) corners⟩
  have listsBoth : (Exchange.mk .search (cornered (.whole 1000)).2 .backbone).outcome.1 =
      .ok (.literals [⟨⟨1, by decide⟩, true⟩, ⟨⟨2, by decide⟩, true⟩]) := by cbv
  obtain ⟨both, alsoListed, _, _, _, all, _⟩ := backbone_exact cornering (by cbv)
    Oracle.search_lawful (Exchange.answered_of_ok listsBoth)
  have highest : (cornered (.whole 1000)).2.highest = 2 := by cbv
  rw [all hopeless, highest] at alsoListed
  exact ⟨reachable, isOpen, Oracle.search_lawful, answered,
    ⟨_, listed, by decide, ((isTrue _).mp (by simp)).2, thirdFalse, gaps satisfiable _ unmentioned⟩,
    hopeless, alsoListed⟩

end Clausal
