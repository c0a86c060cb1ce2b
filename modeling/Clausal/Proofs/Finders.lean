import Clausal.Survey
import Clausal.Proofs.Pairs
import Clausal.Proofs.Truthful

/-!
# What the finders find

Each finder's result is given from the models of the clauses alone, with the number of
questions that it takes. The results never depend on which models the answers bring
along. What a scan asks about one variable or one pair does not depend on the others.
-/

namespace Clausal

open Classical Inquiry

variable {clauses : List Clause} {cost : Nat}

/-- Every model with the premise true has the conclusion true. -/
def Entails (clauses : List Clause) (premise conclusion : Literal) : Prop :=
  ∀ assignment, Models assignment clauses →
    premise.Holds assignment → conclusion.Holds assignment

/-- The premise entails the conclusion, and some model has the conclusion false. -/
def EntailsHard (clauses : List Clause) (premise conclusion : Literal) : Prop :=
  Entails clauses premise conclusion ∧ Satisfiable clauses [-conclusion]

/-- Entailment fails exactly if the premise can be assumed with the conclusion denied. This is
the one question that it is decided by. -/
theorem entails_iff {premise conclusion : Literal} :
    Entails clauses premise conclusion ↔ ¬Satisfiable clauses [premise, -conclusion] := by
  constructor
  · rintro entails ⟨assignment, models, hold⟩
    have premiseTrue : premise.Holds assignment := hold premise (by simp)
    have conclusionFalse : (-conclusion).Holds assignment := hold (-conclusion) (by simp)
    exact Literal.holds_neg.mp conclusionFalse (entails assignment models premiseTrue)
  · intro impossible assignment models premiseTrue
    by_contra conclusionFalse
    apply impossible
    refine ⟨assignment, models, ?_⟩
    simp [premiseTrue, Literal.holds_neg.mpr conclusionFalse]

/-- Entailment takes one question. -/
theorem yields_entails {premise conclusion : Literal} {answer : Bool}
    (yields : (entails premise conclusion).Yields clauses cost answer) :
    answer = decide (Entails clauses premise conclusion) ∧ cost = 1 := by
  unfold entails at yields
  obtain ⟨possible, first, second, asked, rest, rfl⟩ := yields_bind.mp yields
  obtain ⟨rfl, rfl⟩ := yields_satisfiableWith asked
  simp only [yields_recorded, yields_pure] at rest
  simp [rest, entails_iff]

/-- The questions that one hard entailment takes. The second one is asked where the premise
does entail the conclusion. -/
noncomputable def hardPrice (clauses : List Clause) (premise conclusion : Literal) : Nat :=
  if Entails clauses premise conclusion then 2 else 1

/-- Hard entailment is decided from the models, at its price: one question if the premise does
not entail the conclusion, and a second one if it does. -/
theorem yields_entailsHard {premise conclusion : Literal} {answer : Bool}
    (yields : (entailsHard premise conclusion).Yields clauses cost answer) :
    answer = decide (EntailsHard clauses premise conclusion) ∧
      cost = hardPrice clauses premise conclusion := by
  unfold entailsHard at yields
  obtain ⟨entailed, first, second, asked, rest, rfl⟩ := yields_bind.mp yields
  obtain ⟨rfl, rfl⟩ := yields_entails asked
  by_cases holds : Entails clauses premise conclusion
  · simp only [holds, decide_true, if_true] at rest
    obtain ⟨possible, third, fourth, asked, ended, rfl⟩ := yields_bind.mp rest
    obtain ⟨rfl, rfl⟩ := yields_satisfiableWith asked
    simp only [yields_recorded, yields_pure] at ended
    simp [ended, EntailsHard, hardPrice, holds]
  · simp only [holds, decide_false, Bool.false_eq_true, if_false, pure_bind, yields_recorded,
      yields_pure] at rest
    simp [rest, EntailsHard, hardPrice, holds]

/-- The literal that the variable is forced to. Without a model that is the positive one. -/
noncomputable def forcedUnder (clauses : List Clause) (var : Variable) : Option Literal :=
  if ¬Satisfiable clauses [⟨var, false⟩] then some ⟨var, true⟩
  else if ¬Satisfiable clauses [⟨var, true⟩] then some ⟨var, false⟩
  else none

/-- What a variable is forced to is found from the models. Where the first question is answered
yes, a second one is asked. -/
theorem yields_forcedLiteral {var : Variable} {found : Option Literal}
    (yields : (forcedLiteral var).Yields clauses cost found) :
    found = forcedUnder clauses var ∧
      cost = if Satisfiable clauses [⟨var, false⟩] then 2 else 1 := by
  unfold forcedLiteral at yields
  obtain ⟨canBeFalse, first, second, asked, rest, rfl⟩ := yields_bind.mp yields
  obtain ⟨rfl, rfl⟩ := yields_satisfiableWith asked
  by_cases false? : Satisfiable clauses [⟨var, false⟩]
  · simp only [false?, decide_true, Bool.not_true, Bool.false_eq_true, if_false] at rest
    obtain ⟨canBeTrue, third, fourth, asked, ended, rfl⟩ := yields_bind.mp rest
    obtain ⟨rfl, rfl⟩ := yields_satisfiableWith asked
    by_cases true? : Satisfiable clauses [⟨var, true⟩] <;> simp [true?] at ended <;>
      simp [ended, forcedUnder, false?, true?]
  · simp only [false?, decide_false, Bool.not_false, if_true, yields_pure] at rest
    simp [rest, forcedUnder, false?]

/-- The backbone is found variable by variable, and each variable has its own price. Recording
what was found costs nothing. -/
theorem yields_backbone {highest : Nat} {found : List Literal}
    (yields : (backbone highest).Yields clauses cost found) :
    found = (Variable.upTo highest).filterMap (forcedUnder clauses) ∧
      cost = ((Variable.upTo highest).map fun var =>
        if Satisfiable clauses [⟨var, false⟩] then 2 else 1).sum := by
  unfold backbone at yields
  obtain ⟨forced, first, second, scanned, rest, rfl⟩ := yields_bind.mp yields
  simp only [yields_recorded, yields_pure] at rest
  obtain ⟨rfl, rfl⟩ := rest
  apply yields_filterMapM _ scanned
  intro var _ cost result yields
  obtain ⟨found, first, second, asked, rest, rfl⟩ := yields_bind.mp yields
  obtain ⟨rfl, rfl⟩ := yields_forcedLiteral asked
  have recorded : second = 0 ∧ result = forcedUnder clauses var := by
    cases forced : forcedUnder clauses var with
    | none => simpa only [forced, yields_pure] using rest
    | some literal => simpa only [forced, yields_recorded, yields_pure] using rest
  simp [recorded]

/-- For each value, some model gives it to the variable. -/
def Undetermined (clauses : List Clause) (var : Variable) : Prop :=
  ∀ value, ∃ assignment, Models assignment clauses ∧ assignment var = value

/-- The variables have the same value in every model. -/
def Alike (clauses : List Clause) (first second : Variable) : Prop :=
  ∀ assignment, Models assignment clauses → assignment first = assignment second

/-- The variables are alike, and some model has them false. -/
def Agreeing (clauses : List Clause) (first second : Variable) : Prop :=
  Alike clauses first second ∧ ∃ assignment, Models assignment clauses ∧ assignment first = false

/-- The literal that a variable is forced to is one of its own. Either way the finder decides, it
names the variable that it asked about. -/
theorem var_of_forcedUnder {var : Variable} {literal : Literal}
    (forced : forcedUnder clauses var = some literal) : literal.var = var := by
  unfold forcedUnder at forced
  split at forced
  · cases forced
    rfl
  · split at forced
    · cases forced
      rfl
    · cases forced

/-- A variable is undetermined if it can be assumed false and can be assumed true. -/
theorem undetermined_iff {var : Variable} :
    Undetermined clauses var ↔
      Satisfiable clauses [⟨var, false⟩] ∧ Satisfiable clauses [⟨var, true⟩] := by
  rw [Undetermined, Bool.forall_bool, satisfiable_singleton_iff, satisfiable_singleton_iff]
  rfl

/-- A variable is undetermined exactly if it is forced to neither literal. -/
theorem forcedUnder_eq_none_iff {var : Variable} :
    forcedUnder clauses var = none ↔ Undetermined clauses var := by
  rw [undetermined_iff, forcedUnder]
  by_cases canBeFalse : Satisfiable clauses [⟨var, false⟩] <;>
    by_cases canBeTrue : Satisfiable clauses [⟨var, true⟩] <;> simp [canBeFalse, canBeTrue]

/-- The undetermined variables up to a highest number, ascending. -/
noncomputable def undeterminedUpTo (clauses : List Clause) (highest : Nat) : List Variable :=
  (Variable.upTo highest).filter fun var => decide (Undetermined clauses var)

/-- The undetermined variables up to the highest are listed, and no others. -/
theorem mem_undeterminedUpTo {highest : Nat} {var : Variable} :
    var ∈ undeterminedUpTo clauses highest ↔ var.number ≤ highest ∧ Undetermined clauses var := by
  simp [undeterminedUpTo, Variable.mem_upTo]

/-- They are listed in order. -/
theorem undeterminedUpTo_ascending (highest : Nat) :
    (undeterminedUpTo clauses highest).Pairwise (· < ·) :=
  (Variable.upTo_ascending highest).filter _

/-- What the backbone leaves unpinned are the undetermined variables. Both lists ascend, so it is
enough that they have the same members. -/
theorem unpinned_backbone (highest : Nat) :
    unpinned highest (((Variable.upTo highest).filterMap (forcedUnder clauses)).map Literal.code) =
      undeterminedUpTo clauses highest := by
  apply (unpinned_ascending highest _).eq_of_mem_iff (undeterminedUpTo_ascending highest)
  intro var
  rw [mem_unpinned, pinned_codes, mem_undeterminedUpTo, ← forcedUnder_eq_none_iff]
  apply and_congr_right
  intro inRange
  constructor
  · intro notPinned
    by_contra forced
    obtain ⟨literal, found⟩ := Option.ne_none_iff_exists'.mp forced
    apply notPinned
    have listed := List.mem_filterMap.mpr ⟨var, Variable.mem_upTo.mpr inRange, found⟩
    exact ⟨literal, listed, var_of_forcedUnder found⟩
  · rintro free ⟨literal, listed, rfl⟩
    obtain ⟨var, _, found⟩ := List.mem_filterMap.mp listed
    rw [var_of_forcedUnder found, found] at free
    cases free

/-- Two variables agree exactly if each is a hard conclusion of the other: they are alike, and
one of them, and so the other, can be false. -/
theorem agreeing_iff {first second : Variable} :
    Agreeing clauses first second ↔ EntailsHard clauses ⟨first, true⟩ ⟨second, true⟩ ∧
      EntailsHard clauses ⟨second, true⟩ ⟨first, true⟩ := by
  have denied (var : Variable) : Satisfiable clauses [-(⟨var, true⟩ : Literal)] ↔
      ∃ assignment, Models assignment clauses ∧ assignment var = false :=
    satisfiable_singleton_iff
  rw [EntailsHard, EntailsHard, denied, denied]
  constructor
  · rintro ⟨alike, assignment, models, isFalse⟩
    have otherFalse : assignment second = false := (alike assignment models).symm.trans isFalse
    refine ⟨⟨?_, assignment, models, otherFalse⟩, ?_, assignment, models, isFalse⟩
    · intro assignment models isTrue
      exact (alike assignment models).symm.trans isTrue
    · intro assignment models isTrue
      exact (alike assignment models).trans isTrue
  · rintro ⟨⟨forward, _⟩, backward, possible⟩
    refine ⟨?_, possible⟩
    intro assignment models
    exact Bool.eq_iff_iff.mpr ⟨forward assignment models, backward assignment models⟩

/-- The questions that one pair takes. The way back is tried only after the way there. -/
noncomputable def pairPrice (clauses : List Clause) (first second : Variable) : Nat :=
  hardPrice clauses ⟨first, true⟩ ⟨second, true⟩ +
    if EntailsHard clauses ⟨first, true⟩ ⟨second, true⟩ then
      hardPrice clauses ⟨second, true⟩ ⟨first, true⟩
    else 0

/-- Whether two variables agree is found with no regard to other pairs. The way back is asked
only if the way there is hard. -/
theorem yields_agree {first second : Variable} {answer : Bool}
    (yields : (agree first second).Yields clauses cost answer) :
    answer = decide (Agreeing clauses first second) ∧ cost = pairPrice clauses first second := by
  unfold agree at yields
  obtain ⟨there, spent, later, asked, rest, rfl⟩ := yields_bind.mp yields
  obtain ⟨rfl, rfl⟩ := yields_entailsHard asked
  rw [agreeing_iff, pairPrice]
  by_cases hard : EntailsHard clauses ⟨first, true⟩ ⟨second, true⟩
  · simp only [hard, decide_true, if_true] at rest
    obtain ⟨rfl, rfl⟩ := yields_entailsHard rest
    simp [hard]
  · simp only [hard, decide_false, Bool.false_eq_true, if_false, yields_pure] at rest
    simp [hard, rest]

/-- The agreeing pairs among some variables. -/
noncomputable def agreeingAmong (clauses : List Clause) (candidates : List Variable) :
    List (Variable × Variable) :=
  (pairsOf candidates).filter fun pair => decide (Agreeing clauses pair.1 pair.2)

/-- The agreeing pairs among ascending candidates are listed with the smaller variable first. -/
theorem mem_agreeingAmong {candidates : List Variable} (ascending : candidates.Pairwise (· < ·))
    {first second : Variable} : (first, second) ∈ agreeingAmong clauses candidates ↔
      first ∈ candidates ∧ second ∈ candidates ∧ first < second ∧
        Agreeing clauses first second := by
  simp [agreeingAmong, mem_pairsOf ascending, and_assoc]

/-- Ascending candidates have their agreeing pairs in order. -/
theorem agreeingAmong_ascending {candidates : List Variable}
    (ascending : candidates.Pairwise (· < ·)) :
    (agreeingAmong clauses candidates).Pairwise Before :=
  (pairsOf_ascending ascending).filter _

/-- Among the undetermined variables, those that are alike agree. That they can be false need not
be asked, since every undetermined variable can. -/
theorem mem_agreeing_undetermined {highest : Nat} {first second : Variable} :
    (first, second) ∈ agreeingAmong clauses (undeterminedUpTo clauses highest) ↔
      first < second ∧ second.number ≤ highest ∧ Undetermined clauses first ∧
        Undetermined clauses second ∧ Alike clauses first second := by
  rw [mem_agreeingAmong (undeterminedUpTo_ascending highest), mem_undeterminedUpTo,
    mem_undeterminedUpTo]
  constructor
  · rintro ⟨⟨_, firstFree⟩, ⟨inRange, secondFree⟩, ordered, alike, _⟩
    exact ⟨ordered, inRange, firstFree, secondFree, alike⟩
  · rintro ⟨ordered, inRange, firstFree, secondFree, alike⟩
    have firstInRange : first.number ≤ highest := (Variable.le_iff.mp ordered.le).trans inRange
    exact ⟨⟨firstInRange, firstFree⟩, ⟨inRange, secondFree⟩, ordered, alike, firstFree false⟩

/-- The agreeing pairs are found pair by pair among the variables that are not pinned, each pair
at its own price. -/
theorem yields_agreeingPairs {highest : Nat} {pinned : List Int}
    {found : List (Variable × Variable)}
    (yields : (agreeingPairs highest pinned).Yields clauses cost found) :
    found = agreeingAmong clauses (unpinned highest pinned) ∧
      cost = ((pairsOf (unpinned highest pinned)).map fun pair =>
        pairPrice clauses pair.1 pair.2).sum := by
  unfold agreeingPairs at yields
  obtain ⟨pairs, first, second, scanned, rest, rfl⟩ := yields_bind.mp yields
  simp only [yields_recorded, yields_pure] at rest
  obtain ⟨rfl, rfl⟩ := rest
  rw [agreeingAmong, ← List.filterMap_eq_filter]
  apply yields_filterMapM _ scanned
  intro pair _ cost result yields
  obtain ⟨answer, first, second, asked, rest, rfl⟩ := yields_bind.mp yields
  obtain ⟨rfl, rfl⟩ := yields_agree asked
  by_cases agreeing : Agreeing clauses pair.1 pair.2
  · simp only [agreeing, decide_true, if_true, yields_recorded, yields_pure] at rest
    simp [rest, Option.guard, agreeing]
  · simp only [agreeing, decide_false, Bool.false_eq_true, if_false, yields_pure] at rest
    simp [rest, Option.guard, agreeing]

/-- The agreeing pairs that are asked for are those among the undetermined variables. -/
theorem yields_agreement_none {highest : Nat} {found : List (Variable × Variable)}
    (yields : (agreement highest none).Yields clauses cost found) :
    found = agreeingAmong clauses (undeterminedUpTo clauses highest) := by
  unfold agreement at yields
  obtain ⟨forced, first, second, asked, rest, rfl⟩ := yields_bind.mp yields
  obtain ⟨rfl, rfl⟩ := yields_backbone asked
  rw [← unpinned_backbone]
  exact (yields_agreeingPairs rest).1

end Clausal
