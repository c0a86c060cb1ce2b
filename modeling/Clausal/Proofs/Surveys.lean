import Clausal.Proofs.Finders

/-!
# What surveys find

A survey finds the backbone, scans what the backbone leaves unpinned and counts its
questions. Everything it reports is read off the models of the clauses, and so is the
count: it depends neither on how the clauses are written down nor on which models the
answers bring along.
-/

namespace Clausal

open Classical Inquiry

variable {clauses : List Clause} {cost : Nat}

/-- A metered inquiry yields what the inquiry yields, with its cost added to the meter. The
induction is on the inquiry, for any start of the meter. -/
theorem Inquiry.yields_metered {α : Type} {inquiry : Inquiry α} {asked : Nat} {result : α × Nat} :
    (inquiry.metered asked).Yields clauses cost result ↔
      inquiry.Yields clauses cost result.1 ∧ result.2 = asked + cost := by
  induction inquiry generalizing asked cost with
  | done value =>
    obtain ⟨reached, total⟩ := result
    constructor
    · rintro ⟨rfl, ⟨⟩⟩
      exact ⟨⟨rfl, rfl⟩, rfl⟩
    · rintro ⟨⟨rfl, rfl⟩, rfl⟩
      exact ⟨rfl, rfl⟩
  | note event rest inductionHypothesis => exact inductionHypothesis
  | ask question next inductionHypothesis =>
    constructor
    · rintro ⟨answer, remaining, truthful, yields, rfl⟩
      obtain ⟨reached, total⟩ := (inductionHypothesis answer).mp yields
      exact ⟨⟨answer, remaining, truthful, reached, rfl⟩, by omega⟩
    · rintro ⟨⟨answer, remaining, truthful, reached, rfl⟩, total⟩
      have later : result.2 = asked + 1 + remaining := by omega
      exact ⟨answer, remaining, truthful, (inductionHypothesis answer).mpr ⟨reached, later⟩, rfl⟩

/-- The literals that the variables up to a highest number are forced to. -/
noncomputable def forcedUpTo (clauses : List Clause) (highest : Nat) : List Literal :=
  (Variable.upTo highest).filterMap (forcedUnder clauses)

/-- The agreeing pairs of undetermined variables up to a highest number. -/
noncomputable def agreeingUpTo (clauses : List Clause) (highest : Nat) :
    List (Variable × Variable) :=
  agreeingAmong clauses (undeterminedUpTo clauses highest)

/-- The questions that a survey takes: one or two for every variable, and the price of
every pair of undetermined ones. -/
noncomputable def surveyPrice (clauses : List Clause) (highest : Nat) : Nat :=
  ((Variable.upTo highest).map fun var =>
      if Satisfiable clauses [⟨var, false⟩] then 2 else 1).sum +
    ((pairsOf (undeterminedUpTo clauses highest)).map fun pair =>
      pairPrice clauses pair.1 pair.2).sum

/-- What the models of the clauses have a survey report. -/
noncomputable def surveyOf (clauses : List Clause) (highest : Nat) : Survey where
  highest := highest
  forced := forcedUpTo clauses highest
  agreeing := agreeingUpTo clauses highest
  classes := classesOf (agreeingUpTo clauses highest)
  decisions := surveyPrice clauses highest

/-- A survey reports what the models say and what it cost. The report of the cost is exact: it is
the number of questions of the examination, and nothing is asked after it. -/
theorem yields_survey {highest : Nat} {found : Survey}
    (yields : (survey highest).Yields clauses cost found) :
    found = surveyOf clauses highest ∧ cost = surveyPrice clauses highest := by
  unfold survey at yields
  obtain ⟨⟨⟨forced, agreeing⟩, decisions⟩, first, second, metered, rest, rfl⟩ :=
    yields_bind.mp yields
  simp only [yields_recorded, yields_pure] at rest
  obtain ⟨rfl, rfl⟩ := rest
  obtain ⟨examined, counted⟩ := yields_metered.mp metered
  obtain ⟨backbone, searching, scanning, searched, later, rfl⟩ := yields_bind.mp examined
  obtain ⟨rfl, rfl⟩ := yields_backbone searched
  obtain ⟨pairs, scanned, found⟩ := yields_wrap.mp later
  obtain ⟨rfl, rfl⟩ := Prod.mk.inj found
  obtain ⟨rfl, rfl⟩ := yields_agreeingPairs scanned
  -- The candidates of the scan are what the backbone leaves unpinned.
  rw [unpinned_backbone, Nat.zero_add] at counted
  rw [unpinned_backbone, surveyOf, surveyPrice, ← counted]
  exact ⟨rfl, rfl⟩

/-- The variables that a survey reports as free are the undetermined ones. -/
theorem free_surveyOf (highest : Nat) :
    (surveyOf clauses highest).free = undeterminedUpTo clauses highest :=
  unpinned_backbone highest

/-- A literal is listed in the backbone if its variable is in range and forced to its sign. -/
theorem mem_forcedUpTo {highest : Nat} {literal : Literal} :
    literal ∈ forcedUpTo clauses highest ↔
      literal.var.number ≤ highest ∧ forcedUnder clauses literal.var = some literal := by
  rw [forcedUpTo, List.mem_filterMap]
  constructor
  · rintro ⟨var, inRange, forced⟩
    obtain rfl := var_of_forcedUnder forced
    exact ⟨Variable.mem_upTo.mp inRange, forced⟩
  · rintro ⟨inRange, forced⟩
    exact ⟨literal.var, Variable.mem_upTo.mpr inRange, forced⟩

/-- A literal that a variable is forced to cannot be false. This holds without a model as well. -/
theorem not_satisfiable_of_forcedUnder {var : Variable} {literal : Literal}
    (forced : forcedUnder clauses var = some literal) : ¬Satisfiable clauses [-literal] := by
  unfold forcedUnder at forced
  split at forced
  · next cannotBeFalse =>
    cases forced
    exact cannotBeFalse
  · split at forced
    · next cannotBeTrue =>
      cases forced
      exact cannotBeTrue
    · cases forced

/-- A forced literal holds in every model. -/
theorem holds_of_forcedUnder {var : Variable} {literal : Literal} {assignment : Assignment}
    (forced : forcedUnder clauses var = some literal) (models : Models assignment clauses) :
    literal.Holds assignment := by
  by_contra isFalse
  apply not_satisfiable_of_forcedUnder forced
  exact satisfiable_singleton_iff.mpr ⟨assignment, models, Literal.holds_neg.mpr isFalse⟩

/-- If there is a model and the literal cannot be false, its variable is forced to it. The model
is needed for a negative literal, since the finder asks first whether the variable can be false. -/
theorem forcedUnder_of_not_satisfiable {literal : Literal} (satisfiable : Satisfiable clauses [])
    (forced : ¬Satisfiable clauses [-literal]) :
    forcedUnder clauses literal.var = some literal := by
  obtain ⟨var, positive⟩ := literal
  cases positive with
  | true => exact if_pos forced
  | false =>
    have canBeFalse : Satisfiable clauses [⟨var, false⟩] := by
      obtain ⟨assignment, models⟩ := satisfiable_nil_iff.mp satisfiable
      refine satisfiable_singleton_iff.mpr ⟨assignment, models, ?_⟩
      by_contra isTrue
      exact forced (satisfiable_singleton_iff.mpr
        ⟨assignment, models, Literal.holds_neg.mpr isTrue⟩)
    exact (if_neg (not_not.mpr canBeFalse)).trans (if_pos forced)

end Clausal
