import Clausal.Proofs.Finders
import Clausal.Proofs.Replies

/-!
# What pinning does to the scan for agreement

The scan reports the pairs that are alike in every model and false in some. Such a pair
is either undetermined or forced false, both variables in the same way. Undetermined
pairs are what is asked for, and they are what the scan of everything but the backbone
reports.

With any other list of pinned numbers the scan reports more if it meets two variables
that are forced false, and less if a variable of an undetermined pair is pinned. It
reports the same in all other cases, whatever else the list holds.
-/

namespace Clausal

variable {clauses : List Clause} {highest : Nat} {pinned : List Int}

/-- There are models, and all of them have the variable false. -/
def ForcedFalse (clauses : List Clause) (var : Variable) : Prop :=
  (∃ assignment, Models assignment clauses) ∧
    ∀ assignment, Models assignment clauses → assignment var = false

/-- A variable that is forced false is one of the clauses' own. Any other could be flipped in a
model. -/
theorem ForcedFalse.number_le {var : Variable} (forced : ForcedFalse clauses var) :
    var.number ≤ Clause.highestOf (clauses.flatMap Clause.literals) := by
  by_contra beyond
  obtain ⟨⟨assignment, models⟩, allFalse⟩ := forced
  have flipped : Models (Function.update assignment var true) clauses := by
    apply models.of_agree
    intro other inRange
    have different : other ≠ var := by
      rintro rfl
      exact beyond inRange
    exact (Function.update_of_ne different true assignment).symm
  have isFalse := allFalse _ flipped
  simp at isFalse

/-- A variable that is forced false is not undetermined. -/
theorem ForcedFalse.not_undetermined {var : Variable} (forced : ForcedFalse clauses var) :
    ¬Undetermined clauses var := by
  intro undetermined
  obtain ⟨assignment, models, isTrue⟩ := undetermined true
  have isFalse : assignment var = false := forced.2 assignment models
  rw [isTrue] at isFalse
  cases isFalse

/-- Variables agree in one of two ways: both are undetermined and alike, or both are forced
false. Two that are forced true cannot be false and so do not agree. -/
theorem agreeing_cases {first second : Variable} :
    Agreeing clauses first second ↔
      Undetermined clauses first ∧ Undetermined clauses second ∧ Alike clauses first second ∨
        ForcedFalse clauses first ∧ ForcedFalse clauses second := by
  constructor
  · rintro ⟨alike, falsified, models, isFalse⟩
    by_cases everTrue : ∃ assignment, Models assignment clauses ∧ assignment first = true
    · have free : Undetermined clauses first := by
        intro value
        cases value with
        | false => exact ⟨falsified, models, isFalse⟩
        | true => exact everTrue
      have otherFree : Undetermined clauses second := by
        intro value
        obtain ⟨assignment, models, same⟩ := free value
        exact ⟨assignment, models, (alike assignment models).symm.trans same⟩
      exact Or.inl ⟨free, otherFree, alike⟩
    · have allFalse (assignment : Assignment) (models : Models assignment clauses) :
          assignment first = false := by
        by_contra isTrue
        exact everTrue ⟨assignment, models, Bool.not_eq_false _ ▸ isTrue⟩
      have otherFalse (assignment : Assignment) (models : Models assignment clauses) :
          assignment second = false :=
        (alike assignment models).symm.trans (allFalse assignment models)
      exact Or.inr ⟨⟨⟨falsified, models⟩, allFalse⟩, ⟨falsified, models⟩, otherFalse⟩
  · rintro (⟨free, _, alike⟩ | ⟨⟨⟨assignment, models⟩, allFalse⟩, _, otherFalse⟩)
    · exact ⟨alike, free false⟩
    · refine ⟨?_, assignment, models, allFalse assignment models⟩
      intro assignment models
      exact (allFalse assignment models).trans (otherFalse assignment models).symm

/-- The scan of the variables that are not pinned. -/
theorem mem_scan_unpinned {first second : Variable} :
    (first, second) ∈ agreeingAmong clauses (unpinned highest pinned) ↔
      first < second ∧ second.number ≤ highest ∧ ¬Pinned pinned first ∧ ¬Pinned pinned second ∧
        Agreeing clauses first second := by
  rw [mem_agreeingAmong (unpinned_ascending highest pinned), mem_unpinned, mem_unpinned]
  constructor
  · rintro ⟨⟨_, firstFree⟩, ⟨inRange, secondFree⟩, ordered, agreeing⟩
    exact ⟨ordered, inRange, firstFree, secondFree, agreeing⟩
  · rintro ⟨ordered, inRange, firstFree, secondFree, agreeing⟩
    have firstInRange : first.number ≤ highest := (Variable.le_iff.mp ordered.le).trans inRange
    exact ⟨⟨firstInRange, firstFree⟩, ⟨inRange, secondFree⟩, ordered, agreeing⟩

/-- At most one variable that is forced false is left unpinned. -/
def AtMostOneForcedFalse (clauses : List Clause) (pinned : List Int) : Prop :=
  ∀ first second, ForcedFalse clauses first → ForcedFalse clauses second →
    ¬Pinned pinned first → ¬Pinned pinned second → first = second

/-- Two variables that are forced false are reported if neither is pinned. -/
theorem mem_scan_of_forcedFalse {first second : Variable}
    (bounded : highest = Clause.highestOf (clauses.flatMap Clause.literals))
    (firstForced : ForcedFalse clauses first) (secondForced : ForcedFalse clauses second)
    (firstFree : ¬Pinned pinned first) (secondFree : ¬Pinned pinned second)
    (ordered : first < second) :
    (first, second) ∈ agreeingAmong clauses (unpinned highest pinned) := by
  have inRange : second.number ≤ highest := bounded ▸ secondForced.number_le
  have agreeing : Agreeing clauses first second :=
    agreeing_cases.mpr (Or.inr ⟨firstForced, secondForced⟩)
  exact mem_scan_unpinned.mpr ⟨ordered, inRange, firstFree, secondFree, agreeing⟩

/-- The two scans find the same exactly if no two variables that are forced false escape
the pinned numbers and these hit none of the undetermined pairs. -/
theorem scans_eq_iff (pinned : List Int)
    (bounded : highest = Clause.highestOf (clauses.flatMap Clause.literals)) :
    agreeingAmong clauses (unpinned highest pinned) =
        agreeingAmong clauses (undeterminedUpTo clauses highest) ↔
      AtMostOneForcedFalse clauses pinned ∧
        ∀ pair ∈ agreeingAmong clauses (undeterminedUpTo clauses highest),
          ¬Pinned pinned pair.1 ∧ ¬Pinned pinned pair.2 := by
  constructor
  · intro same
    have noneOrdered {first second : Variable} (firstForced : ForcedFalse clauses first)
        (secondForced : ForcedFalse clauses second) (firstFree : ¬Pinned pinned first)
        (secondFree : ¬Pinned pinned second) : ¬first < second := by
      intro ordered
      have listed := mem_scan_of_forcedFalse bounded firstForced secondForced firstFree
        secondFree ordered
      rw [same] at listed
      obtain ⟨_, _, undetermined, _⟩ := mem_agreeing_undetermined.mp listed
      exact firstForced.not_undetermined undetermined
    constructor
    · intro first second firstForced secondForced firstFree secondFree
      have notBefore := noneOrdered firstForced secondForced firstFree secondFree
      have notAfter := noneOrdered secondForced firstForced secondFree firstFree
      exact le_antisymm (not_lt.mp notAfter) (not_lt.mp notBefore)
    · rintro ⟨first, second⟩ listed
      rw [← same] at listed
      obtain ⟨_, _, firstFree, secondFree, _⟩ := mem_scan_unpinned.mp listed
      exact ⟨firstFree, secondFree⟩
  · rintro ⟨atMostOne, untouched⟩
    apply (agreeingAmong_ascending (unpinned_ascending highest pinned)).eq_of_mem_iff
      (agreeingAmong_ascending (undeterminedUpTo_ascending highest))
    rintro ⟨first, second⟩
    constructor
    · intro listed
      obtain ⟨ordered, inRange, firstFree, secondFree, agreeing⟩ := mem_scan_unpinned.mp listed
      rcases agreeing_cases.mp agreeing with undetermined | ⟨firstForced, secondForced⟩
      · exact mem_agreeing_undetermined.mpr ⟨ordered, inRange, undetermined⟩
      · have same := atMostOne first second firstForced secondForced firstFree secondFree
        exact absurd same ordered.ne
    · intro listed
      obtain ⟨firstFree, secondFree⟩ := untouched _ listed
      obtain ⟨ordered, inRange, undetermined⟩ := mem_agreeing_undetermined.mp listed
      have agreeing : Agreeing clauses first second := agreeing_cases.mpr (Or.inl undetermined)
      exact mem_scan_unpinned.mpr ⟨ordered, inRange, firstFree, secondFree, agreeing⟩

/-- Without pinned numbers the scan finds the undetermined pairs and, beside them, the
pairs of two variables that are forced false. -/
theorem mem_scan_nil {first second : Variable} :
    (first, second) ∈ agreeingAmong clauses (unpinned highest []) ↔
      (first, second) ∈ agreeingAmong clauses (undeterminedUpTo clauses highest) ∨
        first < second ∧ second.number ≤ highest ∧ ForcedFalse clauses first ∧
          ForcedFalse clauses second := by
  have free (var : Variable) : ¬Pinned [] var := by simp [Pinned]
  rw [mem_scan_unpinned, mem_agreeing_undetermined, agreeing_cases]
  constructor
  · rintro ⟨ordered, inRange, _, _, undetermined | forced⟩
    · exact Or.inl ⟨ordered, inRange, undetermined⟩
    · exact Or.inr ⟨ordered, inRange, forced⟩
  · rintro (⟨ordered, inRange, undetermined⟩ | ⟨ordered, inRange, forced⟩)
    · exact ⟨ordered, inRange, free first, free second, Or.inl undetermined⟩
    · exact ⟨ordered, inRange, free first, free second, Or.inr forced⟩

/-- A list of integers is read as it stands. -/
theorem Argument.pinned_whole (given : List Int) :
    Argument.pinned (.list (given.map Datum.whole)) = .ok given := by
  have measured : (given.map Datum.whole).mapM measured = .ok (given.map some) := by
    induction given with
    | nil => rfl
    | cons head rest inductionHypothesis =>
      rw [List.map_cons, List.mapM_cons, inductionHypothesis]
      rfl
  rw [pinned, elements, Datum.elements?]
  simp [measured, bind, Except.bind, pure, Except.pure, List.filterMap_map]

open RuleBase

/-- In an open rule base that any run led to, the scan for agreement with a list of pinned
integers is answered with the ascending list of exactly the agreeing pairs of variables
that are not pinned, and without a list with the undetermined pairs that are alike. The
two answers are the same exactly if at most one variable that is forced false is missing
from the list and no variable of an undetermined pair is in it; the empty list adds all
pairs of two variables that are forced false. -/
theorem agreement_scan_exact {base : RuleBase} (reachable : Reachable base)
    (isOpen : base.isOpen = true) {oracle other : Oracle} (lawful : oracle.Lawful)
    (otherLawful : other.Lawful) :
    (∀ pinned answer, base.reply oracle (.agreement (some pinned)) = .ok answer →
      ∃ pairs, answer = .pairs pairs ∧ pairs.Pairwise Before ∧
        ∀ first second, (first, second) ∈ pairs ↔
          first < second ∧ second.number ≤ base.highest ∧ ¬Pinned pinned first ∧
            ¬Pinned pinned second ∧ Agreeing base.clauses first second) ∧
    (∀ answer, base.reply other (.agreement none) = .ok answer →
      ∃ pairs, answer = .pairs pairs ∧ pairs.Pairwise Before ∧
        ∀ first second, (first, second) ∈ pairs ↔
          first < second ∧ second.number ≤ base.highest ∧ Undetermined base.clauses first ∧
            Undetermined base.clauses second ∧ Alike base.clauses first second) ∧
    (∀ pinned given omitted,
      base.reply oracle (.agreement (some pinned)) = .ok (.pairs given) →
      base.reply other (.agreement none) = .ok (.pairs omitted) →
        (given = omitted ↔ AtMostOneForcedFalse base.clauses pinned ∧
          ∀ pair ∈ omitted, ¬Pinned pinned pair.1 ∧ ¬Pinned pinned pair.2)) ∧
    (∀ given omitted, base.reply oracle (.agreement (some [])) = .ok (.pairs given) →
      base.reply other (.agreement none) = .ok (.pairs omitted) →
        ∀ first second, (first, second) ∈ given ↔ (first, second) ∈ omitted ∨
          first < second ∧ second.number ≤ base.highest ∧ ForcedFalse base.clauses first ∧
            ForcedFalse base.clauses second) ∧
    (∀ pinned, (Call.agreement (.list (pinned.map Datum.whole))).perform oracle base =
      (Request.inquire (.agreement (some pinned))).perform oracle base) ∧
    (∀ pinned, (∃ answer, base.reply oracle (.agreement pinned) = .ok answer) ∨
      base.limits ≠ Limits.none ∧ ∃ fault,
        base.reply oracle (.agreement pinned) = .error fault ∧ base.Declines fault) := by
  have coherent : base.Coherent := reachable.coherent
  refine ⟨?_, ?_, ?_, ?_, ?_, ?_⟩
  · intro pinned answer answered
    rw [reply_agreement_some lawful coherent answered]
    refine ⟨_, rfl, agreeingAmong_ascending (unpinned_ascending _ _), ?_⟩
    intro first second
    exact mem_scan_unpinned
  · intro answer answered
    rw [reply_agreement_none otherLawful coherent answered]
    refine ⟨_, rfl, agreeingAmong_ascending (undeterminedUpTo_ascending _), ?_⟩
    intro first second
    exact mem_agreeing_undetermined
  · intro pinned given omitted answered otherAnswered
    obtain ⟨⟩ := reply_agreement_some lawful coherent answered
    obtain ⟨⟩ := reply_agreement_none otherLawful coherent otherAnswered
    exact scans_eq_iff pinned coherent.highest
  · intro given omitted answered otherAnswered first second
    obtain ⟨⟩ := reply_agreement_some lawful coherent answered
    obtain ⟨⟩ := reply_agreement_none otherLawful coherent otherAnswered
    exact mem_scan_nil
  · intro pinned
    rw [Call.perform, Call.read, Argument.pinned_whole]
    · rfl
    · exact nofun
  · intro pinned
    exact reply_or_declined lawful coherent isOpen (.agreement pinned)

/-- Variables 3 and 5 are forced false: they are the pair too many that the scan without
pinned numbers reports. A list that holds one of them, next to a variable that occurs
nowhere, serves as well as no list. -/
theorem mirrored_scan_tells_forced :
    Reachable mirrored ∧ mirrored.isOpen = true ∧ Oracle.search.Lawful ∧
      AtMostOneForcedFalse mirrored.clauses [-5, 9] ∧
      ForcedFalse mirrored.clauses ⟨3, by decide⟩ ∧
      ForcedFalse mirrored.clauses ⟨5, by decide⟩ := by
  have isOpen : mirrored.isOpen = true := by cbv
  obtain ⟨_, _, compared, extra, _⟩ := agreement_scan_exact mirrored_reachable isOpen
    Oracle.search_lawful Oracle.search_lawful
  let chain : List (Variable × Variable) := [(⟨1, by decide⟩, ⟨2, by decide⟩),
    (⟨1, by decide⟩, ⟨4, by decide⟩), (⟨2, by decide⟩, ⟨4, by decide⟩)]
  have omitted : mirrored.reply .search (.agreement none) = .ok (.pairs chain) := by cbv
  have pinned : mirrored.reply .search (.agreement (some [-5, 9])) = .ok (.pairs chain) := by cbv
  have all : mirrored.reply .search (.agreement (some [])) =
      .ok (.pairs (chain ++ [(⟨3, by decide⟩, ⟨5, by decide⟩)])) := by cbv
  have atMostOne := ((compared [-5, 9] chain chain pinned omitted).mp rfl).1
  have forced := (extra _ _ all omitted ⟨3, by decide⟩ ⟨5, by decide⟩).mp (by decide)
  refine ⟨mirrored_reachable, isOpen, Oracle.search_lawful, atMostOne, ?_⟩
  rcases forced with undetermined | ⟨_, _, forced⟩
  · exact absurd undetermined (by decide)
  · exact forced

end Clausal
