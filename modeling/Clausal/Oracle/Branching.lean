import Clausal.Oracle.Search
import Clausal.Proofs.Models
import Clausal.Residual.Propagation

/-!
# The branching oracle is lawful

What is left of clauses is read as a formula of its own: settling a literal that holds
keeps its models. So a refuted residual has none, both branches of a variable together
miss no model, and where every remainder has a negative literal these literals suffice.
The literals settled on the way never share a variable, because a settled variable no
longer occurs in what is left.
-/

namespace Clausal

namespace Residual

/-- Every remainder has a true literal. -/
def Holds (assignment : Assignment) (residual : Residual) : Prop :=
  ∀ rest ∈ residual, ∃ literal ∈ rest, literal.Holds assignment

/-- The settled literals share no variable with one another or with what is left. -/
structure Fresh (residual : Residual) (trail : List Literal) : Prop where
  distinct : (trail.map Literal.var).Nodup
  absent : ∀ rest ∈ residual, ∀ literal ∈ rest, literal.var ∉ trail.map Literal.var

/-- Before anything is settled, the residual says what the clauses say. -/
theorem holds_ofClauses {assignment : Assignment} {clauses : List Clause} :
    (ofClauses clauses).Holds assignment ↔ Models assignment clauses := by
  simp [Holds, ofClauses, Models, Clause.Holds]

/-- Settling a literal that holds neither adds nor removes a model: the remainders that it
makes true are dropped, and the literals that it refutes are false anyway. -/
theorem holds_assign {assignment : Assignment} {residual : Residual} {literal : Literal}
    (holds : literal.Holds assignment) :
    (residual.assign literal).Holds assignment ↔ residual.Holds assignment := by
  constructor
  · intro all rest member
    rcases Decidable.em (literal ∈ rest) with inside | absent
    · exact ⟨literal, inside, holds⟩
    · obtain ⟨other, inside, isTrue⟩ := all _ (mem_assign.2 ⟨rest, member, absent, rfl⟩)
      exact ⟨other, (List.mem_filter.1 inside).1, isTrue⟩
  · intro all rest member
    obtain ⟨before, inResidual, _, rfl⟩ := mem_assign.1 member
    obtain ⟨other, inside, isTrue⟩ := all before inResidual
    refine ⟨other, List.mem_filter.2 ⟨inside, bne_iff_ne.2 fun equal => ?_⟩, isTrue⟩
    rw [equal, Literal.holds_neg] at isTrue
    exact isTrue holds

/-- A literal that is left alone in a remainder holds in every model of the residual. -/
theorem holds_of_unit? {assignment : Assignment} {residual : Residual} {literal : Literal}
    (found : residual.unit? = some literal) (holds : residual.Holds assignment) :
    literal.Holds assignment := by
  obtain ⟨rest, member, _, only⟩ := exists_of_unit? found
  obtain ⟨other, inside, isTrue⟩ := holds rest member
  exact only other inside ▸ isTrue

/-- A remainder without literals cannot be made true, so a refuted residual has no model. -/
theorem not_holds_of_isRefuted {residual : Residual} (refuted : residual.isRefuted = true)
    (assignment : Assignment) : ¬residual.Holds assignment := by
  intro holds
  obtain ⟨_, impossible, _⟩ := holds [] (isRefuted_iff.1 refuted)
  cases impossible

/-- A search that finds no model has missed none. The induction follows the search: a settled
literal holds in every model there is, and of two branches every model is in one. -/
theorem not_holds_of_search {bound : Option Nat} {residual : Residual} {trail : List Literal}
    {spent : Nat} (verdict : (residual.search bound trail spent).1 = .unsatisfiable)
    (assignment : Assignment) : ¬residual.Holds assignment := by
  fun_induction search bound residual trail spent with
  | case1 residual trail spent refuted => exact not_holds_of_isRefuted refuted assignment
  | case2 residual trail spent _ literal found inductionHypothesis =>
    intro holds
    exact inductionHypothesis verdict ((holds_assign (holds_of_unit? found holds)).2 holds)
  | case3 => cases verdict
  | case4 => cases verdict
  | case5 residual trail spent _ _ literal branch within after missed first second =>
    intro holds
    rcases Decidable.em (literal.Holds assignment) with isTrue | isFalse
    · exact first (by rw [missed]) ((holds_assign isTrue).2 holds)
    · exact second verdict ((holds_assign (Literal.holds_neg.2 isFalse)).2 holds)
  | case6 residual trail spent _ _ literal branch within decided first =>
    exact (decided _ (Prod.ext verdict rfl)).elim

/-- Without a bound the search never gives up. The induction follows the search, and only a branch
that is beyond the bound gives up. -/
theorem search_ne_unknown {bound : Option Nat} {residual : Residual} {trail : List Literal}
    {spent : Nat} (unbounded : bound = none) :
    (residual.search bound trail spent).1 ≠ .unknown := by
  fun_induction search bound residual trail spent with
  | case1 => exact Verdict.noConfusion
  | case2 residual trail spent _ literal found inductionHypothesis => exact inductionHypothesis
  | case3 => exact Verdict.noConfusion
  | case4 residual trail spent _ _ literal branch beyond =>
    rw [unbounded] at beyond
    cases beyond
  | case5 residual trail spent _ _ literal branch within after missed first second =>
    exact second
  | case6 residual trail spent _ _ literal branch within decided first => exact first

/-- A literal whose variable was not settled may be settled next. Its variable is then gone
from what is left, since both of its literals are removed. -/
theorem Fresh.assign {residual : Residual} {trail : List Literal} {literal : Literal}
    (fresh : Fresh residual trail) (unused : literal.var ∉ trail.map Literal.var) :
    Fresh (residual.assign literal) (literal :: trail) where
  distinct := List.nodup_cons.2 ⟨unused, fresh.distinct⟩
  absent := by
    intro rest member other inside
    obtain ⟨before, inResidual, absent, rfl⟩ := mem_assign.1 member
    obtain ⟨inBefore, differs⟩ := List.mem_filter.1 inside
    rw [List.map_cons, List.mem_cons, not_or]
    refine ⟨fun sameVariable => ?_, fresh.absent before inResidual other inBefore⟩
    rcases Literal.eq_or_eq_neg sameVariable with rfl | equal
    · exact absent inBefore
    · exact bne_iff_ne.1 differs equal

/-- Dropping repeated literals leaves each of them once. -/
theorem nodup_eraseDups (literals : List Literal) : literals.eraseDups.Nodup := by
  match literals with
  | [] => exact List.nodup_nil
  | head :: rest =>
    rw [List.eraseDups_cons, List.nodup_cons, List.mem_eraseDups]
    exact ⟨by simp, nodup_eraseDups _⟩
termination_by literals.length
decreasing_by exact Nat.lt_succ_of_le (List.length_filter_le _ _)

/-- Literals that clash with none of their own share no variable once repeated ones
are dropped. -/
theorem nodup_var_of_nodup {literals : List Literal} (distinct : literals.Nodup)
    (agreed : ∀ literal ∈ literals, -literal ∉ literals) :
    (literals.map Literal.var).Nodup := by
  rw [List.Nodup, List.pairwise_map]
  refine List.Pairwise.imp_of_mem (fun {first second} inFirst inSecond differs sameVariable => ?_)
    distinct
  rcases Literal.eq_or_eq_neg sameVariable with equal | equal
  · exact differs equal
  · exact agreed second inSecond (equal ▸ inFirst)

/-- The negatives of a residual are the first negative literals of its remainders, each once. -/
theorem mem_negatives {residual : Residual} {literal : Literal} :
    literal ∈ residual.negatives ↔
      ∃ rest ∈ residual, rest.find? (fun literal => !literal.positive) = some literal := by
  rw [negatives, List.mem_eraseDups, List.mem_filterMap]

/-- What is listed among the negatives is negative. -/
theorem positive_of_mem_negatives {residual : Residual} {literal : Literal}
    (member : literal ∈ residual.negatives) : literal.positive = false := by
  obtain ⟨rest, _, found⟩ := mem_negatives.1 member
  simpa using List.find?_some found

/-- Where the search has nothing to branch on, every remainder has a negative literal. One
without would be positive, and the narrowest positive remainder has a first literal unless it is
empty. -/
theorem exists_negative {residual : Residual} (unrefuted : ¬residual.isRefuted = true)
    (ended : residual.branch? = none) {rest : List Literal} (member : rest ∈ residual) :
    ∃ literal ∈ rest, literal ∈ residual.negatives := by
  cases found : rest.find? fun literal => !literal.positive with
  | some literal =>
    exact ⟨literal, List.mem_of_find?_eq_some found, mem_negatives.2 ⟨rest, member, found⟩⟩
  | none =>
    have positive : rest ∈ residual.positives := by
      refine List.mem_filter.2 ⟨member, List.all_eq_true.2 fun literal inside => ?_⟩
      simpa using List.find?_eq_none.1 found literal inside
    unfold branch? at ended
    split at ended
    · next none => rw [none] at positive; cases positive
    · next first others listed =>
      have chosen := narrowest_mem others first
      rw [← listed] at chosen
      rw [List.head?_eq_none_iff] at ended
      rw [ended] at chosen
      exact absurd (isRefuted_iff.2 (List.mem_filter.1 chosen).1) unrefuted

/-- What the search finds extends the trail, shares no variable, and suffices. The induction
follows the search, and the invariant is that the trail is fresh: each literal that it settles is
new to the trail, and making it true loses no model of what is left. -/
theorem search_satisfiable {bound : Option Nat} {residual : Residual} {trail : List Literal}
    {spent : Nat} {witness : List Literal} (fresh : Fresh residual trail)
    (verdict : (residual.search bound trail spent).1 = .satisfiable witness) :
    (witness.map Literal.var).Nodup ∧ (∀ literal ∈ trail, literal ∈ witness) ∧
      ∀ assignment, (∀ literal ∈ witness, literal.Holds assignment) →
        residual.Holds assignment := by
  fun_induction search bound residual trail spent with
  | case1 => cases verdict
  | case2 residual trail spent _ literal found inductionHypothesis =>
    obtain ⟨rest, member, inside⟩ := mem_of_unit? found
    obtain ⟨distinct, keeps, enough⟩ :=
      inductionHypothesis (fresh.assign (fresh.absent rest member literal inside)) verdict
    refine ⟨distinct, fun other later => keeps other (List.mem_cons_of_mem _ later),
      fun assignment holds => ?_⟩
    exact (holds_assign (holds literal (keeps literal List.mem_cons_self))).1
      (enough assignment holds)
  | case3 residual trail spent unrefuted _ ended =>
    cases verdict
    refine ⟨?_, fun literal member => List.mem_append_right _ member, fun assignment holds => ?_⟩
    · rw [List.map_append, List.nodup_append]
      refine ⟨nodup_var_of_nodup (nodup_eraseDups _) fun literal member opposite => ?_,
        fresh.distinct, ?_⟩
      · have := positive_of_mem_negatives member
        have := positive_of_mem_negatives opposite
        simp_all
      · intro first inFirst second inSecond equal
        obtain ⟨literal, member, rfl⟩ := List.mem_map.1 inFirst
        obtain ⟨rest, inResidual, found⟩ := mem_negatives.1 member
        exact fresh.absent rest inResidual literal (List.mem_of_find?_eq_some found)
          (equal ▸ inSecond)
    · intro rest member
      obtain ⟨literal, inside, negative⟩ := exists_negative unrefuted ended member
      exact ⟨literal, inside, holds literal (List.mem_append_left _ negative)⟩
  | case4 => cases verdict
  | case5 residual trail spent _ _ literal branch within after missed first second =>
    obtain ⟨rest, member, inside⟩ := mem_of_branch? branch
    obtain ⟨distinct, keeps, enough⟩ :=
      second (fresh.assign (fresh.absent rest member literal inside)) verdict
    refine ⟨distinct, fun other later => keeps other (List.mem_cons_of_mem _ later),
      fun assignment holds => ?_⟩
    exact (holds_assign (holds (-literal) (keeps _ List.mem_cons_self))).1
      (enough assignment holds)
  | case6 residual trail spent _ _ literal branch within decided first =>
    obtain ⟨rest, member, inside⟩ := mem_of_branch? branch
    obtain ⟨distinct, keeps, enough⟩ :=
      first (fresh.assign (fresh.absent rest member literal inside)) verdict
    refine ⟨distinct, fun other later => keeps other (List.mem_cons_of_mem _ later),
      fun assignment holds => ?_⟩
    exact (holds_assign (holds literal (keeps _ List.mem_cons_self))).1
      (enough assignment holds)

/-- Settling assumptions that hold changes no model, whatever their order and however often
one of them is repeated. -/
theorem holds_foldl_assign {assignment : Assignment} {assumptions : List Literal}
    {residual : Residual} (holds : ∀ literal ∈ assumptions, literal.Holds assignment) :
    (assumptions.foldl assign residual).Holds assignment ↔ residual.Holds assignment := by
  induction assumptions generalizing residual with
  | nil => rfl
  | cons head rest inductionHypothesis =>
    rw [List.foldl_cons,
      inductionHypothesis fun literal member => holds literal (List.mem_cons_of_mem _ member),
      holds_assign (holds head List.mem_cons_self)]

/-- No assumed variable is left once the assumptions are settled, and no literal is left that was
not there before. -/
theorem absent_foldl_assign {assumptions : List Literal} {residual : Residual}
    {rest : List Literal} (member : rest ∈ assumptions.foldl assign residual)
    {literal : Literal} (inside : literal ∈ rest) :
    (∃ before ∈ residual, literal ∈ before) ∧
      literal.var ∉ assumptions.map Literal.var := by
  induction assumptions generalizing residual with
  | nil => exact ⟨⟨rest, member, inside⟩, List.not_mem_nil⟩
  | cons head others inductionHypothesis =>
    obtain ⟨⟨after, inAfter, inside⟩, absent⟩ := inductionHypothesis member
    obtain ⟨before, inResidual, dropped, rfl⟩ := mem_assign.1 inAfter
    obtain ⟨inBefore, differs⟩ := List.mem_filter.1 inside
    refine ⟨⟨before, inResidual, inBefore⟩, ?_⟩
    rw [List.map_cons, List.mem_cons, not_or]
    refine ⟨fun sameVariable => ?_, absent⟩
    rcases Literal.eq_or_eq_neg sameVariable with rfl | equal
    · exact dropped inBefore
    · exact bne_iff_ne.1 differs equal

end Residual

namespace Oracle.Search

/-- Assumptions clash if they contain a literal together with its denial. -/
theorem clash_eq_true_iff {literals : List Literal} :
    clash literals = true ↔ ∃ literal ∈ literals, -literal ∈ literals := by
  simp [clash]

/-- After assumptions that do not clash are settled, the search starts with a trail that
names no variable twice and none that is left. -/
theorem fresh_assumed {clauses : List Clause} {assumptions : List Literal}
    (agreed : ¬clash assumptions = true) :
    Residual.Fresh (assumptions.foldl Residual.assign (Residual.ofClauses clauses))
      assumptions.eraseDups where
  distinct := by
    refine Residual.nodup_var_of_nodup (Residual.nodup_eraseDups _) fun literal member opposite =>
      ?_
    exact agreed (clash_eq_true_iff.2
      ⟨literal, List.mem_eraseDups.1 member, List.mem_eraseDups.1 opposite⟩)
  absent := by
    intro rest member literal inside impossible
    obtain ⟨other, isAssumed, equal⟩ := List.mem_map.1 impossible
    exact (Residual.absent_foldl_assign member inside).2
      (List.mem_map.2 ⟨other, List.mem_eraseDups.1 isAssumed, equal⟩)

/-- A literal is shown where its opposite was all that was assumed, in vain. It may have been
assumed more than once. -/
theorem refuted_of_shown? {decision : Decision} {literal : Literal}
    (found : shown? decision = some literal) :
    decision.verdict = .unsatisfiable ∧ ∀ assumed ∈ decision.assumptions, assumed = -literal := by
  unfold shown? at found
  split at found
  · next verdict assumptions =>
    split at found
    · next alike =>
      cases found
      refine ⟨verdict, fun assumed member => ?_⟩
      rw [Literal.neg_neg]
      rw [assumptions] at member
      rcases List.mem_cons.1 member with rfl | inOthers
      · rfl
      · exact eq_of_beq (List.all_eq_true.1 alike assumed inOthers)
    · cases found
  · cases found

/-- What right decisions have shown is true in every model: where it is false, all that was
assumed is true, in a model of clauses that were said to have none. -/
theorem models_shown {past : List Decision} {clauses : List Clause} {assignment : Assignment}
    (truthful : ∀ decision ∈ past, decision.TrueOf clauses) (models : Models assignment clauses) :
    Models assignment (shown past) := by
  intro clause member
  obtain ⟨literal, found, rfl⟩ := List.mem_map.1 member
  obtain ⟨decision, inPast, found⟩ := List.mem_filterMap.1 found
  obtain ⟨verdict, opposite⟩ := refuted_of_shown? found
  obtain ⟨earlier, refutes⟩ := truthful decision inPast
  rw [Clause.holds_unit]
  by_contra isFalse
  refine refutes verdict ⟨assignment, fun held inside => models held (earlier.subset inside), ?_⟩
  intro assumed among
  rw [opposite assumed among]
  exact Literal.holds_neg.2 isFalse

end Oracle.Search

/-- The branching oracle keeps every promise of a correct decision procedure. What it has learnt
holds in every model, so a conflict that it sees with that is one of the clauses. -/
theorem Oracle.search_lawful : Oracle.search.Lawful where
  propagates := fun refuted => (conflicts_eq_true_iff _).2 refuted.append
  sees := by
    rintro past clauses truthful conflict ⟨assignment, models, _⟩
    have refuted := (conflicts_eq_true_iff _).1 conflict
    have extended := models_append.2 ⟨models, Search.models_shown truthful models⟩
    exact refuted.not_satisfiable (satisfiable_nil_iff.2 ⟨assignment, extended⟩)
  witnesses := by
    intro turn limits clauses assumptions witness verdict
    change Search.decide limits clauses assumptions = _ at verdict
    unfold Search.decide at verdict
    split at verdict
    · cases verdict
    · next agreed =>
      obtain ⟨distinct, keeps, enough⟩ :=
        Residual.search_satisfiable (Search.fresh_assumed agreed) verdict
      refine ⟨distinct, fun literal member => keeps literal (List.mem_eraseDups.2 member),
        fun assignment holds => ?_⟩
      refine Residual.holds_ofClauses.1 ((Residual.holds_foldl_assign ?_).1
        (enough assignment holds))
      exact fun literal member => holds literal (keeps literal (List.mem_eraseDups.2 member))
  refutes := by
    intro turn limits clauses assumptions verdict
    change Search.decide limits clauses assumptions = _ at verdict
    unfold Search.decide at verdict
    rintro ⟨assignment, models, holds⟩
    split at verdict
    · next clashing =>
      obtain ⟨literal, member, opposite⟩ := Search.clash_eq_true_iff.1 clashing
      exact Literal.holds_neg.1 (holds _ opposite) (holds _ member)
    · exact Residual.not_holds_of_search verdict assignment
        ((Residual.holds_foldl_assign holds).2 (Residual.holds_ofClauses.2 models))
  limited := by
    intro turn limits clauses assumptions verdict
    change Search.decide limits clauses assumptions = _ at verdict
    unfold Search.decide at verdict
    split at verdict
    · cases verdict
    · cases conflicts : limits.conflicts with
      | some bound => simp [Limits.isLimited, conflicts]
      | none =>
        refine absurd verdict (Residual.search_ne_unknown ?_)
        simp [Search.branchBound, conflicts]

/-- Where nothing was decided nothing was shown, and propagation has the clauses alone. -/
theorem Oracle.search_propagatesOnly : Oracle.search.PropagatesOnly := by
  intro clauses conflict
  have alone : Clausal.conflicts (clauses ++ []) = true := conflict
  rw [List.append_nil] at alone
  exact (conflicts_eq_true_iff clauses).1 alone

end Clausal
