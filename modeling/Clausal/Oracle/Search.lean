import Clausal.Oracle

/-!
# A decision procedure by branching

The search settles units while there are any. Otherwise, if every clause left has a
negative literal, making all of these true is a model. If not, it branches on the
first literal of a narrowest clause that has none, first true and then false.

Each refuted branch spends a conflict. A bound on conflicts is checked only where
the search would branch, so whatever propagation alone decides is always decided.
A search that learns nothing from its conflicts needs more of them than one that
learns, so each conflict of the bound pays for a fixed number of refuted branches.

Of a decision one thing is kept. If a literal was assumed alone and there was no model,
its opposite is propagated from then on with the clauses that are taken in. A procedure
that learns clauses from its conflicts settles that literal too, and may know more.
-/

namespace Clausal

namespace Residual

/-- The clauses left that have no negative literal. -/
def positives (residual : Residual) : Residual :=
  residual.filter fun rest => rest.all Literal.positive

/-- The narrowest of some clauses, the first of equally narrow ones. -/
def narrowest (first : List Literal) (others : Residual) : List Literal :=
  others.foldl (fun best rest => if rest.length < best.length then rest else best) first

/-- A literal of a narrowest clause that has no negative literal. -/
def branch? (residual : Residual) : Option Literal :=
  match residual.positives with
  | [] => none
  | first :: others => (narrowest first others).head?

/-- One negative literal of every clause left that has one. -/
def negatives (residual : Residual) : List Literal :=
  (residual.filterMap fun rest => rest.find? fun literal => !literal.positive).eraseDups

/-- The narrowest remainder is one of those that were compared. The induction is on the others,
with the narrowest so far in front. -/
theorem narrowest_mem (others : Residual) (first : List Literal) :
    narrowest first others ∈ first :: others := by
  unfold narrowest
  induction others generalizing first with
  | nil => exact List.mem_cons_self
  | cons head others inductionHypothesis =>
    rw [List.foldl_cons]
    rcases List.mem_cons.1 (inductionHypothesis
      (if head.length < first.length then head else first)) with equal | member
    · rw [equal]
      split <;> simp
    · exact List.mem_cons_of_mem _ (List.mem_cons_of_mem _ member)

/-- The literal to branch on occurs in what is left, so either branch shrinks it. -/
theorem mem_of_branch? {residual : Residual} {literal : Literal}
    (found : residual.branch? = some literal) : ∃ rest ∈ residual, literal ∈ rest := by
  unfold branch? at found
  split at found
  · cases found
  · next first others positive =>
    refine ⟨_, ?_, List.mem_of_mem_head? found⟩
    have chosen := narrowest_mem others first
    rw [← positive] at chosen
    exact (List.mem_filter.1 chosen).1

/-- The verdict on what is left, where `trail` lists the literals settled so far and
`spent` the branches refuted so far; the new count comes with it. -/
def search (bound : Option Nat) (residual : Residual) (trail : List Literal) (spent : Nat) :
    Verdict × Nat :=
  if residual.isRefuted then (.unsatisfiable, spent + 1)
  else
    match _ : residual.unit? with
    | some literal => search bound (residual.assign literal) (literal :: trail) spent
    | none =>
      match _ : residual.branch? with
      | none => (.satisfiable (residual.negatives ++ trail), spent)
      | some literal =>
        if bound.any (· ≤ spent) then (.unknown, spent)
        else
          match search bound (residual.assign literal) (literal :: trail) spent with
          | (.unsatisfiable, spent) =>
            search bound (residual.assign (-literal)) (-literal :: trail) spent
          | decided => decided
termination_by residual.size
decreasing_by
  · obtain ⟨rest, member, inside⟩ := mem_of_unit? ‹_›
    exact size_assign_lt ⟨rest, member, Or.inl inside⟩
  · obtain ⟨rest, member, inside⟩ := mem_of_branch? ‹_›
    exact size_assign_lt ⟨rest, member, Or.inl inside⟩
  · obtain ⟨rest, member, inside⟩ := mem_of_branch? ‹_›
    exact size_assign_lt ⟨rest, member, Or.inr (by rwa [Literal.neg_neg])⟩

end Residual

namespace Oracle.Search

/-- How many refuted branches each conflict of a bound pays for. -/
def branchesPerConflict : Nat := 2

/-- The refuted branches that limits allow, if they bound conflicts at all. -/
def branchBound (limits : Limits) : Option Nat :=
  (limits.conflicts.bind Number.integer?).map fun conflicts =>
    conflicts.toNat * branchesPerConflict

/-- Literals that contradict one another. -/
def clash (literals : List Literal) : Bool :=
  literals.any fun literal => literals.contains (-literal)

/-- Decides clauses under assumptions, which are settled first. -/
def decide (limits : Limits) (clauses : List Clause) (assumptions : List Literal) : Verdict :=
  if clash assumptions then .unsatisfiable
  else
    let residual := assumptions.foldl Residual.assign (Residual.ofClauses clauses)
    (residual.search (branchBound limits) assumptions.eraseDups 0).1

/-- The literal that a decision has shown to hold in every model: the opposite of what was
assumed, if this was one literal only and left no model. -/
def shown? (decision : Decision) : Option Literal :=
  match decision.verdict, decision.assumptions with
  | .unsatisfiable, literal :: others => if others.all (· == literal) then some (-literal) else none
  | _, _ => none

/-- What past decisions have shown, each literal as a clause of its own. -/
def shown (past : List Decision) : List Clause := (past.filterMap shown?).map Clause.unit

end Oracle.Search

/-- The oracle that branches. It decides alike at every turn, and propagates what its past
decisions have shown along with the clauses. -/
def Oracle.search : Oracle where
  conflicts past clauses := Clausal.conflicts (clauses ++ Oracle.Search.shown past)
  decide _ := Oracle.Search.decide

end Clausal
