import Clausal.Proofs.Additions

/-!
# Batches that are taken in

A batch ends in one of four ways. It is stored clause by clause and has a model; or a
clause of it cannot be read; or the clauses have no model, whether the solver sees a
conflict on the way or the decision at the end tells; or that decision is not made.
-/

namespace Clausal.RuleBase

variable {oracle : Oracle} {base after : RuleBase} {batch : List (Except Fault Clause)}
  {fault : Fault}

/-- The clauses of a batch that can be read. -/
def readable (batch : List (Except Fault Clause)) : List Clause :=
  batch.filterMap Except.toOption

/-- Of clauses that were all read, all are readable. -/
@[simp] theorem readable_ok (clauses : List Clause) :
    readable (clauses.map Except.ok) = clauses := by
  simp [readable, List.filterMap_map, Function.comp_def, Except.toOption]

/-- What loads has been stored in order. A batch that loads has no unreadable clause, so nothing
of it is left out. -/
theorem load_clauses (lawful : oracle.Lawful) (coherent : base.Coherent)
    (loaded : base.load oracle batch = (.ok (), after)) :
    after.clauses = base.clauses ++ readable batch := by
  induction batch generalizing base with
  | nil =>
    rw [readable, List.filterMap_nil, List.append_nil]
    rw [load] at loaded
    split at loaded
    · obtain ⟨-, rfl⟩ := Prod.mk.inj loaded
      rfl
    · have checked : Checked base none (base.certify oracle none) :=
        checked_certify lawful coherent none
      rw [loaded] at checked
      exact checked.clauses
  | cons head rest inductionHypothesis =>
    cases head with
    | error fault => cases loaded
    | ok clause =>
      obtain ⟨stored, unaltered, _, _⟩ := insert_spec lawful coherent clause
      rw [load] at loaded
      split at loaded
      · cases loaded
      · cases loaded
      · next inserted given =>
        rw [given] at stored unaltered
        rw [inductionHypothesis stored loaded, unaltered.clauses, store, List.append_assoc]
        rfl

/-- What does not load has an unreadable clause or no model, or no decision was made. The
induction is on the batch; a conflict on the way rules out a model of all readable clauses. -/
theorem load_failed (lawful : oracle.Lawful) (coherent : base.Coherent)
    (failed : base.load oracle batch = (.error fault, after)) :
    .error fault ∈ batch ∨
      (∃ blamed, fault = .contradiction blamed) ∧
        ¬Satisfiable (base.clauses ++ readable batch) [] ∨
      base.Declines fault := by
  induction batch generalizing base with
  | nil =>
    rw [load] at failed
    split at failed
    · cases failed
    · have checked : Checked base none (base.certify oracle none) :=
        checked_certify lawful coherent none
      rw [failed] at checked
      rcases checked.failed fault rfl with ⟨blamed, hopeless, _⟩ | ⟨declines, _⟩
      · refine Or.inr (Or.inl ⟨⟨none, blamed⟩, ?_⟩)
        rwa [readable, List.filterMap_nil, List.append_nil]
      · exact Or.inr (Or.inr declines)
  | cons head rest inductionHypothesis =>
    cases head with
    | error unread =>
      obtain ⟨⟨⟩, -⟩ := Prod.mk.inj failed
      exact Or.inl List.mem_cons_self
    | ok clause =>
      obtain ⟨stored, unaltered, objection, missing⟩ := insert_spec lawful coherent clause
      have together : base.clauses ++ readable (.ok clause :: rest) =
          base.clauses ++ [clause] ++ readable rest := by
        rw [List.append_assoc]
        rfl
      rw [load] at failed
      split at failed
      · next fault inserted given =>
        obtain ⟨⟨⟩, -⟩ := Prod.mk.inj failed
        rw [given] at missing
        exact Or.inr (Or.inr (declines_store (missing fault rfl)))
      · next inserted given =>
        obtain ⟨⟨⟩, -⟩ := Prod.mk.inj failed
        rw [given] at objection
        refine Or.inr (Or.inl ⟨⟨some clause, rfl⟩, fun satisfiable => ?_⟩)
        rw [together] at satisfiable
        exact objection rfl satisfiable.of_append
      · next inserted given =>
        rw [given] at stored unaltered
        rcases inductionHypothesis stored failed with unread | refused | declines
        · exact Or.inl (List.mem_cons_of_mem _ unread)
        · rw [show inserted.clauses = base.clauses ++ [clause] from unaltered.clauses] at refused
          exact Or.inr (Or.inl (together ▸ refused))
        · exact Or.inr (Or.inr (declines_store (declines.of_unaltered unaltered)))

/-- What could be built stores its batch in order. -/
theorem create_clauses (lawful : oracle.Lawful) {backend : String} {limits : Limits}
    (created : create oracle backend limits batch = (.ok (), base)) :
    base.clauses = readable batch := by
  unfold create at created
  split at created
  · cases created
  · next loaded given =>
    obtain ⟨-, rfl⟩ := Prod.mk.inj created
    exact (load_clauses lawful (coherent_empty backend limits) given).trans (List.nil_append _)

/-- What could not be built has an unreadable clause or no model, or its one decision gave
up or could not be made. -/
theorem create_failed (lawful : oracle.Lawful) {backend : String} {limits : Limits}
    (failed : (create oracle backend limits batch).1 = .error fault) :
    .error fault ∈ batch ∨
      (∃ blamed, fault = .contradiction blamed) ∧ ¬Satisfiable (readable batch) [] ∨
      (empty backend limits).Declines fault := by
  unfold create at failed
  split at failed
  · next given =>
    obtain ⟨⟩ := failed
    exact load_failed lawful (coherent_empty backend limits) given
  · cases failed

end Clausal.RuleBase
