import Clausal.Proofs.Coherence

/-!
# Additions and the check that follows them

An addition stores its clause before anything is checked, and the check has three
ends. Either the clauses have a model and the addition is accepted, or they have none,
the addition is refused and trust is lost, or no decision was made and nobody is the
wiser: the clause stays, and so does the trust, deserved or not.

The laws compare the outcome with the rule base that merely stores the clause.
-/

namespace Clausal

/-- The highest number of two lists together is the higher of the two. -/
theorem Clause.highestOf_append (first second : List Literal) :
    highestOf (first ++ second) = max (highestOf first) (highestOf second) := by
  induction first with
  | nil => exact (Nat.zero_max _).symm
  | cons head rest inductionHypothesis =>
    rw [List.cons_append, highestOf, highestOf, inductionHypothesis, Nat.max_assoc]

namespace RuleBase

variable {α : Type} {oracle : Oracle} {base : RuleBase} {clause : Clause}

/-- The clauses of a rule base were checked with this outcome, where a refusal blames
the given clause. -/
structure Checked (base : RuleBase) (blamed : Option Clause) (outcome : Outcome α) : Prop where
  coherent : outcome.2.Coherent
  backend : outcome.2.backend = base.backend
  limits : outcome.2.limits = base.limits
  clauses : outcome.2.clauses = base.clauses
  highest : outcome.2.highest = base.highest
  isOpen : outcome.2.isOpen = base.isOpen
  accepted : ∀ result, outcome.1 = .ok result →
    Satisfiable base.clauses [] ∧ outcome.2.trusted = base.trusted
  failed : ∀ fault, outcome.1 = .error fault →
    fault = .contradiction blamed ∧ ¬Satisfiable base.clauses [] ∧ outcome.2.trusted = false ∨
      base.Declines fault ∧ outcome.2.trusted = base.trusted

/-- Only the stored part of the checked rule base counts, so a check goes on from any rule base
with the same stored part. -/
theorem Checked.of_unaltered {stored : RuleBase} {blamed : Option Clause} {outcome : Outcome α}
    (unaltered : Unaltered base stored) (checked : Checked stored blamed outcome) :
    Checked base blamed outcome where
  coherent := checked.coherent
  backend := checked.backend.trans unaltered.backend
  limits := checked.limits.trans unaltered.limits
  clauses := checked.clauses.trans unaltered.clauses
  highest := checked.highest.trans unaltered.highest
  isOpen := checked.isOpen.trans unaltered.isOpen
  accepted := by
    intro result ended
    rw [← unaltered.clauses, ← unaltered.trusted]
    exact checked.accepted result ended
  failed := by
    intro fault ended
    rw [← unaltered.clauses, ← unaltered.trusted]
    rcases checked.failed fault ended with refused | ⟨declines, trusted⟩
    · exact Or.inl refused
    · exact Or.inr ⟨declines.of_unaltered unaltered, trusted⟩

/-- If the decision was made, the check tells whether the clauses have a model. It fails for a
contradiction then, and for nothing else. -/
theorem Checked.verdict {blamed : Option Clause} {outcome : Outcome α}
    (checked : Checked base blamed outcome)
    (made : ∀ fault, outcome.1 = .error fault → ¬base.Declines fault) :
    (Satisfiable base.clauses [] → ∃ result, outcome.1 = .ok result) ∧
      (¬Satisfiable base.clauses [] → outcome.1 = .error (.contradiction blamed)) := by
  cases ended : outcome.1 with
  | ok result =>
    have satisfiable : Satisfiable base.clauses [] := (checked.accepted result ended).1
    exact ⟨fun _ => ⟨result, rfl⟩, fun hopeless => absurd satisfiable hopeless⟩
  | error fault =>
    rcases checked.failed fault ended with ⟨rfl, hopeless, _⟩ | ⟨declines, _⟩
    · exact ⟨fun satisfiable => absurd satisfiable hopeless, fun _ => rfl⟩
    · exact absurd declines (made fault ended)

/-- A decision that was not made leaves the check undone. The failure is one that the rule base
declines with, and trust is kept. -/
theorem checked_of_declines {stored : RuleBase} {blamed : Option Clause} {fault : Fault}
    (coherent : stored.Coherent) (unaltered : Unaltered base stored)
    (declines : base.Declines fault) :
    Checked base blamed ((.error fault, stored) : Outcome α) where
  coherent := coherent
  backend := unaltered.backend
  limits := unaltered.limits
  clauses := unaltered.clauses
  highest := unaltered.highest
  isOpen := unaltered.isOpen
  accepted := by rintro _ ⟨⟩
  failed := by
    rintro _ ⟨⟩
    exact Or.inr ⟨declines, unaltered.trusted⟩

/-- Storing a clause gives no further reason to decline. -/
theorem declines_store {fault : Fault} (declines : (base.store clause).Declines fault) :
    base.Declines fault := by
  cases declines with
  | closed closed => exact .closed closed
  | gaveUp assumptions limited => exact .gaveUp assumptions limited
  | uncountable uncountable => exact .uncountable uncountable

/-- Refusing is right where there is no model. It is the only step of a check that ends trust. -/
theorem checked_refuse {blamed : Option Clause} (coherent : base.Coherent)
    (hopeless : ¬Satisfiable base.clauses []) : Checked base blamed (base.refuse blamed) where
  coherent := ⟨coherent.highest, coherent.sound, fun _ => hopeless⟩
  backend := rfl
  limits := rfl
  clauses := rfl
  highest := rfl
  isOpen := rfl
  accepted := by rintro _ ⟨⟩
  failed := by
    rintro _ ⟨⟩
    exact Or.inl ⟨rfl, hopeless, rfl⟩

/-- The full check makes one decision and refuses what has no model. The decision is about the
solver's clauses, which coherence makes the stored ones. -/
theorem checked_certify (lawful : oracle.Lawful) (coherent : base.Coherent)
    (blamed : Option Clause) : Checked base blamed (base.certify oracle blamed) := by
  obtain ⟨after, unaltered, answered, declined⟩ :=
    conducted_ask lawful coherent (.assuming [])
  unfold certify
  split
  · next fault asked given =>
    rw [given] at after unaltered declined
    exact checked_of_declines after unaltered (declined fault rfl)
  · next asked given =>
    rw [given] at after unaltered answered
    obtain ⟨_, ⟨_, _, refuted, ⟨rfl, rfl⟩, _⟩, _⟩ := answered none rfl
    have hopeless : ¬Satisfiable base.clauses [] := by
      rw [← Question.affirmed_assuming]
      exact refuted
    refine (checked_refuse after ?_).of_unaltered unaltered
    rw [show asked.clauses = base.clauses from unaltered.clauses]
    exact hopeless
  · next witness asked given =>
    rw [given] at after unaltered answered
    obtain ⟨_, ⟨_, _, truthful, ⟨rfl, rfl⟩, _⟩, _⟩ := answered (some witness) rfl
    have satisfiable : Satisfiable base.clauses [] :=
      Question.affirmed_assuming.mp (truthful.isSome_iff.mp rfl)
    refine ⟨after, unaltered.backend, unaltered.limits, unaltered.clauses, unaltered.highest,
      unaltered.isOpen, fun _ _ => ⟨satisfiable, unaltered.trusted⟩, ?_⟩
    rintro _ ⟨⟩

/-- Storing a clause keeps coherence, whatever solver is put beside it, if that holds the
clause too and is right. -/
theorem Coherent.stored {solver : Option Solver} (coherent : base.Coherent)
    (sound : ∀ held, solver = some held → held.Sound (base.clauses ++ [clause])) :
    { base.store clause with solver := solver }.Coherent where
  highest := by
    change max base.highest clause.highest = _
    rw [store, List.flatMap_append, Clause.highestOf_append, ← coherent.highest,
      List.flatMap_singleton, Clause.highest]
  sound := sound
  distrusted := by
    intro distrusted satisfiable
    exact coherent.distrusted distrusted satisfiable.of_append

/-- Handing a clause to the solver stores it. The solver's objection is well founded,
and it is missing only if there is no solver. -/
theorem insert_spec (lawful : oracle.Lawful) (coherent : base.Coherent) (clause : Clause) :
    (base.insert oracle clause).2.Coherent ∧
      Unaltered (base.store clause) (base.insert oracle clause).2 ∧
      ((base.insert oracle clause).1 = .ok false → ¬Satisfiable (base.clauses ++ [clause]) []) ∧
      ∀ fault, (base.insert oracle clause).1 = .error fault →
        (base.store clause).Declines fault := by
  unfold insert
  split
  · next isClosed =>
    have stored : { base.store clause with solver := base.solver }.Coherent :=
      coherent.stored (by simp [isClosed])
    refine ⟨stored, .refl _, ?_, ?_⟩
    · rintro ⟨⟩
    · rintro _ ⟨⟩
      exact .closed (by simp [isOpen, store, isClosed])
  · next solver isOpen =>
    have sound : (solver.insert oracle clause).Sound (base.clauses ++ [clause]) :=
      (coherent.sound solver isOpen).insert lawful clause
    refine ⟨coherent.stored ?_, ⟨rfl, rfl, rfl, rfl, rfl, ?_⟩, ?_, ?_⟩
    · rintro _ ⟨⟩
      exact sound
    · simp [RuleBase.isOpen, store, isOpen]
    · intro objects
      exact sound.refuted (by simpa using objects)
    · rintro _ ⟨⟩

/-- An addition is the check of the rule base that stores the clause, whether the solver sees a
conflict by itself, is asked, or is not there any more. -/
theorem checked_add (lawful : oracle.Lawful) (coherent : base.Coherent) (clause : Clause) :
    Checked (base.store clause) (some clause) (base.add oracle clause) := by
  obtain ⟨after, unaltered, objection, missing⟩ := insert_spec lawful coherent clause
  unfold add
  split
  · next fault stored given =>
    rw [given] at after unaltered missing
    exact checked_of_declines after unaltered (missing fault rfl)
  · next stored given =>
    rw [given] at after unaltered objection
    refine (checked_refuse after ?_).of_unaltered unaltered
    rw [show stored.clauses = base.clauses ++ [clause] from unaltered.clauses]
    exact objection rfl
  · next stored given =>
    rw [given] at after unaltered
    exact (checked_certify lawful after (some clause)).of_unaltered unaltered

/-- A batch that loads keeps coherence and trust and leaves clauses that have a model.
The induction is on the batch: each clause is stored in turn, and the end of the batch
is reached without a check only where nothing is stored. -/
theorem load_ok (lawful : oracle.Lawful) (coherent : base.Coherent)
    {batch : List (Except Fault Clause)} {after : RuleBase}
    (loaded : base.load oracle batch = (.ok (), after)) :
    after.Coherent ∧ after.limits = base.limits ∧ after.isOpen = base.isOpen ∧
      after.trusted = base.trusted ∧ Satisfiable after.clauses [] := by
  induction batch generalizing base with
  | nil =>
    rw [load] at loaded
    split at loaded
    · next none =>
      obtain ⟨-, rfl⟩ := Prod.mk.inj loaded
      have empty : base.clauses = [] := List.isEmpty_iff.mp none
      refine ⟨coherent, rfl, rfl, rfl, ?_⟩
      rw [empty, satisfiable_nil_iff]
      exact ⟨fun _ => false, fun clause member => absurd member List.not_mem_nil⟩
    · have checked : Checked base none (base.certify oracle none) :=
        checked_certify lawful coherent none
      rw [loaded] at checked
      obtain ⟨satisfiable, trusted⟩ := checked.accepted () rfl
      rw [← show after.clauses = base.clauses from checked.clauses] at satisfiable
      exact ⟨checked.coherent, checked.limits, checked.isOpen, trusted, satisfiable⟩
  | cons head rest inductionHypothesis =>
    cases head with
    | error fault => cases loaded
    | ok clause =>
      obtain ⟨stored, unaltered, _, _⟩ := insert_spec lawful coherent clause
      rw [load] at loaded
      split at loaded
      · cases loaded
      · cases loaded
      · next inserted given =>
        rw [given] at stored unaltered
        obtain ⟨final, limits, isOpen, trusted, satisfiable⟩ :=
          inductionHypothesis stored loaded
        exact ⟨final, limits.trans unaltered.limits, isOpen.trans unaltered.isOpen,
          trusted.trans unaltered.trusted, satisfiable⟩

/-- A rule base that could be built is open and trusted, and its clauses have a model. Nothing
else that is built can be reached by a run. -/
theorem create_ok (lawful : oracle.Lawful) {backend : String} {limits : Limits}
    {batch : List (Except Fault Clause)}
    (created : create oracle backend limits batch = (.ok (), base)) :
    base.Coherent ∧ base.limits = limits ∧ base.isOpen = true ∧ base.trusted = true ∧
      Satisfiable base.clauses [] := by
  unfold create at created
  split at created
  · cases created
  · next loaded given =>
    obtain ⟨-, rfl⟩ := Prod.mk.inj created
    obtain ⟨coherent, sameLimits, isOpen, trusted, satisfiable⟩ :=
      load_ok lawful (coherent_empty backend limits) given
    exact ⟨coherent.log _, sameLimits, isOpen, trusted, satisfiable⟩

end RuleBase

end Clausal
