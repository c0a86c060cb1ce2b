import Clausal.Proofs.Closing
import Clausal.Workspace
import Mathlib.Data.List.Induction

/-!
# Where a batch ends

A batch is taken in value by value, and it ends at its first obstacle. An obstacle is a value
that spells no clause, or a clause with which unit propagation refutes the clauses up to it.
Nothing is decided before an obstacle, and nothing after it is looked at. A batch without any
is checked as a whole, by one decision at its end, or by none if it is empty.

So a batch that has no model is not refused before its end unless propagation sees that, and
a value further on that spells no clause is blamed instead.
-/

namespace Clausal

open RuleBase

/-- Why the value spells no clause: it cannot be gone through, or it meets nothing, or the
first thing it meets that spells no literal is no integer or is zero. -/
inductive Datum.Misspells (place : Place) (given : Datum) : Fault → Prop
  | alone (met : given.elements? = none) : Misspells place given (.notIterable given.kind)
  | empty (met : given.elements? = some []) : Misspells place given (.emptyClause place)
  | notLiteral {earlier later : List Datum} {item : Datum}
      (met : given.elements? = some (earlier ++ item :: later))
      (spelled : ∀ before ∈ earlier, ∃ literal, before.Spells literal)
      (noInteger : Argument.integer? item = none) :
      Misspells place given (.notLiteral place item)
  | zeroLiteral {earlier later : List Datum} {item : Datum}
      (met : given.elements? = some (earlier ++ item :: later))
      (spelled : ∀ before ∈ earlier, ∃ literal, before.Spells literal)
      (zero : Argument.integer? item = some 0) :
      Misspells place given (.zeroLiteral place)

/-- What spells no clause is of the wrong kind if it cannot be gone through. Otherwise it is a
wrong value, whatever was met in it. -/
theorem Datum.Misspells.errorClass {place : Place} {given : Datum} {fault : Fault}
    (misspells : given.Misspells place fault) :
    fault.errorClass = if given.elements?.isSome then .value else .type := by
  cases misspells with
  | alone met => rw [met]; rfl
  | empty met => rw [met]; rfl
  | notLiteral met spelled noInteger => rw [met]; rfl
  | zeroLiteral met spelled zero => rw [met]; rfl

namespace Argument

variable {α β : Type} {place : Place} {given : Datum} {fault : Fault}

/-- Of two readings in turn, the first may fail, or the second after it. -/
theorem bind_error_iff {reading : Except Fault α} {next : α → Except Fault β} :
    reading >>= next = .error fault ↔
      reading = .error fault ∨ ∃ value, reading = .ok value ∧ next value = .error fault := by
  cases reading with
  | error found =>
    rw [or_iff_left (by simp)]
    exact ⟨fun same => congrArg Except.error (Except.error.inj same),
      fun same => congrArg Except.error (Except.error.inj same)⟩
  | ok value =>
    rw [or_iff_right (by simp)]
    constructor
    · exact fun failed => ⟨value, rfl, failed⟩
    · rintro ⟨_, ⟨⟩, failed⟩
      exact failed

/-- Reading all items fails as the first of them fails that cannot be read. The induction is on
the items, and those before the first failure have been read. -/
theorem mapM_error_iff {read : α → Except Fault β} {items : List α} :
    items.mapM read = .error fault ↔ ∃ earlier item later, items = earlier ++ item :: later ∧
      (∀ before ∈ earlier, ∃ value, read before = .ok value) ∧ read item = .error fault := by
  induction items with
  | nil => simp [List.mapM_nil, pure, Except.pure]
  | cons first rest inductionHypothesis =>
    rw [List.mapM_cons, bind_error_iff]
    constructor
    · rintro (failed | ⟨value, reads, failed⟩)
      · exact ⟨[], first, rest, rfl, by simp, failed⟩
      · rcases bind_error_iff.mp failed with failed | ⟨values, _, ended⟩
        · obtain ⟨earlier, item, later, rfl, spelled, failed⟩ := inductionHypothesis.mp failed
          refine ⟨first :: earlier, item, later, rfl, ?_, failed⟩
          exact List.forall_mem_cons.mpr ⟨⟨value, reads⟩, spelled⟩
        · cases ended
    · rintro ⟨earlier, item, later, split, spelled, failed⟩
      cases earlier with
      | nil =>
        obtain ⟨rfl, rfl⟩ := List.cons.inj split
        exact Or.inl failed
      | cons before earlier =>
        obtain ⟨rfl, rfl⟩ := List.cons.inj split
        obtain ⟨⟨value, reads⟩, spelled⟩ := List.forall_mem_cons.mp spelled
        have found := inductionHypothesis.mpr ⟨earlier, item, later, rfl, spelled, failed⟩
        exact Or.inr ⟨value, reads, bind_error_iff.mpr (Or.inl found)⟩

/-- What is no integer is refused as such, and of the integers zero is refused. Every other one
codes a literal. -/
theorem literal_error_iff : Argument.literal place given = .error fault ↔
    integer? given = none ∧ fault = .notLiteral place given ∨
      integer? given = some 0 ∧ fault = .zeroLiteral place := by
  unfold Argument.literal
  cases integer? given with
  | none => simp [eq_comm]
  | some code =>
    cases coded : Literal.ofCode? code with
    | none =>
      obtain rfl := Literal.ofCode?_eq_none_iff.mp coded
      simp [coded, eq_comm]
    | some literal =>
      have nonzero : code ≠ 0 := by
        rintro rfl
        cases coded
      simp [coded, nonzero]

/-- Reading a value that can be gone through reads what is met, and something must be. Nothing
else can go wrong once the elements are met. -/
theorem clause_of_elements {items : List Datum} (met : given.elements? = some items) :
    Argument.clause place given = .error fault ↔
      items.mapM (Argument.literal place) = .error fault ∨
        items = [] ∧ fault = .emptyClause place := by
  have met : elements given = .ok items := by rw [elements, met]
  rw [Argument.clause, met]
  change (items.mapM (Argument.literal place) >>= _) = _ ↔ _
  refine bind_error_iff.trans (or_congr_right ?_)
  constructor
  · rintro ⟨literals, reads, failed⟩
    cases made : Clause.ofList? literals with
    | some clause => simp [made] at failed
    | none =>
      obtain rfl := Clause.ofList?_eq_none_iff.mp made
      have nothing : items = [] := List.forall₂_nil_right_iff.mp (mapM_ok_iff.mp reads)
      exact ⟨nothing, (Except.error.inj failed).symm⟩
  · rintro ⟨rfl, rfl⟩
    exact ⟨[], rfl, rfl⟩

/-- A value is refused as a clause for the reason why it spells none. The reasons exclude each
other, since of several faults the first that is met counts. -/
theorem clause_error_iff :
    Argument.clause place given = .error fault ↔ given.Misspells place fault := by
  have readable (items : List Datum) : (∀ item ∈ items, ∃ literal, item.Spells literal) ↔
      ∀ item ∈ items, ∃ literal, Argument.literal place item = .ok literal := by
    simp only [literal_ok_iff]
  constructor
  · intro failed
    cases met : given.elements? with
    | none =>
      rw [Argument.clause, elements, met] at failed
      obtain rfl := Except.error.inj failed
      exact .alone met
    | some items =>
      rcases (clause_of_elements met).mp failed with failed | ⟨rfl, rfl⟩
      · obtain ⟨earlier, item, later, rfl, spelled, failed⟩ := mapM_error_iff.mp failed
        rw [← readable] at spelled
        rcases literal_error_iff.mp failed with ⟨noInteger, rfl⟩ | ⟨zero, rfl⟩
        · exact .notLiteral met spelled noInteger
        · exact .zeroLiteral met spelled zero
      · exact .empty met
  · intro misspells
    cases misspells with
    | alone met => rw [Argument.clause, elements, met]; rfl
    | empty met => exact (clause_of_elements met).mpr (Or.inr ⟨rfl, rfl⟩)
    | notLiteral met spelled noInteger =>
      refine (clause_of_elements met).mpr (Or.inl (mapM_error_iff.mpr ?_))
      exact ⟨_, _, _, rfl, (readable _).mp spelled,
        literal_error_iff.mpr (Or.inl ⟨noInteger, rfl⟩)⟩
    | zeroLiteral met spelled zero =>
      refine (clause_of_elements met).mpr (Or.inl (mapM_error_iff.mpr ?_))
      exact ⟨_, _, _, rfl, (readable _).mp spelled, literal_error_iff.mpr (Or.inr ⟨zero, rfl⟩)⟩

end Argument

open Argument

variable {oracle : Oracle} {backend : String} {limits : Limits} {items before after : List Datum}
  {given : Datum} {fault : Fault} {held clauses : List Clause} {clause : Clause}

/-- Values spell clauses exactly if they are read as these. -/
theorem Argument.spelled_iff : List.Forall₂ Datum.SpellsClause items clauses ↔
    items.map (Argument.clause .construction) = clauses.map .ok := by
  rw [← List.forall₂_eq_eq_eq, List.forall₂_map_left_iff, List.forall₂_map_right_iff]
  simp only [clause_ok_iff]

/-- A batch spells one list of clauses at most. -/
theorem Argument.spelled_unique {others : List Clause}
    (spelled : List.Forall₂ Datum.SpellsClause items clauses)
    (alsoSpelled : List.Forall₂ Datum.SpellsClause items others) : clauses = others := by
  have same : clauses.map (Except.ok (ε := Fault)) = others.map .ok :=
    (spelled_iff.mp spelled).symm.trans (spelled_iff.mp alsoSpelled)
  exact List.map_injective_iff.mpr (fun _ _ => Except.ok.inj) same

/-- A list is read value by value, also an empty one. -/
theorem Argument.batch_list (items : List Datum) :
    batch (.list items) = items.map (Argument.clause .construction) := by
  cases items <;> rfl

/-- With these values before it, the value is an obstacle to a batch, for this reason. -/
inductive Obstacle (before : List Datum) (given : Datum) : Fault → Prop
  /-- The value spells no clause. -/
  | malformed {fault : Fault} (misspells : given.Misspells .construction fault) :
      Obstacle before given fault
  /-- Propagation refutes the clauses up to the one that the value spells. -/
  | conflict {earlier : List Clause} {clause : Clause}
      (spelled : List.Forall₂ Datum.SpellsClause before earlier)
      (spells : given.SpellsClause clause) (refuted : Refuted (earlier ++ [clause])) :
      Obstacle before given (.contradiction (some clause))

/-- No value of the batch is an obstacle to it. -/
def Clear (items : List Datum) : Prop :=
  ∀ before given after fault, items = before ++ given :: after → ¬Obstacle before given fault

/-- What precedes a value in a clear batch is clear. -/
theorem Clear.of_append (clear : Clear (before ++ after)) : Clear before := by
  rintro earlier given later fault rfl
  apply clear earlier given (later ++ after) fault
  rw [List.append_assoc, List.cons_append]

/-- A batch is clear if it spells clauses and propagation does not refute them. What is refuted
early would be refuted with everything that follows. -/
theorem clear_of_spelled (spelled : List.Forall₂ Datum.SpellsClause items clauses)
    (unrefuted : ¬Refuted clauses) : Clear items := by
  rintro before given after fault rfl obstacle
  rw [spelled_iff, List.map_append, List.map_cons] at spelled
  obtain ⟨earlier, others, rfl, readBefore, spelled⟩ := List.map_eq_append_iff.mp spelled.symm
  obtain ⟨clause, later, rfl, readGiven, -⟩ := List.map_eq_cons_iff.mp spelled
  cases obstacle with
  | malformed misspells =>
    have failed := clause_error_iff.mpr misspells
    rw [← readGiven] at failed
    cases failed
  | @conflict same blamed spelled spells refuted =>
    obtain rfl : earlier = same := spelled_unique (spelled_iff.mpr readBefore.symm) spelled
    obtain rfl : clause = blamed := Except.ok.inj (readGiven.trans (clause_ok_iff.mpr spells))
    have whole : Refuted (earlier ++ [clause] ++ later) := refuted.append
    rw [List.append_assoc] at whole
    exact unrefuted whole

/-- After clauses that propagation does not refute, a value is an obstacle or goes with
them. -/
theorem obstacle_or_spelled (spelled : List.Forall₂ Datum.SpellsClause before held)
    (given : Datum) : (∃ fault, Obstacle before given fault) ∨
      ∃ clause, List.Forall₂ Datum.SpellsClause (before ++ [given]) (held ++ [clause]) ∧
        ¬Refuted (held ++ [clause]) := by
  cases read : Argument.clause .construction given with
  | error fault => exact Or.inl ⟨fault, .malformed (clause_error_iff.mp read)⟩
  | ok clause =>
    have spells : given.SpellsClause clause := clause_ok_iff.mp read
    by_cases refuted : Refuted (held ++ [clause])
    · exact Or.inl ⟨_, .conflict spelled spells refuted⟩
    · exact Or.inr ⟨clause, List.rel_append spelled (.cons spells .nil), refuted⟩

/-- A clear batch spells clauses, and propagation does not refute them. The induction takes
in the values from first to last. -/
theorem Clear.spelled (clear : Clear items) :
    ∃ clauses, List.Forall₂ Datum.SpellsClause items clauses ∧ ¬Refuted clauses := by
  induction items using List.reverseRecOn with
  | nil =>
    refine ⟨[], .nil, ?_⟩
    rintro ⟨_, member, _⟩
    cases member
  | append_singleton items last inductionHypothesis =>
    obtain ⟨held, spelled, _⟩ := inductionHypothesis clear.of_append
    rcases obstacle_or_spelled spelled last with ⟨fault, obstacle⟩ | ⟨clause, spelled, unrefuted⟩
    · exact absurd obstacle (clear items last [] fault rfl)
    · exact ⟨held ++ [clause], spelled, unrefuted⟩

/-- A batch is clear or has a first obstacle. The induction adds items at the end, where the last
one decides only if those before it are clear. -/
theorem clear_or_obstructed (items : List Datum) : Clear items ∨
    ∃ before given after fault, items = before ++ given :: after ∧ Clear before ∧
      Obstacle before given fault := by
  induction items using List.reverseRecOn with
  | nil =>
    refine Or.inl fun before given after fault split => ?_
    simp at split
  | append_singleton items last inductionHypothesis =>
    rcases inductionHypothesis with clear | ⟨before, given, after, fault, rfl, clear, obstacle⟩
    · obtain ⟨held, spelled, _⟩ := clear.spelled
      rcases obstacle_or_spelled spelled last with ⟨fault, obstacle⟩ | ⟨clause, spelled, unrefuted⟩
      · exact Or.inr ⟨items, last, [], fault, rfl, clear, obstacle⟩
      · exact Or.inl (clear_of_spelled spelled unrefuted)
    · exact Or.inr ⟨before, given, after ++ [last], fault, by simp, clear, obstacle⟩

namespace RuleBase

/-- Open and new, but for these clauses, which were stored and handed to the solver without
any decision. -/
def holding (backend : String) (limits : Limits) (clauses : List Clause) : RuleBase :=
  { empty backend limits with
    clauses := clauses
    highest := Clause.highestOf (clauses.flatMap Clause.literals)
    solver := some ⟨clauses, [], false⟩ }

/-- To store a clause where nothing was decided leaves the solver one clause behind, until the
clause is inserted. -/
theorem store_holding : ((holding backend limits held).store clause) =
    { holding backend limits (held ++ [clause]) with solver := some ⟨held, [], false⟩ } := by
  simp [store, holding, Clause.highestOf_append, Clause.highest]

/-- A clause that leaves propagation without a conflict is stored, and that is all: without a
decision behind it the solver sees no other conflict. -/
theorem insert_holding (plain : oracle.PropagatesOnly) (unrefuted : ¬Refuted (held ++ [clause])) :
    (holding backend limits held).insert oracle clause =
      (.ok true, holding backend limits (held ++ [clause])) := by
  have silent : oracle.conflicts [] (held ++ [clause]) = false := by
    rw [← Bool.not_eq_true]
    exact fun conflict => unrefuted (plain conflict)
  have stored : (holding backend limits held).insert oracle clause =
      (.ok !oracle.conflicts [] (held ++ [clause]),
        { (holding backend limits held).store clause with
          solver := some ⟨held ++ [clause], [], oracle.conflicts [] (held ++ [clause])⟩ }) := rfl
  rw [stored, silent, store_holding]
  rfl

/-- A conflict that propagation sees is reported, and no question is put about it. -/
theorem insert_refuted (lawful : oracle.Lawful) (backend : String) (limits : Limits)
    (refuted : Refuted (held ++ [clause])) :
    ((holding backend limits held).insert oracle clause).1 = .ok false := by
  have conflict : oracle.conflicts [] (held ++ [clause]) = true := lawful.propagates refuted
  change (Except.ok !oracle.conflicts [] (held ++ [clause]) : Except Fault Bool) = _
  rw [conflict]
  rfl

/-- Clauses that propagation does not refute together are stored one by one, and then the
rest of the batch is taken in. -/
theorem load_holding (plain : oracle.PropagatesOnly) (unrefuted : ¬Refuted (held ++ clauses))
    (rest : List (Except Fault Clause)) :
    (holding backend limits held).load oracle (clauses.map .ok ++ rest) =
      (holding backend limits (held ++ clauses)).load oracle rest := by
  induction clauses generalizing held with
  | nil => rw [List.append_nil, List.map_nil, List.nil_append]
  | cons clause later inductionHypothesis =>
    have regrouped : held ++ clause :: later = held ++ [clause] ++ later := by simp
    rw [regrouped] at unrefuted ⊢
    have silent : ¬Refuted (held ++ [clause]) := fun refuted => unrefuted refuted.append
    rw [List.map_cons, List.cons_append, load, insert_holding plain silent]
    exact inductionHypothesis unrefuted

/-- The same for the values that spell the clauses, from the beginning of the batch. -/
theorem load_spelled (plain : oracle.PropagatesOnly) (backend : String) (limits : Limits)
    (spelled : List.Forall₂ Datum.SpellsClause items clauses) (unrefuted : ¬Refuted clauses)
    (rest : List (Except Fault Clause)) :
    (empty backend limits).load oracle (items.map (Argument.clause .construction) ++ rest) =
      (holding backend limits clauses).load oracle rest := by
  rw [spelled_iff.mp spelled]
  have together : ¬Refuted ([] ++ clauses) := unrefuted
  exact load_holding plain together rest

/-- What fails fails for the same reason once it is closed. -/
theorem built_result (backend : String) (outcome : Outcome Unit) :
    (built backend outcome).1 = outcome.1 := by
  rcases outcome with ⟨_ | _, _⟩ <;> rfl

/-- At its first obstacle a batch ends, for the reason that makes it one, and no question was
put before. -/
theorem create_obstacle (lawful : oracle.Lawful) (plain : oracle.PropagatesOnly)
    (backend : String) (limits : Limits) (clear : Clear before)
    (obstacle : Obstacle before given fault) (after : List Datum) :
    ∃ base, create oracle backend limits (Argument.batch (.list (before ++ given :: after))) =
      (.error fault, base) ∧ base.questions = [] ∧ base.decisions = 0 := by
  obtain ⟨held, spelled, unrefuted⟩ := clear.spelled
  rw [create_eq, batch_list, List.map_append, List.map_cons,
    load_spelled plain backend limits spelled unrefuted]
  cases obstacle with
  | malformed misspells =>
    rw [clause_error_iff.mpr misspells]
    exact ⟨_, rfl, questions_close _, close_decisions _⟩
  | @conflict earlier clause alsoSpelled spells refuted =>
    obtain rfl : held = earlier := spelled_unique spelled alsoSpelled
    have objects := insert_refuted lawful backend limits refuted
    obtain ⟨_, decisions, _, journal⟩ := insert_kept oracle (holding backend limits held) clause
    rw [clause_ok_iff.mpr spells, load]
    rcases inserted : (holding backend limits held).insert oracle clause with ⟨result, stored⟩
    rw [inserted] at objects decisions journal
    obtain rfl : result = .ok false := objects
    have silent : (stored.refuse (some clause)).2.questions = stored.questions :=
      questions_silent { stored with trusted := false } rfl
    refine ⟨_, rfl, ?_, (close_decisions _).trans decisions⟩
    exact (questions_close _).trans (silent.trans (questions_congr journal))

/-- A clear batch is stored whole, and only then checked, if there is anything in it. -/
theorem load_clear (plain : oracle.PropagatesOnly) (backend : String) (limits : Limits)
    (clear : Clear items) :
    ∃ clauses, List.Forall₂ Datum.SpellsClause items clauses ∧
      (empty backend limits).load oracle (items.map (Argument.clause .construction)) =
        if clauses.isEmpty then (.ok (), holding backend limits clauses)
        else (holding backend limits clauses).certify oracle none := by
  obtain ⟨clauses, spelled, unrefuted⟩ := clear.spelled
  have taken := load_spelled plain backend limits spelled unrefuted []
  rw [List.append_nil] at taken
  rw [taken, load]
  exact ⟨clauses, spelled, rfl⟩

/-- A rule base that holds clauses and has decided nothing is coherent. There is nothing that
it remembers or refutes. -/
theorem coherent_holding (backend : String) (limits : Limits) (clauses : List Clause) :
    (holding backend limits clauses).Coherent where
  highest := rfl
  sound := by
    rintro solver ⟨⟩
    exact Solver.sound_unasked clauses
  distrusted := Bool.noConfusion

/-- The check of a clear batch: it puts one question, or none if the batch is empty, and if
that does not give up, it tells whether the batch has a model. -/
theorem create_clear (lawful : oracle.Lawful) (plain : oracle.PropagatesOnly)
    (countable : limits.isCountable = true) (clear : Clear items) {outcome : Outcome Unit}
    (created : create oracle backend limits (Argument.batch (.list items)) = outcome) :
    outcome.2.questions = (if items.isEmpty then [] else [.assuming []]) ∧
      outcome.2.decisions = (if items.isEmpty then 0 else 1) ∧
      ∃ clauses, List.Forall₂ Datum.SpellsClause items clauses ∧
        ((∀ assumptions, outcome.1 ≠ .error (.gaveUp assumptions limits)) →
          (Satisfiable clauses [] → outcome.1 = .ok ()) ∧
          (¬Satisfiable clauses [] → outcome.1 = .error (.contradiction none))) := by
  obtain ⟨clauses, spelled, loaded⟩ := load_clear plain backend limits clear
  have concludes := concludes_built backend
  rw [create_eq, batch_list, loaded] at created
  rw [← created, concludes.questions, concludes.decisions, built_result]
  cases spelled with
  | nil =>
    have blank : Satisfiable [] [] := ⟨fun _ => false, by simp [Models], by simp⟩
    exact ⟨rfl, rfl, [], .nil, fun _ => ⟨fun _ => rfl, fun hopeless => absurd blank hopeless⟩⟩
  | @cons given clause items clauses spells others =>
    let full := holding backend limits (clause :: clauses)
    have isOpen : full.isOpen = true := rfl
    have checked : Checked full none (full.certify oracle none) :=
      checked_certify lawful (coherent_holding backend limits (clause :: clauses)) none
    obtain ⟨questions, decisions⟩ := certify_asks isOpen countable oracle none
    refine ⟨questions, decisions, clause :: clauses, .cons spells others, fun answered => ?_⟩
    obtain ⟨accepted, refused⟩ := checked.verdict fun fault failed declines => by
      obtain ⟨assumptions, rfl⟩ := declines.of_countable isOpen countable
      exact answered assumptions failed
    refine ⟨fun satisfiable => ?_, refused⟩
    obtain ⟨_, ended⟩ := accepted satisfiable
    exact ended

end RuleBase

/-- Construction from a list of values, under valid limits and a known backend, by an oracle
that sees no conflict but those of propagation before it decides. The list has a first
obstacle or is clear. An obstacle is blamed for the failure, whatever follows it, and
no question was put. A clear list leads to one question, or to none if it is empty; if that
does not give up, construction succeeds exactly if the clauses have a model, and blames none
of them otherwise. What succeeds has the clauses in order, is trusted and has made one
decision, or none for an empty list. What fails has released its solver, once. -/
theorem batch_ends_at_first_obstacle (lawful : oracle.Lawful) (plain : oracle.PropagatesOnly)
    (items : List Datum) {named : Option Datum} {timeout conflicts : Datum}
    (valid : Argument.limits timeout conflicts = .ok limits)
    (countable : limits.isCountable = true) (known : Backend.read named = .ok backend) :
    ∃ result base,
      Workspace.build oracle (.list items) named timeout conflicts = .ok (result, base) ∧
      (Clear items ∨ ∃ before given after fault, items = before ++ given :: after ∧
        Clear before ∧ Obstacle before given fault) ∧
      (∀ before given after fault, items = before ++ given :: after → Clear before →
        Obstacle before given fault →
          result = .error fault ∧ base.questions = [] ∧ base.decisions = 0) ∧
      (Clear items → base.questions = (if items.isEmpty then [] else [.assuming []]) ∧
        base.decisions = (if items.isEmpty then 0 else 1) ∧
        ∃ clauses, List.Forall₂ Datum.SpellsClause items clauses ∧
          ((∀ assumptions, result ≠ .error (.gaveUp assumptions limits)) →
            (Satisfiable clauses [] → result = .ok ()) ∧
            (¬Satisfiable clauses [] → result = .error (.contradiction none)))) ∧
      (result = .ok () → List.Forall₂ Datum.SpellsClause items base.clauses ∧
        base.trusted = true ∧ base.decisions = (if items.isEmpty then 0 else 1)) ∧
      (∀ fault, result = .error fault →
        base.solver = none ∧ base.journal.countP Event.isClosed = 1) := by
  have made : Workspace.build oracle (.list items) named timeout conflicts =
      .ok (create oracle backend limits (Argument.batch (.list items))) := by
    rw [Workspace.build, valid, known]
    rfl
  rcases created : create oracle backend limits (Argument.batch (.list items)) with ⟨result, base⟩
  have stops (before given after fault) (split : items = before ++ given :: after)
      (clear : Clear before) (obstacle : Obstacle before given fault) :
      result = .error fault ∧ base.questions = [] ∧ base.decisions = 0 := by
    obtain ⟨_, failed, silent⟩ := create_obstacle lawful plain backend limits clear obstacle after
    rw [← split, created] at failed
    obtain ⟨rfl, rfl⟩ := Prod.mk.inj failed
    exact ⟨rfl, silent⟩
  have ends (clear : Clear items) := create_clear lawful plain countable clear created
  refine ⟨result, base, created ▸ made, clear_or_obstructed items, stops, ends, ?_, ?_⟩
  · rintro rfl
    rcases clear_or_obstructed items with clear | ⟨_, _, _, _, split, clear, obstacle⟩
    · obtain ⟨_, counted, clauses, spelled, _⟩ := ends clear
      have stored : base.clauses = clauses := by
        rw [create_clauses lawful created, batch_list, spelled_iff.mp spelled, readable_ok]
      obtain ⟨_, _, _, trusted, _⟩ := create_ok lawful created
      exact ⟨stored ▸ spelled, trusted, counted⟩
    · obtain ⟨failed, _⟩ := stops _ _ _ _ split clear obstacle
      cases failed
  · intro fault failed
    have constructed : Constructed result base := ⟨oracle, backend, limits, _, lawful, created⟩
    have closed : base.isOpen = false := constructed.closed (by simp [failed])
    exact constructed.isSealed.closed closed

/-- The four clauses over two variables, as values. -/
def Datum.corners : List Datum :=
  [.list [.whole 1, .whole 2], .list [.whole (-1), .whole 2], .list [.whole 1, .whole (-2)],
    .list [.whole (-1), .whole (-2)]]

/-- The four clauses have no model, but propagation does not see it. Then a clause with a zero
is blamed, no question is put, and that the last value cannot be gone through never shows. -/
theorem corners_yield_to_zero :
    ∃ clauses, List.Forall₂ Datum.SpellsClause Datum.corners clauses ∧
      ¬Satisfiable clauses [] ∧ Oracle.search.Lawful ∧ Oracle.search.PropagatesOnly ∧
      Argument.limits .null (.whole 1000) = .ok ⟨none, some (.whole 1000)⟩ ∧
      (Limits.mk none (some (.whole 1000))).isCountable = true ∧
      Backend.read none = .ok "m22" ∧
      ∃ base, Workspace.build .search
          (.list (Datum.corners ++ [.list [.whole 3, .whole 0], .null])) none .null (.whole 1000) =
        .ok (.error (.zeroLiteral .construction), base) ∧
        base.questions = [] ∧ base.decisions = 0 ∧ base.solver = none ∧
        base.journal.countP Event.isClosed = 1 := by
  let clauses := readable (Argument.batch (.list Datum.corners))
  have spelled : List.Forall₂ Datum.SpellsClause Datum.corners clauses :=
    spelled_iff.mpr (by cbv)
  have hopeless : ¬Satisfiable clauses [] := hopeless_of_search (by cbv)
  have silent : Clausal.conflicts clauses = false := by cbv
  have unrefuted : ¬Refuted clauses := by
    rw [← conflicts_eq_true_iff, silent]
    exact Bool.false_ne_true
  have valid : Argument.limits .null (.whole 1000) = .ok ⟨none, some (.whole 1000)⟩ := by cbv
  have known : Backend.read none = .ok "m22" := rfl
  have obstacle : Obstacle Datum.corners (.list [.whole 3, .whole 0])
      (.zeroLiteral .construction) :=
    .malformed (clause_error_iff.mp (by cbv))
  obtain ⟨result, base, made, _, stops, _, _, released⟩ := batch_ends_at_first_obstacle
    Oracle.search_lawful Oracle.search_propagatesOnly
    (Datum.corners ++ [.list [.whole 3, .whole 0], .null]) valid rfl known
  obtain ⟨rfl, questions, decisions⟩ :=
    stops _ _ _ _ rfl (clear_of_spelled spelled unrefuted) obstacle
  exact ⟨clauses, spelled, hopeless, Oracle.search_lawful, Oracle.search_propagatesOnly, valid, rfl,
    known, base, made, questions, decisions, released _ rfl⟩

end Clausal
