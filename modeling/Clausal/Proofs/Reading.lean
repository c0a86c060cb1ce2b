import Clausal.Call

/-!
# Reading fails for malformed arguments only

What goes wrong when loose values are read lies in the values: none of the faults of a
rule base can be among it. The laws follow the ways in which readings are put together.
-/

namespace Clausal

/-- The faults that lie in an argument, found before anything is done with it. -/
def Fault.Malformed : Fault → Prop
  | notLiteral _ _ | zeroLiteral _ | emptyClause _ | notIterable _ | noNegation _ | noMagnitude _ =>
    True
  | _ => False

/-- A malformed argument is a wrong value or a value of the wrong kind, and no refusal. A caller
who catches refusals does not catch it. -/
theorem Fault.Malformed.errorClass {fault : Fault} (malformed : fault.Malformed) :
    fault.errorClass = .value ∨ fault.errorClass = .type := by
  cases fault with
  | notLiteral place given => exact Or.inl rfl
  | zeroLiteral place => exact Or.inl rfl
  | emptyClause place => exact Or.inl rfl
  | notIterable kind => exact Or.inr rfl
  | noNegation kind => exact Or.inr rfl
  | noMagnitude kind => exact Or.inr rfl
  | _ => exact malformed.elim

namespace Argument

variable {α β : Type} {place : Place}

/-- The reading fails only if what is read is malformed. -/
def Careful (reading : Except Fault α) : Prop :=
  ∀ fault, reading = .error fault → fault.Malformed

/-- A reading that does not fail is careful. -/
theorem careful_ok (value : α) : Careful (.ok value) := nofun

/-- A reading that fails is careful if its fault lies in an argument. -/
theorem careful_error {fault : Fault} (malformed : fault.Malformed) :
    Careful (.error fault : Except Fault α) := by
  rintro _ ⟨⟩
  exact malformed

/-- Of two readings in turn, either may fail. -/
theorem Careful.bind {reading : Except Fault α} {next : α → Except Fault β}
    (careful : Careful reading) (goesOn : ∀ value, Careful (next value)) :
    Careful (reading >>= next) := by
  cases reading with
  | error fault => exact careful_error (careful fault rfl)
  | ok value => exact goesOn value

/-- A list of readings is careful if each of them is. It fails with the first that fails. -/
theorem careful_mapM {read : α → Except Fault β} (each : ∀ item, Careful (read item))
    (items : List α) : Careful (items.mapM read) := by
  induction items with
  | nil => exact careful_ok []
  | cons item rest inductionHypothesis =>
    rw [List.mapM_cons]
    exact (each item).bind fun _ => inductionHypothesis.bind fun _ => careful_ok _

/-- A value fails to be gone through for its kind only. -/
theorem careful_elements (given : Datum) : Careful (elements given) := by
  unfold elements
  split
  · exact careful_ok _
  · exact careful_error trivial

/-- A literal is not read if there is no integer, or if it is zero. -/
theorem careful_literal (given : Datum) : Careful (literal place given) := by
  unfold literal
  split
  · exact careful_error trivial
  · split
    · exact careful_ok _
    · exact careful_error trivial

/-- A clause is not read if it cannot be gone through, for one of its literals, or for want of
any. -/
theorem careful_clause (given : Datum) : Careful (clause place given) := by
  refine (careful_elements given).bind fun items => (careful_mapM careful_literal items).bind ?_
  intro literals
  cases Clause.ofList? literals with
  | some clause => exact careful_ok clause
  | none => exact careful_error trivial

/-- Several clauses are read as each of them is. -/
theorem careful_clauses (given : Datum) : Careful (clauses place given) :=
  (careful_elements given).bind (careful_mapM careful_clause)

/-- Literals are read from a single integer or from a value that can be gone through. -/
theorem careful_literals (given : Datum) : Careful (literals place given) := by
  unfold literals
  split
  · exact (careful_literal given).bind fun _ => careful_ok _
  · exact (careful_elements given).bind (careful_mapM careful_literal)

/-- The two ends of an entailment are read as literals, after the conclusion was negated. What
has no negation is malformed too. -/
theorem careful_entailment (premise conclusion : Datum) :
    Careful (entailment premise conclusion) := by
  unfold entailment
  have ends (denied : Datum) : Careful (do
      let premise ← literal .satisfiability premise
      let denied ← literal .satisfiability denied
      return (premise, -denied)) :=
    (careful_literal premise).bind fun _ => (careful_literal denied).bind fun _ => careful_ok _
  cases conclusion with
  | number value => exact ends (.number value.neg)
  | null => exact careful_error trivial
  | text value => exact careful_error trivial
  | list items => exact careful_error trivial
  | record entries => exact careful_error trivial

/-- Pinned numbers are read from anything that has a magnitude. -/
theorem careful_pinned (given : Datum) : Careful (pinned given) := by
  refine (careful_elements given).bind fun items => (careful_mapM (fun item => ?_) items).bind
    fun _ => careful_ok _
  cases item with
  | number value => exact careful_ok _
  | null => exact careful_error trivial
  | text value => exact careful_error trivial
  | list items => exact careful_error trivial
  | record entries => exact careful_error trivial

/-- Every clause of a batch is read with care. A value that is no batch at all is one reading
that fails. -/
theorem careful_batch {given : Datum} {reading : Except Fault Clause}
    (member : reading ∈ batch given) : Careful reading := by
  unfold batch at member
  split at member
  · cases member
  · split at member
    · obtain ⟨item, _, rfl⟩ := List.mem_map.mp member
      exact careful_clause item
    · obtain rfl := List.mem_singleton.mp member
      exact careful_error trivial

end Argument

open Argument

/-- A call that cannot be read has a malformed argument. Each call reads its own arguments in its
own way, and all of these are careful. -/
theorem Call.careful_read (call : Call) : Careful call.read := by
  cases call with
  | tellFact literal => exact (careful_literal literal).bind fun _ => careful_ok _
  | tell clause => exact (careful_clause clause).bind fun _ => careful_ok _
  | satisfiableWith literals => exact (careful_literals literals).bind fun _ => careful_ok _
  | alongside clauses => exact (careful_clauses clauses).bind fun _ => careful_ok _
  | alongsideClause clause => exact (careful_clause clause).bind fun _ => careful_ok _
  | modelWith literals => exact (careful_literals literals).bind fun _ => careful_ok _
  | entails premise conclusion =>
    exact (careful_entailment premise conclusion).bind fun _ => careful_ok _
  | entailsHard premise conclusion =>
    exact (careful_entailment premise conclusion).bind fun _ => careful_ok _
  | agreement determined =>
    cases determined with
    | null => exact careful_ok _
    | number value => exact (careful_pinned _).bind fun _ => careful_ok _
    | text value => exact (careful_pinned _).bind fun _ => careful_ok _
    | list items => exact (careful_pinned _).bind fun _ => careful_ok _
    | record entries => exact (careful_pinned _).bind fun _ => careful_ok _
  | satisfiable => exact careful_ok _
  | model => exact careful_ok _
  | backbone => exact careful_ok _
  | classes => exact careful_ok _
  | survey => exact careful_ok _
  | close => exact careful_ok _
  | enter => exact careful_ok _
  | describe => exact careful_ok _
  | listing => exact careful_ok _

end Clausal
