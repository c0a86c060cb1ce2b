import Clausal.Proofs.Exhaustion
import Clausal.Workspace

/-!
# What an operation leaves in the audit trail

Every operation adds some events to the audit trail and takes none away. Its trail tells how
many decisions it made, what came of each, whether it gave up, whether it refused a clause
and whether it released the solver, and all of this agrees with the outcome. What is recorded
of a decision is true of the clauses that are stored when the operation ends; an addition
stores its clause before it decides, and nothing else changes the clauses.

Trails of operations that follow one another are joined end to end.
-/

namespace Clausal

namespace Event

/-- The event records that a decision was answered. -/
def isAnswered : Event → Bool
  | decided _ _ => true
  | _ => false

/-- The event records that a decision gave up. -/
def isGivenUp : Event → Bool
  | gaveUp _ _ => true
  | _ => false

/-- The event records that the solver was released. -/
def isClosed : Event → Bool
  | closed => true
  | _ => false

/-- The event records that a fact or a clause was taken in. -/
def isAddition : Event → Bool
  | factAdded _ | clauseAdded _ => true
  | _ => false

/-- The event records no decision, no refusal and no release. -/
def isNeutral : Event → Bool
  | decided _ _ | gaveUp _ _ | contradiction _ | closed => false
  | _ => true

/-- An event that does not speak for the rule base is neutral. -/
theorem isNeutral_of_unofficial {event : Event} (unofficial : event.isOfficial = false) :
    event.isNeutral = true := by
  cases event with
  | decided question affirmed => cases unofficial
  | gaveUp question limits => cases unofficial
  | contradiction clause => cases unofficial
  | closed => cases unofficial
  | _ => rfl

/-- An addition is recorded in the name of the rule base, and it is no decision. -/
theorem of_isAddition {event : Event} (addition : event.isAddition = true) :
    event.isOfficial = true ∧ event.question? = none := by
  cases event with
  | factAdded literal => exact ⟨rfl, rfl⟩
  | clauseAdded clause => exact ⟨rfl, rfl⟩
  | _ => cases addition

/-- Every decision is either answered or given up. The induction is on the events, of which no
other is about a decision. -/
theorem length_questions (events : List Event) :
    (events.filterMap question?).length = events.countP isAnswered + events.countP isGivenUp := by
  induction events with
  | nil => rfl
  | cons event rest inductionHypothesis =>
    rw [List.filterMap_cons, List.countP_cons, List.countP_cons]
    cases event with
    | decided question affirmed =>
      simp only [question?, isAnswered, isGivenUp, List.length_cons, inductionHypothesis, if_true,
        Bool.false_eq_true, if_false]
      omega
    | gaveUp question limits =>
      simp only [question?, isAnswered, isGivenUp, List.length_cons, inductionHypothesis, if_true,
        Bool.false_eq_true, if_false]
      omega
    | _ => exact inductionHypothesis

end Event

namespace Fault

/-- The fault comes of no decision and of no refusal. -/
def Untraced : Fault → Prop
  | gaveUp _ _ | contradiction _ | notWhole .decimal => False
  | _ => True

/-- One for the fault of a decision that is counted and then cannot be made under its limit
on conflicts. -/
def unmade : Fault → Nat
  | notWhole .decimal => 1
  | _ => 0

/-- A malformed argument is found before anything is done, and leaves no trace. -/
theorem Malformed.untraced {fault : Fault} (malformed : fault.Malformed) : fault.Untraced := by
  cases fault <;> trivial

/-- Only a bound that cannot be counted makes a decision count that was not made. -/
theorem unmade_eq_zero {fault : Fault} (other : fault ≠ .notWhole .decimal) :
    fault.unmade = 0 := by
  unfold unmade
  split
  · exact absurd rfl other
  · rfl

end Fault

/-- One if the operation ended in a decision that was counted and not made. -/
def Outcome.unmade {α : Type} (outcome : Outcome α) : Nat :=
  match outcome.1 with
  | .error fault => fault.unmade
  | .ok _ => 0

/-- An operation that does not fail for such a bound has made every decision it counts. -/
theorem Outcome.unmade_eq_zero {α : Type} {outcome : Outcome α}
    (other : outcome.1 ≠ .error (.notWhole .decimal)) : outcome.unmade = 0 := by
  unfold unmade
  cases ended : outcome.1 with
  | ok value => rfl
  | error fault => exact Fault.unmade_eq_zero fun same => other (same ▸ ended)

namespace RuleBase

variable {α β : Type} {oracle : Oracle} {base : RuleBase} {events : List Event}

/-- The operation on the rule base recorded these events, oldest first. -/
structure Trail (base : RuleBase) (events : List Event) (outcome : Outcome α) : Prop where
  /-- What was recorded before is kept. -/
  journal : outcome.2.journal = events.reverse ++ base.journal
  /-- Decisions that were made are counted, and so is one that could not be made. -/
  counted : outcome.2.decisions =
    base.decisions + (events.filterMap Event.question?).length + outcome.unmade
  /-- Answers are recorded as they are. -/
  truthful : ∀ question affirmed, .decided question affirmed ∈ events →
    (affirmed = true ↔ question.Affirmed outcome.2.clauses)
  /-- The operation gave up exactly if it recorded so. -/
  gaveUp : ∀ assumptions limits,
    (∃ question : Question, question.assumptions = assumptions ∧ .gaveUp question limits ∈ events) ↔
      outcome.1 = .error (.gaveUp assumptions limits)
  /-- The operation refused exactly if it recorded so. -/
  refused : ∀ blamed, .contradiction blamed ∈ events ↔ outcome.1 = .error (.contradiction blamed)
  /-- The solver was released exactly as often as recorded. -/
  released : events.countP Event.isClosed + outcome.2.isOpen.toNat = base.isOpen.toNat

/-- Nothing was done. -/
theorem trail_nil (base : RuleBase) (value : α) : Trail base [] (.ok value, base) where
  journal := rfl
  counted := rfl
  truthful := nofun
  gaveUp := fun _ _ => ⟨nofun, nofun⟩
  refused := fun _ => ⟨nofun, nofun⟩
  released := Nat.zero_add _

/-- A neutral event is recorded, and nothing else happens. It is none of those that the fields of
a trail speak of. -/
theorem trail_note (base : RuleBase) {event : Event} (neutral : event.isNeutral = true)
    (value : α) : Trail base [event] (.ok value, base.log event) := by
  cases event with
  | decided question affirmed => cases neutral
  | gaveUp question limits => cases neutral
  | contradiction clause => cases neutral
  | closed => cases neutral
  | _ =>
    refine ⟨rfl, rfl, by simp, by simp, by simp, ?_⟩
    exact Nat.zero_add _

/-- A refusal is recorded. -/
theorem trail_refuse (base : RuleBase) (blamed : Option Clause) :
    Trail base [.contradiction blamed] (base.refuse blamed) := by
  refine ⟨rfl, rfl, by simp, by simp [refuse], ?_, ?_⟩
  · intro other
    simp [refuse, eq_comm]
  · exact Nat.zero_add _

/-- Failing for another reason than a decision or a refusal leaves no trace, in the journal or in
the count. -/
theorem trail_failed (base : RuleBase) {fault : Fault} (untraced : fault.Untraced) :
    Trail base [] ((.error fault, base) : Outcome α) where
  journal := rfl
  counted := by
    have made : fault.unmade = 0 := by
      refine Fault.unmade_eq_zero ?_
      rintro rfl
      exact untraced
    exact congrArg (base.decisions + ·) made.symm
  truthful := nofun
  gaveUp := by
    intro assumptions limits
    refine ⟨nofun, ?_⟩
    rintro ⟨⟩
    exact untraced.elim
  refused := by
    intro blamed
    refine ⟨nofun, ?_⟩
    rintro ⟨⟩
    exact untraced.elim
  released := Nat.zero_add _

/-- The trails of two operations in turn, if the first succeeds. What the second one records
comes after what the first one did, and the failure is that of the second. -/
theorem Trail.followed {first : Outcome α} {whole : Outcome β} {value : α} {later : List Event}
    (earlier : Trail base events first) (succeeded : first.1 = .ok value)
    (trail : Trail first.2 later whole) (clauses : whole.2.clauses = first.2.clauses) :
    Trail base (events ++ later) whole where
  journal := by
    rw [trail.journal, earlier.journal, List.reverse_append, List.append_assoc]
  counted := by
    have made : first.unmade = 0 := Outcome.unmade_eq_zero (by rw [succeeded]; nofun)
    rw [trail.counted, earlier.counted, made, List.filterMap_append, List.length_append]
    omega
  truthful := by
    intro question affirmed member
    rcases List.mem_append.mp member with before | after
    · rw [clauses]
      exact earlier.truthful question affirmed before
    · exact trail.truthful question affirmed after
  gaveUp := by
    intro assumptions limits
    rw [← trail.gaveUp]
    refine exists_congr fun question => and_congr_right fun same => ?_
    rw [List.mem_append, or_iff_right]
    intro before
    have failed := (earlier.gaveUp assumptions limits).mp ⟨question, same, before⟩
    rw [succeeded] at failed
    cases failed
  refused := by
    intro blamed
    rw [← trail.refused, List.mem_append, or_iff_right]
    intro before
    have failed := (earlier.refused blamed).mp before
    rw [succeeded] at failed
    cases failed
  released := by
    rw [List.countP_append, ← earlier.released, ← trail.released]
    omega

/-- A rule base that merely stores another clause has recorded and counted as much. -/
theorem Trail.of_stored {stored : RuleBase} {outcome : Outcome α}
    (trail : Trail stored events outcome) (journal : stored.journal = base.journal)
    (decisions : stored.decisions = base.decisions) (isOpen : stored.isOpen = base.isOpen) :
    Trail base events outcome where
  journal := journal ▸ trail.journal
  counted := decisions ▸ trail.counted
  truthful := trail.truthful
  gaveUp := trail.gaveUp
  refused := trail.refused
  released := isOpen ▸ trail.released

/-- One question ends in an answer, by giving up, by meeting a closed rule base, or under a
limit on conflicts that is no whole number. -/
theorem ask_ends (oracle : Oracle) (base : RuleBase) (question : Question) :
    (∃ answer after, base.ask oracle question = (.ok answer, after) ∧
      after.journal = .decided question answer.isSome :: base.journal ∧
      after.decisions = base.decisions + 1) ∨
    (∃ after, base.ask oracle question =
        (.error (.gaveUp question.assumptions base.limits), after) ∧
      after.journal = .gaveUp question base.limits :: base.journal ∧
      after.decisions = base.decisions + 1) ∨
    base.ask oracle question = (.error .closed, base) ∨
    base.ask oracle question = (.error (.notWhole .decimal), base.count) := by
  rcases ask_cases base question with closed | ⟨_, fails⟩ | ⟨database, learned, put⟩
  · exact Or.inr (Or.inr (Or.inl (closed oracle)))
  · exact Or.inr (Or.inr (Or.inr (fails oracle)))
  · rw [put oracle]
    cases oracle.decide base.decisions base.limits database question.assumptions with
    | satisfiable witness => exact Or.inl ⟨some witness, _, rfl, rfl, rfl⟩
    | unsatisfiable => exact Or.inl ⟨none, _, rfl, rfl, rfl⟩
    | unknown => exact Or.inr (Or.inl ⟨_, rfl, rfl, rfl⟩)

/-- The trail of one question is the record of its decision, if one was made. One that could not
be made is counted without a record. -/
theorem trail_ask (lawful : oracle.Lawful) (coherent : base.Coherent) (question : Question) :
    ∃ events, Trail base events (base.ask oracle question) ∧
      ∀ event ∈ events, event.question? ≠ none := by
  have conducted := conducted_ask lawful coherent question
  have isOpen := conducted.unaltered.isOpen
  rcases ask_ends oracle base question with ⟨answer, after, ended, journal, decisions⟩ |
    ⟨after, ended, journal, decisions⟩ | ended | ended
  · refine ⟨[.decided question answer.isSome], ?_, by simp [Event.question?]⟩
    have truth : answer.isSome = true ↔ question.Affirmed after.clauses := by
      rw [ended] at conducted
      obtain ⟨_, ⟨_, _, truthful, ⟨rfl, rfl⟩, _⟩, _⟩ := conducted.answered answer rfl
      rw [show after.clauses = base.clauses from conducted.unaltered.clauses]
      exact truthful.isSome_iff
    rw [ended] at isOpen ⊢
    refine ⟨journal, decisions, ?_, by simp, by simp, ?_⟩
    · intro other affirmed member
      obtain ⟨rfl, rfl⟩ : other = question ∧ affirmed = answer.isSome := by simpa using member
      exact truth
    · exact (Nat.zero_add _).trans (congrArg Bool.toNat isOpen)
  · refine ⟨[.gaveUp question base.limits], ?_, by simp [Event.question?]⟩
    rw [ended] at isOpen ⊢
    refine ⟨journal, decisions, by simp, ?_, by simp, ?_⟩
    · intro assumptions limits
      simp only [List.mem_singleton, Event.gaveUp.injEq, Except.error.injEq, Fault.gaveUp.injEq]
      constructor
      · rintro ⟨_, same, rfl, limited⟩
        exact ⟨same, limited.symm⟩
      · rintro ⟨same, limited⟩
        exact ⟨question, same, rfl, limited.symm⟩
    · exact (Nat.zero_add _).trans (congrArg Bool.toNat isOpen)
  · rw [ended]
    exact ⟨[], trail_failed base trivial, by simp⟩
  · rw [ended]
    exact ⟨[], ⟨rfl, rfl, by simp, by simp, by simp, Nat.zero_add _⟩, by simp⟩

/-- In an open rule base with a limit that can be counted, the full check puts one question
and counts it. -/
theorem certify_asks (isOpen : base.isOpen = true) (countable : base.limits.isCountable = true)
    (oracle : Oracle) (blamed : Option Clause) :
    (base.certify oracle blamed).2.questions = base.questions ++ [.assuming []] ∧
      (base.certify oracle blamed).2.decisions = base.decisions + 1 := by
  have concludes := concludes_certified blamed
  rw [certify_eq, concludes.questions, concludes.decisions]
  obtain ⟨solver, held⟩ := Option.isSome_iff_exists.mp isOpen
  have settled : base.ask oracle (.assuming []) = settle
      { base.count with
        solver := some (solver.learn []
          (oracle.decide base.decisions base.limits solver.database [])) }
      (.assuming []) (oracle.decide base.decisions base.limits solver.database []) := by
    simp [ask, held, countable]
  rw [settled, settle_questions]
  refine ⟨rfl, ?_⟩
  cases oracle.decide base.decisions base.limits solver.database [] <;> rfl

/-- Under a limit on conflicts that is no whole number the full check is counted and fails. -/
theorem certify_uncountable (isOpen : base.isOpen = true)
    (uncountable : base.limits.isCountable = false) (oracle : Oracle) (blamed : Option Clause) :
    base.certify oracle blamed = (.error (.notWhole .decimal), base.count) := by
  obtain ⟨solver, held⟩ := Option.isSome_iff_exists.mp isOpen
  simp [certify, ask, held, uncountable]

/-- A failure has the same trail, whatever a success would have been. -/
theorem Trail.cast {fault : Fault} {after : RuleBase}
    (trail : Trail base events ((.error fault, after) : Outcome α)) :
    Trail base events ((.error fault, after) : Outcome β) where
  journal := trail.journal
  counted := trail.counted
  truthful := trail.truthful
  gaveUp := by simpa using trail.gaveUp
  refused := by simpa using trail.refused
  released := trail.released

/-- Inquiries record their decisions, and what else they record they record in their own
name. The induction is on the inquiry; what is left of it after a question starts from the
rule base that the question leaves behind. -/
theorem trail_run (lawful : oracle.Lawful) (coherent : base.Coherent) {inquiry : Inquiry α}
    (discreet : inquiry.Discreet) :
    ∃ events, Trail base events (inquiry.run oracle base) ∧
      ∀ event ∈ events, event.isOfficial = true → event.question? ≠ none := by
  induction inquiry generalizing base with
  | done result => exact ⟨[], trail_nil base result, by simp⟩
  | note event rest inductionHypothesis =>
    obtain ⟨unofficial, rest⟩ := discreet
    obtain ⟨later, trail, only⟩ := inductionHypothesis (coherent.log event) rest
    have noted := trail_note base (Event.isNeutral_of_unofficial unofficial) ()
    refine ⟨[event] ++ later, noted.followed rfl trail ?_, ?_⟩
    · exact (conducted_run lawful (coherent.log event) _).unaltered.clauses
    · intro found member official
      rcases List.mem_cons.mp member with rfl | after
      · rw [unofficial] at official
        cases official
      · exact only found after official
  | ask question next inductionHypothesis =>
    have conducted := conducted_ask lawful coherent question
    obtain ⟨events, trail, only⟩ := trail_ask lawful coherent question
    rw [Inquiry.run]
    rcases asked : base.ask oracle question with ⟨fault | answer, after⟩ <;>
      rw [asked] at conducted trail
    · exact ⟨events, trail.cast, fun event member _ => only event member⟩
    · obtain ⟨later, onwards, alsoOnly⟩ :=
        inductionHypothesis answer conducted.coherent (discreet answer)
      refine ⟨events ++ later, trail.followed rfl onwards ?_, ?_⟩
      · exact (conducted_run lawful conducted.coherent _).unaltered.clauses
      · intro event member official
        rcases List.mem_append.mp member with before | after
        · exact only event before
        · exact alsoOnly event after official

/-- The full check records its decision, and a refusal if there is one. That a clause was added
is not its to record. -/
theorem trail_certify (lawful : oracle.Lawful) (coherent : base.Coherent)
    (blamed : Option Clause) :
    ∃ events, Trail base events (base.certify oracle blamed) ∧
      ∀ event ∈ events, event.isAddition = false := by
  obtain ⟨events, trail, only⟩ := trail_ask lawful coherent (.assuming [])
  have silent (event : Event) (member : event ∈ events) : event.isAddition = false :=
    Bool.eq_false_iff.mpr fun addition => only event member (Event.of_isAddition addition).2
  rw [certify_eq]
  rcases asked : base.ask oracle (.assuming []) with ⟨fault | _ | witness, after⟩ <;>
    rw [asked] at trail
  · exact ⟨events, trail.cast, silent⟩
  · have refused := trail_refuse after blamed
    refine ⟨events ++ [.contradiction blamed], trail.followed rfl refused rfl, ?_⟩
    simpa [or_imp, forall_and, Event.isAddition] using silent
  · exact ⟨events ++ [], trail.followed rfl (trail_nil after ()) rfl, by simpa using silent⟩

/-- Only a closed rule base has no solver to hand a clause to. -/
theorem insert_failed {clause : Clause} {fault : Fault}
    (failed : (base.insert oracle clause).1 = .error fault) : fault = .closed := by
  unfold insert at failed
  split at failed
  · exact (Except.error.inj failed).symm
  · cases failed

/-- An operation that begins with storing a clause leaves the trail of what follows, or of
the refusal. -/
theorem trail_inserted (lawful : oracle.Lawful) (coherent : base.Coherent) {clause : Clause}
    (next : RuleBase → Outcome Unit)
    (goesOn : ∀ stored : RuleBase, base.insert oracle clause = (.ok true, stored) →
      stored.Coherent →
        ∃ events, Trail stored events (next stored) ∧ ∀ event ∈ events, event.isAddition = false) :
    ∃ events, Trail base events
        (match base.insert oracle clause with
          | (.error fault, stored) => (.error fault, stored)
          | (.ok false, stored) => stored.refuse (some clause)
          | (.ok true, stored) => next stored) ∧
      ∀ event ∈ events, event.isAddition = false := by
  obtain ⟨_, decisions, _, journal⟩ := insert_kept oracle base clause
  obtain ⟨stillCoherent, unaltered, _⟩ := insert_spec lawful coherent clause
  have isOpen : (base.insert oracle clause).2.isOpen = base.isOpen := unaltered.isOpen
  rcases inserted : base.insert oracle clause with ⟨fault | _ | _, stored⟩ <;>
    rw [inserted] at decisions journal stillCoherent isOpen
  · obtain rfl : fault = .closed := insert_failed (congrArg Prod.fst inserted)
    have trail := trail_failed (α := Unit) stored (show Fault.Untraced .closed from trivial)
    exact ⟨[], trail.of_stored journal decisions isOpen, by simp⟩
  · refine ⟨[.contradiction (some clause)], ?_, by simp [Event.isAddition]⟩
    exact (trail_refuse stored (some clause)).of_stored journal decisions isOpen
  · obtain ⟨events, trail, silent⟩ := goesOn stored inserted stillCoherent
    exact ⟨events, trail.of_stored journal decisions isOpen, silent⟩

/-- An addition leaves the trail of putting its clause in and certifying. That it was added is
not recorded by the addition itself. -/
theorem trail_add (lawful : oracle.Lawful) (coherent : base.Coherent) (clause : Clause) :
    ∃ events, Trail base events (base.add oracle clause) ∧
      ∀ event ∈ events, event.isAddition = false :=
  trail_inserted lawful coherent (fun stored => stored.certify oracle (some clause))
    fun _ _ coherent => trail_certify lawful coherent (some clause)

/-- Taking in a batch leaves the trail of its one decision or of a refusal. A clause that
cannot be read must not pass for either. -/
theorem trail_load (lawful : oracle.Lawful) (coherent : base.Coherent)
    {batch : List (Except Fault Clause)}
    (unread : ∀ fault, (base.load oracle batch).1 = .error fault → .error fault ∈ batch →
      fault.Untraced) :
    ∃ events, Trail base events (base.load oracle batch) ∧
      ∀ event ∈ events, event.isAddition = false := by
  induction batch generalizing base with
  | nil =>
    rw [load]
    split
    · exact ⟨[], trail_nil base (), by simp⟩
    · exact trail_certify lawful coherent none
  | cons head rest inductionHypothesis =>
    cases head with
    | error fault =>
      exact ⟨[], trail_failed base (unread fault rfl List.mem_cons_self), by simp⟩
    | ok clause =>
      refine trail_inserted lawful coherent (fun stored => stored.load oracle rest) ?_
      intro stored inserted coherent
      refine inductionHypothesis coherent fun fault failed member => ?_
      refine unread fault ?_ (List.mem_cons_of_mem _ member)
      rw [load, inserted]
      exact failed

/-- An operation that closes the rule base at its end leaves a record of that, unless the
rule base was closed before. -/
theorem Trail.closed {result : Except Fault α} {after : RuleBase}
    (trail : Trail base events (result, after)) :
    ∃ closing, Trail base (events ++ closing) (result, after.close) ∧
      ∀ event ∈ closing, event = .closed := by
  obtain ⟨journal, counted, truthful, gaveUp, refused, released⟩ := trail
  cases held : after.solver with
  | none =>
    refine ⟨[], ?_, by simp⟩
    rw [close, held, List.append_nil]
    exact ⟨journal, counted, truthful, gaveUp, refused, released⟩
  | some solver =>
    have isOpen : after.isOpen = true := by rw [RuleBase.isOpen, held, Option.isSome_some]
    refine ⟨[.closed], ?_, by simp⟩
    rw [close, held]
    refine ⟨?_, ?_, ?_, ?_, ?_, ?_⟩
    · rw [List.reverse_append, List.append_assoc, ← journal]
      rfl
    · rw [List.filterMap_append]
      simp only [Event.question?, List.filterMap_cons, List.filterMap_nil, List.append_nil]
      exact counted
    · intro question affirmed member
      exact truthful question affirmed (by simpa using member)
    · simpa using gaveUp
    · simpa using refused
    · rw [List.countP_append, ← released, isOpen]
      rfl

/-- A construction leaves the trail of its batch, and then it is recorded or closed. Its faults
are those of the batch. -/
theorem trail_create (lawful : oracle.Lawful) (backend : String) (limits : Limits)
    {batch : List (Except Fault Clause)}
    (unread : ∀ fault, (create oracle backend limits batch).1 = .error fault →
      .error fault ∈ batch → fault.Untraced) :
    ∃ events, Trail (empty backend limits) events (create oracle backend limits batch) := by
  rw [create_eq] at unread ⊢
  have taken (fault : Fault) (failed : ((empty backend limits).load oracle batch).1 = .error fault)
      (member : .error fault ∈ batch) : fault.Untraced :=
    unread fault ((concludes_built backend).failed _ fault failed).1 member
  obtain ⟨events, trail, _⟩ := trail_load lawful (coherent_empty backend limits) taken
  rcases loaded : (empty backend limits).load oracle batch with ⟨fault | _, after⟩ <;>
    rw [loaded] at trail
  · obtain ⟨closing, closed, _⟩ := trail.closed
    exact ⟨events ++ closing, closed⟩
  · exact ⟨_, trail.followed rfl (trail_note after rfl ()) rfl⟩

/-- The events of a trail are those that were recorded since. -/
theorem Trail.eventsSince {outcome : Outcome α} (trail : Trail base events outcome) :
    outcome.2.eventsSince base = events := by
  rw [RuleBase.eventsSince, trail.journal, List.length_append, Nat.add_sub_cancel,
    List.take_left, List.reverse_reverse]

end RuleBase

open RuleBase

variable {oracle : Oracle} {base : RuleBase}

/-- The records of additions that a request with this result leaves behind. -/
def Request.additions : Request → Except Fault Answer → List Event
  | tellFact literal, .ok _ => [.factAdded literal]
  | tell clause, .ok _ => [.clauseAdded clause]
  | _, _ => []

/-- The records of additions that a call with this result leaves behind. -/
def Call.additions (call : Call) (result : Except Fault Answer) : List Event :=
  match call.read with
  | .ok request => request.additions result
  | .error _ => []

/-- An addition that succeeds is recorded last. -/
theorem RuleBase.Trail.acknowledged {events : List Event} {outcome : Outcome Unit}
    (trail : Trail base events outcome) (silent : ∀ event ∈ events, event.isAddition = false)
    {event : Event} (neutral : event.isNeutral = true) (addition : event.isAddition = true) :
    ∃ all, Trail base all (acknowledged event outcome) ∧
      all.filter Event.isAddition = match outcome.1 with
        | .ok _ => [event]
        | .error _ => [] := by
  have none : events.filter Event.isAddition = [] :=
    List.filter_eq_nil_iff.mpr fun event member => by simp [silent event member]
  rcases outcome with ⟨fault | _, after⟩
  · exact ⟨events, trail.cast, none⟩
  · refine ⟨events ++ [event], trail.followed rfl (trail_note after neutral Answer.nothing) rfl, ?_⟩
    rw [List.filter_append, none, List.filter_singleton, addition]
    rfl

/-- An answer leaves no record of an addition, since none of the request's own records is
official. -/
theorem Query.trail_inquiry (lawful : oracle.Lawful) (coherent : base.Coherent) (query : Query) :
    ∃ events, Trail base events ((query.inquiry base.highest).run oracle base) ∧
      events.filter Event.isAddition = [] := by
  obtain ⟨events, trail, only⟩ := trail_run lawful coherent (query.discreet_inquiry base.highest)
  refine ⟨events, trail, List.filter_eq_nil_iff.mpr fun event member addition => ?_⟩
  obtain ⟨official, noDecision⟩ := Event.of_isAddition addition
  exact only event member official noDecision

/-- Each request leaves a trail, and the additions on it are those that the request and its
result call for. -/
theorem Request.trail_perform (lawful : oracle.Lawful) (coherent : base.Coherent)
    (request : Request) :
    ∃ events, Trail base events (request.perform oracle base) ∧
      events.filter Event.isAddition = request.additions (request.perform oracle base).1 := by
  cases request with
  | tellFact literal =>
    obtain ⟨events, trail, silent⟩ := trail_add lawful coherent (Clause.unit literal)
    obtain ⟨all, whole, additions⟩ := trail.acknowledged silent
      (show (Event.factAdded literal).isNeutral = true from rfl) rfl
    rw [perform, tellFact_silent]
    refine ⟨all, whole, additions.trans ?_⟩
    rcases base.add oracle (Clause.unit literal) with ⟨_ | _, after⟩ <;> rfl
  | tell clause =>
    obtain ⟨events, trail, silent⟩ := trail_add lawful coherent clause
    obtain ⟨all, whole, additions⟩ := trail.acknowledged silent
      (show (Event.clauseAdded clause).isNeutral = true from rfl) rfl
    rw [perform, tell_silent]
    refine ⟨all, whole, additions.trans ?_⟩
    rcases base.add oracle clause with ⟨_ | _, after⟩ <;> rfl
  | inquire query => exact query.trail_inquiry lawful coherent
  | close =>
    obtain ⟨closing, closed, only⟩ := (trail_nil base Answer.nothing).closed
    refine ⟨closing, closed, List.filter_eq_nil_iff.mpr fun event member => ?_⟩
    simp [only event member, Event.isAddition]
  | enter => exact ⟨[], trail_nil base _, rfl⟩
  | describe => exact ⟨[], trail_nil base _, rfl⟩
  | listing => exact ⟨[], trail_nil base _, rfl⟩

/-- Every call leaves a trail, and an addition is in it exactly if it was carried out. A
malformed call leaves none. -/
theorem Call.trail_perform (lawful : oracle.Lawful) (coherent : base.Coherent) (call : Call) :
    ∃ events, Trail base events (call.perform oracle base) ∧
      events.filter Event.isAddition = call.additions (call.perform oracle base).1 := by
  unfold additions perform
  cases read : call.read with
  | error fault => exact ⟨[], trail_failed base (call.careful_read fault read).untraced, rfl⟩
  | ok request => exact request.trail_perform lawful coherent

/-- The events that the call recorded, oldest first. -/
def Exchange.events (exchange : Exchange) : List Event :=
  exchange.outcome.2.eventsSince exchange.before

/-- What a call recorded is its trail. -/
theorem Exchange.trail (lawful : oracle.Lawful) (coherent : base.Coherent) (call : Call) :
    Trail base (Exchange.mk oracle base call).events (call.perform oracle base) ∧
      (Exchange.mk oracle base call).events.filter Event.isAddition =
        call.additions (call.perform oracle base).1 := by
  obtain ⟨events, trail, additions⟩ := call.trail_perform lawful coherent
  have recorded : (Exchange.mk oracle base call).events = events := trail.eventsSince
  rw [recorded]
  exact ⟨trail, additions⟩

end Clausal
