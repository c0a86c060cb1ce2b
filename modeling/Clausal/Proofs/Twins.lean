import Clausal.Proofs.Certainty
import Clausal.Proofs.PlainInquiries

/-!
# Rule bases that differ in their history only

Two rule bases are twins if both are certain and what they store is the same. Their counts,
their audit trails and what their solvers have learnt may differ. A call that adds nothing is
carried out alike on twins, even under different oracles: it has matching outcomes on both,
costs both as many decisions and leaves twins. Oracles are free in which model they find, so
shown models match if there is one on both sides.

The proofs compare two runs of one operation step by step. The steps are the questions of an
inquiry, where plain inquiries cannot tell one witness from another. What a solver has learnt
never shows in its verdicts, since these are bound by what the clauses mean.
-/

namespace Clausal

/-- The answers are the same, except that any two models match. -/
def Answer.Matches : Answer → Answer → Prop
  | model first, model second => first.isSome = second.isSome
  | first, second => first = second

/-- Every answer matches itself. -/
theorem Answer.Matches.refl (answer : Answer) : answer.Matches answer := by
  cases answer <;> rfl

/-- There are two results that are the same in a sense, or two failures for one reason. -/
def Corresponds {α : Type} (same : α → α → Prop) : Except Fault α → Except Fault α → Prop
  | .ok first, .ok second => same first second
  | .error first, .error second => first = second
  | _, _ => False

namespace RuleBase

variable {α β : Type} {oracle second : Oracle} {base one other : RuleBase}

/-- What is the same after a change was the same before it. -/
theorem Unaltered.symm (unaltered : Unaltered one other) : Unaltered other one :=
  ⟨unaltered.backend.symm, unaltered.limits.symm, unaltered.clauses.symm, unaltered.highest.symm,
    unaltered.trusted.symm, unaltered.isOpen.symm⟩

/-- Both rule bases are certain, and the stored part of one is that of the other. -/
structure Twins (one other : RuleBase) : Prop where
  certain : one.Certain
  alsoCertain : other.Certain
  alike : Unaltered one other

/-- A certain rule base is a twin of itself. -/
theorem Certain.twins (certain : base.Certain) : Twins base base :=
  ⟨certain, certain, .refl base⟩

/-- Twins are twins of one another. -/
theorem Twins.symm (twins : Twins one other) : Twins other one :=
  ⟨twins.alsoCertain, twins.certain, twins.alike.symm⟩

/-- A twin of a twin is a twin, so a run may be compared with another call by call. -/
theorem Twins.trans {third : RuleBase} (first : Twins one other) (next : Twins other third) :
    Twins one third :=
  ⟨first.certain, next.alsoCertain, first.alike.trans next.alike⟩

/-- Twins stay twins, each in its own way, as long as neither is altered. -/
theorem Twins.of_unaltered {left right : RuleBase} (twins : Twins one other)
    (certain : left.Certain) (alsoCertain : right.Certain) (unaltered : Unaltered one left)
    (alsoUnaltered : Unaltered other right) : Twins left right :=
  ⟨certain, alsoCertain, unaltered.symm.trans (twins.alike.trans alsoUnaltered)⟩

/-- Recording an event makes no difference to a twin. -/
theorem Twins.log (twins : Twins one other) (event : Event) :
    Twins (one.log event) (other.log event) :=
  twins.of_unaltered (twins.certain.log event) (twins.alsoCertain.log event) (.log one event)
    (.log other event)

/-- An operation was carried out on two rule bases. It came to corresponding results, took
as many decisions of both and left twins. -/
structure Parallel (same : α → α → Prop) (one other : RuleBase) (first second : Outcome α) :
    Prop where
  result : Corresponds same first.1 second.1
  cost : ∃ cost, first.2.decisions = one.decisions + cost ∧
    second.2.decisions = other.decisions + cost
  twins : Twins first.2 second.2

/-- What is done next with a result, unless there is none. -/
def onward (next : α → RuleBase → Outcome β) : Outcome α → Outcome β
  | (.error fault, after) => (.error fault, after)
  | (.ok value, after) => next value after

/-- If two operations are parallel and so are any two that follow them with the same results,
the whole is parallel. -/
theorem Parallel.onward {same : α → α → Prop} {also : β → β → Prop} {first second : Outcome α}
    {next after : α → RuleBase → Outcome β} (begins : Parallel same one other first second)
    (goesOn : ∀ value found left right, same value found → Twins left right →
      Parallel also left right (next value left) (after found right)) :
    Parallel also one other (onward next first) (onward after second) := by
  obtain ⟨result, ⟨cost, counted, alsoCounted⟩, twins⟩ := begins
  rcases first with ⟨fault | value, left⟩ <;> rcases second with ⟨reason | found, right⟩
  · exact ⟨result, ⟨cost, counted, alsoCounted⟩, twins⟩
  · exact result.elim
  · exact result.elim
  · obtain ⟨ended, ⟨further, later, alsoLater⟩, stillTwins⟩ :=
      goesOn value found left right result twins
    refine ⟨ended, ⟨cost + further, ?_, ?_⟩, stillTwins⟩
    · exact later.trans (by rw [counted, Nat.add_assoc])
    · exact alsoLater.trans (by rw [alsoCounted, Nat.add_assoc])

/-- Results that correspond in one sense correspond in any weaker one. -/
theorem Parallel.imp {same also : α → α → Prop} {first second : Outcome α}
    (parallel : Parallel same one other first second)
    (weaker : ∀ value found, same value found → also value found) :
    Parallel also one other first second := by
  obtain ⟨result, cost, twins⟩ := parallel
  refine ⟨?_, cost, twins⟩
  rcases first with ⟨fault | value, left⟩ <;> rcases second with ⟨reason | found, right⟩
  · exact result
  · exact result
  · exact result
  · exact weaker value found result

/-- Operations that decide nothing. -/
theorem Parallel.free {same : α → α → Prop} {first second : Outcome α}
    (result : Corresponds same first.1 second.1) (decisions : first.2.decisions = one.decisions)
    (alsoDecisions : second.2.decisions = other.decisions) (twins : Twins first.2 second.2) :
    Parallel same one other first second :=
  ⟨result, ⟨0, decisions, alsoDecisions⟩, twins⟩

/-- Both answers to a question are yes, or both are no. -/
def SameAnswer (first second : Option (List Literal)) : Prop := first.isSome = second.isSome

/-- Without limits, lawful oracles come to the same verdict, at any turn. They may find different
witnesses. -/
theorem verdicts_agree (lawful : oracle.Lawful) (alsoLawful : second.Lawful) {limits : Limits}
    (unlimited : limits.isLimited = false) (turn later : Nat) (clauses : List Clause)
    (literals : List Literal) :
    (∃ witness found, oracle.decide turn limits clauses literals = .satisfiable witness ∧
      second.decide later limits clauses literals = .satisfiable found) ∨
    (oracle.decide turn limits clauses literals = .unsatisfiable ∧
      second.decide later limits clauses literals = .unsatisfiable) := by
  have bounded {which : Oracle} {now : Nat} (lawful : which.Lawful) :
      which.decide now limits clauses literals ≠ .unknown := by
    intro verdict
    rw [lawful.limited verdict] at unlimited
    cases unlimited
  cases verdict : oracle.decide turn limits clauses literals with
  | unknown => exact absurd verdict (bounded lawful)
  | satisfiable witness =>
    cases opinion : second.decide later limits clauses literals with
    | unknown => exact absurd opinion (bounded alsoLawful)
    | satisfiable found => exact Or.inl ⟨witness, found, rfl, rfl⟩
    | unsatisfiable =>
      exact absurd (lawful.witnesses verdict).satisfiable (alsoLawful.refutes opinion)
  | unsatisfiable =>
    cases opinion : second.decide later limits clauses literals with
    | unknown => exact absurd opinion (bounded alsoLawful)
    | satisfiable found =>
      exact absurd (alsoLawful.witnesses opinion).satisfiable (lawful.refutes verdict)
    | unsatisfiable => exact Or.inr ⟨rfl, rfl⟩

/-- Verdicts that agree settle a question alike. -/
theorem settle_agrees {asked also : RuleBase} {verdict opinion : Verdict} (question : Question)
    (agree : (∃ witness found, verdict = .satisfiable witness ∧ opinion = .satisfiable found) ∨
      verdict = .unsatisfiable ∧ opinion = .unsatisfiable) :
    Corresponds SameAnswer (asked.settle question verdict).1 (also.settle question opinion).1 ∧
      (asked.settle question verdict).2.decisions = asked.decisions ∧
      (also.settle question opinion).2.decisions = also.decisions := by
  rcases agree with ⟨witness, found, rfl, rfl⟩ | ⟨rfl, rfl⟩
  · exact ⟨rfl, rfl, rfl⟩
  · exact ⟨rfl, rfl, rfl⟩

/-- A question is answered alike by twins. Their solvers hold the same clauses, and whatever
they have learnt, lawful verdicts on these agree. -/
theorem parallel_ask (lawful : oracle.Lawful) (alsoLawful : second.Lawful)
    (twins : Twins one other) (question : Question) :
    Parallel SameAnswer one other (one.ask oracle question) (other.ask second question) := by
  obtain ⟨certain, alsoCertain, alike⟩ := twins
  have after : Twins (one.ask oracle question).2 (other.ask second question).2 :=
    Twins.of_unaltered ⟨certain, alsoCertain, alike⟩ (certain.ask lawful question)
      (alsoCertain.ask alsoLawful question)
      (conducted_ask lawful certain.coherent question).unaltered
      (conducted_ask alsoLawful alsoCertain.coherent question).unaltered
  have countable : one.limits.isCountable = true := isCountable_of_unlimited certain.unlimited
  suffices told : Corresponds SameAnswer (one.ask oracle question).1 (other.ask second question).1 ∧
      ∃ cost, (one.ask oracle question).2.decisions = one.decisions + cost ∧
        (other.ask second question).2.decisions = other.decisions + cost from
    ⟨told.1, told.2, after⟩
  cases question with
  | assuming literals =>
    cases held : one.solver with
    | none =>
      have closed : other.solver = none :=
        isOpen_eq_false_iff.mp (alike.isOpen.trans (isOpen_eq_false_iff.mpr held))
      simp only [ask, held, closed]
      exact ⟨rfl, 0, rfl, rfl⟩
    | some solver =>
      have present : other.solver.isSome = true := by
        have opened := alike.isOpen
        simpa [isOpen, held] using opened
      obtain ⟨also, alsoHeld⟩ := Option.isSome_iff_exists.mp present
      have same : also.database = solver.database := by
        rw [(alsoCertain.coherent.sound also alsoHeld).database,
          (certain.coherent.sound solver held).database, alike.clauses]
      simp only [ask, held, alsoHeld, countable, if_true, alike.limits, same]
      obtain ⟨result, decisions, alsoDecisions⟩ := settle_agrees (.assuming literals)
        (verdicts_agree lawful alsoLawful certain.unlimited one.decisions other.decisions
          solver.database literals)
      exact ⟨result, 1, decisions, alsoDecisions⟩
  | alongside extra =>
    simp only [ask, countable, if_true, alike.limits, alike.clauses]
    obtain ⟨result, decisions, alsoDecisions⟩ := settle_agrees (.alongside extra)
      (verdicts_agree lawful alsoLawful certain.unlimited one.decisions other.decisions
        (one.clauses ++ extra) [])
    exact ⟨result, 1, decisions, alsoDecisions⟩

/-- An inquiry that begins with a question asks it and goes on from the answer. -/
theorem run_ask (oracle : Oracle) (base : RuleBase) (question : Question)
    (next : Option (List Literal) → Inquiry α) :
    (Inquiry.ask question next).run oracle base =
      onward (fun answer after => (next answer).run oracle after) (base.ask oracle question) := by
  rw [Inquiry.run]
  rcases base.ask oracle question with ⟨_ | _, _⟩ <;> rfl

/-- Plain inquiries come to the same result. The induction is on the inquiry, and what it asks
next is the same on both sides since it takes any witness for a yes. -/
theorem parallel_run (lawful : oracle.Lawful) (alsoLawful : second.Lawful)
    (twins : Twins one other) {inquiry : Inquiry α} (plain : inquiry.Plain) :
    Parallel Eq one other (inquiry.run oracle one) (inquiry.run second other) := by
  induction inquiry generalizing one other with
  | done result => exact .free rfl rfl rfl twins
  | note event rest inductionHypothesis =>
    obtain ⟨result, cost, stillTwins⟩ := inductionHypothesis (twins.log event) plain.2
    exact ⟨result, cost, stillTwins⟩
  | ask question next inductionHypothesis =>
    obtain ⟨blind, each⟩ := plain
    rw [run_ask, run_ask]
    refine (parallel_ask lawful alsoLawful twins question).onward ?_
    intro answer found left right same twins
    -- The two witnesses may differ, but a plain inquiry does not look at them.
    have goesOn : next found = next answer := by
      cases answer with
      | none =>
        cases found with
        | none => rfl
        | some witness => cases same
      | some witness =>
        cases found with
        | none => cases same
        | some other => exact blind other witness
    rw [goesOn]
    exact inductionHypothesis answer twins (each answer)

/-- Twins that are closed are twins. -/
theorem Twins.close (twins : Twins one other) : Twins one.close other.close := by
  obtain ⟨certain, alsoCertain, alike⟩ := twins
  refine ⟨certain.close, alsoCertain.close, ?_, ?_, ?_, ?_, ?_, ?_⟩
  · rw [close_backend, close_backend, alike.backend]
  · rw [close_limits, close_limits, alike.limits]
  · rw [close_clauses, close_clauses, alike.clauses]
  · rw [close_highest, close_highest, alike.highest]
  · rw [close_trusted, close_trusted, alike.trusted]
  · rw [close_isOpen, close_isOpen]

end RuleBase

open RuleBase

variable {oracle second : Oracle} {one other : RuleBase}

/-- Queries come to matching answers. Only the query for a model is not plain: of the models that
are found it matters whether there is one. -/
theorem Query.parallel_run (lawful : oracle.Lawful) (alsoLawful : second.Lawful)
    (twins : Twins one other) (query : Query) :
    Parallel Answer.Matches one other ((query.inquiry one.highest).run oracle one)
      ((query.inquiry other.highest).run second other) := by
  rw [twins.alike.highest]
  by_cases shown : ∃ literals, query = .model literals
  · obtain ⟨literals, rfl⟩ := shown
    have opened (base : RuleBase) (which : Oracle) :
        ((Query.model literals).inquiry one.highest).run which base =
          onward (fun answer after => (.ok (.model (answer.map (complete one.highest))), after))
            (base.ask which (.assuming literals)) :=
      run_ask which base (.assuming literals)
        fun answer => .done (Answer.model (answer.map (complete one.highest)))
    rw [opened, opened]
    refine (parallel_ask lawful alsoLawful twins (.assuming literals)).onward ?_
    intro answer found left right same twins
    refine .free ?_ rfl rfl twins
    change (answer.map _).isSome = (found.map _).isSome
    rw [Option.isSome_map, Option.isSome_map]
    exact same
  · have plain := query.plain_inquiry (fun literals same => shown ⟨literals, same⟩) one.highest
    refine (RuleBase.parallel_run lawful alsoLawful twins plain).imp ?_
    rintro answer _ rfl
    exact Answer.Matches.refl answer

/-- Twins carry a request that adds nothing out alike. -/
theorem Request.parallel_perform (lawful : oracle.Lawful) (alsoLawful : second.Lawful)
    (twins : Twins one other) {request : Request} (adds : request.added? = none) :
    Parallel Answer.Matches one other (request.perform oracle one)
      (request.perform second other) := by
  cases request with
  | tellFact literal => cases adds
  | tell clause => cases adds
  | inquire query => exact query.parallel_run lawful alsoLawful twins
  | close => exact .free rfl (close_decisions one) (close_decisions other) twins.close
  | enter => exact .free rfl rfl rfl twins
  | describe =>
    have same : one.describe = other.describe := by
      rw [RuleBase.describe, RuleBase.describe, twins.alike.clauses, twins.alike.highest,
        twins.alike.backend]
    exact .free (congrArg Answer.text same) rfl rfl twins
  | listing => exact .free (congrArg Answer.clauses twins.alike.clauses.symm) rfl rfl twins

/-- Twins carry a call that adds nothing out alike, be it malformed or not. Reading it does not
depend on the rule base. -/
theorem Call.parallel_perform (lawful : oracle.Lawful) (alsoLawful : second.Lawful)
    (twins : Twins one other) {call : Call} (adds : call.added? = none) :
    Parallel Answer.Matches one other (call.perform oracle one) (call.perform second other) := by
  unfold perform
  cases read : call.read with
  | error fault => exact .free rfl rfl rfl twins
  | ok request =>
    rw [added?, read] at adds
    exact request.parallel_perform lawful alsoLawful twins adds

end Clausal
