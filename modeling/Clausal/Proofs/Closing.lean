import Clausal.Proofs.Trails
import Clausal.Proofs.WellFormed

/-!
# Closing

A rule base is closed once, by a call or because it could not be built, and stays closed.
What needs the permanent solver fails from then on, and leaves nothing behind but the clause
that an addition stores before it fails. Extra clauses are decided by a solver of their own,
so a question about them is still put, with all the clauses that are stored by then. And the
finders have an answer exactly if they have nothing to ask.
-/

namespace Clausal

open RuleBase

namespace Inquiry

variable {α β : Type}

/-- The inquiry begins with a question to the permanent solver. -/
def Begins (inquiry : Inquiry α) : Prop :=
  ∃ literals next, inquiry = .ask (.assuming literals) next

/-- The question under assumptions begins with itself. -/
theorem begins_satisfiableWith (literals : List Literal) : (satisfiableWith literals).Begins :=
  ⟨literals, _, rfl⟩

/-- What comes after an inquiry does not change its first question. -/
theorem Begins.bind {inquiry : Inquiry α} (begins : inquiry.Begins) (after : α → Inquiry β) :
    (inquiry >>= after).Begins := by
  obtain ⟨literals, next, rfl⟩ := begins
  exact ⟨literals, _, rfl⟩

/-- Counting the questions does not change the first one. -/
theorem Begins.metered {inquiry : Inquiry α} (begins : inquiry.Begins) (asked : Nat) :
    (inquiry.metered asked).Begins := by
  obtain ⟨literals, next, rfl⟩ := begins
  exact ⟨literals, _, rfl⟩

/-- A scan begins with a question if its steps do and there is something to scan. -/
theorem begins_filterMapM {step : α → Inquiry (Option β)} (each : ∀ item, (step item).Begins)
    {items : List α} (nonempty : items ≠ []) : (items.filterMapM step).Begins := by
  cases items with
  | nil => exact absurd rfl nonempty
  | cons item rest =>
    rw [List.filterMapM_cons]
    exact (each item).bind _

end Inquiry

open Inquiry

/-- Entailment begins with the question about the premise and the denied conclusion. -/
theorem begins_entails (premise conclusion : Literal) : (entails premise conclusion).Begins :=
  (begins_satisfiableWith _).bind _

/-- Hard entailment begins with entailment. -/
theorem begins_entailsHard (premise conclusion : Literal) :
    (entailsHard premise conclusion).Begins :=
  (begins_entails premise conclusion).bind _

/-- The backbone begins with the first variable, if there is one. -/
theorem begins_backbone {highest : Nat} (some : 0 < highest) : (backbone highest).Begins := by
  have nonempty : Variable.upTo highest ≠ [] := by
    rw [← List.length_pos_iff, Variable.length_upTo]
    exact some
  exact (begins_filterMapM (fun var => ((begins_satisfiableWith _).bind _).bind _) nonempty).bind _

/-- There is no pair exactly if there are no two items. -/
theorem pairsOf_eq_nil_iff {α : Type} {items : List α} :
    pairsOf items = [] ↔ items.length ≤ 1 := by
  match items with
  | [] => simp [pairsOf]
  | [_] => simp [pairsOf]
  | _ :: _ :: _ => simp [pairsOf]

/-- The agreeing pairs begin with the first pair. There is one as soon as two variables are
left to compare. -/
theorem begins_agreeingPairs {highest : Nat} {pinned : List Int}
    (several : 1 < (unpinned highest pinned).length) : (agreeingPairs highest pinned).Begins := by
  have nonempty : pairsOf (unpinned highest pinned) ≠ [] := by
    rw [ne_eq, pairsOf_eq_nil_iff, Nat.not_le]
    exact several
  exact (begins_filterMapM (fun pair =>
    ((begins_entailsHard _ _).bind _).bind _) nonempty).bind _

/-- The query cannot be answered without the permanent solver, where the variables go up to
the highest number. -/
def Query.NeedsSolver (highest : Nat) : Query → Prop
  | alongside extra => extra = []
  | backbone | agreement none | classes | survey => 0 < highest
  | agreement (some pinned) => 1 < (unpinned highest pinned).length
  | satisfiable _ | model _ | entails _ _ | entailsHard _ _ => True

/-- The query is one for a finder. -/
def Query.IsFinder : Query → Prop
  | backbone | agreement _ | classes | survey => True
  | _ => False

/-- A query that needs the permanent solver turns to it before anything else, so nothing is
recorded or counted before it fails without one. -/
theorem Query.begins_inquiry {query : Query} {highest : Nat} (needs : query.NeedsSolver highest) :
    (query.inquiry highest).Begins := by
  cases query with
  | satisfiable literals => exact (begins_satisfiableWith literals).bind _
  | alongside extra =>
    obtain rfl : extra = [] := needs
    exact (begins_satisfiableWith []).bind _
  | model literals => exact ⟨literals, _, rfl⟩
  | entails premise conclusion => exact (begins_entails premise conclusion).bind _
  | entailsHard premise conclusion => exact (begins_entailsHard premise conclusion).bind _
  | backbone => exact (begins_backbone needs).bind _
  | agreement pinned =>
    cases pinned with
    | none => exact ((begins_backbone needs).bind _).bind _
    | some pinned => exact (begins_agreeingPairs needs).bind _
  | classes => exact (((begins_backbone needs).bind _).bind _).bind _
  | survey => exact ((((begins_backbone needs).bind _).metered 0).bind _).bind _

/-- A finder that does not need the solver asks nothing at all: without variables there is
nothing to scan, and without two unpinned ones there is no pair. -/
theorem Query.asks_nothing {query : Query} {highest : Nat} (finder : query.IsFinder)
    (needless : ¬query.NeedsSolver highest) (oracle : Oracle) (base : RuleBase) :
    ∃ answer, ((query.inquiry highest).run oracle base).1 = .ok answer := by
  cases query with
  | satisfiable literals => exact finder.elim
  | alongside extra => exact finder.elim
  | model literals => exact finder.elim
  | entails premise conclusion => exact finder.elim
  | entailsHard premise conclusion => exact finder.elim
  | backbone =>
    obtain rfl := Nat.eq_zero_of_not_pos needless
    exact ⟨_, rfl⟩
  | agreement pinned =>
    cases pinned with
    | none =>
      obtain rfl := Nat.eq_zero_of_not_pos needless
      exact ⟨_, rfl⟩
    | some pinned =>
      have alone : pairsOf (unpinned highest pinned) = [] :=
        pairsOf_eq_nil_iff.mpr (Nat.not_lt.mp needless)
      simp only [inquiry, Clausal.agreement, agreeingPairs, alone]
      exact ⟨_, rfl⟩
  | classes =>
    obtain rfl := Nat.eq_zero_of_not_pos needless
    exact ⟨_, rfl⟩
  | survey =>
    obtain rfl := Nat.eq_zero_of_not_pos needless
    exact ⟨_, rfl⟩

variable {α : Type} {oracle : Oracle} {start base : RuleBase} {history : List Exchange}
  {call : Call} {clause : Clause} {extra : List Clause} {result : Except Fault Unit}

/-- What begins with a question to the permanent solver fails at once where there is none. -/
theorem RuleBase.run_closed (closed : base.solver = none) {inquiry : Inquiry α}
    (begins : inquiry.Begins) : inquiry.run oracle base = (.error .closed, base) := by
  obtain ⟨literals, next, rfl⟩ := begins
  simp only [Inquiry.run, ask, closed]

/-- A closed rule base stores a clause and then fails to have it checked. -/
theorem RuleBase.add_closed (closed : base.solver = none) (clause : Clause) :
    base.add oracle clause = (.error .closed, base.store clause) := by
  simp only [RuleBase.add, RuleBase.insert, closed]

/-- A call to add a clause adds it, and records that if it succeeds. Facts and clauses differ in
the record only. -/
theorem Call.adds_perform (adds : call.Adds clause) :
    ∃ event : Event, event.question? = none ∧ ∀ oracle base,
      call.perform oracle base = acknowledged event (base.add oracle clause) := by
  obtain ⟨request, means, adds⟩ := adds
  cases request with
  | tellFact literal =>
    obtain rfl := Option.some.inj adds
    refine ⟨.factAdded literal, rfl, fun oracle base => ?_⟩
    rw [perform_of_means means, Request.perform, tellFact_silent]
  | tell given =>
    obtain rfl := Option.some.inj adds
    refine ⟨.clauseAdded given, rfl, fun oracle base => ?_⟩
    rw [perform_of_means means, Request.perform, tell_silent]
  | inquire query => cases adds
  | close => cases adds
  | enter => cases adds
  | describe => cases adds
  | listing => cases adds

/-- An addition to a closed rule base fails, but not before it has stored its clause. -/
theorem Call.adds_closed (closed : base.solver = none) (adds : call.Adds clause) :
    call.perform oracle base = (.error .closed, base.store clause) := by
  obtain ⟨event, _, performs⟩ := Call.adds_perform adds
  rw [performs, add_closed closed]
  rfl

/-- A question about extra clauses is counted, and an open rule base is not needed for it. It may
fail, but not for being put too late. -/
theorem RuleBase.ask_alongside (oracle : Oracle) (base : RuleBase) (extra : List Clause) :
    (base.ask oracle (.alongside extra)).2.decisions = base.decisions + 1 ∧
      (base.ask oracle (.alongside extra)).1 ≠ .error .closed := by
  unfold ask
  dsimp only
  split
  · cases oracle.decide base.decisions base.limits (base.clauses ++ extra) [] with
    | satisfiable witness => exact ⟨rfl, nofun⟩
    | unsatisfiable => exact ⟨rfl, nofun⟩
    | unknown => exact ⟨rfl, nofun⟩
  · exact ⟨rfl, nofun⟩

/-- What a question about extra clauses makes of its one decision. -/
def RuleBase.flagged : Outcome (Option (List Literal)) → Outcome Answer
  | (.error fault, after) => (.error fault, after)
  | (.ok answer, after) => (.ok (.flag answer.isSome), after)

/-- Whether extra clauses leave a model is decided without the permanent solver. The answer is
true of all the clauses that are stored, also of those that a closed rule base has failed to
check. -/
theorem Call.alongside_perform (lawful : oracle.Lawful) (coherent : base.Coherent)
    (some : extra ≠ []) (means : call.Means (.inquire (.alongside extra))) :
    (call.perform oracle base).2.decisions = base.decisions + 1 ∧
      (call.perform oracle base).1 ≠ .error .closed ∧
      (base.limits.isLimited = false → ∃ answer, (call.perform oracle base).1 = .ok answer) ∧
      ∀ answer, (call.perform oracle base).1 = .ok answer → ∃ possible, answer = .flag possible ∧
        (possible = true ↔ Satisfiable (base.clauses ++ extra) []) := by
  have opened : call.perform oracle base = flagged (base.ask oracle (.alongside extra)) := by
    rw [perform_of_means means]
    cases extra with
    | nil => exact absurd rfl some
    | cons clause rest =>
      change Inquiry.run oracle (.ask (.alongside (clause :: rest)) _) base = _
      rw [Inquiry.run]
      rcases base.ask oracle (.alongside (clause :: rest)) with ⟨_ | _, after⟩ <;> rfl
  obtain ⟨counted, notClosed⟩ := ask_alongside oracle base extra
  have answered : (call.perform oracle base).1 ≠ .error .closed := by
    rw [opened]
    rcases asked : base.ask oracle (.alongside extra) with ⟨fault | answer, after⟩
    · rw [asked] at notClosed
      simpa [flagged] using notClosed
    · simp [flagged]
  refine ⟨?_, answered, fun unlimited => ?_, fun answer ended => ?_⟩
  · rw [opened, ← counted]
    rcases base.ask oracle (.alongside extra) with ⟨_ | _, after⟩ <;> rfl
  · rw [perform_of_means means] at answered ⊢
    rcases reply_cases lawful coherent (.alongside extra) with answered | ⟨fault, failed, declines⟩
    · exact answered
    · obtain ⟨rfl, _⟩ := declines.of_unlimited unlimited
      exact absurd failed answered
  · rw [perform_of_means means] at ended
    exact reply_alongside lawful coherent ended

/-- The rule base comes from a construction with this result, whatever it was given. -/
def Constructed (result : Except Fault Unit) (base : RuleBase) : Prop :=
  ∃ oracle backend limits given, oracle.Lawful ∧
    create oracle backend limits (Argument.batch given) = (result, base)

/-- What a construction leaves comes from it, with the result that it has. -/
theorem constructed_create {backend : String} {limits : Limits} {given : Datum}
    (lawful : oracle.Lawful)
    (built : (create oracle backend limits (Argument.batch given)).1 = result) :
    Constructed result (create oracle backend limits (Argument.batch given)).2 :=
  ⟨oracle, backend, limits, given, lawful, by rw [← built]⟩

/-- The rule base is open and has not recorded that it was closed, or it is closed and has
recorded that once. -/
def RuleBase.Sealed (base : RuleBase) : Prop :=
  base.journal.countP Event.isClosed + base.isOpen.toNat = 1

/-- Taking in a batch keeps coherence, also where it fails. The induction is on the batch, and
each clause is stored with its solver or refused. -/
theorem RuleBase.coherent_load (lawful : oracle.Lawful) (coherent : base.Coherent)
    (batch : List (Except Fault Clause)) : (base.load oracle batch).2.Coherent := by
  induction batch generalizing base with
  | nil =>
    rw [load]
    split
    · exact coherent
    · have checked : Checked base none (base.certify oracle none) :=
        checked_certify lawful coherent none
      exact checked.coherent
  | cons head rest inductionHypothesis =>
    cases head with
    | error fault => exact coherent
    | ok clause =>
      obtain ⟨kept, unaltered, objection, _⟩ := insert_spec lawful coherent clause
      rw [load]
      rcases inserted : base.insert oracle clause with ⟨fault | _ | _, stored⟩ <;>
        rw [inserted] at kept unaltered objection
      · exact kept
      · have hopeless : ¬Satisfiable stored.clauses [] := by
          rw [show stored.clauses = base.clauses ++ [clause] from unaltered.clauses]
          exact objection rfl
        have checked : Checked stored (some clause) (stored.refuse (some clause)) :=
          checked_refuse kept hopeless
        exact checked.coherent
      · exact inductionHypothesis kept

/-- A construction leaves a coherent rule base, whether it succeeds or fails. -/
theorem Constructed.coherent (constructed : Constructed result base) : base.Coherent := by
  obtain ⟨oracle, backend, limits, given, lawful, created⟩ := constructed
  have loaded := coherent_load lawful (coherent_empty backend limits) (Argument.batch given)
  unfold create at created
  split at created
  · next fault reached given =>
    obtain ⟨-, rfl⟩ := Prod.mk.inj created
    rw [given] at loaded
    exact loaded.close
  · next reached given =>
    obtain ⟨-, rfl⟩ := Prod.mk.inj created
    rw [given] at loaded
    exact loaded.log _

/-- What was closed is closed, however often. -/
theorem RuleBase.close_isOpen (base : RuleBase) : base.close.isOpen = false := by
  unfold close
  split
  · next closed => exact isOpen_eq_false_iff.mpr closed
  · rfl

/-- A construction that fails closes what it has, so nobody holds a solver that can no longer be
reached. -/
theorem Constructed.closed (constructed : Constructed result base) (failed : result ≠ .ok ()) :
    base.isOpen = false := by
  obtain ⟨oracle, backend, limits, given, lawful, created⟩ := constructed
  unfold create at created
  split at created
  · obtain ⟨-, rfl⟩ := Prod.mk.inj created
    exact close_isOpen _
  · obtain ⟨rfl, -⟩ := Prod.mk.inj created
    exact absurd rfl failed

/-- An operation keeps the seal. -/
theorem RuleBase.Trail.isSealed {events : List Event} {outcome : Outcome α}
    (trail : Trail base events outcome) (isSealed : base.Sealed) : outcome.2.Sealed := by
  have released := trail.released
  rw [Sealed, trail.journal, List.countP_append, List.countP_reverse]
  unfold Sealed at isSealed
  omega

/-- A construction that succeeds has closed nothing, and one that fails has closed the rule
base once. The seal is that of its trail. -/
theorem Constructed.isSealed (constructed : Constructed result base) : base.Sealed := by
  obtain ⟨oracle, backend, limits, given, lawful, created⟩ := constructed
  have unread (fault : Fault) (_ : (create oracle backend limits (Argument.batch given)).1 =
      .error fault) (member : .error fault ∈ Argument.batch given) : fault.Untraced :=
    (Argument.careful_batch member fault rfl).untraced
  obtain ⟨events, trail⟩ := trail_create lawful backend limits unread
  rw [created] at trail
  exact trail.isSealed rfl

/-- Along a run the seal is kept. -/
theorem Run.isSealed (coherent : start.Coherent) (isSealed : start.Sealed)
    (run : Run start history base) : base.Sealed := by
  induction run with
  | begun => exact isSealed
  | called earlier oracle lawful call inductionHypothesis =>
    obtain ⟨trail, _⟩ := Exchange.trail lawful (earlier.coherent coherent) call
    exact trail.isSealed inductionHypothesis

/-- A run that closes the rule base somewhere leaves it closed. -/
theorem Run.closed (coherent : start.Coherent) (run : Run start history base)
    (closing : ∃ exchange ∈ history, exchange.call = .close) : base.isOpen = false := by
  induction run with
  | begun =>
    obtain ⟨_, member, _⟩ := closing
    exact absurd member List.not_mem_nil
  | @called history base earlier oracle lawful call inductionHypothesis =>
    obtain ⟨exchange, member, closes⟩ := closing
    rcases List.mem_cons.mp member with rfl | before
    · obtain rfl : call = .close := closes
      exact close_isOpen base
    · have grown := call.grown_perform lawful (earlier.coherent coherent)
      exact grown.closed (inductionHypothesis ⟨exchange, before, closes⟩)

/-- What is closed and sealed has no solver and has recorded its closing once. -/
theorem RuleBase.Sealed.closed (isSealed : base.Sealed) (closed : base.isOpen = false) :
    base.solver = none ∧ base.journal.countP Event.isClosed = 1 := by
  refine ⟨isOpen_eq_false_iff.mp closed, ?_⟩
  rw [Sealed, closed] at isSealed
  exact isSealed

/-- Closing, for every run from a construction: either the construction failed or a call of
the run closes the rule base, at any point and any number of times. Then the solver is
released, that is recorded once, and it stays so in every later run. From there on, whatever
the oracle:

* a well-formed addition stores its clause and fails, since the rule base is closed;
* a well-formed query that needs the permanent solver fails for the same reason and does
  nothing;
* a question about extra clauses is put, counted and, if it is answered, answered truthfully
  for all the clauses that are stored by then;
* the finders are answered exactly if they do not need the solver, which is if there are no
  variables or, where pinned numbers are given, no two unpinned variables. -/
theorem closed_for_good (constructed : Constructed result start) (run : Run start history base)
    (closing : result ≠ .ok () ∨ ∃ exchange ∈ history, exchange.call = .close) :
    base.solver = none ∧ base.journal.countP Event.isClosed = 1 ∧
    (∀ later after, Run base later after →
      after.solver = none ∧ after.journal.countP Event.isClosed = 1) ∧
    ∀ (oracle : Oracle) (call : Call), oracle.Lawful →
      (∀ clause, call.Adds clause →
        call.perform oracle base = (.error .closed, base.store clause)) ∧
      (∀ query, call.Means (.inquire query) → query.NeedsSolver base.highest →
        call.perform oracle base = (.error .closed, base)) ∧
      (∀ extra, extra ≠ [] → call.Means (.inquire (.alongside extra)) →
        (call.perform oracle base).2.decisions = base.decisions + 1 ∧
        (call.perform oracle base).1 ≠ .error .closed ∧
        (base.limits.isLimited = false → ∃ answer, (call.perform oracle base).1 = .ok answer) ∧
        ∀ answer, (call.perform oracle base).1 = .ok answer → ∃ possible,
          answer = .flag possible ∧
            (possible = true ↔ Satisfiable (base.clauses ++ extra) [])) ∧
      (∀ query, call.Means (.inquire query) → query.IsFinder →
        ((∃ answer, (call.perform oracle base).1 = .ok answer) ↔
          ¬query.NeedsSolver base.highest)) := by
  have initial : start.Coherent := constructed.coherent
  have coherent : base.Coherent := run.coherent initial
  have isSealed : base.Sealed := run.isSealed initial constructed.isSealed
  have isClosed : base.isOpen = false := by
    rcases closing with failed | closes
    · exact (run.grown initial).closed (constructed.closed failed)
    · exact run.closed initial closes
  obtain ⟨closed, once⟩ := isSealed.closed isClosed
  refine ⟨closed, once, ?_, ?_⟩
  · intro later after further
    exact (further.isSealed coherent isSealed).closed ((further.grown coherent).closed isClosed)
  · intro oracle call lawful
    have fails (query : Query) (means : call.Means (.inquire query))
        (needs : query.NeedsSolver base.highest) :
        call.perform oracle base = (.error .closed, base) := by
      rw [Call.perform_of_means means]
      exact run_closed closed (query.begins_inquiry needs)
    refine ⟨fun clause adds => Call.adds_closed closed adds, fails, ?_, ?_⟩
    · intro extra some means
      exact Call.alongside_perform lawful coherent some means
    · intro query means finder
      constructor
      · rintro ⟨answer, answered⟩ needs
        rw [fails query means needs] at answered
        cases answered
      · intro needless
        rw [Call.perform_of_means means]
        exact query.asks_nothing finder needless oracle base

/-- The chain is closed, and a fact is told that contradicts it. -/
def RuleBase.shut : List Exchange × RuleBase :=
  serve .search chained [.close, .tellFact (.whole 5)]

/-- Nobody notices the contradiction, except a question about extra clauses. -/
theorem shut_decides_alongside :
    Constructed (.ok ()) chained ∧ Run chained shut.1 shut.2 ∧
      (∃ exchange ∈ shut.1, exchange.call = .close) ∧
      shut.2.solver = none ∧ shut.2.journal.countP Event.isClosed = 1 ∧ shut.2.trusted = true ∧
      Call.satisfiable.perform .search shut.2 = (.error .closed, shut.2) ∧
      ((Call.alongsideClause (.list [.whole 1])).perform .search shut.2).1 = .ok (.flag false) ∧
      ¬Satisfiable (shut.2.clauses ++ [Clause.unit ⟨⟨1, by decide⟩, true⟩]) [] := by
  have constructed : Constructed (.ok ()) chained :=
    constructed_create Oracle.search_lawful (by cbv)
  have run : Run chained shut.1 shut.2 := run_serve Oracle.search_lawful _
  have closing : ∃ exchange ∈ shut.1, exchange.call = .close :=
    ⟨⟨.search, chained, .close⟩, List.mem_cons_of_mem _ List.mem_cons_self, rfl⟩
  obtain ⟨closed, once, _, afterwards⟩ := closed_for_good constructed run (Or.inr closing)
  obtain ⟨_, fails, _⟩ := afterwards .search .satisfiable Oracle.search_lawful
  obtain ⟨_, _, alongside, _⟩ :=
    afterwards .search (.alongsideClause (.list [.whole 1])) Oracle.search_lawful
  have denied : ((Call.alongsideClause (.list [.whole 1])).perform .search shut.2).1 =
      .ok (.flag false) := by cbv
  have means : (Call.alongsideClause (.list [.whole 1])).Means
      (.inquire (.alongside [Clause.unit ⟨⟨1, by decide⟩, true⟩])) :=
    Call.read_ok_iff.mp (by cbv)
  obtain ⟨_, _, _, truthful⟩ := alongside _ (List.cons_ne_nil _ _) means
  obtain ⟨possible, same, truth⟩ := truthful _ denied
  refine ⟨constructed, run, closing, closed, once, by cbv, fails (.satisfiable []) rfl trivial,
    denied, fun satisfiable => ?_⟩
  rw [truth.mpr satisfiable] at same
  cases same

end Clausal
