import Clausal.Proofs.Twins

/-!
# Queries are invisible

A query may teach the solver something about its clauses. Without limits this makes no
difference to what comes after it, but for one thing: the solver may see by itself that an
addition leaves no model, where it would have taken a decision to find out. That can happen
once along a run, at the first addition to be refused, and only if unit propagation does not
see the conflict. Later additions are refused without a decision in any case.

A query leaves a twin of the rule base that it met, so a run goes on after it as it would have
gone on without it.
-/

namespace Clausal

/-- The call is for a query, be it well formed or not. -/
def Call.isQuery : Call → Bool
  | tellFact _ | tell _ | close | enter | describe | listing => false
  | _ => true

open RuleBase

variable {oracle second : Oracle} {start base one other after : RuleBase}
  {history kept later : List Exchange} {call : Call} {clause : Clause}

/-- A call for a query that can be read means a query. -/
theorem Call.means_inquire (query : call.isQuery = true) {request : Request}
    (means : call.Means request) : ∃ query, request = .inquire query := by
  cases call with
  | tellFact given => cases query
  | tell given => cases query
  | close => cases query
  | enter => cases query
  | describe => cases query
  | listing => cases query
  | satisfiableWith given => obtain ⟨_, _, rfl⟩ := means; exact ⟨_, rfl⟩
  | alongside given => obtain ⟨_, _, rfl⟩ := means; exact ⟨_, rfl⟩
  | alongsideClause given => obtain ⟨_, _, rfl⟩ := means; exact ⟨_, rfl⟩
  | modelWith given => obtain ⟨_, _, rfl⟩ := means; exact ⟨_, rfl⟩
  | entails given denied => obtain ⟨_, _, _, _, rfl⟩ := means; exact ⟨_, rfl⟩
  | entailsHard given denied => obtain ⟨_, _, _, _, rfl⟩ := means; exact ⟨_, rfl⟩
  | agreement given => rcases means with ⟨_, rfl⟩ | ⟨_, _, rfl⟩ <;> exact ⟨_, rfl⟩
  | satisfiable => exact ⟨_, means⟩
  | model => exact ⟨_, means⟩
  | backbone => exact ⟨_, means⟩
  | classes => exact ⟨_, means⟩
  | survey => exact ⟨_, means⟩

/-- A query leaves a twin, and so does a malformed one. -/
theorem RuleBase.Certain.twins_query (certain : base.Certain) (lawful : oracle.Lawful)
    (query : call.isQuery = true) : Twins base (call.perform oracle base).2 := by
  refine ⟨certain, certain.perform lawful call, ?_⟩
  unfold Call.perform
  cases read : call.read with
  | error fault => exact .refl base
  | ok request =>
    obtain ⟨query, rfl⟩ := call.means_inquire query (Call.read_ok_iff.mp read)
    exact (query.conducted_perform lawful certain.coherent).unaltered

/-- The decision of an addition to an open rule base that is certain is made, since it has no
limit. -/
theorem RuleBase.Certain.answered (certain : base.Certain) (lawful : oracle.Lawful)
    (isOpen : base.isOpen = true) (adds : call.Adds clause) :
    (Exchange.mk oracle base call).Answered := by
  have checked := call.checked_perform lawful certain.coherent (Call.added?_eq_some_iff.mpr adds)
  have made (fault : Fault) : ¬(base.store clause).Declines fault :=
    not_declines isOpen certain.unlimited
  constructor
  · rintro ⟨assumptions, gaveUp⟩
    rcases checked.failed _ gaveUp with ⟨⟨⟩, _⟩ | ⟨declines, _⟩
    exact made _ declines
  · rintro ⟨uncountable, _⟩
    exact Bool.false_ne_true (uncountable.symm.trans (isCountable_of_unlimited certain.unlimited))

/-- The addition is the first to be refused, and unit propagation does not see why. Whether the
solver sees it depends on what its decisions have taught it. -/
def Exchange.Unforeseen (exchange : Exchange) : Prop :=
  exchange.before.trusted = true ∧ ∃ clause, exchange.call.Adds clause ∧
    exchange.outcome.1 = .error (.contradiction (some clause)) ∧
    ¬Refuted (exchange.before.clauses ++ [clause])

/-- Two exchanges, each on a rule base of its own, come to matching outcomes and cost as many
decisions, except that an unforeseen refusal costs each of them one decision or none. -/
structure Exchange.Agrees (first second : Exchange) : Prop where
  result : Corresponds Answer.Matches first.outcome.1 second.outcome.1
  cost : ∃ spent also, first.outcome.2.decisions = first.before.decisions + spent ∧
    second.outcome.2.decisions = second.before.decisions + also ∧
    (spent = also ∨ first.Unforeseen ∧ spent ≤ 1 ∧ also ≤ 1)

/-- Where the clauses have no model, or propagation sees that they have none with the new one,
an addition takes no decision. -/
theorem RuleBase.Certain.adds_free (certain : base.Certain) (lawful : oracle.Lawful)
    (isOpen : base.isOpen = true) (adds : call.Adds clause)
    (known : ¬Satisfiable base.clauses [] ∨ Refuted (base.clauses ++ [clause])) :
    (call.perform oracle base).2.decisions = base.decisions := by
  obtain ⟨solver, held⟩ := Option.isSome_iff_exists.mp isOpen
  rw [← certain.refuted_iff held, ← (certain.coherent.sound solver held).database] at known
  exact (call.adds_silent held adds (Solver.refuted_insert lawful known)).2

/-- Where there is a model with the new clause, an addition takes one decision. No sound solver
sees a conflict there, whatever it has learnt. -/
theorem RuleBase.Certain.adds_once (certain : base.Certain) (lawful : oracle.Lawful)
    (isOpen : base.isOpen = true) (adds : call.Adds clause)
    (satisfiable : Satisfiable (base.clauses ++ [clause]) []) :
    (call.perform oracle base).2.decisions = base.decisions + 1 := by
  obtain ⟨solver, held⟩ := Option.isSome_iff_exists.mp isOpen
  have sound := (certain.coherent.sound solver held).insert lawful clause
  have unrefuted : (solver.insert oracle clause).refuted = false := by
    rw [← Bool.not_eq_true]
    exact fun refuted => sound.refuted refuted satisfiable
  exact (call.adds_asks held adds unrefuted (certain.answered lawful isOpen adds)).2

/-- No addition takes more than one decision. It takes none if the solver sees a conflict by
itself. -/
theorem RuleBase.Certain.adds_most (certain : base.Certain) (lawful : oracle.Lawful)
    (isOpen : base.isOpen = true) (adds : call.Adds clause) :
    ∃ spent ≤ 1, (call.perform oracle base).2.decisions = base.decisions + spent := by
  obtain ⟨solver, held⟩ := Option.isSome_iff_exists.mp isOpen
  cases sees : (solver.insert oracle clause).refuted with
  | true => exact ⟨0, Nat.zero_le 1, (call.adds_silent held adds sees).2⟩
  | false =>
    have asked := call.adds_asks held adds sees (certain.answered lawful isOpen adds)
    exact ⟨1, Nat.le_refl 1, asked.2⟩

/-- An addition costs twins the same, unless it is an unforeseen refusal. There the cost depends
on what each solver has learnt from questions that the other was not asked. -/
theorem RuleBase.Twins.adds_cost (lawful : oracle.Lawful) (alsoLawful : second.Lawful)
    (twins : Twins one other) (adds : call.Adds clause) :
    ∃ spent also, (call.perform oracle one).2.decisions = one.decisions + spent ∧
      (call.perform second other).2.decisions = other.decisions + also ∧
      (spent = also ∨ (Exchange.mk oracle one call).Unforeseen ∧ spent ≤ 1 ∧ also ≤ 1) := by
  obtain ⟨certain, alsoCertain, alike⟩ := twins
  cases isOpen : one.isOpen with
  | false =>
    have closed : one.solver = none := isOpen_eq_false_iff.mp isOpen
    have alsoClosed : other.solver = none := isOpen_eq_false_iff.mp (alike.isOpen.trans isOpen)
    refine ⟨0, 0, ?_, ?_, Or.inl rfl⟩
    · rw [call.adds_closed closed adds]
      rfl
    · rw [call.adds_closed alsoClosed adds]
      rfl
  | true =>
    have alsoOpen : other.isOpen = true := alike.isOpen.trans isOpen
    by_cases known : ¬Satisfiable one.clauses [] ∨ Refuted (one.clauses ++ [clause])
    · have free := certain.adds_free lawful isOpen adds known
      rw [← alike.clauses] at known
      exact ⟨0, 0, free, alsoCertain.adds_free alsoLawful alsoOpen adds known, Or.inl rfl⟩
    by_cases satisfiable : Satisfiable (one.clauses ++ [clause]) []
    · have once := certain.adds_once lawful isOpen adds satisfiable
      rw [← alike.clauses] at satisfiable
      exact ⟨1, 1, once, alsoCertain.adds_once alsoLawful alsoOpen adds satisfiable, Or.inl rfl⟩
    · obtain ⟨had, unseen⟩ := not_or.mp known
      obtain ⟨spent, atMost, counted⟩ := certain.adds_most lawful isOpen adds
      obtain ⟨also, alsoAtMost, alsoCounted⟩ := alsoCertain.adds_most alsoLawful alsoOpen adds
      have trusted : one.trusted = true := by
        rw [← Bool.not_eq_false]
        exact fun lost => had (certain.coherent.distrusted lost)
      obtain ⟨_, refuses⟩ := call.verdict lawful certain.coherent isOpen adds
        (certain.answered lawful isOpen adds)
      have unforeseen : (Exchange.mk oracle one call).Unforeseen :=
        ⟨trusted, clause, adds, (refuses satisfiable).1, unseen⟩
      exact ⟨spent, also, counted, alsoCounted, Or.inr ⟨unforeseen, atMost, alsoAtMost⟩⟩

/-- An addition has the same outcome on twins, and trust after it is the same. The outcome is a
matter of the clauses, also where the cost is not. -/
theorem RuleBase.Twins.adds_outcome (lawful : oracle.Lawful) (alsoLawful : second.Lawful)
    (twins : Twins one other) (adds : call.Adds clause) :
    Corresponds Answer.Matches (call.perform oracle one).1 (call.perform second other).1 ∧
      (call.perform second other).2.trusted = (call.perform oracle one).2.trusted := by
  obtain ⟨certain, alsoCertain, alike⟩ := twins
  cases isOpen : one.isOpen with
  | false =>
    have closed : one.solver = none := isOpen_eq_false_iff.mp isOpen
    have alsoClosed : other.solver = none := isOpen_eq_false_iff.mp (alike.isOpen.trans isOpen)
    rw [call.adds_closed closed adds, call.adds_closed alsoClosed adds]
    exact ⟨rfl, alike.trusted⟩
  | true =>
    have alsoOpen : other.isOpen = true := alike.isOpen.trans isOpen
    obtain ⟨accepts, refuses⟩ := call.verdict lawful certain.coherent isOpen adds
      (certain.answered lawful isOpen adds)
    obtain ⟨alsoAccepts, alsoRefuses⟩ := call.verdict alsoLawful alsoCertain.coherent alsoOpen adds
      (alsoCertain.answered alsoLawful alsoOpen adds)
    rw [alike.clauses] at alsoAccepts alsoRefuses
    by_cases satisfiable : Satisfiable (one.clauses ++ [clause]) []
    · obtain ⟨ended, trusted⟩ := accepts satisfiable
      obtain ⟨alsoEnded, alsoTrusted⟩ := alsoAccepts satisfiable
      rw [ended, alsoEnded, trusted, alsoTrusted]
      exact ⟨rfl, alike.trusted⟩
    · obtain ⟨ended, lost⟩ := refuses satisfiable
      obtain ⟨alsoEnded, alsoLost⟩ := alsoRefuses satisfiable
      rw [ended, alsoEnded, lost, alsoLost]
      exact ⟨rfl, rfl⟩

/-- An addition to twins leaves twins. -/
theorem RuleBase.Twins.adds (lawful : oracle.Lawful) (alsoLawful : second.Lawful)
    (twins : Twins one other) (adds : call.Adds clause) :
    Twins (call.perform oracle one).2 (call.perform second other).2 := by
  have same := (twins.adds_outcome lawful alsoLawful adds).2
  obtain ⟨certain, alsoCertain, alike⟩ := twins
  refine ⟨certain.perform lawful call, alsoCertain.perform alsoLawful call, ?_⟩
  have read := Call.added?_eq_some_iff.mpr adds
  have checked := call.checked_perform lawful certain.coherent read
  have alsoChecked := call.checked_perform alsoLawful alsoCertain.coherent read
  refine ⟨?_, ?_, ?_, ?_, same, ?_⟩
  · exact alsoChecked.backend.trans (alike.backend.trans checked.backend.symm)
  · exact alsoChecked.limits.trans (alike.limits.trans checked.limits.symm)
  · rw [alsoChecked.clauses, checked.clauses, store, store, alike.clauses]
  · rw [alsoChecked.highest, checked.highest, store, store, alike.highest]
  · exact alsoChecked.isOpen.trans (alike.isOpen.trans checked.isOpen.symm)

/-- One call on twins, under lawful oracles: the exchanges agree, and twins are left. Only
additions may differ in their cost. -/
theorem RuleBase.Twins.perform (lawful : oracle.Lawful) (alsoLawful : second.Lawful)
    (twins : Twins one other) (call : Call) :
    (Exchange.mk oracle one call).Agrees (Exchange.mk second other call) ∧
      Twins (call.perform oracle one).2 (call.perform second other).2 := by
  cases adds : call.added? with
  | none =>
    obtain ⟨result, ⟨cost, counted, alsoCounted⟩, left⟩ :=
      call.parallel_perform lawful alsoLawful twins adds
    exact ⟨⟨result, cost, cost, counted, alsoCounted, Or.inl rfl⟩, left⟩
  | some clause =>
    have adds : call.Adds clause := Call.added?_eq_some_iff.mp adds
    exact ⟨⟨(twins.adds_outcome lawful alsoLawful adds).1,
      twins.adds_cost lawful alsoLawful adds⟩, twins.adds lawful alsoLawful adds⟩

/-- Once an addition was refused there is no trust left to lose, so no other is unforeseen. The
induction is on the run; its invariant is that an unforeseen refusal has ended the trust. -/
theorem Run.unforeseen_once (coherent : start.Coherent) (run : Run start history base) :
    history.Pairwise (fun later earlier => earlier.Unforeseen → ¬later.Unforeseen) ∧
      ∀ exchange ∈ history, exchange.Unforeseen → base.trusted = false := by
  induction run with
  | begun => exact ⟨.nil, by simp⟩
  | @called history base earlier oracle lawful call inductionHypothesis =>
    obtain ⟨once, lost⟩ := inductionHypothesis
    have here : base.Coherent := earlier.coherent coherent
    refine ⟨List.pairwise_cons.mpr ⟨?_, once⟩, List.forall_mem_cons.mpr ⟨?_, ?_⟩⟩
    · rintro exchange member unforeseen ⟨trusted, _⟩
      exact Bool.false_ne_true ((lost exchange member unforeseen).symm.trans trusted)
    · rintro ⟨_, clause, adds, refused, _⟩
      have checked := call.checked_perform lawful here (Call.added?_eq_some_iff.mpr adds)
      rcases checked.failed _ refused with ⟨_, _, distrusted⟩ | ⟨⟨⟩, _⟩
      exact distrusted
    · intro exchange member unforeseen
      exact (call.grown_perform lawful here).distrusted (lost exchange member unforeseen)

/-- The calls that are no queries. -/
def Exchange.notQuery (exchange : Exchange) : Bool := !exchange.call.isQuery

/-- Where a query is left out, the rest leaves out queries only. The first exchange cannot be of
another kind, or too few of these would be left. -/
theorem query_of_left_out {exchange : Exchange} (sublist : kept.Sublist history)
    (others : kept.filter Exchange.notQuery = (exchange :: history).filter Exchange.notQuery) :
    exchange.call.isQuery = true ∧
      kept.filter Exchange.notQuery = history.filter Exchange.notQuery := by
  rw [List.filter_cons] at others
  split at others
  · have fewer := (sublist.filter Exchange.notQuery).length_le
    rw [others, List.length_cons] at fewer
    omega
  · next query =>
    refine ⟨?_, others⟩
    simpa [Exchange.notQuery] using query

/-- Along two runs from one rule base, the second of which leaves out queries of the first,
what is not left out agrees, and the rule bases stay twins. The induction is on the first
run: a call that is left out leaves a twin behind, and one that is kept finds twins. -/
theorem Run.thinned (certain : start.Certain) (run : Run start history base)
    (sublist : kept.Sublist history)
    (others : kept.filter Exchange.notQuery = history.filter Exchange.notQuery)
    (thin : Run start later after) (same : later.map Exchange.call = kept.map Exchange.call) :
    List.Forall₂ Exchange.Agrees kept later ∧ Twins base after := by
  induction run generalizing kept later after with
  | begun =>
    obtain rfl := List.sublist_nil.mp sublist
    obtain rfl : later = [] := List.map_eq_nil_iff.mp same
    cases thin
    exact ⟨.nil, certain.twins⟩
  | @called history base earlier oracle lawful call inductionHypothesis =>
    have here : base.Certain := earlier.certain certain
    cases sublist with
    | cons _ sublist =>
      obtain ⟨query, others⟩ := query_of_left_out sublist others
      obtain ⟨agree, twins⟩ := inductionHypothesis sublist others thin same
      exact ⟨agree, (here.twins_query lawful query).symm.trans twins⟩
    | @cons_cons kept _ _ sublist =>
      cases later with
      | nil => cases same
      | cons other later =>
        obtain ⟨sameCall, sameRest⟩ := List.cons.inj same
        cases thin with
        | @called _ reached thin second alsoLawful also =>
          obtain rfl : also = call := sameCall
          have rest : kept.filter Exchange.notQuery = history.filter Exchange.notQuery := by
            rw [List.filter_cons, List.filter_cons] at others
            split at others
            · exact (List.cons.inj others).2
            · exact others
          obtain ⟨agree, twins⟩ := inductionHypothesis sublist rest thin sameRest
          obtain ⟨agrees, left⟩ := twins.perform lawful alsoLawful also
          exact ⟨.cons agrees agree, left⟩

/-- Queries are invisible, along every run from a rule base that was built without limits.
Leave out any of the queries of the run, well formed or malformed, and make the calls that are
kept, under any oracles: each of them comes to the outcome that it came to and costs as many
decisions, unless it is an unforeseen refusal, which costs one or none. There is at most one
of these. The run ends with the same clauses, the same highest variable and the same trust. -/
theorem queries_invisible (built : Built start) (unlimited : start.limits.isLimited = false)
    (run : Run start history base) (sublist : kept.Sublist history)
    (others : kept.filter Exchange.notQuery = history.filter Exchange.notQuery)
    (thin : Run start later after) (same : later.map Exchange.call = kept.map Exchange.call) :
    List.Forall₂ Exchange.Agrees kept later ∧
      history.Pairwise (fun later earlier => earlier.Unforeseen → ¬later.Unforeseen) ∧
      after.clauses = base.clauses ∧ after.highest = base.highest ∧
      after.trusted = base.trusted := by
  obtain ⟨agree, twins⟩ := run.thinned (built.certain unlimited) sublist others thin same
  exact ⟨agree, (run.unforeseen_once built.coherent).1, twins.alike.clauses, twins.alike.highest,
    twins.alike.trusted⟩

/-- Built from no clauses and without limits. -/
def RuleBase.bare : RuleBase := (create .search "m22" .none []).2

/-- The four clauses over two variables are told with queries in between, two of them after
the last model is gone and one malformed, and then another clause is told. -/
def RuleBase.watched : List Exchange × RuleBase :=
  serve .search bare [.either 1 2, .survey, .either (-1) 2, .satisfiableWith .null, .either 1 (-2),
    .model, .either (-1) (-2), .satisfiable, .alongsideClause (.list [.whole 3]), .either 3 4]

/-- The same clauses are told without a query. -/
def RuleBase.unwatched : List Exchange × RuleBase :=
  serve .search bare (corners ++ [.either 3 4])

/-- The queries took eight decisions. Of the five additions the last took none, since by then
the solver knew in any case. -/
theorem watched_like_unwatched :
    Built bare ∧ bare.limits.isLimited = false ∧ Run bare watched.1 watched.2 ∧
      Run bare unwatched.1 unwatched.2 ∧
      List.Forall₂ Exchange.Agrees (watched.1.filter Exchange.notQuery) unwatched.1 ∧
      unwatched.2.clauses = watched.2.clauses ∧ unwatched.2.decisions = 4 ∧
      watched.2.decisions = 12 := by
  have built : Built bare := built_create Oracle.search_lawful rfl
  have run : Run bare watched.1 watched.2 := run_serve Oracle.search_lawful _
  have thin : Run bare unwatched.1 unwatched.2 := run_serve Oracle.search_lawful _
  have others : (watched.1.filter Exchange.notQuery).filter Exchange.notQuery =
      watched.1.filter Exchange.notQuery := by
    rw [List.filter_filter]
    simp
  have same : unwatched.1.map Exchange.call =
      (watched.1.filter Exchange.notQuery).map Exchange.call := by cbv
  obtain ⟨agree, _, clauses, _⟩ :=
    queries_invisible built rfl run List.filter_sublist others thin same
  exact ⟨built, rfl, run, thin, agree, clauses, by cbv, by cbv⟩

/-- The four clauses hold only where the first variable is true. It was told to be false, after
the question whether it can be. -/
def RuleBase.forewarned : List Exchange × RuleBase :=
  serve .search veiled [.satisfiableWith (.whole (-1)), .tellFact (.whole (-1))]

/-- It was told to be false without a question before. -/
def RuleBase.unwarned : List Exchange × RuleBase :=
  serve .search veiled [.tellFact (.whole (-1))]

/-- The query shows in the cost of the refusal. Without it the solver takes a decision to find
that there is no model; with it the solver has learnt enough to see that by itself. So the run
with the query takes as many decisions as the run without. -/
theorem query_spares_decision :
    Built veiled ∧ veiled.limits.isLimited = false ∧
      Run veiled forewarned.1 forewarned.2 ∧ Run veiled unwarned.1 unwarned.2 ∧
      unwarned.1.map Exchange.call =
        (forewarned.1.filter Exchange.notQuery).map Exchange.call ∧
      forewarned.2.decisions = unwarned.2.decisions ∧
      ¬List.Forall₂ (fun first second : Exchange => ∃ cost,
        first.outcome.2.decisions = first.before.decisions + cost ∧
          second.outcome.2.decisions = second.before.decisions + cost)
        (forewarned.1.filter Exchange.notQuery) unwarned.1 := by
  refine ⟨veiled_built, by cbv, run_serve Oracle.search_lawful _, run_serve Oracle.search_lawful _,
    rfl, by cbv, ?_⟩
  have kept : forewarned.1.filter Exchange.notQuery =
      [⟨.search, unveiled.2, .tellFact (.whole (-1))⟩] := rfl
  have alone : unwarned.1 = [⟨.search, veiled, .tellFact (.whole (-1))⟩] := rfl
  rw [kept, alone, List.forall₂_cons]
  rintro ⟨⟨cost, free, paid⟩, _⟩
  have spared : ((Call.tellFact (.whole (-1))).perform .search unveiled.2).2.decisions = 2 := by cbv
  have asked : ((Call.tellFact (.whole (-1))).perform .search veiled).2.decisions = 2 := by cbv
  have before : unveiled.2.decisions = 2 := by cbv
  have alsoBefore : veiled.decisions = 1 := by cbv
  change ((Call.tellFact (.whole (-1))).perform .search unveiled.2).2.decisions =
    unveiled.2.decisions + cost at free
  change ((Call.tellFact (.whole (-1))).perform .search veiled).2.decisions =
    veiled.decisions + cost at paid
  omega

end Clausal
