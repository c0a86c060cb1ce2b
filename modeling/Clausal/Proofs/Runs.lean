import Clausal.Call
import Clausal.Oracle.Branching
import Clausal.Proofs.Additions
import Mathlib.Computability.Primrec.List
import Mathlib.Data.List.Permutation

/-!
# Runs of calls

A run starts from a rule base and makes calls one after the other, with any arguments
and whatever their outcomes. Each call may be served by an oracle of its own, as long as
the oracle is lawful, so decisions may give up anywhere and any models may be found.

One call does one of three things to what is stored: it adds a clause and checks it, it
closes the rule base, or it changes nothing. From this follows, by induction on the run,
what no run can undo.

Runs of given calls are evaluated. The two modules of Mathlib have the equations by which
lookups in lists and second components are unfolded then.
-/

namespace Clausal

/-- The clause that a request adds, if it is a request to add one. -/
def Request.added? : Request → Option Clause
  | tellFact literal => some (Clause.unit literal)
  | tell clause => some clause
  | _ => none

/-- The clause that a call adds, if it is a call to add one and its argument is well
formed. -/
def Call.added? (call : Call) : Option Clause :=
  match call.read with
  | .ok request => request.added?
  | .error _ => none

/-- One call of a run, with the rule base that it met and the oracle that served it. -/
structure Exchange where
  oracle : Oracle
  before : RuleBase
  call : Call

/-- What the call came to. -/
def Exchange.outcome (exchange : Exchange) : Outcome Answer :=
  exchange.call.perform exchange.oracle exchange.before

/-- A run of calls from a rule base to another. Its exchanges are listed latest first. -/
inductive Run (start : RuleBase) : List Exchange → RuleBase → Prop
  | begun : Run start [] start
  | called {history : List Exchange} {base : RuleBase} (run : Run start history base)
      (oracle : Oracle) (lawful : oracle.Lawful) (call : Call) :
      Run start (⟨oracle, base, call⟩ :: history) (call.perform oracle base).2

/-- The rule base was built from a batch of clauses. -/
def Built (base : RuleBase) : Prop :=
  ∃ oracle backend limits batch, oracle.Lawful ∧
    RuleBase.create oracle backend limits batch = (.ok (), base)

/-- Where construction succeeds, a rule base was built. -/
theorem built_create {oracle : Oracle} (lawful : oracle.Lawful) {backend : String}
    {limits : Limits} {batch : List (Except Fault Clause)}
    (succeeds : (RuleBase.create oracle backend limits batch).1 = .ok ()) :
    Built (RuleBase.create oracle backend limits batch).2 :=
  ⟨oracle, backend, limits, batch, lawful, Prod.ext succeeds rfl⟩

/-- The rule base was built and then calls were made, any calls. -/
def Reachable (base : RuleBase) : Prop := ∃ start history, Built start ∧ Run start history base

namespace RuleBase

variable {α : Type} {oracle : Oracle} {base : RuleBase}

/-- Later in a run. Clauses are never removed, trust is never won back, and a closed rule
base stays closed. -/
structure Grown (before after : RuleBase) : Prop where
  limits : after.limits = before.limits
  clauses : before.clauses <+: after.clauses
  distrusted : before.trusted = false → after.trusted = false
  closed : before.isOpen = false → after.isOpen = false

/-- A rule base has grown from itself. -/
theorem Grown.refl (base : RuleBase) : Grown base base := ⟨rfl, ⟨[], List.append_nil _⟩, id, id⟩

/-- Growth adds up along a run. -/
theorem Grown.trans {first second third : RuleBase} (earlier : Grown first second)
    (later : Grown second third) : Grown first third where
  limits := later.limits.trans earlier.limits
  clauses := earlier.clauses.trans later.clauses
  distrusted := later.distrusted ∘ earlier.distrusted
  closed := later.closed ∘ earlier.closed

/-- What is open was open before. -/
theorem Grown.isOpen {before after : RuleBase} (grown : Grown before after)
    (isOpen : after.isOpen = true) : before.isOpen = true := by
  by_contra closed
  have stays : after.isOpen = false := grown.closed (Bool.not_eq_true _ ▸ closed)
  rw [isOpen] at stays
  cases stays

/-- Clauses without a model never have one again. -/
theorem Grown.satisfiable {before after : RuleBase} {literals : List Literal}
    (grown : Grown before after) (satisfiable : Satisfiable after.clauses literals) :
    Satisfiable before.clauses literals := by
  obtain ⟨added, together⟩ := grown.clauses
  rw [← together] at satisfiable
  exact satisfiable.of_append

/-- What is not altered has grown by nothing. -/
theorem Unaltered.grown {before after : RuleBase} (unaltered : Unaltered before after) :
    Grown before after where
  limits := unaltered.limits
  clauses := ⟨[], by rw [List.append_nil, unaltered.clauses]⟩
  distrusted := unaltered.trusted.trans
  closed := unaltered.isOpen.trans

/-- Closing adds no clause and restores no trust. -/
theorem close_grown (base : RuleBase) : Grown base base.close := by
  unfold close
  split
  · exact .refl base
  · exact ⟨rfl, ⟨[], List.append_nil _⟩, id, fun _ => rfl⟩

/-- A checked addition has grown by its clause, however the check ended. The clause is stored
before the check, and nothing takes it out again. -/
theorem Checked.grown {clause : Clause} {blamed : Option Clause} {outcome : Outcome α}
    (checked : Checked (base.store clause) blamed outcome) : Grown base outcome.2 where
  limits := checked.limits
  clauses := ⟨[clause], checked.clauses.symm⟩
  distrusted := by
    intro distrusted
    cases ended : outcome.1 with
    | ok result => exact (checked.accepted result ended).2.trans distrusted
    | error fault =>
      rcases checked.failed fault ended with ⟨_, _, lost⟩ | ⟨_, same⟩
      · exact lost
      · exact same.trans distrusted
  closed := checked.isOpen.trans

/-- Without limits there is no bound on conflicts that could fail to be a whole number. -/
theorem isCountable_of_unlimited {limits : Limits} (unlimited : limits.isLimited = false) :
    limits.isCountable = true := by
  rw [Limits.isLimited, Bool.or_eq_false_iff] at unlimited
  have noBound : limits.conflicts = none :=
    Option.isNone_iff_eq_none.mp (Option.isSome_eq_false_iff.mp unlimited.2)
  rw [Limits.isCountable, noBound]

/-- Without limits, only a closed rule base declines. -/
theorem Declines.of_unlimited {fault : Fault} (unlimited : base.limits.isLimited = false)
    (declines : base.Declines fault) : fault = .closed ∧ base.isOpen = false := by
  cases declines with
  | closed closed => exact ⟨rfl, closed⟩
  | gaveUp assumptions limited => rw [unlimited] at limited; cases limited
  | uncountable uncountable =>
    rw [isCountable_of_unlimited unlimited] at uncountable
    cases uncountable

/-- An open rule base whose limit can be counted declines only by giving up. The other two
reasons are about closing and about limits that are no whole numbers. -/
theorem Declines.of_countable {fault : Fault} (isOpen : base.isOpen = true)
    (countable : base.limits.isCountable = true) (declines : base.Declines fault) :
    ∃ assumptions, fault = .gaveUp assumptions base.limits := by
  cases declines with
  | closed closed =>
    rw [isOpen] at closed
    cases closed
  | gaveUp assumptions limited => exact ⟨assumptions, rfl⟩
  | uncountable uncountable =>
    rw [countable] at uncountable
    cases uncountable

/-- An open rule base without limits has no reason to decline. -/
theorem not_declines {fault : Fault} (isOpen : base.isOpen = true)
    (unlimited : base.limits.isLimited = false) : ¬base.Declines fault := by
  intro declines
  obtain ⟨_, closed⟩ := declines.of_unlimited unlimited
  rw [isOpen] at closed
  cases closed

end RuleBase

open RuleBase

variable {oracle : Oracle} {base : RuleBase}

/-- The record of an addition and its silent answer change nothing about the check. A check that
fails is not recorded as an addition. -/
theorem RuleBase.checked_silent {blamed : Option Clause} (outcome : Outcome Unit)
    (event : Event) :
    Checked base blamed outcome → Checked base blamed
      (Outcome.silent
        (match outcome with
          | (.error fault, after) => (.error fault, after)
          | (.ok _, after) => (.ok (), after.log event))) := by
  intro checked
  obtain ⟨ended, after⟩ := outcome
  cases ended with
  | error fault =>
    refine ⟨checked.coherent, checked.backend, checked.limits, checked.clauses, checked.highest,
      checked.isOpen, ?_, ?_⟩ <;> rintro _ ⟨⟩
    exact checked.failed fault rfl
  | ok value =>
    refine ⟨checked.coherent.log event, checked.backend, checked.limits, checked.clauses,
      checked.highest, checked.isOpen, ?_, ?_⟩ <;> rintro _ ⟨⟩
    exact checked.accepted value rfl

/-- A request to add a clause stores it and checks what is stored. A fact is a clause with one
literal. -/
theorem Request.checked_perform (lawful : oracle.Lawful) (coherent : base.Coherent)
    {request : Request} {clause : Clause} (adds : request.added? = some clause) :
    Checked (base.store clause) (some clause) (request.perform oracle base) := by
  cases request with
  | tellFact literal =>
    obtain rfl := Option.some.inj adds
    exact checked_silent _ (.factAdded literal)
      (checked_add lawful coherent (Clause.unit literal))
  | tell given =>
    obtain rfl := Option.some.inj adds
    exact checked_silent _ (.clauseAdded given) (checked_add lawful coherent given)
  | inquire query => cases adds
  | close => cases adds
  | enter => cases adds
  | describe => cases adds
  | listing => cases adds

/-- A query is the inquiry that answers it. -/
theorem Query.conducted_perform (lawful : oracle.Lawful) (coherent : base.Coherent)
    (query : Query) :
    Conducted base (query.inquiry base.highest) ((Request.inquire query).perform oracle base) :=
  conducted_run lawful coherent (query.inquiry base.highest)

/-- A request that adds nothing changes nothing that is stored, or closes. A query is conducted,
and the remaining requests only look. -/
theorem Request.unaltered_perform (lawful : oracle.Lawful) (coherent : base.Coherent)
    {request : Request} (adds : request.added? = none) :
    (request.perform oracle base).2.Coherent ∧
      (Unaltered base (request.perform oracle base).2 ∨
        (request.perform oracle base).2 = base.close) := by
  cases request with
  | tellFact literal => cases adds
  | tell clause => cases adds
  | inquire query =>
    have conducted := query.conducted_perform lawful coherent
    exact ⟨conducted.coherent, Or.inl conducted.unaltered⟩
  | close => exact ⟨coherent.close, Or.inr rfl⟩
  | enter => exact ⟨coherent, Or.inl (.refl base)⟩
  | describe => exact ⟨coherent, Or.inl (.refl base)⟩
  | listing => exact ⟨coherent, Or.inl (.refl base)⟩

/-- A call that adds a clause stores it and checks what is stored. The call was read, or it would
add nothing. -/
theorem Call.checked_perform (lawful : oracle.Lawful) (coherent : base.Coherent) {call : Call}
    {clause : Clause} (adds : call.added? = some clause) :
    Checked (base.store clause) (some clause) (call.perform oracle base) := by
  unfold added? at adds
  unfold perform
  cases read : call.read with
  | error fault =>
    rw [read] at adds
    cases adds
  | ok request =>
    rw [read] at adds
    exact request.checked_perform lawful coherent adds

/-- A call that adds nothing, be it malformed or not, changes nothing that is stored, or
closes. -/
theorem Call.unaltered_perform (lawful : oracle.Lawful) (coherent : base.Coherent) {call : Call}
    (adds : call.added? = none) :
    (call.perform oracle base).2.Coherent ∧
      (Unaltered base (call.perform oracle base).2 ∨
        (call.perform oracle base).2 = base.close) := by
  unfold added? at adds
  unfold perform
  cases read : call.read with
  | error fault => exact ⟨coherent, Or.inl (.refl base)⟩
  | ok request =>
    rw [read] at adds
    exact request.unaltered_perform lawful coherent adds

/-- Every call keeps coherence. -/
theorem Call.coherent_perform (lawful : oracle.Lawful) (coherent : base.Coherent) (call : Call) :
    (call.perform oracle base).2.Coherent := by
  cases adds : call.added? with
  | none => exact (call.unaltered_perform lawful coherent adds).1
  | some clause => exact (call.checked_perform lawful coherent adds).coherent

/-- Every call leads to a later rule base. -/
theorem Call.grown_perform (lawful : oracle.Lawful) (coherent : base.Coherent) (call : Call) :
    Grown base (call.perform oracle base).2 := by
  cases adds : call.added? with
  | none =>
    cases (call.unaltered_perform lawful coherent adds).2 with
    | inl unaltered => exact unaltered.grown
    | inr closed => exact closed ▸ close_grown base
  | some clause => exact (call.checked_perform lawful coherent adds).grown

/-- Coherence is kept along every run. -/
theorem Run.coherent {start : RuleBase} {history : List Exchange} (coherent : start.Coherent)
    (run : Run start history base) : base.Coherent := by
  induction run with
  | begun => exact coherent
  | called _ oracle lawful call inductionHypothesis =>
    exact call.coherent_perform lawful inductionHypothesis

/-- A run only ever grows. -/
theorem Run.grown {start : RuleBase} {history : List Exchange} (coherent : start.Coherent)
    (run : Run start history base) : Grown start base := by
  induction run with
  | begun => exact .refl start
  | called earlier oracle lawful call inductionHypothesis =>
    exact inductionHypothesis.trans (call.grown_perform lawful (earlier.coherent coherent))

/-- A rule base is coherent when it is built. -/
theorem Built.coherent (built : Built base) : base.Coherent := by
  obtain ⟨oracle, backend, limits, batch, lawful, created⟩ := built
  exact (create_ok lawful created).1

/-- What could be built has a model. -/
theorem Built.satisfiable (built : Built base) : Satisfiable base.clauses [] := by
  obtain ⟨oracle, backend, limits, batch, lawful, created⟩ := built
  exact (create_ok lawful created).2.2.2.2

/-- A rule base is coherent wherever a run leads, since every call keeps it so. -/
theorem Reachable.coherent (reachable : Reachable base) : base.Coherent := by
  obtain ⟨start, history, built, run⟩ := reachable
  exact run.coherent built.coherent

/-- The exchanges, latest first, and the rule base that calls lead to, if one oracle
serves them all. -/
def serve (oracle : Oracle) (base : RuleBase) (calls : List Call) : List Exchange × RuleBase :=
  calls.foldl (fun reached call =>
    (⟨oracle, reached.2, call⟩ :: reached.1, (call.perform oracle reached.2).2)) ([], base)

/-- Calls that a lawful oracle serves are a run. The induction is on the calls, from any
point that a run has reached. -/
theorem run_serve (lawful : oracle.Lawful) (calls : List Call) :
    Run base (serve oracle base calls).1 (serve oracle base calls).2 := by
  have onwards (reached : List Exchange × RuleBase) (run : Run base reached.1 reached.2) :
      let final := calls.foldl (fun reached call =>
        (⟨oracle, reached.2, call⟩ :: reached.1, (call.perform oracle reached.2).2)) reached
      Run base final.1 final.2 := by
    induction calls generalizing reached with
    | nil => exact run
    | cons call rest inductionHypothesis =>
      exact inductionHypothesis _ (run.called oracle lawful call)
  exact onwards ([], base) .begun

/-- The exchanges of served calls are those of the calls. The induction is on the calls, from any
point that they have reached. -/
theorem call_of_mem_serve {calls : List Call} {exchange : Exchange}
    (member : exchange ∈ (serve oracle base calls).1) : exchange.call ∈ calls := by
  have onwards (calls : List Call) (reached : List Exchange × RuleBase)
      (member : exchange ∈ (calls.foldl (fun reached call =>
        (⟨oracle, reached.2, call⟩ :: reached.1, (call.perform oracle reached.2).2)) reached).1) :
      exchange ∈ reached.1 ∨ exchange.call ∈ calls := by
    induction calls generalizing reached with
    | nil => exact Or.inl member
    | cons call rest inductionHypothesis =>
      rcases inductionHypothesis _ member with served | later
      · rcases List.mem_cons.mp served with rfl | earlier
        · exact Or.inr List.mem_cons_self
        · exact Or.inl earlier
      · exact Or.inr (List.mem_cons_of_mem _ later)
  exact (onwards calls ([], base) member).resolve_left List.not_mem_nil

/-- Built under a limit: variables 1, 2 and 4 make a chain, and 3 and 5 are false. -/
def RuleBase.chained : RuleBase :=
  let batch := [.list [.whole (-1), .whole 2], .list [.whole (-2), .whole 4], .list [.whole (-3)],
    .list [.whole (-5)]]
  (create .search "m22" ⟨none, some (.whole 1000)⟩ (Argument.batch (.list batch))).2

/-- The chain has a model, so its construction succeeds. -/
theorem chained_built : Built chained := built_create Oracle.search_lawful (by cbv)

/-- The chain is closed by a clause that is stored although its check gives up. -/
def RuleBase.mirrored : RuleBase :=
  (serve (Oracle.search.exhaustedFrom 0) chained [.tell (.list [.whole (-4), .whole 1])]).2

/-- The closed chain is reached by one call, which fails. -/
theorem mirrored_reachable : Reachable mirrored :=
  ⟨chained, _, chained_built, run_serve (Oracle.search_lawful.exhaustedFrom 0) _⟩

end Clausal
