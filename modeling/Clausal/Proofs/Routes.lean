import Clausal.Proofs.Construction
import Clausal.Proofs.Equivalence

/-!
# Routes to the same clauses

Clauses can be asserted by one batch, one at a time, or by a batch and some additions
after it, in any order, and the literals of a clause may come in any order and may be
repeated. A batch is checked once, at its end, and an addition is checked at once; either
may be stopped earlier by a conflict that the solver sees by itself.

Without limits the route makes no difference. If the clauses have a model, every step of
every route succeeds and all routes lead to rule bases that no settled query tells apart.
If they have none, every route is stopped by a contradiction somewhere.
-/

namespace Clausal

/-- The clauses have the same literals, in any order and however often. -/
def Clause.Rewords (first second : Clause) : Prop :=
  ∀ literal, literal ∈ first.literals ↔ literal ∈ second.literals

/-- The clauses come in another order, and each of them reworded. -/
def Rearranges (clauses given : List Clause) : Prop :=
  ∃ order, order.Perm given ∧ List.Forall₂ Clause.Rewords clauses order

variable {clauses given : List Clause}

/-- The highest number depends on which literals there are, and on nothing else: neither on their
order nor on how often they come. -/
theorem Clause.highestOf_congr {first second : List Literal}
    (same : ∀ literal, literal ∈ first ↔ literal ∈ second) :
    highestOf first = highestOf second := by
  have bounded {one other : List Literal} (included : ∀ literal ∈ one, literal ∈ other) :
      highestOf one ≤ highestOf other := by
    by_cases none : one = []
    · exact none ▸ Nat.zero_le _
    · obtain ⟨literal, member, attained⟩ := exists_eq_highestOf none
      exact attained ▸ le_highestOf (included literal member)
  exact Nat.le_antisymm (bounded fun literal => (same literal).mp)
    (bounded fun literal => (same literal).mpr)

/-- Clauses with the same literals hold under the same assignments, in whatever order and
however often the literals are named. -/
theorem Clause.Rewords.holds_iff {first second : Clause} (rewords : first.Rewords second)
    {assignment : Assignment} : first.Holds assignment ↔ second.Holds assignment :=
  exists_congr fun literal => and_congr_left fun _ => rewords literal

/-- Clauses that are reworded in their places have the same models. -/
theorem equivalent_of_forall₂ (rewords : List.Forall₂ Clause.Rewords clauses given) :
    Equivalent clauses given := by
  intro assignment
  induction rewords with
  | nil => rfl
  | cons first _ inductionHypothesis =>
    rw [Models, Models, List.forall_mem_cons, List.forall_mem_cons]
    exact and_congr first.holds_iff inductionHypothesis

/-- They have the same literals, too. -/
theorem mem_literals_of_forall₂ (rewords : List.Forall₂ Clause.Rewords clauses given)
    (literal : Literal) :
    literal ∈ clauses.flatMap Clause.literals ↔ literal ∈ given.flatMap Clause.literals := by
  induction rewords with
  | nil => rfl
  | cons first _ inductionHypothesis =>
    rw [List.flatMap_cons, List.flatMap_cons, List.mem_append, List.mem_append]
    exact or_congr (first literal) inductionHypothesis

/-- Clauses in another order and wording have the same models. -/
theorem Rearranges.equivalent (rearranges : Rearranges clauses given) :
    Equivalent clauses given := by
  obtain ⟨order, reordered, rewords⟩ := rearranges
  intro assignment
  rw [equivalent_of_forall₂ rewords assignment]
  exact forall_congr' fun clause => imp_congr_left reordered.mem_iff

/-- Clauses in another order and wording have the same highest variable, so the finders scan
the same variables. -/
theorem Rearranges.highest (rearranges : Rearranges clauses given) :
    Clause.highestOf (clauses.flatMap Clause.literals) =
      Clause.highestOf (given.flatMap Clause.literals) := by
  obtain ⟨order, reordered, rewords⟩ := rearranges
  apply Clause.highestOf_congr
  intro literal
  rw [mem_literals_of_forall₂ rewords]
  exact (reordered.flatMap_right Clause.literals).mem_iff

/-- Makes calls one after the other and stops at the first that fails. -/
def RuleBase.adopt (oracle : Oracle) (base : RuleBase) : List Call → Outcome Unit
  | [] => (.ok (), base)
  | call :: rest =>
    match call.perform oracle base with
    | (.error fault, after) => (.error fault, after)
    | (.ok _, after) => after.adopt oracle rest

/-- A way to assert clauses: some are taken in as a batch and others are added, call by
call. -/
structure Route where
  oracle : Oracle
  backend : String
  batch : Datum
  calls : List Call

namespace Route

/-- Follows the route, without limits, to its end or to the first step that fails. -/
def follow (route : Route) : Outcome Unit :=
  match RuleBase.create route.oracle route.backend .none (Argument.batch route.batch) with
  | (.error fault, base) => (.error fault, base)
  | (.ok _, base) => base.adopt route.oracle route.calls

/-- The batch gives some clauses, each call adds one, and together they are the given ones,
rearranged. -/
def Asserts (route : Route) (given : List Clause) : Prop :=
  ∃ early late, Argument.batch route.batch = early.map .ok ∧
    route.calls.map Call.added? = late.map some ∧ Rearranges (early ++ late) given

end Route

open RuleBase

variable {oracle : Oracle} {base : RuleBase} {calls : List Call} {added : List Clause}

/-- If the added clauses leave a model, every call succeeds. The induction is on the calls:
a model of all clauses is a model of those that are stored so far. -/
theorem RuleBase.Responsive.adopt_ok (responsive : base.Responsive) (lawful : oracle.Lawful)
    (adds : calls.map Call.added? = added.map some)
    (satisfiable : Satisfiable (base.clauses ++ added) []) :
    ∃ after, base.adopt oracle calls = (.ok (), after) ∧ after.Responsive ∧
      after.trusted = base.trusted ∧ after.clauses = base.clauses ++ added := by
  induction calls generalizing base added with
  | nil =>
    obtain rfl : added = [] := List.map_eq_nil_iff.mp adds.symm
    exact ⟨base, rfl, responsive, rfl, (List.append_nil _).symm⟩
  | cons call rest inductionHypothesis =>
    obtain ⟨clause, later, rfl, first, others⟩ := List.map_eq_cons_iff.mp adds.symm
    rw [List.append_cons] at satisfiable ⊢
    -- A model of the clauses still to come is a model of this one.
    obtain ⟨accepted, trusted⟩ :=
      responsive.accepts lawful first.symm satisfiable.of_append
    obtain ⟨still, stored⟩ := responsive.added lawful first.symm
    rw [← stored] at satisfiable ⊢
    obtain ⟨after, followed, final, kept, reached⟩ :=
      inductionHypothesis still others.symm satisfiable
    refine ⟨after, ?_, final, kept.trans trusted, reached⟩
    rw [adopt, ← Prod.mk.eta (p := call.perform oracle base), accepted]
    exact followed

/-- If the added clauses leave no model, some call is refused. It is the first one after
which the clauses stored so far have none. -/
theorem RuleBase.Responsive.adopt_refused (responsive : base.Responsive) (lawful : oracle.Lawful)
    (adds : calls.map Call.added? = added.map some) (satisfiable : Satisfiable base.clauses [])
    (hopeless : ¬Satisfiable (base.clauses ++ added) []) :
    ∃ blamed, (base.adopt oracle calls).1 = .error (.contradiction blamed) := by
  induction calls generalizing base added with
  | nil =>
    obtain rfl : added = [] := List.map_eq_nil_iff.mp adds.symm
    rw [List.append_nil] at hopeless
    exact absurd satisfiable hopeless
  | cons call rest inductionHypothesis =>
    obtain ⟨clause, later, rfl, first, others⟩ := List.map_eq_cons_iff.mp adds.symm
    rw [List.append_cons] at hopeless
    rw [adopt, ← Prod.mk.eta (p := call.perform oracle base)]
    by_cases soFar : Satisfiable (base.clauses ++ [clause]) []
    · obtain ⟨accepted, _⟩ := responsive.accepts lawful first.symm soFar
      obtain ⟨still, stored⟩ := responsive.added lawful first.symm
      rw [← stored] at soFar hopeless
      rw [accepted]
      exact inductionHypothesis still others.symm soFar hopeless
    · rw [responsive.refuses lawful first.symm soFar]
      exact ⟨some clause, rfl⟩

/-- A batch without limits whose clauses can all be read is built, if they have a model.
Otherwise it ends in a contradiction, since there is no limit to give up at. -/
theorem RuleBase.create_unlimited (lawful : oracle.Lawful) (backend : String) {batch : Datum}
    {early : List Clause} (read : Argument.batch batch = early.map .ok) :
    (∃ base, create oracle backend .none (Argument.batch batch) = (.ok (), base) ∧
        base.Responsive ∧ base.trusted = true ∧ base.clauses = early ∧
        Satisfiable early []) ∨
      (∃ blamed, (create oracle backend .none (Argument.batch batch)).1 =
        .error (.contradiction blamed)) ∧ ¬Satisfiable early [] := by
  rcases created : create oracle backend .none (Argument.batch batch) with ⟨fault | _, base⟩
  · right
    have failed : (create oracle backend .none (Argument.batch batch)).1 = .error fault := by
      rw [created]
    -- Every clause is readable and nothing is declined, so only a contradiction is left.
    rcases create_failed lawful failed with unread | ⟨⟨blamed, rfl⟩, hopeless⟩ | declines
    · rw [read] at unread
      obtain ⟨_, _, ⟨⟩⟩ := List.mem_map.mp unread
    · rw [read, readable_ok] at hopeless
      exact ⟨⟨blamed, rfl⟩, hopeless⟩
    · exact absurd declines (not_declines rfl rfl)
  · left
    obtain ⟨coherent, limits, isOpen, trusted, satisfiable⟩ := create_ok lawful created
    have stored := create_clauses lawful created
    rw [read, readable_ok] at stored
    exact ⟨base, rfl, ⟨coherent, isOpen, limits ▸ rfl⟩, trusted, stored, stored ▸ satisfiable⟩

/-- Where the clauses have a model, the route leads to a rule base that stores them. Whatever is
told on the way has a model too, so no step is refused. -/
theorem Route.follow_ok {route : Route} (lawful : route.oracle.Lawful)
    (asserts : route.Asserts given) (satisfiable : Satisfiable given []) :
    ∃ base, route.follow = (.ok (), base) ∧ base.Responsive ∧ base.trusted = true ∧
      Equivalent base.clauses given ∧
      base.highest = Clause.highestOf (given.flatMap Clause.literals) := by
  obtain ⟨early, late, read, adds, rearranges⟩ := asserts
  have together := rearranges.equivalent.satisfiable_iff.mpr satisfiable
  rcases create_unlimited lawful route.backend read with
    ⟨start, created, responsive, trusted, rfl, _⟩ | ⟨_, hopeless⟩
  · obtain ⟨base, followed, final, kept, reached⟩ := responsive.adopt_ok lawful adds together
    refine ⟨base, ?_, final, kept.trans trusted, ?_, ?_⟩
    · rw [follow, created]
      exact followed
    · exact reached ▸ rearranges.equivalent
    · rw [final.coherent.highest, reached, rearranges.highest]
  · exact absurd together.of_append hopeless

/-- Where the clauses have no model, the route is stopped by a contradiction, be it in the batch
or at a later step. -/
theorem Route.follow_refused {route : Route} (lawful : route.oracle.Lawful)
    (asserts : route.Asserts given) (hopeless : ¬Satisfiable given []) :
    ∃ blamed, route.follow.1 = .error (.contradiction blamed) := by
  obtain ⟨early, late, read, adds, rearranges⟩ := asserts
  have together : ¬Satisfiable (early ++ late) [] := fun satisfiable =>
    hopeless (rearranges.equivalent.satisfiable_iff.mp satisfiable)
  rcases create_unlimited lawful route.backend read with
    ⟨start, created, responsive, _, rfl, satisfiable⟩ | ⟨⟨blamed, refused⟩, _⟩
  · rw [follow, created]
    exact responsive.adopt_refused lawful adds satisfiable together
  · refine ⟨blamed, ?_⟩
    rw [follow, ← Prod.mk.eta (p := create _ _ _ _), refused]

/-- Two routes that assert the same clauses without limits agree. If the clauses have a
model, both are followed to the end and the rule bases they lead to have the same highest
variable, are trusted and answer every settled query alike; a survey is such a query, and
its answer includes what it cost. If the clauses have no model, both routes end in a
contradiction. -/
theorem routes_agree {first second : Route} (lawful : first.oracle.Lawful)
    (alsoLawful : second.oracle.Lawful) {given : List Clause} (asserts : first.Asserts given)
    (alsoAsserts : second.Asserts given) :
    (Satisfiable given [] → ∃ one other, first.follow = (.ok (), one) ∧
      second.follow = (.ok (), other) ∧ one.highest = other.highest ∧ one.trusted = true ∧
      other.trusted = true ∧ one.Indistinct other) ∧
    (¬Satisfiable given [] → (∃ blamed, first.follow.1 = .error (.contradiction blamed)) ∧
      ∃ blamed, second.follow.1 = .error (.contradiction blamed)) := by
  constructor
  · intro satisfiable
    obtain ⟨one, followed, responsive, trusted, equivalent, highest⟩ :=
      Route.follow_ok lawful asserts satisfiable
    obtain ⟨other, alsoFollowed, alsoResponsive, alsoTrusted, alsoEquivalent, alsoHighest⟩ :=
      Route.follow_ok alsoLawful alsoAsserts satisfiable
    have sameHighest : one.highest = other.highest := highest.trans alsoHighest.symm
    exact ⟨one, other, followed, alsoFollowed, sameHighest, trusted, alsoTrusted,
      responsive.indistinct alsoResponsive (equivalent.trans alsoEquivalent.symm) sameHighest⟩
  · intro hopeless
    exact ⟨Route.follow_refused lawful asserts hopeless,
      Route.follow_refused alsoLawful alsoAsserts hopeless⟩

/-- Variables 1 and 2 are equal and 3 is true, all in one batch. -/
def Route.atOnce : Route :=
  ⟨.search, "m22", .list [.list [.whole (-1), .whole 2], .list [.whole 1, .whole (-2)],
    .list [.whole 3]], []⟩

/-- The same in another order, with literals repeated, a fact and an addition. -/
def Route.stepwise : Route :=
  ⟨.search, "glucose4", .list [.list [.whole 2, .whole (-1), .whole 2]],
    [.tellFact (.whole 3), .tell (.list [.whole (-2), .whole 1])]⟩

/-- The batch and the steps lead to rule bases that no settled query tells apart. -/
theorem atOnce_meets_stepwise :
    let given : List Clause := [⟨[⟨⟨1, by decide⟩, false⟩, ⟨⟨2, by decide⟩, true⟩], by simp⟩,
      ⟨[⟨⟨1, by decide⟩, true⟩, ⟨⟨2, by decide⟩, false⟩], by simp⟩,
      Clause.unit ⟨⟨3, by decide⟩, true⟩]
    Oracle.search.Lawful ∧ Route.atOnce.Asserts given ∧ Route.stepwise.Asserts given ∧
      Satisfiable given [] ∧ ∃ one other, Route.atOnce.follow = (.ok (), one) ∧
        Route.stepwise.follow = (.ok (), other) ∧ one.Indistinct other := by
  intro given
  have atOnce : Route.atOnce.Asserts given := by
    refine ⟨given, [], by cbv, rfl, given, .refl given, ?_⟩
    rw [List.append_nil]
    exact List.forall₂_same.mpr fun _ _ _ => Iff.rfl
  have stepwise : Route.stepwise.Asserts given := by
    refine ⟨[⟨[⟨⟨2, by decide⟩, true⟩, ⟨⟨1, by decide⟩, false⟩, ⟨⟨2, by decide⟩, true⟩], by simp⟩],
      [Clause.unit ⟨⟨3, by decide⟩, true⟩,
        ⟨[⟨⟨2, by decide⟩, false⟩, ⟨⟨1, by decide⟩, true⟩], by simp⟩], by cbv, by cbv,
      [given[0], given[2], given[1]], by decide, ?_⟩
    refine .cons ?_ (.cons (fun _ => Iff.rfl) (.cons ?_ .nil))
    · intro literal
      simp only [given, List.getElem_cons_zero, List.mem_cons, List.not_mem_nil, or_false]
      tauto
    · intro literal
      simp [given, or_comm]
  have satisfiable : Satisfiable given [] :=
    satisfiable_nil_iff.mpr ⟨fun _ => true, by
      simp [given, Models, Clause.Holds, Literal.Holds, Clause.unit]⟩
  obtain ⟨one, other, followed, alsoFollowed, _, _, _, indistinct⟩ :=
    (routes_agree Oracle.search_lawful Oracle.search_lawful atOnce stepwise).1 satisfiable
  exact ⟨Oracle.search_lawful, atOnce, stepwise, satisfiable, one, other, followed, alsoFollowed,
    indistinct⟩

end Clausal
