import Clausal.Proofs.Verdicts
import Mathlib.Data.Fintype.BigOperators
import Mathlib.Data.Fintype.Pi

/-!
# Denying every model that is found

A model that is found is full: it has one literal for each variable up to the highest, also
for a variable that no clause has. The clause of its negations is false in this model and true
in every other one, and it brings no new variable. So whoever asks for a model, denies it, and
starts again gets every model once. The last denial leaves none, and it is refused.

How many rounds that takes is the number of models, whichever models are found and whatever
the witnesses leave open. Nothing is said of rounds in which something gives up, nor of limits
under which no decision can be made: such limits are taken at construction, and then already
the first question fails.
-/

namespace Clausal

/-- Whether a clause holds can be computed literal by literal. -/
instance (assignment : Assignment) (clause : Clause) : Decidable (clause.Holds assignment) :=
  inferInstanceAs (Decidable (∃ literal ∈ clause.literals, literal.Holds assignment))

/-- Whether an assignment is a model can be computed clause by clause. -/
instance (assignment : Assignment) (clauses : List Clause) :
    Decidable (Models assignment clauses) :=
  inferInstanceAs (Decidable (∀ clause ∈ clauses, clause.Holds assignment))

variable {highest : Nat} {clauses : List Clause} {assignment other : Assignment}

/-- The literals of the variables up to the highest that are true under the assignment. -/
def fullModel (highest : Nat) (assignment : Assignment) : List Literal :=
  (Variable.upTo highest).map fun var => ⟨var, assignment var⟩

/-- The assignment with these values, where all further variables are false. -/
def extend (values : Fin highest → Bool) : Assignment := fun var =>
  if within : var.number - 1 < highest then values ⟨var.number - 1, within⟩ else false

/-- The number of assignments to the variables up to the highest that satisfy the clauses. -/
def modelCount (clauses : List Clause) (highest : Nat) : Nat :=
  (Finset.univ.filter fun values : Fin highest → Bool => Models (extend values) clauses).card

/-- The full models of the clauses. -/
def fullModels (clauses : List Clause) (highest : Nat) : Finset (List Literal) :=
  (Finset.univ.filter fun values : Fin highest → Bool => Models (extend values) clauses).image
    fun values => fullModel highest (extend values)

/-- Full models are equal exactly if their assignments agree up to the highest variable. -/
theorem fullModel_eq_iff : fullModel highest assignment = fullModel highest other ↔
    ∀ var : Variable, var.number ≤ highest → assignment var = other var := by
  simp [fullModel, Variable.mem_upTo]

/-- An assignment that extends given values has these values. -/
theorem extend_apply (values : Fin highest → Bool) (index : Fin highest) :
    extend values ⟨index + 1, Nat.succ_pos index⟩ = values index := by
  simp [extend]

/-- There is one full model for each satisfying assignment. -/
theorem card_fullModels (clauses : List Clause) (highest : Nat) :
    (fullModels clauses highest).card = modelCount clauses highest := by
  refine Finset.card_image_of_injective _ fun values others same => funext fun index => ?_
  have agree := fullModel_eq_iff.mp same ⟨index + 1, Nat.succ_pos index⟩ index.isLt
  rwa [extend_apply, extend_apply] at agree

/-- A full model is that of a model, if there are no variables above the highest. The full models
are made from values of the variables up to there, and an assignment that is cut down to these is
still a model. -/
theorem mem_fullModels (within : Clause.highestOf (clauses.flatMap Clause.literals) ≤ highest)
    {model : List Literal} : model ∈ fullModels clauses highest ↔
      ∃ assignment, Models assignment clauses ∧ model = fullModel highest assignment := by
  simp only [fullModels, Finset.mem_image, Finset.mem_filter, Finset.mem_univ, true_and]
  constructor
  · rintro ⟨values, models, rfl⟩
    exact ⟨extend values, models, rfl⟩
  · rintro ⟨assignment, models, rfl⟩
    let values : Fin highest → Bool := fun index => assignment ⟨index + 1, Nat.succ_pos index⟩
    have agree (var : Variable) (below : var.number ≤ highest) :
        assignment var = extend values var := by
      obtain ⟨number, positive⟩ := var
      obtain ⟨index, rfl⟩ : ∃ index, number = index + 1 := ⟨number - 1, by omega⟩
      exact (extend_apply values ⟨index, below⟩).symm
    have extended : Models (extend values) clauses :=
      models.of_agree fun var below => agree var (below.trans within)
    exact ⟨values, extended, fullModel_eq_iff.mpr fun var below => (agree var below).symm⟩

/-- There is a full model exactly if there is a model. -/
theorem modelCount_pos_iff
    (within : Clause.highestOf (clauses.flatMap Clause.literals) ≤ highest) :
    0 < modelCount clauses highest ↔ Satisfiable clauses [] := by
  rw [← card_fullModels, Finset.card_pos, satisfiable_nil_iff]
  constructor
  · rintro ⟨model, member⟩
    obtain ⟨assignment, models, _⟩ := (mem_fullModels within).mp member
    exact ⟨assignment, models⟩
  · rintro ⟨assignment, models⟩
    exact ⟨_, (mem_fullModels within).mpr ⟨assignment, models, rfl⟩⟩

/-- The clause has the negations of the model's literals. -/
def Clause.Denies (clause : Clause) (model : List Literal) : Prop :=
  clause.literals = model.map fun literal => -literal

/-- The denial of a full model is true in every other one. -/
theorem Clause.Denies.holds_iff {clause : Clause}
    (denies : clause.Denies (fullModel highest assignment)) :
    clause.Holds other ↔ fullModel highest other ≠ fullModel highest assignment := by
  rw [ne_eq, fullModel_eq_iff, Clause.Holds, denies]
  simp [fullModel, Variable.mem_upTo, Literal.Holds, Bool.eq_not]

/-- The denial of a full model brings no new variable, so the full models before and after it are
of one length. -/
theorem Clause.Denies.highest_le {clause : Clause}
    (denies : clause.Denies (fullModel highest assignment)) : clause.highest ≤ highest := by
  obtain ⟨literal, member, same⟩ := clause.exists_eq_highest
  rw [← same]
  rw [denies, fullModel, List.map_map] at member
  obtain ⟨var, below, rfl⟩ := List.mem_map.mp member
  exact Variable.mem_upTo.mp below

/-- The denial of a full model takes this one away and no other. Any other full model differs
from it at some variable, and makes true what the denial says of that one. -/
theorem fullModels_deny {clause : Clause}
    (denies : clause.Denies (fullModel highest assignment))
    (within : Clause.highestOf ((clauses ++ [clause]).flatMap Clause.literals) ≤ highest) :
    fullModels (clauses ++ [clause]) highest =
      (fullModels clauses highest).erase (fullModel highest assignment) := by
  ext model
  have before : Clause.highestOf (clauses.flatMap Clause.literals) ≤ highest := by
    rw [List.flatMap_append, Clause.highestOf_append] at within
    omega
  rw [Finset.mem_erase, mem_fullModels within, mem_fullModels before]
  simp only [models_append, models_singleton, denies.holds_iff]
  constructor
  · rintro ⟨found, ⟨models, differs⟩, rfl⟩
    exact ⟨differs, found, models, rfl⟩
  · rintro ⟨differs, found, models, rfl⟩
    exact ⟨found, ⟨models, differs⟩, rfl⟩

/-- Where a full model is taken away, one less is left. -/
theorem modelCount_erase {left : List Clause} {within : Nat} {model : List Literal}
    (member : model ∈ fullModels clauses highest)
    (erased : fullModels left within = (fullModels clauses highest).erase model) :
    modelCount left within + 1 = modelCount clauses highest := by
  rw [← card_fullModels, ← card_fullModels, erased, Finset.card_erase_add_one member]

/-- What is not in the witness is taken to be false, and what is in it holds then. A negative
literal holds because a witness names no variable twice. -/
theorem Witnesses.agrees {witness assumptions : List Literal}
    (witnesses : Witnesses witness clauses assumptions) {literal : Literal}
    (member : literal ∈ witness) :
    literal.Holds fun var => witness.contains ⟨var, true⟩ := by
  obtain ⟨var, positive⟩ := literal
  change witness.contains ⟨var, true⟩ = positive
  cases positive with
  | true => exact List.elem_iff.mpr member
  | false =>
    rw [← Bool.not_eq_true, List.contains_iff_mem]
    intro opposite
    cases eq_of_var_eq witnesses.distinct member opposite rfl

/-- A model that is found is the full model of an assignment that satisfies the clauses, whatever
the witness left out or added. -/
theorem yields_fullModel {cost : Nat} {literals found : List Literal}
    (yields : (modelWith highest literals).Yields clauses cost (some found)) :
    ∃ assignment, Models assignment clauses ∧ found = fullModel highest assignment := by
  obtain ⟨answer, _, truthful, ⟨_, same⟩, _⟩ := yields
  obtain ⟨witness, rfl, rfl⟩ := Option.map_eq_some_iff.mp same.symm
  have witnesses : Witnesses witness (clauses ++ []) literals := truthful
  rw [List.append_nil] at witnesses
  exact ⟨_, witnesses.models _ fun literal member => witnesses.agrees member, rfl⟩

/-- Tells the clause that denies the model. -/
def Call.denial (model : List Literal) : Call :=
  .tell (.list (model.map fun literal => .ofLiteral (-literal)))

/-- The denial of a model that has a literal can be read. -/
theorem Call.adds_denial {model : List Literal} (nonempty : model ≠ []) :
    ∃ clause : Clause, clause.Denies model ∧ (Call.denial model).Adds clause := by
  have negations : model.map (fun literal => -literal) ≠ [] := by simpa using nonempty
  refine ⟨⟨_, negations⟩, rfl, _, ⟨_, ⟨_, rfl, ?_⟩, rfl⟩, rfl⟩
  rw [List.forall₂_map_left_iff, List.forall₂_map_right_iff, List.forall₂_same]
  exact fun literal _ => rfl

namespace RuleBase

/-- Round by round, asks for a model and denies what is found, until something fails or there
is no model. Each round has an oracle for its question and one for its addition. Gives the
models in order, and how it ended. -/
def denyModels (base : RuleBase) : List (Oracle × Oracle) → List (List Literal) × Outcome Unit
  | [] => ([], .ok (), base)
  | (finder, checker) :: rest =>
    match Call.model.perform finder base with
    | (.error fault, searched) => ([], .error fault, searched)
    | (.ok (.model (some found)), searched) =>
      match (Call.denial found).perform checker searched with
      | (.error fault, denied) => ([found], .error fault, denied)
      | (.ok _, denied) =>
        let later := denied.denyModels rest
        (found :: later.1, later.2)
    | (.ok _, searched) => ([], .ok (), searched)

variable {finder checker : Oracle} {base : RuleBase} {rest : List (Oracle × Oracle)}

/-- The rule base decides what it is asked, as long as nothing gives up, and it has
variables. -/
structure Ready (base : RuleBase) : Prop where
  coherent : base.Coherent
  isOpen : base.isOpen = true
  countable : base.limits.isCountable = true
  inhabited : 0 < base.highest

/-- A rule base stays ready for the next round if what it stores is unaltered. -/
theorem Ready.of_unaltered {seen : RuleBase} (ready : base.Ready) (coherent : seen.Coherent)
    (unaltered : Unaltered base seen) : seen.Ready :=
  ⟨coherent, unaltered.isOpen.trans ready.isOpen, unaltered.limits ▸ ready.countable,
    unaltered.highest ▸ ready.inhabited⟩

/-- A call that does not give up is answered. A ready rule base has a limit that can be counted,
which leaves no other way to go unanswered. -/
theorem Ready.answered (ready : base.Ready) {call : Call}
    (goesOn : ∀ assumptions, (call.perform checker base).1 ≠
      .error (.gaveUp assumptions base.limits)) : (Exchange.mk checker base call).Answered := by
  constructor
  · rintro ⟨assumptions, gaveUp⟩
    exact goesOn assumptions gaveUp
  · rintro ⟨uncountable, _⟩
    rw [ready.countable] at uncountable
    cases uncountable

/-- A question for a model finds a full one where there is a model, or gives up. Either way
nothing that is stored has changed. -/
theorem Ready.search (ready : base.Ready) (lawful : finder.Lawful)
    (satisfiable : Satisfiable base.clauses []) :
    (Call.model.perform finder base).2.Coherent ∧
      Unaltered base (Call.model.perform finder base).2 ∧
      ((∃ assumptions, (Call.model.perform finder base).1 =
          .error (.gaveUp assumptions base.limits)) ∨
        ∃ found ∈ fullModels base.clauses base.highest,
          (Call.model.perform finder base).1 = .ok (.model (some found))) := by
  have conducted := Query.conducted_perform lawful ready.coherent (.model [])
  refine ⟨conducted.coherent, conducted.unaltered, ?_⟩
  rcases reply_cases lawful ready.coherent (.model []) with
    ⟨answer, answers⟩ | ⟨fault, failed, declines⟩
  · obtain ⟨cost, yields⟩ := yields_of_reply lawful ready.coherent answers
    obtain ⟨found, searched, rfl⟩ := Inquiry.yields_wrap.mp yields
    have isFound : found.isSome = true := (yields_modelWith searched).1.mpr satisfiable
    obtain ⟨model, rfl⟩ := Option.isSome_iff_exists.mp isFound
    have member : model ∈ fullModels base.clauses base.highest :=
      (mem_fullModels ready.coherent.highest.ge).mpr (yields_fullModel searched)
    exact Or.inr ⟨model, member, answers⟩
  · obtain ⟨assumptions, rfl⟩ := declines.of_countable ready.isOpen ready.countable
    exact Or.inl ⟨assumptions, failed⟩

/-- Telling the denial of a full model leaves a ready rule base without new variables, also where
it is refused. -/
theorem Ready.denied {clause : Clause} {assignment : Assignment} (ready : base.Ready)
    (lawful : checker.Lawful) {call : Call} (adds : call.Adds clause)
    (denies : clause.Denies (fullModel base.highest assignment)) :
    (call.perform checker base).2.Ready ∧
      (call.perform checker base).2.limits = base.limits ∧
      (call.perform checker base).2.highest = base.highest ∧
      (call.perform checker base).2.clauses = base.clauses ++ [clause] := by
  have checked := call.checked_perform lawful ready.coherent (Call.added?_eq_some_iff.mpr adds)
  have highest : (call.perform checker base).2.highest = base.highest :=
    checked.highest.trans (Nat.max_eq_left denies.highest_le)
  refine ⟨⟨checked.coherent, checked.isOpen.trans ready.isOpen, ?_, ?_⟩, checked.limits, highest,
    checked.clauses⟩
  · rw [checked.limits]
    exact ready.countable
  · rw [highest]
    exact ready.inhabited

/-- One round, if nothing gives up: a full model is found and denied. The denial is accepted
and the rounds go on if that leaves a model; otherwise it is refused and they end. -/
theorem Ready.round (ready : base.Ready) (finding : finder.Lawful) (checking : checker.Lawful)
    (satisfiable : Satisfiable base.clauses [])
    (answered : ∀ assumptions, (base.denyModels ((finder, checker) :: rest)).2.1 ≠
      .error (.gaveUp assumptions base.limits)) :
    ∃ found ∈ fullModels base.clauses base.highest, ∃ clause : Clause, ∃ denied : RuleBase,
      clause.Denies found ∧ denied.Ready ∧ denied.limits = base.limits ∧
      denied.highest = base.highest ∧ denied.clauses = base.clauses ++ [clause] ∧
      (Satisfiable denied.clauses [] → base.denyModels ((finder, checker) :: rest) =
        (found :: (denied.denyModels rest).1, (denied.denyModels rest).2)) ∧
      (¬Satisfiable denied.clauses [] → base.denyModels ((finder, checker) :: rest) =
        ([found], .error (.contradiction (some clause)), denied) ∧ denied.trusted = false) := by
  obtain ⟨stillCoherent, unaltered, ends⟩ := ready.search finding satisfiable
  rcases searched : Call.model.perform finder base with ⟨result, seen⟩
  rw [searched] at stillCoherent unaltered ends
  rcases ends with ⟨assumptions, gaveUp⟩ | ⟨found, member, ended⟩
  · obtain rfl : result = .error (.gaveUp assumptions base.limits) := gaveUp
    refine absurd ?_ (answered assumptions)
    rw [denyModels, searched]
  · obtain rfl : result = .ok (.model (some found)) := ended
    obtain ⟨assignment, _, rfl⟩ := (mem_fullModels ready.coherent.highest.ge).mp member
    have nonempty : fullModel base.highest assignment ≠ [] := by
      rw [← List.length_pos_iff, fullModel, List.length_map, Variable.length_upTo]
      exact ready.inhabited
    obtain ⟨clause, denies, adds⟩ := Call.adds_denial nonempty
    have seenReady : seen.Ready := ready.of_unaltered stillCoherent unaltered
    obtain ⟨deniedReady, limits, highest, clauses⟩ :=
      seenReady.denied checking adds (unaltered.highest ▸ denies)
    rcases told : (Call.denial (fullModel base.highest assignment)).perform checker seen with
      ⟨result, denied⟩
    have answers : (Exchange.mk checker seen
        (.denial (fullModel base.highest assignment))).Answered := by
      refine seenReady.answered fun assumptions gaveUp => answered assumptions ?_
      rw [told] at gaveUp
      obtain rfl : result = .error (.gaveUp assumptions seen.limits) := gaveUp
      simp only [denyModels, searched, told]
      rw [unaltered.limits]
    obtain ⟨accepts, refuses⟩ :=
      Call.verdict checking seenReady.coherent seenReady.isOpen adds answers
    rw [← clauses, told] at accepts refuses
    rw [told] at deniedReady limits highest clauses
    refine ⟨_, member, clause, denied, denies, deniedReady, limits.trans unaltered.limits,
      highest.trans unaltered.highest, unaltered.clauses ▸ clauses, ?_, ?_⟩
    · intro more
      obtain ⟨rfl, _⟩ : result = .ok .nothing ∧ _ := accepts more
      simp only [denyModels, searched, told]
    · intro none
      obtain ⟨rfl, lost⟩ : result = .error (.contradiction (some clause)) ∧ _ := refuses none
      refine ⟨?_, lost⟩
      simp only [denyModels, searched, told]

/-- What so many rounds come to. The models that are listed are full ones and different, as
many as there are rounds or, if these are more, as there are models. Until all are listed the
denials are accepted; the denial of the last is refused and ends the trust. -/
structure Listed (base : RuleBase) (rounds : Nat) (listed : List (List Literal))
    (outcome : Outcome Unit) : Prop where
  length : listed.length = min rounds (modelCount base.clauses base.highest)
  distinct : listed.Nodup
  models : ∀ model ∈ listed, model ∈ fullModels base.clauses base.highest
  highest : outcome.2.highest = base.highest
  going : rounds < modelCount base.clauses base.highest →
    outcome.1 = .ok () ∧ outcome.2.trusted = true
  ended : modelCount base.clauses base.highest ≤ rounds → outcome.2.trusted = false ∧
    ∃ clause model, outcome.1 = .error (.contradiction (some clause)) ∧
      listed.getLast? = some model ∧ clause.Denies model

/-- No round is made. -/
theorem Ready.listed_nil (ready : base.Ready) (satisfiable : Satisfiable base.clauses []) :
    base.Listed 0 [] (.ok (), base) := by
  have some : 0 < modelCount base.clauses base.highest :=
    (modelCount_pos_iff ready.coherent.highest.ge).mpr satisfiable
  have trusted : base.trusted = true := by
    by_contra distrusted
    exact ready.coherent.distrusted (Bool.not_eq_true _ ▸ distrusted) satisfiable
  refine ⟨(Nat.zero_min _).symm, List.nodup_nil, by simp, rfl, fun _ => ⟨rfl, trusted⟩, ?_⟩
  intro none
  omega

/-- One round more: the model that is denied is missing from those that are left, so it is not
listed again, and the count goes down by one. -/
theorem Listed.cons {denied : RuleBase} {found : List Literal} {rounds : Nat}
    {listed : List (List Literal)} {outcome : Outcome Unit}
    (member : found ∈ fullModels base.clauses base.highest)
    (left : fullModels denied.clauses denied.highest =
      (fullModels base.clauses base.highest).erase found)
    (highest : denied.highest = base.highest) (later : denied.Listed rounds listed outcome) :
    base.Listed (rounds + 1) (found :: listed) outcome := by
  have fewer := modelCount_erase member left
  have remaining (model : List Literal) (isListed : model ∈ listed) :
      model ≠ found ∧ model ∈ fullModels base.clauses base.highest :=
    Finset.mem_erase.mp (left ▸ later.models model isListed)
  constructor
  case length =>
    rw [List.length_cons, later.length]
    omega
  case distinct =>
    exact List.nodup_cons.mpr ⟨fun again => (remaining found again).1 rfl, later.distinct⟩
  case models =>
    intro model isListed
    rcases List.mem_cons.mp isListed with rfl | isLater
    · exact member
    · exact (remaining model isLater).2
  case highest => exact later.highest.trans highest
  case going => exact fun some => later.going (by omega)
  case ended =>
    intro all
    obtain ⟨distrusted, clause, model, refused, isLast, denies⟩ := later.ended (by omega)
    refine ⟨distrusted, clause, model, refused, ?_, denies⟩
    rw [List.getLast?_cons, isLast]
    rfl

/-- The last round: what is denied was the only model that was left. The refusal ends the trust
and the listing. -/
theorem Listed.last {denied : RuleBase} {clause : Clause} {found : List Literal} (rounds : Nat)
    (member : found ∈ fullModels base.clauses base.highest)
    (left : fullModels denied.clauses denied.highest =
      (fullModels base.clauses base.highest).erase found)
    (highest : denied.highest = base.highest)
    (none : ¬0 < modelCount denied.clauses denied.highest) (denies : clause.Denies found)
    (distrusted : denied.trusted = false) :
    base.Listed (rounds + 1) [found] (.error (.contradiction (some clause)), denied) := by
  have fewer := modelCount_erase member left
  constructor
  case length =>
    rw [List.length_singleton]
    omega
  case distinct => exact List.nodup_singleton found
  case models => simpa using member
  case highest => exact highest
  case going => exact fun some => by omega
  case ended => exact fun _ => ⟨distrusted, clause, found, rfl, rfl, denies⟩

/-- By induction on the rounds: as long as nothing gives up, they list the models. -/
theorem Ready.listed {schedule : List (Oracle × Oracle)} (ready : base.Ready)
    (satisfiable : Satisfiable base.clauses [])
    (lawful : ∀ round ∈ schedule, round.1.Lawful ∧ round.2.Lawful)
    (answered : ∀ assumptions,
      (base.denyModels schedule).2.1 ≠ .error (.gaveUp assumptions base.limits)) :
    base.Listed schedule.length (base.denyModels schedule).1 (base.denyModels schedule).2 := by
  induction schedule generalizing base with
  | nil => exact ready.listed_nil satisfiable
  | cons round rest inductionHypothesis =>
    obtain ⟨lawfulRound, lawfulRest⟩ := List.forall_mem_cons.mp lawful
    obtain ⟨found, member, clause, denied, denies, deniedReady, limits, highest, clauses, more,
      last⟩ := ready.round lawfulRound.1 lawfulRound.2 satisfiable answered
    have within := deniedReady.coherent.highest.ge
    have left : fullModels denied.clauses denied.highest =
        (fullModels base.clauses base.highest).erase found := by
      obtain ⟨assignment, _, rfl⟩ := (mem_fullModels ready.coherent.highest.ge).mp member
      rw [highest, clauses] at within ⊢
      exact fullModels_deny denies within
    rw [← modelCount_pos_iff within] at more last
    by_cases some : 0 < modelCount denied.clauses denied.highest
    · have goesOn := more some
      rw [goesOn] at answered ⊢
      rw [← limits] at answered
      exact (inductionHypothesis deniedReady ((modelCount_pos_iff within).mp some) lawfulRest
        answered).cons member left highest
    · obtain ⟨ends, distrusted⟩ := last some
      rw [ends]
      exact .last rest.length member left highest some denies distrusted

end RuleBase

open RuleBase

/-- One clause over the first variable and the third; no clause has the second. -/
def RuleBase.gapped : List Exchange × RuleBase :=
  serve .search (blank (.whole 1000)) [.either 1 3]

end Clausal
