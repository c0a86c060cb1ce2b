import Clausal.Proofs.Denials
import Clausal.Proofs.EntailmentLaws

/-!
# What a model that is found is like

A witness lists literals that suffice to make the clauses true. It may leave variables out, and
it may name variables that no clause has. The model that is shown for it has one literal for
each variable up to the highest: what the witness leaves out is shown as false, and what it
names beyond the highest is dropped. Neither does harm, because every assignment that agrees
with the witness makes the clauses true, and the one that has all the rest false is such an
assignment; it makes the assumed literals true since the witness has them.

That the witness names no variable twice is needed here: of two opposite literals only one can
be shown.
-/

namespace Clausal

variable {clauses : List Clause} {highest : Nat} {literals witness : List Literal}

/-- A list of literals shows a model: it has one literal for each variable up to the highest, in
order, it has a literal of every clause, and it has all the given literals that are in range. -/
structure ShowsModel (clauses : List Clause) (highest : Nat) (literals model : List Literal) :
    Prop where
  length : model.length = highest
  entries : ∀ (index : Nat) (literal : Literal), model[index]? = some literal →
    literal.code = index + 1 ∨ literal.code = -(index + 1)
  satisfied : ∀ clause ∈ clauses, ∃ literal ∈ clause.literals, literal ∈ model
  assumed : ∀ literal ∈ literals, literal.var.number ≤ highest → literal ∈ model

/-- A full model has the literals in range that are true. -/
theorem mem_fullModel {assignment : Assignment} {literal : Literal} :
    literal ∈ fullModel highest assignment ↔
      literal.var.number ≤ highest ∧ literal.Holds assignment := by
  obtain ⟨var, positive⟩ := literal
  simp [fullModel, Literal.Holds, Variable.mem_upTo]

/-- The literal at each place is one of the variable whose turn it is. -/
theorem code_of_getElem?_fullModel {assignment : Assignment} {index : Nat} {literal : Literal}
    (found : (fullModel highest assignment)[index]? = some literal) :
    literal.code = index + 1 ∨ literal.code = -(index + 1) := by
  rw [fullModel, Variable.upTo, List.map_map, List.getElem?_map] at found
  obtain ⟨place, inRange, rfl⟩ := Option.map_eq_some_iff.mp found
  obtain ⟨_, rfl⟩ := List.getElem?_eq_some_iff.mp inRange
  simp only [Function.comp, Literal.code, List.getElem_range]
  split
  · exact Or.inl rfl
  · exact Or.inr rfl

/-- The full model of an assignment that satisfies the clauses shows a model. Every clause has a
true literal within the range, which the full model has too. -/
theorem showsModel_fullModel {assignment : Assignment} (models : Models assignment clauses)
    (within : Clause.highestOf (clauses.flatMap Clause.literals) ≤ highest)
    (hold : ∀ literal ∈ literals, literal.Holds assignment) :
    ShowsModel clauses highest literals (fullModel highest assignment) where
  length := by rw [fullModel, List.length_map, Variable.length_upTo]
  entries := fun _ _ => code_of_getElem?_fullModel
  satisfied := by
    intro clause member
    obtain ⟨literal, inside, isTrue⟩ := models clause member
    have listed : literal ∈ clauses.flatMap Clause.literals :=
      List.mem_flatMap.mpr ⟨clause, member, inside⟩
    have inRange : literal.var.number ≤ highest := (Clause.le_highestOf listed).trans within
    exact ⟨literal, inside, mem_fullModel.mpr ⟨inRange, isTrue⟩⟩
  assumed := fun literal member inRange => mem_fullModel.mpr ⟨inRange, hold literal member⟩

/-- What a witness leaves out can be shown as false. -/
theorem Witnesses.showsModel (witnesses : Witnesses witness clauses literals)
    (within : Clause.highestOf (clauses.flatMap Clause.literals) ≤ highest) :
    ShowsModel clauses highest literals (complete highest witness) := by
  have agrees (literal : Literal) (member : literal ∈ witness) :
      literal.Holds fun var => witness.contains ⟨var, true⟩ := witnesses.agrees member
  exact showsModel_fullModel (witnesses.models _ agrees) within
    fun literal member => agrees literal (witnesses.assumed literal member)

/-- What truthful answers lead to is the completion of a witness. -/
theorem yields_complete {cost : Nat} {found : List Literal}
    (yields : (modelWith highest literals).Yields clauses cost (some found)) :
    ∃ witness, Witnesses witness clauses literals ∧ found = complete highest witness := by
  obtain ⟨answer, _, truthful, ⟨_, same⟩, _⟩ := yields
  obtain ⟨witness, rfl, rfl⟩ := Option.map_eq_some_iff.mp same.symm
  have witnesses : Witnesses witness (clauses ++ []) literals := truthful
  rw [List.append_nil] at witnesses
  exact ⟨witness, witnesses, rfl⟩

open RuleBase

variable {base : RuleBase} {oracle : Oracle} {call : Call}

/-- A witness of the decision is completed and shown. Completing it is the only thing that is
done to it. -/
theorem Call.model_perform (coherent : base.Coherent) (isOpen : base.isOpen = true)
    (countable : base.limits.isCountable = true) (means : call.Means (.inquire (.model literals)))
    (decided : oracle.decide base.decisions base.limits base.clauses literals =
      .satisfiable witness) :
    (call.perform oracle base).1 = .ok (.model (some (complete base.highest witness))) := by
  obtain ⟨solver, held⟩ := Option.isSome_iff_exists.mp isOpen
  have asked : (base.ask oracle (.assuming literals)).1 = .ok (some witness) := by
    simp only [RuleBase.ask, held, countable, if_true, (coherent.sound solver held).database,
      decided]
    rfl
  rw [Call.perform_of_means means]
  change (Inquiry.run oracle (.ask (.assuming literals) _) base).1 = _
  rw [Inquiry.run]
  rcases ended : base.ask oracle (.assuming literals) with ⟨result, after⟩
  rw [ended] at asked
  obtain rfl : result = .ok (some witness) := asked
  rfl

/-- The question for a model in which the given literals hold, put to an open rule base that any
run led to. Whatever oracle is asked and whatever it finds, as long as what it finds is a
witness, a list is shown that has one literal for each variable up to the highest, a literal of
every clause, and every given literal in range. If the decision is made by a lawful oracle, such
a list is shown wherever there is a model, and none is shown exactly where there is not. -/
theorem found_model_shown (reachable : Reachable base) (isOpen : base.isOpen = true)
    (means : call.Means (.inquire (.model literals))) :
    (∀ oracle witness, base.limits.isCountable = true →
      Oracle.decide oracle base.decisions base.limits base.clauses literals =
        .satisfiable witness →
      Witnesses witness base.clauses literals →
        ∃ model, (call.perform oracle base).1 = .ok (.model (some model)) ∧
          ShowsModel base.clauses base.highest literals model) ∧
    (∀ oracle, Oracle.Lawful oracle → (Exchange.mk oracle base call).Answered →
      ∃ found, (call.perform oracle base).1 = .ok (.model found) ∧
        (found = none ↔ ¬Satisfiable base.clauses literals) ∧
        ∀ model, found = some model → ShowsModel base.clauses base.highest literals model) := by
  have coherent : base.Coherent := reachable.coherent
  have within := coherent.highest.ge
  constructor
  · intro oracle witness countable decided witnesses
    exact ⟨_, Call.model_perform coherent isOpen countable means decided,
      witnesses.showsModel within⟩
  · intro oracle lawful answered
    obtain ⟨_, cost, answers, yields, _⟩ := answered.yields means lawful coherent isOpen
    obtain ⟨found, asked, rfl⟩ := Inquiry.yields_wrap.mp yields
    refine ⟨found, answers, ?_, ?_⟩
    · rw [← (yields_modelWith asked).1, Option.isSome_iff_ne_none, not_not]
    · rintro model rfl
      obtain ⟨witness, witnesses, rfl⟩ := yields_complete asked
      exact witnesses.showsModel within

/-- An oracle that always finds the same. -/
def Oracle.insisting (witness : List Literal) : Oracle :=
  ⟨fun _ => Clausal.conflicts, fun _ _ _ _ => .satisfiable witness⟩

/-- One clause has the first variable and the third. A witness that has the first true, names the
fifth, and leaves out the third is shown with the third false and without the fifth. Where the
first and the third are assumed false, there is no model to be shown. -/
theorem gapped_witness_is_completed :
    Reachable gapped.2 ∧ gapped.2.isOpen = true ∧ Oracle.search.Lawful ∧
      Witnesses [⟨⟨5, by decide⟩, true⟩, ⟨⟨2, by decide⟩, true⟩, ⟨⟨1, by decide⟩, true⟩]
        gapped.2.clauses [⟨⟨5, by decide⟩, true⟩, ⟨⟨2, by decide⟩, true⟩] ∧
      (∃ model : List Literal, ((Call.modelWith (.list [.whole 5, .whole 2])).perform
          (.insisting [⟨⟨5, by decide⟩, true⟩, ⟨⟨2, by decide⟩, true⟩, ⟨⟨1, by decide⟩, true⟩])
          gapped.2).1 = .ok (.model (some model)) ∧
        model.map Literal.code = [1, 2, -3] ∧
        ShowsModel gapped.2.clauses gapped.2.highest
          [⟨⟨5, by decide⟩, true⟩, ⟨⟨2, by decide⟩, true⟩] model) ∧
      ((Call.modelWith (.list [.whole (-1), .whole (-3)])).perform .search gapped.2).1 =
        .ok (.model none) ∧
      ¬Satisfiable gapped.2.clauses [⟨⟨1, by decide⟩, false⟩, ⟨⟨3, by decide⟩, false⟩] := by
  have reachable : Reachable gapped.2 :=
    ⟨_, _, blank_built (.whole 1000), run_serve Oracle.search_lawful [.either 1 3]⟩
  have isOpen : gapped.2.isOpen = true := by cbv
  have means : (Call.modelWith (.list [.whole 5, .whole 2])).Means
      (.inquire (.model [⟨⟨5, by decide⟩, true⟩, ⟨⟨2, by decide⟩, true⟩])) :=
    Call.read_ok_iff.mp (by cbv)
  have denied : (Call.modelWith (.list [.whole (-1), .whole (-3)])).Means
      (.inquire (.model [⟨⟨1, by decide⟩, false⟩, ⟨⟨3, by decide⟩, false⟩])) :=
    Call.read_ok_iff.mp (by cbv)
  have clauses : gapped.2.clauses =
      [⟨[⟨⟨1, by decide⟩, true⟩, ⟨⟨3, by decide⟩, true⟩], by simp⟩] := by cbv
  have witnesses : Witnesses
      [⟨⟨5, by decide⟩, true⟩, ⟨⟨2, by decide⟩, true⟩, ⟨⟨1, by decide⟩, true⟩] gapped.2.clauses
      [⟨⟨5, by decide⟩, true⟩, ⟨⟨2, by decide⟩, true⟩] := by
    refine ⟨by decide, by simp, fun assignment hold => ?_⟩
    rw [clauses, models_singleton]
    exact ⟨_, List.mem_cons_self, hold _ (by simp)⟩
  obtain ⟨shown, _⟩ := found_model_shown reachable isOpen means
  obtain ⟨_, none_iff⟩ := found_model_shown reachable isOpen denied
  obtain ⟨model, found, shows⟩ := shown (.insisting _) _ (by cbv) rfl witnesses
  have expected : ((Call.modelWith (.list [.whole 5, .whole 2])).perform (.insisting
      [⟨⟨5, by decide⟩, true⟩, ⟨⟨2, by decide⟩, true⟩, ⟨⟨1, by decide⟩, true⟩]) gapped.2).1 =
        .ok (.model (some [⟨⟨1, by decide⟩, true⟩, ⟨⟨2, by decide⟩, true⟩,
          ⟨⟨3, by decide⟩, false⟩])) := by cbv
  obtain rfl := Option.some.inj (Answer.model.inj (Except.ok.inj (found.symm.trans expected)))
  have nothing : (Exchange.mk .search gapped.2
      (.modelWith (.list [.whole (-1), .whole (-3)]))).outcome.1 = .ok (.model none) := by cbv
  obtain ⟨_, reported, hopeless, _⟩ :=
    none_iff .search Oracle.search_lawful (Exchange.answered_of_ok nothing)
  obtain rfl := Answer.model.inj (Except.ok.inj (reported.symm.trans nothing))
  exact ⟨reachable, isOpen, Oracle.search_lawful, witnesses, ⟨_, found, by decide, shows⟩, reported,
    hopeless.mp rfl⟩

end Clausal
