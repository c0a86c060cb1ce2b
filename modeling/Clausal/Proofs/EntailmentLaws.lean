import Clausal.Proofs.Verdicts

/-!
# The laws of entailment

A premise entails a conclusion if no model has the one true and the other false. That makes
entailment an order up to equivalence which contraposition turns round, whatever the literals:
they may be the same or opposite, and no clause need have their variables.

Hard entailment asks in addition that the conclusion can be false. It is the conclusion alone
of which something is asked, so hard entailment is transitive, but it can be turned round only
if the premise can be true, and a literal that is always true is no hard conclusion even of
itself. Without a model everything is entailed and nothing hard.

The laws are laws of answers. The answers may be given by different oracles and at different
times, as long as the rule bases have the same clauses.
-/

namespace Clausal

variable {clauses : List Clause} {premise middle conclusion : Literal}

/-- Every literal entails itself, whatever the clauses. -/
theorem Entails.refl (clauses : List Clause) (literal : Literal) :
    Entails clauses literal literal :=
  fun _ _ => id

/-- Entailment is passed on through a literal in the middle. -/
theorem Entails.trans (earlier : Entails clauses premise middle)
    (later : Entails clauses middle conclusion) : Entails clauses premise conclusion :=
  fun assignment models => later assignment models ∘ earlier assignment models

/-- Contraposition changes nothing about an entailment. -/
theorem entails_neg_iff : Entails clauses (-conclusion) (-premise) ↔
    Entails clauses premise conclusion := by
  refine forall_congr' fun assignment => imp_congr_right fun _ => ?_
  rw [Literal.holds_neg, Literal.holds_neg]
  exact not_imp_not

/-- Clauses without a model entail everything. -/
theorem Entails.of_hopeless (hopeless : ¬Satisfiable clauses []) (premise conclusion : Literal) :
    Entails clauses premise conclusion := by
  intro assignment models
  exact absurd (satisfiable_nil_iff.mpr ⟨assignment, models⟩) hopeless

/-- What is asked of the last conclusion does not depend on how it is reached. -/
theorem EntailsHard.trans (earlier : EntailsHard clauses premise middle)
    (later : EntailsHard clauses middle conclusion) : EntailsHard clauses premise conclusion :=
  ⟨earlier.1.trans later.1, later.2⟩

/-- A literal is a hard conclusion of itself exactly if it can be false. -/
theorem entailsHard_self_iff : EntailsHard clauses premise premise ↔
    Satisfiable clauses [-premise] :=
  and_iff_right (Entails.refl clauses premise)

/-- A hard entailment whose premise can be true is as good as its contraposition whose
premise can be true: the one asks of its conclusion what the other asks of its premise. -/
theorem entailsHard_neg_iff :
    EntailsHard clauses (-conclusion) (-premise) ∧ Satisfiable clauses [-conclusion] ↔
      EntailsHard clauses premise conclusion ∧ Satisfiable clauses [premise] := by
  rw [EntailsHard, EntailsHard, entails_neg_iff, Literal.neg_neg, and_assoc, and_assoc,
    and_comm (a := Satisfiable clauses [premise])]

/-- Clauses without a model have no hard conclusion, since nothing can be false in a model. -/
theorem not_entailsHard_of_hopeless (hopeless : ¬Satisfiable clauses []) :
    ¬EntailsHard clauses premise conclusion :=
  fun hard => hopeless hard.2.nil

open Classical RuleBase

/-- A call that asks this was answered with the flag, by a rule base with these clauses that
some run led to. -/
def Told (clauses : List Clause) (query : Query) (flag : Bool) : Prop :=
  ∃ base oracle call, Reachable base ∧ base.clauses = clauses ∧ Oracle.Lawful oracle ∧
    Call.Means call (.inquire query) ∧ (call.perform oracle base).1 = .ok (.flag flag)

variable {flag : Bool}

/-- What is told of an entailment is true. -/
theorem Told.entails (told : Told clauses (.entails premise conclusion) flag) :
    flag = true ↔ Entails clauses premise conclusion := by
  obtain ⟨base, oracle, call, reachable, rfl, lawful, means, answers⟩ := told
  rw [Call.perform_of_means means] at answers
  obtain ⟨_, ⟨⟩, truth⟩ := reply_entails lawful reachable.coherent answers
  exact truth

/-- The same for hard entailment. -/
theorem Told.entailsHard (told : Told clauses (.entailsHard premise conclusion) flag) :
    flag = true ↔ EntailsHard clauses premise conclusion := by
  obtain ⟨base, oracle, call, reachable, rfl, lawful, means, answers⟩ := told
  rw [Call.perform_of_means means] at answers
  obtain ⟨_, ⟨⟩, truth⟩ := reply_entailsHard lawful reachable.coherent answers
  exact truth

variable {base : RuleBase} {oracle : Oracle} {call : Call}

/-- A query whose decisions were made has an answer that truthful answers to its questions
lead to, and it costs as many decisions as it has questions. -/
theorem Exchange.Answered.yields {query : Query}
    (answered : (Exchange.mk oracle base call).Answered) (means : call.Means (.inquire query))
    (lawful : oracle.Lawful) (coherent : base.Coherent) (isOpen : base.isOpen = true) :
    ∃ answer cost, (call.perform oracle base).1 = .ok answer ∧
      (query.inquiry base.highest).Yields base.clauses cost answer ∧
      (call.perform oracle base).2.decisions = base.decisions + cost := by
  have performs : call.perform oracle base = (Request.inquire query).perform oracle base :=
    Call.perform_of_means means
  obtain ⟨answer, answers⟩ := answered.reply performs lawful coherent isOpen
  have conducted := query.conducted_perform lawful coherent
  obtain ⟨cost, yields, counted⟩ := conducted.answered answer answers
  rw [performs]
  exact ⟨answer, cost, answers, yields, counted⟩

/-- Entailment, asked of an open rule base that any run led to. If its decisions are made, the
answer is whether the clauses have no model with the premise true and the conclusion false, at
the cost of one decision; and the answer about hard entailment is whether, in addition, some
model has the conclusion false, at the cost of two decisions if the premise entails the
conclusion and one otherwise.

So the answers about these clauses, whoever gives them and when, obey the laws:

* a literal entails itself, entailment is transitive, and contraposition does not change it;
* hard entailment is transitive, a literal entails itself hard exactly if it can be false, and
  contraposition does not change a hard entailment together with its premise being possible;
* without a model everything is entailed, and nothing hard. -/
theorem entailment_lawful (reachable : Reachable base) (isOpen : base.isOpen = true)
    (lawful : oracle.Lawful) :
    (∀ call premise conclusion, Call.Means call (.inquire (.entails premise conclusion)) →
      (Exchange.mk oracle base call).Answered →
        ∃ holds, (call.perform oracle base).1 = .ok (.flag holds) ∧
          (holds = true ↔ ¬Satisfiable base.clauses [premise, -conclusion]) ∧
          (call.perform oracle base).2.decisions = base.decisions + 1) ∧
    (∀ call premise conclusion, Call.Means call (.inquire (.entailsHard premise conclusion)) →
      (Exchange.mk oracle base call).Answered →
        ∃ holds, (call.perform oracle base).1 = .ok (.flag holds) ∧
          (holds = true ↔ ¬Satisfiable base.clauses [premise, -conclusion] ∧
            Satisfiable base.clauses [-conclusion]) ∧
          (¬Satisfiable base.clauses [premise, -conclusion] →
            (call.perform oracle base).2.decisions = base.decisions + 2) ∧
          (Satisfiable base.clauses [premise, -conclusion] →
            (call.perform oracle base).2.decisions = base.decisions + 1)) ∧
    (∀ literal flag, Told base.clauses (.entails literal literal) flag → flag = true) ∧
    (∀ premise middle conclusion flag, Told base.clauses (.entails premise middle) true →
      Told base.clauses (.entails middle conclusion) true →
        Told base.clauses (.entails premise conclusion) flag → flag = true) ∧
    (∀ premise conclusion flag other, Told base.clauses (.entails premise conclusion) flag →
      Told base.clauses (.entails (-conclusion) (-premise)) other → flag = other) ∧
    (∀ premise middle conclusion flag, Told base.clauses (.entailsHard premise middle) true →
      Told base.clauses (.entailsHard middle conclusion) true →
        Told base.clauses (.entailsHard premise conclusion) flag → flag = true) ∧
    (∀ literal flag, Told base.clauses (.entailsHard literal literal) flag →
      (flag = true ↔ Satisfiable base.clauses [-literal])) ∧
    (∀ premise conclusion flag other, Told base.clauses (.entailsHard premise conclusion) flag →
      Told base.clauses (.entailsHard (-conclusion) (-premise)) other →
        (flag = true ∧ Satisfiable base.clauses [premise] ↔
          other = true ∧ Satisfiable base.clauses [-conclusion])) ∧
    (¬Satisfiable base.clauses [] → ∀ premise conclusion flag,
      (Told base.clauses (.entails premise conclusion) flag → flag = true) ∧
        (Told base.clauses (.entailsHard premise conclusion) flag → flag = false)) := by
  have coherent : base.Coherent := reachable.coherent
  refine ⟨?_, ?_, ?_, ?_, ?_, ?_, ?_, ?_, ?_⟩
  · intro call premise conclusion means answered
    obtain ⟨_, cost, answers, yields, counted⟩ := answered.yields means lawful coherent isOpen
    obtain ⟨holds, asked, rfl⟩ := Inquiry.yields_wrap.mp yields
    obtain ⟨rfl, rfl⟩ := yields_entails asked
    exact ⟨_, answers, decide_eq_true_iff.trans entails_iff, counted⟩
  · intro call premise conclusion means answered
    obtain ⟨_, cost, answers, yields, counted⟩ := answered.yields means lawful coherent isOpen
    obtain ⟨holds, asked, rfl⟩ := Inquiry.yields_wrap.mp yields
    obtain ⟨rfl, rfl⟩ := yields_entailsHard asked
    rw [hardPrice] at counted
    refine ⟨_, answers, decide_eq_true_iff.trans (and_congr_left fun _ => entails_iff), ?_, ?_⟩
    · intro entails
      rw [counted, if_pos (entails_iff.mpr entails)]
    · intro possible
      rw [counted, if_neg (entails_iff.not.mpr (not_not.mpr possible))]
  · intro literal flag told
    exact told.entails.mpr (.refl base.clauses literal)
  · intro premise middle conclusion flag earlier later told
    exact told.entails.mpr ((earlier.entails.mp rfl).trans (later.entails.mp rfl))
  · intro premise conclusion flag other told turned
    exact Bool.eq_iff_iff.mpr (told.entails.trans (entails_neg_iff.symm.trans turned.entails.symm))
  · intro premise middle conclusion flag earlier later told
    exact told.entailsHard.mpr ((earlier.entailsHard.mp rfl).trans (later.entailsHard.mp rfl))
  · intro literal flag told
    exact told.entailsHard.trans entailsHard_self_iff
  · intro premise conclusion flag other told turned
    rw [told.entailsHard, turned.entailsHard, entailsHard_neg_iff]
  · intro hopeless premise conclusion flag
    constructor
    · intro told
      exact told.entails.mpr (.of_hopeless hopeless premise conclusion)
    · intro told
      rw [← Bool.not_eq_true, told.entailsHard]
      exact not_entailsHard_of_hopeless hopeless

/-- The third variable is always false, so it entails the ninth, which no clause has, and even
hard; but that cannot be turned round, since the third cannot be true. The first entails the
second and the second the fourth, so the first entails the fourth. -/
theorem chained_entails_unseen :
    Reachable chained ∧ chained.isOpen = true ∧ Oracle.search.Lawful ∧
      ((Call.entailsHard (.whole 3) (.whole 9)).perform .search chained).1 = .ok (.flag true) ∧
      ((Call.entailsHard (.whole 3) (.whole 9)).perform .search chained).2.decisions =
        chained.decisions + 2 ∧
      ((Call.entailsHard (.whole (-9)) (.whole (-3))).perform .search chained).1 =
        .ok (.flag false) ∧
      ¬Satisfiable chained.clauses [⟨⟨3, by decide⟩, true⟩] ∧
      ∀ flag, Told chained.clauses
        (.entails ⟨⟨1, by decide⟩, true⟩ ⟨⟨4, by decide⟩, true⟩) flag → flag = true := by
  have reachable : Reachable chained := ⟨chained, [], chained_built, .begun⟩
  have isOpen : chained.isOpen = true := by cbv
  have third : (Call.entailsHard (.whole 3) (.whole 9)).Means
      (.inquire (.entailsHard ⟨⟨3, by decide⟩, true⟩ ⟨⟨9, by decide⟩, true⟩)) :=
    Call.read_ok_iff.mp (by cbv)
  have turned : (Call.entailsHard (.whole (-9)) (.whole (-3))).Means
      (.inquire (.entailsHard ⟨⟨9, by decide⟩, false⟩ ⟨⟨3, by decide⟩, false⟩)) :=
    Call.read_ok_iff.mp (by cbv)
  have link (first second : Int) (premise conclusion : Literal)
      (reads : (Call.entails (.whole first) (.whole second)).read =
        .ok (.inquire (.entails premise conclusion)))
      (reported : (Exchange.mk .search chained
        (.entails (.whole first) (.whole second))).outcome.1 = .ok (.flag true)) :
      Told chained.clauses (.entails premise conclusion) true :=
    ⟨chained, .search, _, reachable, rfl, Oracle.search_lawful, Call.read_ok_iff.mp reads, reported⟩
  have holds : (Exchange.mk .search chained (.entailsHard (.whole 3) (.whole 9))).outcome.1 =
      .ok (.flag true) := by cbv
  have fails : (Exchange.mk .search chained
      (.entailsHard (.whole (-9)) (.whole (-3)))).outcome.1 = .ok (.flag false) := by cbv
  obtain ⟨_, price, _, transitive, _, _, _, turning, _⟩ :=
    entailment_lawful reachable isOpen Oracle.search_lawful
  obtain ⟨_, reported, truth, dear, _⟩ := price _ _ _ third (Exchange.answered_of_ok holds)
  obtain rfl := Answer.flag.inj (Except.ok.inj (reported.symm.trans holds))
  have same := turning _ _ true false
    ⟨chained, .search, _, reachable, rfl, Oracle.search_lawful, third, holds⟩
    ⟨chained, .search, _, reachable, rfl, Oracle.search_lawful, turned, fails⟩
  refine ⟨reachable, isOpen, Oracle.search_lawful, holds, dear (truth.mp rfl).1, fails, ?_, ?_⟩
  · intro possible
    exact Bool.false_ne_true (same.mp ⟨rfl, possible⟩).1
  · intro flag
    exact transitive _ _ _ flag (link 1 2 _ ⟨⟨2, by decide⟩, true⟩ (by cbv) (by cbv))
      (link 2 4 _ _ (by cbv) (by cbv))

end Clausal
