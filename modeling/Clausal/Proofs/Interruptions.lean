import Clausal.Proofs.Records

/-!
# Operations that are interrupted

A decision may give up wherever it stands in an operation. What becomes of the operation is
stated by comparing two runs of it from one rule base: the full run, and the run in which
the oracle gives the same answers for so many decisions and gives up from then on.

An operation is interruptible if it puts certain questions to the oracle in the full run,
is not affected if the oracle lasts for all of them, and otherwise ends at the first
question that is not answered, with no answer of its own, with no loss of trust and with
nothing less stored than in the full run. A single question is interruptible, and so is
what is put together from interruptible parts.
-/

namespace Clausal.RuleBase

variable {α β : Type} {oracle : Oracle} {base : RuleBase}

/-- The operation was to go on to a question that came after `allowed` others, and that
question was given up. The outcome names its assumptions, it is counted, and the rule base
is as trusted as before. What is stored is what the full operation stores. -/
structure Interrupted (base : RuleBase) (question : Question) (allowed : Nat)
    (full cut : Outcome α) : Prop where
  fault : cut.1 = .error (.gaveUp question.assumptions base.limits)
  decisions : cut.2.decisions = base.decisions + (allowed + 1)
  trusted : cut.2.trusted = base.trusted
  clauses : cut.2.clauses = full.2.clauses
  highest : cut.2.highest = full.2.highest

/-- The operation puts these questions to the oracle. If the oracle gives up after as many
decisions as there are questions, or later, it makes no difference; if it gives up earlier,
the operation is interrupted at the first question that it does not answer. -/
structure Interruptible (oracle : Oracle) (base : RuleBase) (operation : Oracle → Outcome α)
    (asked : List Question) : Prop where
  /-- The audit trail has the questions, after those that it had already. -/
  recorded : (operation oracle).2.questions = base.questions ++ asked
  /-- Every question is counted, and so is one that meets a limit that is no whole number
  and is never put to the oracle. -/
  counted : (operation oracle).2.decisions = base.decisions + asked.length ∨
    base.limits.isCountable = false ∧ (operation oracle).1 = .error (.notWhole .decimal)
  spared : ∀ allowed, asked.length ≤ allowed →
    operation (oracle.exhaustedFrom (base.decisions + allowed)) = operation oracle
  interrupted : ∀ allowed (beyond : allowed < asked.length),
    Interrupted base asked[allowed] allowed (operation oracle)
      (operation (oracle.exhaustedFrom (base.decisions + allowed)))

/-- An operation that has no use for decisions cannot be interrupted. -/
theorem interruptible_nil {operation : Oracle → Outcome α}
    (silent : (operation oracle).2.questions = base.questions)
    (counted : (operation oracle).2.decisions = base.decisions ∨
      base.limits.isCountable = false ∧ (operation oracle).1 = .error (.notWhole .decimal))
    (indifferent : ∀ turn, operation (oracle.exhaustedFrom turn) = operation oracle) :
    Interruptible oracle base operation [] where
  recorded := by rw [silent, List.append_nil]
  counted := counted
  spared := fun _ _ => indifferent _
  interrupted := fun _ beyond => absurd beyond (Nat.not_lt_zero _)

/-- One question is refused by a closed rule base, fails under a limit that is no whole
number, or is put to the oracle; in the last case what comes of it is told by the verdict. -/
theorem ask_cases (base : RuleBase) (question : Question) :
    (∀ oracle, base.ask oracle question = (.error .closed, base)) ∨
    base.limits.isCountable = false ∧
      (∀ oracle, base.ask oracle question = (.error (.notWhole .decimal), base.count)) ∨
    ∃ (database : List Clause) (learned : Verdict → Option Solver),
      ∀ oracle, base.ask oracle question =
        let verdict := oracle.decide base.decisions base.limits database question.assumptions
        { base.count with solver := learned verdict }.settle question verdict := by
  cases question with
  | assuming literals =>
    cases held : base.solver with
    | none => exact Or.inl fun oracle => by simp only [ask, held]
    | some solver =>
      cases countable : base.limits.isCountable with
      | false => exact Or.inr (Or.inl ⟨rfl, fun oracle => by simp [ask, held, countable]⟩)
      | true =>
        refine Or.inr (Or.inr ⟨solver.database, fun verdict => some (solver.learn literals verdict),
          fun oracle => ?_⟩)
        simp [ask, held, countable, Question.assumptions]
  | alongside extra =>
    cases countable : base.limits.isCountable with
    | false => exact Or.inr (Or.inl ⟨rfl, fun oracle => by simp [ask, countable]⟩)
    | true =>
      refine Or.inr (Or.inr ⟨base.clauses ++ extra, fun _ => base.solver, fun oracle => ?_⟩)
      simp [ask, countable, Question.assumptions, count]

/-- One question is put to the oracle, or none is. One that is put is spared if a decision is
still allowed, and given up otherwise. -/
theorem interruptible_ask (oracle : Oracle) (limited : base.limits.isLimited = true)
    (question : Question) :
    ∃ asked, Interruptible oracle base (fun oracle => base.ask oracle question) asked := by
  rcases ask_cases base question with closed | ⟨uncountable, fails⟩ | ⟨database, learned, put⟩
  · refine ⟨[], interruptible_nil ?_ (Or.inl ?_) fun turn => ?_⟩
    · rw [closed]
    · rw [closed]
    · rw [closed, closed]
  · refine ⟨[], interruptible_nil ?_ (Or.inr ⟨uncountable, ?_⟩) fun turn => ?_⟩
    · rw [fails]
      rfl
    · rw [fails]
    · rw [fails, fails]
  · refine ⟨[question], ?_, ?_, ?_, ?_⟩
    · rw [put]
      exact settle_questions _ question _
    · left
      rw [put]
      cases oracle.decide base.decisions base.limits database question.assumptions <;> rfl
    · intro allowed enough
      have early : ¬base.decisions + allowed ≤ base.decisions := by
        rw [List.length_singleton] at enough
        omega
      simp only [put, Oracle.exhaustedFrom, early, decide_false, Bool.and_false, Bool.false_eq_true,
        if_false]
    · intro allowed beyond
      obtain rfl : allowed = 0 := by
        rw [List.length_singleton] at beyond
        omega
      have cut : base.ask (oracle.exhaustedFrom (base.decisions + 0)) question =
          { base.count with solver := learned .unknown }.settle question .unknown := by
        rw [put]
        simp only [Oracle.exhaustedFrom, limited, Nat.add_zero, Nat.le_refl, decide_true,
          Bool.and_self, if_true]
      rw [cut, put]
      refine ⟨rfl, rfl, rfl, ?_, ?_⟩ <;>
        cases oracle.decide base.decisions base.limits database question.assumptions <;> rfl

/-- One operation after another: the second starts where the first ended, with its result,
unless the first failed. -/
def followed (first : Oracle → Outcome α) (next : α → RuleBase → Oracle → Outcome β)
    (oracle : Oracle) : Outcome β :=
  match first oracle with
  | (.error fault, after) => (.error fault, after)
  | (.ok value, after) => next value after oracle

section Followed

variable {first : Oracle → Outcome α} {next : α → RuleBase → Oracle → Outcome β} {after : RuleBase}
  {asked : List Question}

/-- If the first operation fails, the second is not carried out. -/
theorem followed_error {fault : Fault} (failed : first oracle = (.error fault, after)) :
    followed first next oracle = (.error fault, after) := by
  rw [followed, failed]

/-- If the first operation ends, the second starts there with its result. -/
theorem followed_ok {value : α} (ended : first oracle = (.ok value, after)) :
    followed first next oracle = next value after oracle := by
  rw [followed, ended]

/-- If the first operation is interrupted, so is the whole, as long as the second would have
stored no more. -/
theorem Interrupted.followed {question : Question} {allowed : Nat} {full : Outcome α}
    {whole : Outcome β} (interrupted : Interrupted base question allowed full (first oracle))
    (clauses : full.2.clauses = whole.2.clauses) (highest : full.2.highest = whole.2.highest) :
    Interrupted base question allowed whole (followed first next oracle) := by
  rcases reached : first oracle with ⟨result, after⟩
  obtain ⟨fault, decisions, trusted, sameClauses, sameHighest⟩ := reached ▸ interrupted
  obtain rfl : result = .error (.gaveUp question.assumptions base.limits) := fault
  rw [followed_error reached]
  exact ⟨rfl, decisions, trusted, sameClauses.trans clauses, sameHighest.trans highest⟩

/-- Where the first operation fails, the whole asks what the first asks. The second one is never
begun. -/
theorem Interruptible.followed_error {fault : Fault}
    (begins : Interruptible oracle base first asked)
    (failed : first oracle = (.error fault, after)) :
    Interruptible oracle base (followed first next) asked := by
  have ended : followed first next oracle = (.error fault, after) := RuleBase.followed_error failed
  refine ⟨?_, ?_, ?_, ?_⟩
  · simpa only [ended, failed] using begins.recorded
  · rw [ended]
    simpa [failed] using begins.counted
  · intro allowed enough
    rw [followed, begins.spared allowed enough, failed, ended]
  · intro allowed beyond
    apply (begins.interrupted allowed beyond).followed
    · rw [failed, ended]
    · rw [failed, ended]

/-- Where the first operation succeeds, the whole asks what the first asks and then what the
second asks. -/
theorem Interruptible.followed_ok {value : α} {later : List Question}
    (begins : Interruptible oracle base first asked) (reached : first oracle = (.ok value, after))
    (unaltered : Unaltered base after) (kept : Unaltered after (next value after oracle).2)
    (ends : Interruptible oracle after (next value after) later) :
    Interruptible oracle base (followed first next) (asked ++ later) := by
  have continued : followed first next oracle = next value after oracle :=
    RuleBase.followed_ok reached
  have counted : after.decisions = base.decisions + asked.length := by
    have := begins.counted
    simpa [reached] using this
  -- Once the first operation is spared, the second has what remains of the allowance.
  have goesOn (allowed : Nat) (enough : asked.length ≤ allowed) :
      followed first next (oracle.exhaustedFrom (base.decisions + allowed)) =
        next value after
          (oracle.exhaustedFrom (after.decisions + (allowed - asked.length))) := by
    rw [followed, begins.spared allowed enough, reached, counted, Nat.add_assoc,
      Nat.add_sub_cancel' enough]
  refine ⟨?_, ?_, ?_, ?_⟩
  · have recorded := begins.recorded
    rw [reached] at recorded
    rw [continued, ends.recorded, recorded, List.append_assoc]
  · rw [continued, List.length_append, ← Nat.add_assoc, ← counted, ← unaltered.limits]
    exact ends.counted
  · intro allowed enough
    rw [List.length_append] at enough
    rw [goesOn allowed (by omega), continued]
    exact ends.spared _ (by omega)
  · intro allowed beyond
    by_cases early : allowed < asked.length
    · rw [List.getElem_append_left early]
      apply (begins.interrupted allowed early).followed
      · rw [reached, continued, kept.clauses]
      · rw [reached, continued, kept.highest]
    · rw [List.length_append] at beyond
      have rest := ends.interrupted (allowed - asked.length) (by omega)
      rw [List.getElem_append_right (by omega), continued, goesOn allowed (by omega)]
      refine ⟨?_, ?_, rest.trusted.trans unaltered.trusted, rest.clauses, rest.highest⟩
      · rw [rest.fault, unaltered.limits]
      · rw [rest.decisions, counted]
        omega

/-- Interruptible operations that keep what is stored make an interruptible whole. What the
second one asks comes after what the first one asked. -/
theorem Interruptible.bind (begins : Interruptible oracle base first asked)
    (unaltered : Unaltered base (first oracle).2)
    (goesOn : ∀ value after, first oracle = (.ok value, after) →
      Unaltered after (next value after oracle).2 ∧
        ∃ later, Interruptible oracle after (next value after) later) :
    ∃ all, Interruptible oracle base (followed first next) all := by
  rcases reached : first oracle with ⟨fault | value, after⟩
  · exact ⟨asked, begins.followed_error reached⟩
  · rw [reached] at unaltered
    obtain ⟨kept, later, ends⟩ := goesOn value after reached
    exact ⟨asked ++ later, begins.followed_ok reached unaltered kept ends⟩

end Followed

/-- What is done with an outcome after the last question. Failures stay as they are. -/
structure Concludes (conclude : Outcome α → Outcome β) : Prop where
  failed : ∀ outcome fault, outcome.1 = .error fault →
    (conclude outcome).1 = .error fault ∧ (conclude outcome).2.trusted = outcome.2.trusted
  questions : ∀ outcome, (conclude outcome).2.questions = outcome.2.questions
  decisions : ∀ outcome, (conclude outcome).2.decisions = outcome.2.decisions
  clauses : ∀ outcome, (conclude outcome).2.clauses = outcome.2.clauses
  highest : ∀ outcome, (conclude outcome).2.highest = outcome.2.highest

/-- A conclusion that asks nothing leaves an operation interruptible at the same questions. -/
theorem Interruptible.conclude {operation : Oracle → Outcome α} {asked : List Question}
    {conclude : Outcome α → Outcome β} (interruptible : Interruptible oracle base operation asked)
    (concludes : Concludes conclude) :
    Interruptible oracle base (fun oracle => conclude (operation oracle)) asked where
  recorded := (concludes.questions _).trans interruptible.recorded
  counted := by
    rw [concludes.decisions]
    exact interruptible.counted.imp_right fun ⟨uncountable, failed⟩ =>
      ⟨uncountable, (concludes.failed _ _ failed).1⟩
  spared := fun allowed enough => congrArg conclude (interruptible.spared allowed enough)
  interrupted := by
    intro allowed beyond
    have cut := interruptible.interrupted allowed beyond
    obtain ⟨fault, trusted⟩ := concludes.failed _ _ cut.fault
    refine ⟨fault, ?_, trusted.trans cut.trusted, ?_, ?_⟩
    · rw [concludes.decisions, cut.decisions]
    · rw [concludes.clauses, concludes.clauses, cut.clauses]
    · rw [concludes.highest, concludes.highest, cut.highest]

/-- A rule base that merely stores more clauses has asked and counted as much, so what is shown
of it before the check carries over to the addition. -/
theorem Interruptible.of_stored {stored : RuleBase} {operation : Oracle → Outcome α}
    {asked : List Question} (limits : stored.limits = base.limits)
    (decisions : stored.decisions = base.decisions) (trusted : stored.trusted = base.trusted)
    (journal : stored.journal = base.journal)
    (interruptible : Interruptible oracle stored operation asked) :
    Interruptible oracle base operation asked := by
  have questions : stored.questions = base.questions := questions_congr journal
  obtain ⟨recorded, counted, spared, interrupted⟩ := interruptible
  rw [questions] at recorded
  rw [limits, decisions] at counted
  rw [decisions] at spared interrupted
  refine ⟨recorded, counted, spared, fun allowed beyond => ?_⟩
  have cut := interrupted allowed beyond
  exact ⟨limits ▸ cut.fault, decisions ▸ cut.decisions, cut.trusted.trans trusted, cut.clauses,
    cut.highest⟩

end Clausal.RuleBase
