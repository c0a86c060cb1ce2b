import Clausal.Proofs.Replies

/-!
# Two ways to ask for a model

Literals are assumed on the permanent solver, and extra clauses go to a solver of their
own that is given the stored clauses with them. In every rule base that a run can lead to
and that is still open, both tell the truth about the stored clauses, so they agree:
extra clauses leave a model exactly if one literal can be chosen from each so that the
choice can be assumed.
-/

namespace Clausal

open RuleBase

/-- In an open rule base that any run led to, assumed literals, extra clauses and models
are all answered from the models of the stored clauses. Hence the permanent solver and
the solver for extra clauses agree, even when different oracles stand behind them. The
questions about a single clause and about no clause at all are the cases of one and of
no extra clause, and a question stays open only if its decision is not made. -/
theorem satisfiability_paths_agree {base : RuleBase} (reachable : Reachable base)
    (isOpen : base.isOpen = true) {oracle prober : Oracle} (lawful : oracle.Lawful)
    (probing : prober.Lawful) :
    (∀ literals answer, base.reply oracle (.satisfiable literals) = .ok answer →
      ∃ possible, answer = .flag possible ∧
        (possible = true ↔ Satisfiable base.clauses literals)) ∧
    (∀ extra answer, base.reply prober (.alongside extra) = .ok answer →
      ∃ possible, answer = .flag possible ∧
        (possible = true ↔ Satisfiable (base.clauses ++ extra) [])) ∧
    (∀ literals answer possible, base.reply prober (.model literals) = .ok answer →
      base.reply oracle (.satisfiable literals) = .ok (.flag possible) →
      ∃ found, answer = .model found ∧ (found ≠ none ↔ possible = true)) ∧
    (∀ extra possible, base.reply prober (.alongside extra) = .ok (.flag possible) →
      (∀ choice, Chooses choice extra →
        ∃ answer, base.reply oracle (.satisfiable choice) = .ok answer) →
      (possible = true ↔ ∃ choice, Chooses choice extra ∧
        base.reply oracle (.satisfiable choice) = .ok (.flag true))) ∧
    (Call.satisfiable.perform prober base =
      (Request.inquire (.alongside [])).perform prober base) ∧
    (∀ given clause, Argument.clause .extraClauses given = .ok clause →
      (Call.alongsideClause given).perform prober base =
        (Request.inquire (.alongside [clause])).perform prober base) ∧
    (∀ query, (∃ answer, base.reply oracle query = .ok answer) ∨
      base.limits ≠ Limits.none ∧
        ∃ fault, base.reply oracle query = .error fault ∧ base.Declines fault) := by
  have coherent : base.Coherent := reachable.coherent
  have assumed {literals : List Literal} {possible : Bool}
      (answered : base.reply oracle (.satisfiable literals) = .ok (.flag possible)) :
      possible = true ↔ Satisfiable base.clauses literals := by
    obtain ⟨_, ⟨⟩, truth⟩ := reply_satisfiable lawful coherent answered
    exact truth
  refine ⟨?_, ?_, ?_, ?_, rfl, ?_, ?_⟩
  · intro literals answer answered
    exact reply_satisfiable lawful coherent answered
  · intro extra answer answered
    exact reply_alongside probing coherent answered
  · intro literals answer possible answered other
    obtain ⟨found, same, truth⟩ := reply_model probing coherent answered
    have exists_iff : found ≠ none ↔ found.isSome = true := Option.isSome_iff_ne_none.symm
    exact ⟨found, same, exists_iff.trans (truth.trans (assumed other).symm)⟩
  · intro extra possible answered allAnswered
    obtain ⟨_, ⟨⟩, probed⟩ := reply_alongside probing coherent answered
    rw [probed, satisfiable_append_iff]
    constructor
    · rintro ⟨choice, chooses, satisfiable⟩
      obtain ⟨answer, given⟩ := allAnswered choice chooses
      obtain ⟨possible, rfl, truth⟩ := reply_satisfiable lawful coherent given
      rw [truth.mpr satisfiable] at given
      exact ⟨choice, chooses, given⟩
    · rintro ⟨choice, chooses, given⟩
      exact ⟨choice, chooses, (assumed given).mp rfl⟩
  · intro given clause read
    rw [Call.perform, Call.read, read]
    rfl
  · intro query
    exact reply_or_declined lawful coherent isOpen query

/-- Variable 1 brings variable 2 along and variable 3 is false, so the solver for extra
clauses finds no model of `1` and `-2 ∨ 3`, and neither choice from them can be assumed. -/
theorem mirrored_refuses_every_choice :
    Reachable mirrored ∧ mirrored.isOpen = true ∧ Oracle.search.Lawful ∧
      ¬∃ choice, Chooses choice [⟨[⟨⟨1, by decide⟩, true⟩], by simp⟩,
          ⟨[⟨⟨2, by decide⟩, false⟩, ⟨⟨3, by decide⟩, true⟩], by simp⟩] ∧
        mirrored.reply .search (.satisfiable choice) = .ok (.flag true) := by
  have isOpen : mirrored.isOpen = true := by cbv
  refine ⟨mirrored_reachable, isOpen, Oracle.search_lawful, ?_⟩
  have agree := satisfiability_paths_agree mirrored_reachable isOpen
    Oracle.search_lawful Oracle.search_lawful
  refine fun choice => Bool.false_ne_true ((agree.2.2.2.1 _ false (by cbv) ?_).mpr choice)
  intro choice chooses
  obtain _ | ⟨first, _ | ⟨second, ⟨⟩⟩⟩ := chooses
  obtain rfl := List.mem_singleton.mp first
  have either := List.mem_cons.mp second
  rw [List.mem_singleton] at either
  obtain rfl | rfl := either
  · exact ⟨.flag false, by cbv⟩
  · exact ⟨.flag false, by cbv⟩

end Clausal
