import Clausal.Literal

/-!
# Clauses

A clause is a disjunction with at least one literal. Order and repetition of its
literals carry no meaning but are kept, because a clause is reported as it was
given.
-/

namespace Clausal

/-- A disjunction of literals that is never empty. -/
structure Clause where
  literals : List Literal
  literals_ne_nil : literals ≠ []
  deriving DecidableEq

namespace Clause

/-- The clause that asserts one literal. -/
def unit (literal : Literal) : Clause := ⟨[literal], by simp⟩

/-- A clause from its literals, if there are any. -/
def ofList? (literals : List Literal) : Option Clause :=
  if nonempty : literals = [] then none else some ⟨literals, nonempty⟩

/-- The largest variable number among literals, zero if there are none. -/
def highestOf : List Literal → Nat
  | [] => 0
  | literal :: rest => max literal.var.number (highestOf rest)

/-- The largest variable number in the clause. -/
def highest (clause : Clause) : Nat := highestOf clause.literals

/-- Only the empty list makes no clause. -/
theorem ofList?_eq_none_iff {literals : List Literal} :
    ofList? literals = none ↔ literals = [] := by
  unfold ofList?
  split <;> simp_all

/-- A clause that was made from a list has the literals of the list, in the same order and as
often. -/
theorem literals_of_ofList? {literals : List Literal} {clause : Clause}
    (read : ofList? literals = some clause) : clause.literals = literals := by
  unfold ofList? at read
  split at read
  · cases read
  · cases read; rfl

/-- No literal of the list has a variable beyond the highest. -/
theorem le_highestOf {literals : List Literal} {literal : Literal} (member : literal ∈ literals) :
    literal.var.number ≤ highestOf literals := by
  induction literals with
  | nil => cases member
  | cons head rest inductionHypothesis =>
    rcases List.mem_cons.1 member with rfl | inRest
    · exact Nat.le_max_left _ _
    · exact Nat.le_trans (inductionHypothesis inRest) (Nat.le_max_right _ _)

/-- The highest number is attained wherever there is a literal at all, so it is always the number
of a variable that some clause has. -/
theorem exists_eq_highestOf {literals : List Literal} (nonempty : literals ≠ []) :
    ∃ literal ∈ literals, literal.var.number = highestOf literals := by
  induction literals with
  | nil => exact absurd rfl nonempty
  | cons head rest inductionHypothesis =>
    rcases Decidable.em (rest = []) with rfl | nonemptyRest
    · exact ⟨head, List.mem_cons_self, (Nat.max_zero _).symm⟩
    · obtain ⟨literal, member, equal⟩ := inductionHypothesis nonemptyRest
      rcases Nat.le_total head.var.number literal.var.number with least | most
      · exact ⟨literal, List.mem_cons_of_mem _ member,
          equal.trans (Nat.max_eq_right (equal ▸ least)).symm⟩
      · exact ⟨head, List.mem_cons_self, (Nat.max_eq_left (equal ▸ most)).symm⟩

/-- The highest number is one of the clause's own variables. -/
theorem exists_eq_highest (clause : Clause) :
    ∃ literal ∈ clause.literals, literal.var.number = clause.highest :=
  exists_eq_highestOf clause.literals_ne_nil

end Clause

end Clausal
