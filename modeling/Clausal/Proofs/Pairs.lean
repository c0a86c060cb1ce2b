import Clausal.Agreement
import Mathlib.Data.List.Sort
import Mathlib.Data.Prod.Lex
import Mathlib.Order.Lattice

/-!
# Pairs of variables in order

Variables are ordered by their numbers. Of an ascending list, the pairs of a member and a
later one are the pairs of an earlier and a later member, each once and in lexicographic
order. Leaving variables out does not disturb the order.
-/

namespace Clausal

/-- Variables with the same number are the same. -/
theorem Variable.number_injective : Function.Injective Variable.number := by
  rintro ⟨number, _⟩ ⟨other, _⟩ same
  cases same
  rfl

/-- Variables are ordered by their numbers. -/
instance : LinearOrder Variable := LinearOrder.lift' Variable.number Variable.number_injective

/-- To compare variables is to compare their numbers, as the program does. -/
theorem Variable.le_iff {first second : Variable} :
    first ≤ second ↔ first.number ≤ second.number := Iff.rfl

/-- Counting up meets the variables in order. -/
theorem Variable.upTo_ascending (highest : Nat) : (Variable.upTo highest).Pairwise (· < ·) := by
  rw [Variable.upTo, List.pairwise_map]
  exact List.pairwise_lt_range.imp fun earlier => Nat.succ_lt_succ earlier

/-- The magnitude of the code is the number of the variable. -/
theorem Literal.natAbs_code (literal : Literal) : literal.code.natAbs = literal.var.number := by
  unfold code
  split <;> simp

/-- The number is the magnitude of a pinned one. -/
def Pinned (pinned : List Int) (var : Variable) : Prop :=
  ∃ given ∈ pinned, given.natAbs = var.number

/-- A literal's code pins the literal's variable and no other. -/
theorem pinned_codes {literals : List Literal} {var : Variable} :
    Pinned (literals.map Literal.code) var ↔ ∃ literal ∈ literals, literal.var = var := by
  simp [Pinned, Literal.natAbs_code, Variable.number_injective.eq_iff]

/-- The variables left to scan are those up to the highest that no number pins. -/
theorem mem_unpinned {highest : Nat} {pinned : List Int} {var : Variable} :
    var ∈ unpinned highest pinned ↔ var.number ≤ highest ∧ ¬Pinned pinned var := by
  simp [unpinned, Variable.mem_upTo, Pinned]

/-- Leaving variables out of a scan does not change the order of the others. -/
theorem unpinned_ascending (highest : Nat) (pinned : List Int) :
    (unpinned highest pinned).Pairwise (· < ·) :=
  (Variable.upTo_ascending highest).filter _

section Order

variable {α : Type} [Preorder α] {items : List α}

/-- The strict lexicographic order of pairs. -/
abbrev Before (first second : α × α) : Prop := Prod.Lex (· < ·) (· < ·) first second

/-- Pairs are ordered by their first variables, and among equal ones by the second. -/
theorem before_iff {first second : α × α} :
    Before first second ↔ first.1 < second.1 ∨ first.1 = second.1 ∧ first.2 < second.2 :=
  Prod.lex_def

/-- The pairs of an ascending list are those of two members in order. The first member of the
list goes with all later ones, and the induction is on the rest. -/
theorem mem_pairsOf (ascending : items.Pairwise (· < ·)) {first second : α} :
    (first, second) ∈ pairsOf items ↔ first ∈ items ∧ second ∈ items ∧ first < second := by
  induction items with
  | nil => simp [pairsOf]
  | cons head rest inductionHypothesis =>
    obtain ⟨headFirst, restAscending⟩ := List.pairwise_cons.mp ascending
    have inRest := inductionHypothesis restAscending
    have here : (first, second) ∈ rest.map (fun later => (head, later)) ↔
        head = first ∧ second ∈ rest := by
      simp [and_comm]
    rw [pairsOf, List.mem_append, here, inRest, List.mem_cons, List.mem_cons]
    constructor
    · rintro (⟨rfl, later⟩ | ⟨firstLater, secondLater, ordered⟩)
      · exact ⟨Or.inl rfl, Or.inr later, headFirst second later⟩
      · exact ⟨Or.inr firstLater, Or.inr secondLater, ordered⟩
    · rintro ⟨firstMember, secondMember, ordered⟩
      have notHead : second ≠ head := by
        rintro rfl
        rcases firstMember with rfl | firstLater
        · exact lt_irrefl first ordered
        · exact lt_asymm ordered (headFirst first firstLater)
      have secondLater : second ∈ rest := secondMember.resolve_left notHead
      rcases firstMember with rfl | firstLater
      · exact Or.inl ⟨rfl, secondLater⟩
      · exact Or.inr ⟨firstLater, secondLater, ordered⟩

/-- The pairs of an ascending list ascend, too. Pairs with the first member come before the
others, and among themselves they are ordered by the second. -/
theorem pairsOf_ascending (ascending : items.Pairwise (· < ·)) :
    (pairsOf items).Pairwise Before := by
  induction items with
  | nil => exact List.Pairwise.nil
  | cons head rest inductionHypothesis =>
    obtain ⟨headFirst, restAscending⟩ := List.pairwise_cons.mp ascending
    rw [pairsOf, List.pairwise_append]
    refine ⟨?_, inductionHypothesis restAscending, ?_⟩
    · rw [List.pairwise_map]
      exact restAscending.imp fun earlier => Prod.Lex.right head earlier
    · intro pair here other later
      obtain ⟨second, _, rfl⟩ := List.mem_map.mp here
      have firstLater : other.1 ∈ rest := ((mem_pairsOf restAscending).mp later).1
      exact before_iff.mpr (Or.inl (headFirst other.1 firstLater))

end Order

end Clausal
