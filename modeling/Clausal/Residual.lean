import Clausal.Meaning

/-!
# What is left of clauses once literals are settled

A residual formula holds, for every clause not yet true, the literals that can
still make it true. Settling a literal drops the clauses that contain it and removes
its negation from the others; an empty remainder can no longer be made true.

Unit propagation settles the last literal of a clause for as long as there is such a
clause. It ends because each settled literal occurs in the formula, so the formula
shrinks. `Refuted` states without the procedure what propagation alone can refute.
-/

namespace Clausal

/-- The literals that are left of each clause. -/
abbrev Residual := List (List Literal)

namespace Residual

/-- Of clauses of which nothing is settled, everything is left. -/
def ofClauses (clauses : List Clause) : Residual := clauses.map Clause.literals

/-- The number of literal occurrences. -/
def size (residual : Residual) : Nat := residual.flatten.length

/-- What is left once the literal holds. -/
def assign : Residual → Literal → Residual
  | [], _ => []
  | rest :: others, literal =>
    if rest.contains literal then assign others literal
    else
      let kept := if rest.contains (-literal) then rest.filter (· != -literal) else rest
      kept :: assign others literal

/-- Some clause has nothing left. -/
def isRefuted (residual : Residual) : Bool := residual.any List.isEmpty

/-- The literal of the first clause whose remainder names only one. -/
def unit? : Residual → Option Literal
  | [] => none
  | [] :: others => unit? others
  | (literal :: rest) :: others =>
    if rest.all (· == literal) then some literal else unit? others

/-- A literal that is left alone occurs in what is left. Propagation ends because of this: it
settles only literals that occur. -/
theorem mem_of_unit? {residual : Residual} {literal : Literal}
    (found : residual.unit? = some literal) : ∃ rest ∈ residual, literal ∈ rest := by
  fun_induction unit? residual with
  | case1 => cases found
  | case2 others inductionHypothesis =>
    obtain ⟨rest, member, inside⟩ := inductionHypothesis found
    exact ⟨rest, List.mem_cons_of_mem _ member, inside⟩
  | case3 head rest others all =>
    cases found
    exact ⟨_, List.mem_cons_self, List.mem_cons_self⟩
  | case4 head rest others notAll inductionHypothesis =>
    obtain ⟨found, member, inside⟩ := inductionHypothesis found
    exact ⟨found, List.mem_cons_of_mem _ member, inside⟩

/-- Occurrences are counted remainder by remainder. -/
theorem size_cons (rest : List Literal) (others : Residual) :
    size (rest :: others) = rest.length + size others := by
  simp [size]

/-- A clause that is not made true keeps every literal but the refuted one. The test for the
refuted literal only spares a copy of the remainder. -/
theorem assign_cons (rest : List Literal) (others : Residual) (literal : Literal) :
    assign (rest :: others) literal =
      if rest.contains literal then assign others literal
      else rest.filter (fun other => other != -literal) :: assign others literal := by
  rw [assign]
  split
  · rfl
  · refine congrArg (· :: _) ?_
    split
    · rfl
    · next absent =>
      refine (List.filter_eq_self.2 fun other member => ?_).symm
      refine bne_iff_ne.2 fun equal => absent (List.elem_iff.2 (equal ▸ member))

/-- Settling never adds an occurrence. Each remainder is dropped, filtered or kept. -/
theorem size_assign_le (residual : Residual) (literal : Literal) :
    (residual.assign literal).size ≤ residual.size := by
  induction residual with
  | nil => exact Nat.le_refl _
  | cons rest others inductionHypothesis =>
    rw [assign_cons, size_cons]
    split
    · omega
    · rw [size_cons]
      have := List.length_filter_le (fun other => other != -literal) rest
      omega

/-- Settling a literal whose variable occurs removes an occurrence, be it of the literal, which
takes its remainder along, or of the denial. The induction is on the remainders before it. -/
theorem size_assign_lt {residual : Residual} {literal : Literal}
    (occurs : ∃ rest ∈ residual, literal ∈ rest ∨ -literal ∈ rest) :
    (residual.assign literal).size < residual.size := by
  obtain ⟨found, member, inside⟩ := occurs
  induction residual with
  | nil => cases member
  | cons rest others inductionHypothesis =>
    rw [assign_cons, size_cons]
    have shrinks := size_assign_le others literal
    rcases List.mem_cons.1 member with rfl | member
    · split
      · next contained =>
        have : found ≠ [] := by
          rintro rfl
          simp at contained
        have := List.length_pos_iff.2 this
        omega
      · next notContained =>
        rw [size_cons]
        rcases inside with inside | inside
        · exact absurd (List.elem_iff.2 inside) notContained
        · have : (found.filter fun other => other != -literal).length < found.length :=
            List.length_filter_lt_length_iff_exists.2 ⟨-literal, inside, by simp⟩
          omega
    · have := inductionHypothesis member
      split
      · omega
      · rw [size_cons]
        have := List.length_filter_le (fun other => other != -literal) rest
        omega

/-- Settles units until none is left; nothing if a clause loses its last literal. -/
def propagate (residual : Residual) : Option Residual :=
  if residual.isRefuted then none
  else
    match _ : residual.unit? with
    | none => some residual
    | some literal => propagate (residual.assign literal)
termination_by residual.size
decreasing_by
  obtain ⟨rest, member, inside⟩ := mem_of_unit? ‹_›
  exact size_assign_lt ⟨rest, member, Or.inl inside⟩

end Residual

/-- Literals that unit propagation settles: in some clause all others are refuted. -/
inductive Forced (clauses : List Clause) : Literal → Prop
  | unit {clause : Clause} {literal : Literal} (member : clause ∈ clauses)
      (inside : literal ∈ clause.literals)
      (others : ∀ other ∈ clause.literals, other ≠ literal → Forced clauses (-other)) :
      Forced clauses literal

/-- Unit propagation alone refutes the clauses: it refutes every literal of one. -/
def Refuted (clauses : List Clause) : Prop :=
  ∃ clause ∈ clauses, ∀ literal ∈ clause.literals, Forced clauses (-literal)

/-- Unit propagation over the clauses ends in a conflict. -/
def conflicts (clauses : List Clause) : Bool :=
  match (Residual.ofClauses clauses).propagate with
  | none => true
  | some _ => false

end Clausal
