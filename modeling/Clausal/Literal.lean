/-!
# Variables and literals

A variable is a positive number and a literal is a variable with a sign. The
signed code of a literal is the variable's number, negated for a negative
literal, so zero codes nothing and every other integer codes exactly one literal.
-/

namespace Clausal

/-- A propositional variable. Numbers start at one. -/
structure Variable where
  number : Nat
  number_pos : 0 < number
  deriving DecidableEq

namespace Variable

/-- The variables from one up to a highest number, ascending. -/
def upTo (highest : Nat) : List Variable :=
  (List.range highest).map fun index => ⟨index + 1, Nat.succ_pos index⟩

/-- Counting up to a number meets every variable up to it. None is missed, since the
numbers start at one. -/
theorem mem_upTo {highest : Nat} {var : Variable} :
    var ∈ upTo highest ↔ var.number ≤ highest := by
  have positive := var.number_pos
  constructor
  · intro member
    obtain ⟨index, bound, rfl⟩ := List.mem_map.1 member
    have := List.mem_range.1 bound
    simp only
    omega
  · intro bound
    refine List.mem_map.2 ⟨var.number - 1, List.mem_range.2 (by omega), ?_⟩
    cases var
    simp only [mk.injEq]
    simp only at positive
    omega

/-- Each number from one up to the highest is met once. -/
theorem length_upTo (highest : Nat) : (upTo highest).length = highest := by
  simp [upTo]

end Variable

/-- A variable claimed true (`positive`) or false. -/
structure Literal where
  var : Variable
  positive : Bool
  deriving DecidableEq

namespace Literal

/-- The literal that says the opposite about the same variable. -/
def neg (literal : Literal) : Literal := ⟨literal.var, !literal.positive⟩

/-- A literal is denied by the minus sign, as it is in its code. -/
instance : Neg Literal := ⟨neg⟩

/-- The signed code: the variable's number, negated for a negative literal. -/
def code (literal : Literal) : Int :=
  if literal.positive then literal.var.number else -literal.var.number

/-- The literal with a given code; zero has none. -/
def ofCode? : Int → Option Literal
  | .ofNat 0 => none
  | .ofNat (number + 1) => some ⟨⟨number + 1, Nat.succ_pos number⟩, true⟩
  | .negSucc number => some ⟨⟨number + 1, Nat.succ_pos number⟩, false⟩

/-- A denial is about the same variable. -/
@[simp] theorem neg_var (literal : Literal) : (-literal).var = literal.var := rfl

/-- A denial has the other sign. -/
@[simp] theorem neg_positive (literal : Literal) : (-literal).positive = !literal.positive := rfl

/-- To deny a denial is to assert the literal itself. -/
@[simp] theorem neg_neg (literal : Literal) : - -literal = literal := by
  obtain ⟨var, positive⟩ := literal
  change Literal.mk var (!(!positive)) = _
  rw [Bool.not_not]

/-- Two literals over one variable are equal or opposite. -/
theorem eq_or_eq_neg {first second : Literal} (sameVariable : first.var = second.var) :
    first = second ∨ first = -second := by
  obtain ⟨var, positive⟩ := first
  obtain ⟨_, other⟩ := second
  subst sameVariable
  change Literal.mk var positive = Literal.mk var other ∨
    Literal.mk var positive = Literal.mk var (!other)
  cases positive <;> cases other <;> simp

/-- No literal is its own denial. -/
theorem ne_neg (literal : Literal) : literal ≠ -literal := by
  intro equal
  have signs : literal.positive = !literal.positive := congrArg Literal.positive equal
  simp at signs

/-- The code of a denial is the negated code. This is how a caller denies a literal that
was given as an integer. -/
@[simp] theorem code_neg (literal : Literal) : (-literal).code = -literal.code := by
  obtain ⟨var, positive⟩ := literal
  change (Literal.mk var (!positive)).code = _
  cases positive <;> simp [code]

/-- Zero codes nothing: the number of a variable is positive, whatever the sign. -/
theorem code_ne_zero (literal : Literal) : literal.code ≠ 0 := by
  have := literal.var.number_pos
  unfold code
  split <;> omega

/-- The code loses nothing. -/
theorem ofCode?_code (literal : Literal) : ofCode? literal.code = some literal := by
  obtain ⟨⟨number, number_pos⟩, positive⟩ := literal
  obtain ⟨predecessor, rfl⟩ : ∃ predecessor, number = predecessor + 1 :=
    ⟨number - 1, by omega⟩
  cases positive <;> rfl

/-- What is read from an integer is coded by that integer again. -/
theorem code_of_ofCode? {given : Int} {literal : Literal} (read : ofCode? given = some literal) :
    literal.code = given := by
  match given, read with
  | .ofNat (number + 1), read => cases read; rfl
  | .negSucc number, read => cases read; rfl

/-- Zero is the only integer that codes no literal. -/
theorem ofCode?_eq_none_iff {given : Int} : ofCode? given = none ↔ given = 0 := by
  match given with
  | .ofNat 0 => simp [ofCode?]
  | .ofNat (number + 1) => simp [ofCode?]; omega
  | .negSucc number => simp [ofCode?]

/-- Different literals have different codes, so literals may be compared by them. -/
theorem code_injective {first second : Literal} (equal : first.code = second.code) :
    first = second := by
  have := ofCode?_code first
  rw [equal, ofCode?_code] at this
  exact (Option.some.inj this).symm

end Literal

end Clausal
