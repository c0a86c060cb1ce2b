import Clausal.Datum
import Clausal.Decimal.Shortest

/-!
# Equality and order of loose values

Numbers of all forms are compared by their exact values, so one, `1.0` and the true
value are the same number and no rounding ever makes two numbers equal. Texts are
ordered by code points. Values of two different sorts are never the same and have
no order.
-/

namespace Clausal

namespace Number

/-- A number's place on the extended line: a side, which is zero for finite
numbers, and an exact value. -/
def place : Number → Int × Rat
  | truth value => (0, Rat.ofInt (if value then 1 else 0))
  | whole value => (0, Rat.ofInt value)
  | decimal value =>
    match Decimal.Parts.ofFloat value with
    | .finite negative significand exponent _ =>
      let size : Nat := significand <<< exponent.toNat
      (0, mkRat (if negative then -size else size) (1 <<< (-exponent).toNat))
    | .infinite negative => (if negative then -1 else 1, Rat.ofInt 0)
    | .undefined => (2, Rat.ofInt 0)

/-- Numbers are the same if they have the same place, whatever their forms. -/
def same (first second : Number) : Bool := first.place = second.place

/-- The first number has its place before the second. -/
def less (first second : Number) : Bool :=
  first.place.1 < second.place.1
    || (first.place.1 = second.place.1 && first.place.2 < second.place.2)

/-- The integer of the same value, if there is one. -/
def integral? (given : Number) : Option Int :=
  let (side, value) := given.place
  if side = 0 && value.den = 1 then some value.num else none

end Number

namespace Datum

mutual

/-- Two values are the same, compared part by part. -/
def same : Datum → Datum → Bool
  | null, null => true
  | number first, number second => first.same second
  | text first, text second => first = second
  | list first, list second => sameItems first second
  | record first, record second => first.length = second.length && sameEntries first second
  | _, _ => false

/-- Two lists hold the same values in the same order. -/
def sameItems : List Datum → List Datum → Bool
  | [], [] => true
  | first :: firsts, second :: seconds => first.same second && sameItems firsts seconds
  | _, _ => false

/-- Every entry of the first record has its like in the second. -/
def sameEntries : List (String × Datum) → List (String × Datum) → Bool
  | [], _ => true
  | (key, value) :: rest, others =>
    (match others.lookup key with
      | some other => value.same other
      | none => false)
      && sameEntries rest others

end

/-- Values are compared as their parts are, and numbers in them by place. -/
instance : BEq Datum := ⟨same⟩

/-- Whether the first value comes before the second, if they can be ordered. -/
def less? : Datum → Datum → Option Bool
  | number first, number second => some (first.less second)
  | text first, text second => some (first < second)
  | _, _ => none

/-- Values that stand for "none given": nothing, zero, and whatever is empty. -/
def isBlank : Datum → Bool
  | null => true
  | number value => value.same (.whole 0)
  | text value => value.isEmpty
  | list items => items.isEmpty
  | record entries => entries.isEmpty

end Datum

end Clausal
