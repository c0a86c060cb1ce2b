/-!
# The fewest digits that read back

A finite binary value is a sign and `significand * 2 ^ exponent`. All reals nearer
to it than to any other binary value form an interval around it, whose ends belong
to it exactly if the significand is even. The value is written with the fewest
decimal digits of any number in that interval, and among those with the number
nearest to the value; of two equally near, the even one.

Everything is exact arithmetic on natural numbers. With seventeen digits the grid
is finer than any interval, so the search over digit counts always ends in a hit.
-/

namespace Clausal.Decimal

/-- A nonnegative number as `digits * 10 ^ power`. -/
structure Digits where
  digits : Nat
  power : Int
  deriving DecidableEq

/-- A positive fraction with the ends of its interval over one denominator. -/
structure Interval where
  low : Nat
  value : Nat
  high : Nat
  denominator : Nat
  closed : Bool

namespace Interval

/-- The interval of `significand * 2 ^ exponent`. Below a power of two the next
smaller value is only half as far away, which `narrow` tells. -/
def ofBinary (significand : Nat) (exponent : Int) (narrow : Bool) : Interval :=
  let up := (exponent - 2).toNat
  { low := (4 * significand - if narrow then 1 else 2) <<< up
    value := (4 * significand) <<< up
    high := (4 * significand + 2) <<< up
    denominator := 1 <<< (2 - exponent).toNat
    closed := significand % 2 = 0 }

/-- The interval multiplied by a power of ten. -/
def scale (interval : Interval) (power : Int) : Interval :=
  let factor := Nat.pow 10 power.toNat
  { interval with
    low := interval.low * factor
    value := interval.value * factor
    high := interval.high * factor
    denominator := interval.denominator * Nat.pow 10 (-power).toNat }

/-- The whole number lies in the interval. -/
def admits (interval : Interval) (whole : Nat) : Bool :=
  let scaled := whole * interval.denominator
  if interval.closed then interval.low ≤ scaled && scaled ≤ interval.high
  else interval.low < scaled && scaled < interval.high

/-- The whole number of the interval nearest to its value, if one of the value's
two neighbours lies in it. -/
def nearest? (interval : Interval) : Option Nat :=
  let below := interval.value / interval.denominator
  let above := below + 1
  match interval.admits below, interval.admits above with
  | false, false => none
  | true, false => some below
  | false, true => some above
  | true, true =>
    let down := interval.value - below * interval.denominator
    let up := above * interval.denominator - interval.value
    if down < up || (down = up && below % 2 = 0) then some below else some above

/-- How many digits a number has before the point; for a number below one, minus
the count of zeros after it. -/
def magnitude (interval : Interval) : Int :=
  if interval.denominator ≤ interval.value then
    (Nat.toDigits 10 (interval.value / interval.denominator)).length
  else
    1 - (Nat.toDigits 10 ((interval.denominator - 1) / interval.value)).length

/-- The first hit on grids of at least `count` digits, with `fuel` grids left. -/
def search (interval : Interval) : (count fuel : Nat) → Digits
  | count, 0 => ⟨interval.value / interval.denominator, count⟩
  | count, fuel + 1 =>
    let power := interval.magnitude - count
    match (interval.scale (-power)).nearest? with
    | some digits => ⟨digits, power⟩
    | none => interval.search (count + 1) fuel

end Interval

/-- The same number with no zero at its end. -/
def Digits.trim (given : Digits) : Digits :=
  if ends : given.digits ≠ 0 ∧ given.digits % 10 = 0 then
    Digits.trim ⟨given.digits / 10, given.power + 1⟩
  else given
termination_by given.digits
decreasing_by exact Nat.div_lt_self (Nat.pos_of_ne_zero ends.1) (by decide)

/-- The digits of `significand * 2 ^ exponent`. -/
def shortest (significand : Nat) (exponent : Int) (narrow : Bool) : Digits :=
  if significand = 0 then ⟨0, 0⟩
  else ((Interval.ofBinary significand exponent narrow).search 1 17).trim

/-- The three parts of a double: a sign, and either `significand * 2 ^ exponent`
or one of the two kinds that are no number. -/
inductive Parts
  | finite (negative : Bool) (significand : Nat) (exponent : Int) (narrow : Bool)
  | infinite (negative : Bool)
  | undefined

/-- Splits a double's bits: one of sign, eleven of exponent, fifty-two of fraction. -/
def Parts.ofFloat (given : Float) : Parts :=
  let bits : Nat := given.toBits.toNat
  let negative : Bool := bits >>> 63 = 1
  let biased : Nat := (bits >>> 52) % (1 <<< 11)
  let fraction : Nat := bits % (1 <<< 52)
  if biased = 2047 then if fraction = 0 then .infinite negative else .undefined
  else if biased = 0 then .finite negative fraction (-1074) false
  else .finite negative ((1 <<< 52) + fraction) ((biased : Int) - 1075) (fraction = 0 && 1 < biased)

end Clausal.Decimal
