import Clausal.Decimal.Shortest

/-!
# Decimal text

How chosen digits are laid out: positionally while the leading digit's power of ten
lies in a given range, and with an exponent outside it. A positional number always
shows a point, so a whole number ends in `.0`.
-/

namespace Clausal.Decimal

/-- The choices a text format makes about decimals. -/
structure Layout where
  /-- The least power of the leading digit that is written positionally. -/
  least : Int
  /-- The first power of the leading digit that is not. -/
  bound : Int
  /-- An exponent has at least this many digits. -/
  exponentDigits : Nat

namespace Layout

/-- Zeros in a row. -/
def zeros (count : Nat) : String := String.ofList (List.replicate count '0')

/-- Digits without an exponent, where `point` digits come before the point. -/
def positional (digits : String) (point : Int) : String :=
  if point ≤ 0 then "0." ++ zeros (-point).toNat ++ digits
  else
    let whole := point.toNat
    if digits.length ≤ whole then digits ++ zeros (whole - digits.length) ++ ".0"
    else
      let characters := digits.toList
      String.ofList (characters.take whole) ++ "." ++ String.ofList (characters.drop whole)

/-- Digits with an exponent: one digit, the others after a point, and the signed
power of the first. -/
def scientific (layout : Layout) (digits : String) (power : Int) : String :=
  let lead := String.ofList (digits.toList.take 1)
  let rest := String.ofList (digits.toList.drop 1)
  let size := toString power.natAbs
  lead ++ (if rest.isEmpty then "" else "." ++ rest) ++ "e" ++ (if power < 0 then "-" else "+")
    ++ zeros (layout.exponentDigits - size.length) ++ size

/-- The text of a nonnegative number. -/
def magnitude (layout : Layout) (given : Digits) : String :=
  let digits := toString given.digits
  let point := if given.digits = 0 then 1 else (digits.length : Int) + given.power
  let power := point - 1
  if layout.least ≤ power ∧ power < layout.bound then positional digits point
  else layout.scientific digits power

/-- The text of a double. The sign is written for negative zero too. -/
def write (layout : Layout) (given : Float) : String :=
  let sign (negative : Bool) := if negative then "-" else ""
  match Parts.ofFloat given with
  | .undefined => "nan"
  | .infinite negative => sign negative ++ "inf"
  | .finite negative significand exponent narrow =>
    sign negative ++ layout.magnitude (shortest significand exponent narrow)

end Layout

end Clausal.Decimal
