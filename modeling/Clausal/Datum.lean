import Clausal.Literal

/-!
# Loose values

Arguments arrive as loose values: nothing, numbers, texts, lists and records. The
truth values count as the numbers one and zero wherever a number is wanted, yet
keep their own kind and their own text.

A value's kind is what a message about the value names. Lists, the characters of a
text and the keys of a record can be gone through one by one; no other value can.
-/

namespace Clausal

/-- A number in one of its three forms. -/
inductive Number
  | truth (value : Bool)
  | whole (value : Int)
  | decimal (value : Float)

/-- A loose value. The entries of a record keep the order in which they came. -/
inductive Datum
  | null
  | number (value : Number)
  | text (value : String)
  | list (items : List Datum)
  | record (entries : List (String × Datum))

/-- What sort of value a message speaks about. -/
inductive Kind
  | null
  | truth
  | whole
  | decimal
  | text
  | list
  | record
  deriving DecidableEq

namespace Kind

/-- The word for the kind in messages. -/
def name : Kind → String
  | null => "NoneType"
  | truth => "bool"
  | whole => "int"
  | decimal => "float"
  | text => "str"
  | list => "list"
  | record => "dict"

end Kind

namespace Number

/-- The kind of a number tells its form, and not whether it is whole. -/
def kind : Number → Kind
  | truth _ => .truth
  | whole _ => .whole
  | decimal _ => .decimal

/-- The integer a number is by its form: decimals are never one. -/
def integer? : Number → Option Int
  | truth value => some (if value then 1 else 0)
  | whole value => some value
  | decimal _ => none

/-- The number with its sign changed. A truth value becomes a plain integer. -/
def neg : Number → Number
  | truth value => .whole (if value then -1 else 0)
  | whole value => .whole (-value)
  | decimal value => .decimal (-value)

end Number

namespace Datum

/-- A plain integer as a value. -/
def whole (value : Int) : Datum := .number (.whole value)

/-- A literal as a value, which is its code. -/
def ofLiteral (literal : Literal) : Datum := whole literal.code

/-- The kind of a value, by which it is named in messages. -/
def kind : Datum → Kind
  | null => .null
  | number value => value.kind
  | text _ => .text
  | list _ => .list
  | record _ => .record

/-- What going through the value meets, if it can be gone through. -/
def elements? : Datum → Option (List Datum)
  | text value => some (value.toList.map fun character => .text (String.singleton character))
  | list items => some items
  | record entries => some (entries.map fun entry => .text entry.1)
  | null | number _ => none

end Datum

end Clausal
