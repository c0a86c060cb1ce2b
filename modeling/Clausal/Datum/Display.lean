import Clausal.Datum
import Clausal.Decimal.Layout
import Clausal.Text.Quoted

/-!
# The text of loose values

How a value is shown inside a message. Texts are quoted, lists stand in square
brackets and records in curly ones, with commas between; numbers are written in
full, and decimals with the fewest digits that read back.
-/

namespace Clausal

namespace Number

/-- Decimals are positional from four places after the point up to sixteen before
it, and an exponent has at least two digits. -/
def layout : Decimal.Layout := ⟨-4, 16, 2⟩

/-- How a number is written, by its form. -/
def display : Number → String
  | truth value => if value then "True" else "False"
  | whole value => toString value
  | decimal value => layout.write value

end Number

namespace Datum

mutual

/-- The value as a message shows it. -/
def display : Datum → String
  | null => "None"
  | number value => value.display
  | text value => Text.quoted value
  | list items => "[" ++ ", ".intercalate (displayItems items) ++ "]"
  | record entries => "\x7b" ++ ", ".intercalate (displayEntries entries) ++ "\x7d"

/-- How the items of a list are written, in order. -/
def displayItems : List Datum → List String
  | [] => []
  | item :: rest => item.display :: displayItems rest

/-- How the entries of a record are written, each after its key. -/
def displayEntries : List (String × Datum) → List String
  | [] => []
  | (key, value) :: rest => (Text.quoted key ++ ": " ++ value.display) :: displayEntries rest

end

/-- The value on its own: a text is then shown bare. -/
def plain : Datum → String
  | text value => value
  | other => other.display

end Datum

/-- Literals as a message shows them. -/
def Literal.displayList (literals : List Literal) : String :=
  (Datum.list (literals.map Datum.ofLiteral)).display

end Clausal
