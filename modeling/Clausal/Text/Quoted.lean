import Clausal.Text.Printable

/-!
# Quoted text

A text is shown between single quotes, or between double quotes if it holds single
quotes and no double one. The backslash, the quote in use, line feed, carriage
return and tab are escaped by name; a character that cannot be printed is escaped
by its number, in two, four or eight hexadecimal digits, whichever is the first to
hold it.
-/

namespace Clausal.Text.Quoted

/-- The single quote. -/
def single : Char := Char.ofNat 0x27

/-- The double quote. -/
def double : Char := Char.ofNat 0x22

/-- The quote in which a text is shown. -/
def quoteFor (text : List Char) : Char :=
  if text.contains single && !text.contains double then double else single

/-- A number in lower-case hexadecimal digits, filled with zeros to a width. -/
def hexadecimal (width number : Nat) : List Char :=
  let digits := Nat.toDigits 16 number
  List.replicate (width - digits.length) '0' ++ digits

/-- A character by its number. -/
def escape (character : Char) : List Char :=
  let number := character.toNat
  if number < 0x100 then '\\' :: 'x' :: hexadecimal 2 number
  else if number < 0x10000 then '\\' :: 'u' :: hexadecimal 4 number
  else '\\' :: 'U' :: hexadecimal 8 number

/-- One character of a text shown between the given quotes. -/
def encodeCharacter (quote character : Char) : List Char :=
  if character = quote || character = '\\' then ['\\', character]
  else if character = '\n' then ['\\', 'n']
  else if character = '\r' then ['\\', 'r']
  else if character = '\t' then ['\\', 't']
  else if Printable.isPrintable character then [character]
  else escape character

/-- A text with its quotes. -/
def encode (text : List Char) : List Char :=
  let quote := quoteFor text
  quote :: (text.flatMap (encodeCharacter quote) ++ [quote])

end Clausal.Text.Quoted

namespace Clausal.Text

/-- The text as it is shown inside other values and in messages. -/
def quoted (text : String) : String := String.ofList (Quoted.encode text.toList)

end Clausal.Text
