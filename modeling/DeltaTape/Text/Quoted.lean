/-
# DeltaTape.Text.Quoted — text between quotation marks, with escapes

Quoted text stands between single quotes, or between double quotes when it holds
a single quote and no double one.  The mark itself and the backslash are escaped
by a backslash; line feed, carriage return and tab have letters; any other
character that is not printable is written by its code point in hexadecimal,
with two, four or eight digits.
-/
import DeltaTape.Text.Printable

namespace DeltaTape.Text

set_option autoImplicit false

namespace Quoted

/-- The quotation mark a text is put between. -/
def mark (text : List Char) : Char :=
  if text.contains '\'' && !text.contains '"' then '"' else '\''

/-- A number in hexadecimal, with at least `width` digits. -/
def hexadecimal (width n : Nat) : List Char :=
  let digits := Nat.toDigits 16 n
  List.replicate (width - digits.length) '0' ++ digits

/-- A character that is not printable, by its code point. -/
def codePoint (c : Char) : List Char :=
  if c.toNat < 0x100 then '\\' :: 'x' :: hexadecimal 2 c.toNat
  else if c.toNat < 0x10000 then '\\' :: 'u' :: hexadecimal 4 c.toNat
  else '\\' :: 'U' :: hexadecimal 8 c.toNat

/-- A character as it stands between two marks `quote`. -/
def escape (quote c : Char) : List Char :=
  if c = quote ∨ c = '\\' then ['\\', c]
  else if c = '\n' then ['\\', 'n']
  else if c = '\r' then ['\\', 'r']
  else if c = '\t' then ['\\', 't']
  else if isPrintable c then [c]
  else codePoint c

end Quoted

/-- A text between quotation marks. -/
def quoted (text : String) : String :=
  let quote := Quoted.mark text.toList
  String.ofList (quote :: text.toList.flatMap (Quoted.escape quote) ++ [quote])

end DeltaTape.Text
