import TapeLang.Text.Hex
import TapeLang.Text.Printable

set_option autoImplicit false

/-!
# Quoted text

A text is quoted between single quotes, or between double quotes if it has a single quote and no
double quote. The backslash, the quote itself and all that is not printable are escaped.

## Main definitions

* `TapeLang.Quoted.escape` — a character between quotes.
* `TapeLang.Quoted.encode` — a quoted text.
-/

namespace TapeLang

namespace Quoted

/-- The quote that a text is put between. -/
def quoteFor (text : List Char) : Char :=
  if text.contains '\'' && !text.contains '"' then '"' else '\''

/-- The number of a character as an escape of two, four or eight hexadecimal digits. -/
def numericEscape (n : Nat) : List Char :=
  if n < 0x100 then '\\' :: 'x' :: Hex.lower 2 n
  else if n < 0x10000 then '\\' :: 'u' :: Hex.lower 4 n
  else '\\' :: 'U' :: Hex.lower 8 n

/-- A character of a text between two quotes. -/
def escape (quote c : Char) : List Char :=
  if c = quote ∨ c = '\\' then ['\\', c]
  else if c = '\t' then ['\\', 't']
  else if c = '\n' then ['\\', 'n']
  else if c = '\r' then ['\\', 'r']
  else if isPrintable c then [c]
  else numericEscape c.toNat

/-- A text between quotes. -/
def encode (text : List Char) : List Char :=
  let quote := quoteFor text
  quote :: text.flatMap (escape quote) ++ [quote]

end Quoted

end TapeLang
