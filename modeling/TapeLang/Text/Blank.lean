set_option autoImplicit false

/-!
# Blanks

Two sets of characters count as blank: the white space of Unicode together with the four information
separators, and the six blanks of ASCII.

## Main definitions

* `TapeLang.isBlank` — white space of Unicode or an information separator.
* `TapeLang.isAsciiBlank` — the space, the tabs, the line feed, the form feed, the carriage return.
* `TapeLang.strip` — a text without the characters of a class at its two ends.
-/

namespace TapeLang

/-- Whether a character is white space of Unicode or one of the four information separators. -/
def isBlank (c : Char) : Bool :=
  let n := c.toNat
  (0x09 ≤ n && n ≤ 0x0D) || (0x1C ≤ n && n ≤ 0x20) || n == 0x85 || n == 0xA0 || n == 0x1680 ||
    (0x2000 ≤ n && n ≤ 0x200A) || n == 0x2028 || n == 0x2029 || n == 0x202F || n == 0x205F ||
    n == 0x3000

/-- Whether a character is one of the six blanks of ASCII. -/
def isAsciiBlank (c : Char) : Bool :=
  let n := c.toNat
  (0x09 ≤ n && n ≤ 0x0D) || n == 0x20

/-- A text without the characters of a class at its two ends. -/
def strip (p : Char → Bool) (text : List Char) : List Char :=
  ((text.dropWhile p).reverse.dropWhile p).reverse

end TapeLang
