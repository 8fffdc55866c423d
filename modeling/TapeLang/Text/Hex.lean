set_option autoImplicit false

/-!
# Hexadecimal numbers

## Main definitions

* `TapeLang.Hex.upper`, `TapeLang.Hex.lower` — a number in hexadecimal digits, with zeros in front
  up to a least width.
-/

namespace TapeLang

namespace Hex

/-- A number in hexadecimal digits with small letters, filled up with zeros to a least width. -/
def lower (width n : Nat) : List Char :=
  let digits := Nat.toDigits 16 n
  List.replicate (width - digits.length) '0' ++ digits

/-- A number in hexadecimal digits with capital letters, filled up with zeros to a least width. -/
def upper (width n : Nat) : List Char :=
  (lower width n).map Char.toUpper

end Hex

end TapeLang
