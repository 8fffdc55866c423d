import TapeLang.Text.Blank
import TapeLang.Text.DecimalDigit
import TapeLang.Text.Quoted

set_option autoImplicit false

/-!
# Numerals

Option values are integers in decimal or hexadecimal digits. A text without its blank ends is
hexadecimal if it begins with `0x` or `0X`, which then is part of the numeral, or with `$`, which is
not; else it is decimal.

A numeral may have blanks at its ends, a sign, in base sixteen a lead `0x` that one underscore may
follow, then digits with single underscores between them. Every decimal digit of Unicode counts as
a digit and every blank outside of ASCII counts as a space. A decimal numeral has a limited number
of digits, whether it is read or written.

## Main definitions

* `TapeLang.Base` — the two bases.
* `TapeLang.underscoresSeparate` — where underscores may stand.
* `TapeLang.readNumeral` — the value of a numeral in a base.
* `TapeLang.readOptionValue` — the value of a text whose first characters give the base.
* `TapeLang.decimalText?` — a number as a decimal numeral, if it has one.
-/

namespace TapeLang

/-- The bases of numerals. -/
inductive Base where
  | ten
  | sixteen
  deriving DecidableEq

/-- The number of digits of a base. -/
def Base.radix : Base → Nat
  | ten => 10
  | sixteen => 16

/-- Why a text is no numeral. -/
inductive NumeralError where
  /-- The text does not have the form of a numeral. -/
  | malformed (base : Base) (text : List Char)
  /-- The numeral has too many digits. -/
  | tooManyDigits (digits : Nat)
  deriving DecidableEq

/-- How many digits a decimal numeral may have. -/
def maxDigits : Nat := 4300

/-- How many characters of a quoted text an error shows. -/
def maxQuoted : Nat := 200

/-- The text of an error. -/
def NumeralError.message : NumeralError → String
  | malformed base text =>
    "invalid literal for int() with base " ++ toString base.radix ++ ": " ++
      String.ofList ((Quoted.encode text).take maxQuoted)
  | tooManyDigits digits =>
    "Exceeds the limit (" ++ toString maxDigits ++
      " digits) for integer string conversion: value has " ++ toString digits ++
      " digits; use sys.set_int_max_str_digits() to increase the limit"

/-- The character of ASCII that counts for a character: digits and blanks of other scripts become
digits and spaces, all else outside of ASCII a character that no numeral has. -/
def plainChar (c : Char) : Char :=
  if c.toNat < 0x80 then c
  else if isBlank c then ' '
  else
    match decimalDigit? c with
    | some d => Char.ofNat ('0'.toNat + d)
    | none => '?'

/-- The value of a digit of ASCII in a base. -/
def digitValue? (base : Base) (c : Char) : Option Nat :=
  if '0' ≤ c ∧ c ≤ '9' then some (c.toNat - '0'.toNat)
  else
    match base with
    | .ten => none
    | .sixteen =>
      if 'a' ≤ c ∧ c ≤ 'f' then some (c.toNat - 'a'.toNat + 10)
      else if 'A' ≤ c ∧ c ≤ 'F' then some (c.toNat - 'A'.toNat + 10)
      else none

/-- Whether a character may stand in the digits of a numeral. -/
def isDigitOrUnderscore (base : Base) (c : Char) : Bool :=
  c == '_' || (digitValue? base c).isSome

/-- Whether every underscore stands between two digits and there is a digit; `digitBefore` says
whether a digit stands before the text. -/
def underscoresSeparate (digitBefore : Bool) : List Char → Bool
  | [] => digitBefore
  | c :: cs =>
    if c = '_' then digitBefore && underscoresSeparate false cs else underscoresSeparate true cs

/-- The number that a list of digits stands for, the first digit being the highest. -/
def digitsValue (base : Base) (digits : List Nat) : Nat :=
  digits.foldl (fun n d => n * base.radix + d) 0

/-- Without the lead `0x` of a numeral in base sixteen, and without one underscore behind it. -/
def dropLead (base : Base) (text : List Char) : List Char :=
  match base, text with
  | .sixteen, '0' :: x :: rest =>
    if x = 'x' ∨ x = 'X' then
      match rest with
      | '_' :: rest => rest
      | _ => rest
    else text
  | _, _ => text

/-- A sign in front of a text, as whether it is negative, and the text behind it. -/
def takeSign (text : List Char) : Bool × List Char :=
  match text with
  | '-' :: rest => (true, rest)
  | '+' :: rest => (false, rest)
  | _ => (false, text)

/-- What a text of ASCII characters is as a numeral: its value, nothing, or too many digits. -/
inductive PlainNumeral where
  | value (n : Int)
  | malformed
  | tooManyDigits (digits : Nat)
  deriving DecidableEq

/-- Reads a text of ASCII characters as a numeral. Too many digits count as such even if something
else follows them. -/
def readPlain (base : Base) (text : List Char) : PlainNumeral :=
  let (negative, unsigned) := takeSign (text.dropWhile isAsciiBlank)
  let body := dropLead base unsigned
  let run := body.takeWhile (isDigitOrUnderscore base)
  let rest := body.dropWhile (isDigitOrUnderscore base)
  let digits := run.filterMap (digitValue? base)
  if !underscoresSeparate false run then .malformed
  else if base = .ten ∧ maxDigits < digits.length then .tooManyDigits digits.length
  else if !rest.all isAsciiBlank then .malformed
  else
    let n : Int := digitsValue base digits
    .value (if negative then -n else n)

/-- The value of a numeral in a base. -/
def readNumeral (base : Base) (text : List Char) : Except NumeralError Int :=
  match readPlain base (text.map plainChar) with
  | .value n => .ok n
  | .malformed => .error (.malformed base text)
  | .tooManyDigits digits => .error (.tooManyDigits digits)

/-- The value of an option: its first characters give the base. -/
def readOptionValue (text : String) : Except NumeralError Int :=
  match strip isBlank text.toList with
  | '$' :: rest => readNumeral .sixteen rest
  | '0' :: 'x' :: rest => readNumeral .sixteen ('0' :: 'x' :: rest)
  | '0' :: 'X' :: rest => readNumeral .sixteen ('0' :: 'X' :: rest)
  | stripped => readNumeral .ten stripped

/-! ## Writing -/

/-- Whether a number can be written: it has no more decimal digits than a numeral may have. -/
def isWritable (n : Int) : Bool :=
  n.natAbs < Nat.pow 10 maxDigits

/-- A number as a decimal numeral, if it can be written. -/
def decimalText? (n : Int) : Option String :=
  if isWritable n then some (toString n) else none

/-- What is said of a number that cannot be written. -/
def unwritableText : String :=
  "Exceeds the limit (" ++ toString maxDigits ++ " digits) for integer string conversion; " ++
    "use sys.set_int_max_str_digits() to increase the limit"

end TapeLang
