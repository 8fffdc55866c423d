import TapeLang.CommandLine.Arguments
import TapeLang.Numeral
import TapeLang.Tape.Layout

set_option autoImplicit false

/-!
# The tape that options ask for

The length is read first, then the start, then the two are put together. An empty value counts as
none.

## Main definitions

* `TapeLang.SetupError` — why options give no tape layout.
* `TapeLang.optionNumber` — the number of an option.
* `TapeLang.Options.layout` — the tape layout that options ask for.
-/

namespace TapeLang

/-- Why options give no tape layout. -/
inductive SetupError where
  /-- A value is no numeral. -/
  | numeral (e : NumeralError)
  /-- The numbers are no layout. -/
  | layout (e : LayoutError)
  deriving DecidableEq

/-- Whether the numbers of a layout can be written. -/
def Layout.isWritable (layout : Layout) : Bool :=
  TapeLang.isWritable layout.length && TapeLang.isWritable layout.start

/-- Whether the numbers that an error shows can be written. -/
def LayoutError.isWritable : LayoutError → Bool
  | lengthNotPositive length => TapeLang.isWritable length
  | startOutside start length => TapeLang.isWritable start && TapeLang.isWritable length

/-- The text of an error. One that would have to show a number with too many digits says so
instead. -/
def SetupError.message : SetupError → String
  | numeral e => e.message
  | layout e => if e.isWritable then e.message else unwritableText

/-- The number of an option, if its value is given and not empty. -/
def optionNumber (value : Option String) : Except NumeralError (Option Int) :=
  match value with
  | none => .ok none
  | some text =>
    if text.isEmpty then .ok none
    else
      match readOptionValue text with
      | .error e => .error e
      | .ok n => .ok (some n)

/-- The tape layout that options ask for. -/
def Options.layout (o : Options) : Except SetupError Layout :=
  match optionNumber o.tapeLength with
  | .error e => .error (.numeral e)
  | .ok length =>
    match optionNumber o.start with
    | .error e => .error (.numeral e)
    | .ok start =>
      match Layout.make (length.getD Layout.defaultLength) start with
      | .error e => .error (.layout e)
      | .ok layout => .ok layout

end TapeLang
