import TapeLang.Tape.Basic
import TapeLang.Text.Hex

set_option autoImplicit false

/-!
# Tape dumps

A dump shows a window of a tape: the index of its first cell, then every cell as two hexadecimal
digits between blanks, or between brackets for the current cell.

## Main definitions

* `TapeLang.Tape.window` — the cells of a window with their indices.
* `TapeLang.Tape.dump` — the text of a window.
-/

namespace TapeLang

namespace Tape

/-- The first index of a window that is asked for at `start`. -/
def windowBase (start : Int) : Nat :=
  start.toNat

/-- The cells of the window that begins at `start` and ends before `start + length`, with their
indices; what is not on the tape is left out. -/
def window (t : Tape) (start length : Int) : List (UInt8 × Nat) :=
  let stop := min (start + length) t.length
  (t.cells.zipIdx.drop (windowBase start)).take (stop.toNat - windowBase start)

/-- A cell of a dump: brackets mark the current cell. -/
def cellText (marked : Bool) (v : UInt8) : String :=
  let digits := String.ofList (Hex.upper 2 v.toNat)
  if marked then "[" ++ digits ++ "]" else " " ++ digits ++ " "

/-- The text of a window of the tape. -/
def dump (t : Tape) (start length : Int) : String :=
  String.ofList (Hex.upper 4 (windowBase start)) ++ ": " ++
    String.join ((t.window start length).map fun (v, i) => cellText (i == t.pointer) v)

/-- The number of cells that a dump shows if nothing else is asked for. -/
def dumpLength : Nat := 16

end Tape

end TapeLang
