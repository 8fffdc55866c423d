set_option autoImplicit false

/-!
# Positions in a program text

A position is a line and a column, both counted from 1, in characters. Only the line feed ends a
line. Hand-built operations and trees may carry any two integers.

## Main definitions

* `TapeLang.Position` — a line and a column.
* `TapeLang.Position.next`, `TapeLang.Position.after` — the position behind a character, and behind
  a text.
-/

namespace TapeLang

/-- A line and a column. -/
structure Position where
  /-- The line, 1 for the first. -/
  line : Int
  /-- The column, 1 for the first. -/
  col : Int
  deriving DecidableEq

namespace Position

/-- The position of the first character of a text. -/
def start : Position := ⟨1, 1⟩

/-- The position of the character that follows `c`, where `p` is the position of `c`. -/
def next (p : Position) (c : Char) : Position :=
  if c = '\n' then ⟨p.line + 1, 1⟩ else ⟨p.line, p.col + 1⟩

/-- The position behind a text that begins at `p`. -/
def after (p : Position) (text : List Char) : Position :=
  text.foldl next p

/-- The text form of a position, as in `L3:14`. -/
def text (p : Position) : String :=
  "L" ++ toString p.line ++ ":" ++ toString p.col

@[simp] theorem after_nil (p : Position) : p.after [] = p := rfl

@[simp] theorem after_cons (p : Position) (c : Char) (cs : List Char) :
    p.after (c :: cs) = (p.next c).after cs := rfl

@[simp] theorem after_append (p : Position) (xs ys : List Char) :
    p.after (xs ++ ys) = (p.after xs).after ys := by
  simp [after]

end Position

end TapeLang
