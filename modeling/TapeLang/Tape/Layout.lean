set_option autoImplicit false

/-!
# Tape layouts

A layout fixes the number of cells of a tape and the cell at which the pointer starts.

## Main definitions

* `TapeLang.Layout` — a length and a start inside of it.
* `TapeLang.LayoutError` — why two numbers are no layout.
* `TapeLang.Layout.make` — the layout of a length and perhaps a start; without a start the pointer
  begins in the middle.

## Main results

* `TapeLang.Layout.make_eq_ok_iff` — which layout is made.
-/

namespace TapeLang

/-- The size of a tape and where its pointer starts. -/
structure Layout where
  /-- The number of cells. -/
  length : Nat
  /-- The cell at which the pointer starts. -/
  start : Nat
  /-- The pointer starts on a cell. -/
  start_lt : start < length

/-- Why two numbers are no layout. -/
inductive LayoutError where
  /-- A tape has at least one cell. -/
  | lengthNotPositive (length : Int)
  /-- The start is no cell of the tape. -/
  | startOutside (start length : Int)
  deriving DecidableEq

/-- The text of an error. -/
def LayoutError.message : LayoutError → String
  | lengthNotPositive length => "Tape length must be positive (got " ++ toString length ++ ")"
  | startOutside start length =>
    "Start offset " ++ toString start ++ " is outside the tape [0, " ++ toString length ++ ")"

namespace Layout

/-- The number of cells of a tape for which none is given. -/
def defaultLength : Nat := 1024

/-- The layout of a length and perhaps a start. Without a start the pointer begins in the middle,
rounded down. -/
def make (length : Int) (start : Option Int) : Except LayoutError Layout :=
  if length ≤ 0 then
    .error (.lengthNotPositive length)
  else
    let start := start.getD (length / 2)
    if h : 0 ≤ start ∧ start < length then
      .ok ⟨length.toNat, start.toNat, by omega⟩
    else
      .error (.startOutside start length)

/-- The text form of a layout. -/
def text (l : Layout) : String :=
  "TapeConfig(length=" ++ toString l.length ++ ", start=" ++ toString l.start ++ ")"

/-- A layout is made exactly from a positive length and a start inside of it. -/
theorem make_eq_ok_iff {length : Int} {start : Option Int} {l : Layout} :
    make length start = .ok l ↔
      0 < length ∧ (l.length : Int) = length ∧ (l.start : Int) = start.getD (length / 2) := by
  obtain ⟨n, s, hs⟩ := l
  unfold make
  dsimp only
  split
  · constructor
    · intro h
      cases h
    · omega
  · split
    · rw [Except.ok.injEq, Layout.mk.injEq]
      omega
    · constructor
      · intro h
        cases h
      · omega

end Layout

end TapeLang
