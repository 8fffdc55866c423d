import TapeLang.Tape.Layout

set_option autoImplicit false

/-!
# The tape

A tape is a finite row of byte cells with a pointer on one of them. It is kept as the cells to the
left of the pointer, nearest first, the current cell, and the cells to the right, so the pointer is
always on a cell and a move is refused exactly at an end.

## Main definitions

* `TapeLang.Tape` — a row of cells around a current cell.
* `TapeLang.Tape.cells`, `TapeLang.Tape.pointer`, `TapeLang.Tape.length` — the row from left to
  right, the index of the current cell in it, and the number of cells.
* `TapeLang.Tape.move?` — one step to a neighbour.
* `TapeLang.Tape.ofCells?` — the tape with given cells and pointer.
* `TapeLang.Tape.allocate` — the blank tape of a layout, if there is memory for it.

## Main results

* `TapeLang.Tape.pointer_lt_length` — the pointer is on a cell.
* `TapeLang.Tape.ext_cells_pointer` — cells and pointer determine a tape.
* `TapeLang.Tape.cells_write`, `TapeLang.Tape.cells_of_move?` — what writes and moves do to cells
  and pointer.
-/

namespace TapeLang

/-- The two ways a pointer moves. -/
inductive Direction where
  | left
  | right
  deriving DecidableEq

namespace Direction

/-- The word for a direction in texts. -/
def name : Direction → String
  | left => "left"
  | right => "right"

end Direction

/-- A row of byte cells with a pointer on one of them. -/
structure Tape where
  /-- The cells to the left of the pointer, the nearest one first. -/
  left : List UInt8
  /-- The cell under the pointer. -/
  current : UInt8
  /-- The cells to the right of the pointer, the nearest one first. -/
  right : List UInt8
  deriving DecidableEq

namespace Tape

/-- The cells from left to right. -/
def cells (t : Tape) : List UInt8 :=
  t.left.reverse ++ t.current :: t.right

/-- The index of the current cell. -/
def pointer (t : Tape) : Nat :=
  t.left.length

/-- The number of cells. -/
def length (t : Tape) : Nat :=
  t.left.length + 1 + t.right.length

/-- The tape with another byte in the current cell. -/
def write (t : Tape) (v : UInt8) : Tape :=
  { t with current := v }

/-- The tape with the pointer on the neighbour cell, unless the pointer is at that end. -/
def move? (t : Tape) : Direction → Option Tape
  | .left =>
    match t.left with
    | [] => none
    | c :: cs => some ⟨cs, c, t.current :: t.right⟩
  | .right =>
    match t.right with
    | [] => none
    | c :: cs => some ⟨t.current :: t.left, c, cs⟩

/-- Whether the cell at a distance from the pointer, to the right if positive, is on the tape. -/
def reaches (t : Tape) (distance : Int) : Bool :=
  decide (0 ≤ t.pointer + distance ∧ t.pointer + distance < t.length)

/-- The tape with the given cells and pointer, if the pointer is on a cell. -/
def ofCells? (cells : List UInt8) (pointer : Nat) : Option Tape :=
  match cells.drop pointer with
  | [] => none
  | c :: right => some ⟨(cells.take pointer).reverse, c, right⟩

/-- The tape with the pointer on the cell of an index, if there is one. -/
def moveTo? (t : Tape) (pointer : Nat) : Option Tape :=
  ofCells? t.cells pointer

/-- The cells that are not zero, with their indices, in ascending order. -/
def nonzeroCells (t : Tape) : List (Nat × UInt8) :=
  (t.cells.zipIdx.filter fun (v, _) => v ≠ 0).map fun (v, i) => (i, v)

/-- The blank tape of a layout. -/
def blank (c : Layout) : Tape :=
  ⟨List.replicate c.start 0, 0, List.replicate (c.length - c.start - 1) 0⟩

/-- Why a tape cannot be allocated. -/
inductive AllocationError where
  /-- The cells cannot be numbered by machine words. -/
  | unaddressable
  /-- There is not enough memory for the cells. -/
  | outOfMemory
  deriving DecidableEq

/-- The text of an error. -/
def AllocationError.message : AllocationError → String
  | unaddressable => "cannot fit 'int' into an index-sized integer"
  | outOfMemory => ""

/-- The largest number that fits into a signed machine word of 64 bits. -/
def addressLimit : Nat := 0x7FFFFFFFFFFFFFFF

/-- The blank tape of a layout, if its cells can be numbered, and if they can be stored where there
is memory for `storage` cells. -/
def allocate (storage : Nat) (c : Layout) : Except AllocationError Tape :=
  if addressLimit < c.length then .error .unaddressable
  else if storage < c.length then .error .outOfMemory
  else .ok (blank c)

/-! ## The view as cells and pointer -/

@[simp] theorem length_cells (t : Tape) : t.cells.length = t.length := by
  simp [cells, length]
  omega

/-- The pointer is on a cell. -/
theorem pointer_lt_length (t : Tape) : t.pointer < t.length := by
  simp [pointer, length]
  omega

/-- The current cell is the one at the pointer. -/
theorem getElem?_cells_pointer (t : Tape) : t.cells[t.pointer]? = some t.current := by
  have h : t.pointer = t.left.reverse.length := by simp [pointer]
  rw [cells, h, List.getElem?_append_right (Nat.le_refl _)]
  simp

/-- A tape is made of its cells and its pointer. -/
@[simp] theorem ofCells?_cells (t : Tape) : ofCells? t.cells t.pointer = some t := by
  have h : t.pointer = t.left.reverse.length := by simp [pointer]
  simp [ofCells?, cells, h]

/-- Cells and pointer determine a tape. -/
theorem ext_cells_pointer {t u : Tape} (hc : t.cells = u.cells) (hp : t.pointer = u.pointer) :
    t = u := by
  have h : ofCells? t.cells t.pointer = ofCells? u.cells u.pointer := by rw [hc, hp]
  simpa using h

/-- A tape made of cells and a pointer has these cells and this pointer. -/
theorem ofCells?_eq_some_iff {cells : List UInt8} {pointer : Nat} {t : Tape} :
    ofCells? cells pointer = some t ↔ t.cells = cells ∧ t.pointer = pointer := by
  constructor
  · intro h
    unfold ofCells? at h
    split at h
    · cases h
    · next c right hd =>
      cases h
      have hlt : pointer < cells.length := by
        rcases Nat.lt_or_ge pointer cells.length with hlt | hge
        · exact hlt
        · rw [List.drop_eq_nil_of_le hge] at hd
          cases hd
      constructor
      · rw [Tape.cells, ← hd]
        simp
      · simp [Tape.pointer]
        omega
  · rintro ⟨rfl, rfl⟩
    exact ofCells?_cells t

@[simp] theorem length_write (t : Tape) (v : UInt8) : (t.write v).length = t.length := rfl

@[simp] theorem pointer_write (t : Tape) (v : UInt8) : (t.write v).pointer = t.pointer := rfl

/-- A move keeps the cells. -/
theorem cells_of_move? {t u : Tape} {d : Direction} (h : t.move? d = some u) :
    u.cells = t.cells := by
  obtain ⟨left, current, right⟩ := t
  cases d with
  | left =>
    cases left with
    | nil => cases h
    | cons c cs =>
      cases h
      simp [cells]
  | right =>
    cases right with
    | nil => cases h
    | cons c cs =>
      cases h
      simp [cells]

/-- A write changes the cell at the pointer. -/
theorem cells_write (t : Tape) (v : UInt8) : (t.write v).cells = t.cells.set t.pointer v := by
  have h : t.pointer = t.left.reverse.length := by simp [pointer]
  simp [cells, write, h]

/-- The pointer cannot move left exactly from the first cell. -/
theorem move?_left_eq_none_iff {t : Tape} : t.move? .left = none ↔ t.pointer = 0 := by
  obtain ⟨left, current, right⟩ := t
  cases left <;> simp [move?, pointer]

/-- The pointer cannot move right exactly from the last cell. -/
theorem move?_right_eq_none_iff {t : Tape} : t.move? .right = none ↔ t.pointer + 1 = t.length := by
  obtain ⟨left, current, right⟩ := t
  cases right <;> simp [move?, pointer, length]

/-- A move to the left takes one from the pointer. -/
theorem pointer_of_move?_left {t u : Tape} (h : t.move? .left = some u) :
    u.pointer + 1 = t.pointer := by
  obtain ⟨left, current, right⟩ := t
  cases left with
  | nil => cases h
  | cons c cs =>
    cases h
    rfl

/-- A move to the right adds one to the pointer. -/
theorem pointer_of_move?_right {t u : Tape} (h : t.move? .right = some u) :
    u.pointer = t.pointer + 1 := by
  obtain ⟨left, current, right⟩ := t
  cases right with
  | nil => cases h
  | cons c cs =>
    cases h
    rfl

/-- A move keeps the number of cells. -/
theorem length_of_move? {t u : Tape} {d : Direction} (h : t.move? d = some u) :
    u.length = t.length := by
  rw [← length_cells, cells_of_move? h, length_cells]

@[simp] theorem length_blank (c : Layout) : (blank c).length = c.length := by
  have := c.start_lt
  simp [blank, length]
  omega

end Tape

end TapeLang
