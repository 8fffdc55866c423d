import Mathlib.Data.Int.Notation
import TapeLang.Proofs.Streams

set_option autoImplicit false

/-!
# The tape without its guarantees

A tape of bytes with a pointer on one of its cells cannot go wrong. The same tape can be seen as a
row of numbers with an index, where nothing keeps the numbers in a byte or the index on the row, and
where an access to a cell or the encoding of a character may fail. On what a tape looks like in this
way no access fails, and the commands do what they do to the tape.

## Main definitions

* `TapeLang.UncheckedTape` — a row of numbers with an index.
* `TapeLang.UncheckedTape.load?`, `TapeLang.UncheckedTape.put?`,
  `TapeLang.UncheckedTape.charBytes?` — accesses and encoding, which may fail.
* `TapeLang.UncheckedTape.perform?` — what a command does to a row, if it does not fail.
* `TapeLang.UncheckedTape.InOrder` — a row has a given number of cells, all of them bytes, and its
  index is on a cell.
* `TapeLang.Tape.unchecked` — a tape as a row.

## Main results

* `TapeLang.Tape.inOrder_unchecked` — a tape as a row is in order.
* `TapeLang.Tape.put?_unchecked` — storing any number modulo 256 does not fail.
* `TapeLang.State.perform?_unchecked` — no command fails on the row of a tape.
-/

namespace TapeLang

/-- A row of numbers with an index, neither of which has to be right. -/
structure UncheckedTape where
  /-- The numbers in the cells. -/
  cells : List ℤ
  /-- The index of the current cell. -/
  pointer : ℤ
  deriving DecidableEq

namespace UncheckedTape

/-- The number in the current cell. There is none if the index is not on the row, below zero
included. -/
def load? (t : UncheckedTape) : Option ℤ :=
  if 0 ≤ t.pointer then t.cells[t.pointer.toNat]? else none

/-- Stores a number in the current cell. This fails if the index is not on the row, and if the
number is not a byte. -/
def store? (t : UncheckedTape) (v : ℤ) : Option UncheckedTape :=
  if (0 ≤ t.pointer ∧ t.pointer < t.cells.length) ∧ 0 ≤ v ∧ v < 256 then
    some { t with cells := t.cells.set t.pointer.toNat v }
  else none

/-- Stores the last eight bits of a number in the current cell. -/
def put? (t : UncheckedTape) (v : ℤ) : Option UncheckedTape :=
  t.store? (v % 256)

/-- The row with its index moved by a distance, unless that is not on the row. -/
def move (t : UncheckedTape) (distance : ℤ) : UncheckedTape :=
  if 0 ≤ t.pointer + distance ∧ t.pointer + distance < t.cells.length then
    { t with pointer := t.pointer + distance }
  else t

/-- The bytes of the character with a number in UTF-8. There are none if the number is that of no
character. -/
def charBytes? (v : ℤ) : Option (List UInt8) :=
  if 0 ≤ v ∧ v.toNat.isValidChar then some (String.utf8EncodeChar (Char.ofNat v.toNat)) else none

/-- What a command does to a row: the row that it leaves and the bytes that it writes. It fails if
an access or an encoding does. -/
def perform? (t : UncheckedTape) (input : List UInt8) :
    Command → Option (UncheckedTape × List UInt8)
  | .moveRight => some (t.move 1, [])
  | .moveLeft => some (t.move (-1), [])
  | .increment => do
    let v ← t.load?
    let t' ← t.put? (v + 1)
    return (t', [])
  | .decrement => do
    let v ← t.load?
    let t' ← t.put? (v - 1)
    return (t', [])
  | .output => do
    let v ← t.load?
    let bytes ← charBytes? v
    return (t, bytes)
  | .input =>
    match input with
    | [] => some (t, [])
    | byte :: _ => do
      let t' ← t.put? byte.toNat
      return (t', [])

/-- A row has a number of cells, all of them are bytes, and the index is on a cell. -/
structure InOrder (length : ℕ) (t : UncheckedTape) : Prop where
  /-- There are as many cells as they should be. -/
  length_cells : t.cells.length = length
  /-- Every cell holds a byte. -/
  byte (v : ℤ) (hv : v ∈ t.cells) : 0 ≤ v ∧ v ≤ 255
  /-- The index is not left of the row. -/
  pointer_nonneg : 0 ≤ t.pointer
  /-- The index is not right of the row. -/
  pointer_lt : t.pointer < length

end UncheckedTape

namespace Tape

/-- A tape as a row of numbers with an index. -/
def unchecked (t : Tape) : UncheckedTape where
  cells := t.cells.map fun v => (v.toNat : ℤ)
  pointer := t.pointer

/-- **A tape as a row is in order.** -/
lemma inOrder_unchecked (t : Tape) : t.unchecked.InOrder t.length where
  length_cells := by simp [unchecked]
  byte := by
    intro v hv
    obtain ⟨c, -, rfl⟩ := List.mem_map.1 hv
    have := c.toNat_lt
    omega
  pointer_nonneg := Int.natCast_nonneg _
  pointer_lt := Int.ofNat_lt.2 t.pointer_lt_length

/-- The current cell can be loaded. -/
lemma load?_unchecked (t : Tape) : t.unchecked.load? = some (t.current.toNat : ℤ) := by
  rw [UncheckedTape.load?, if_pos t.inOrder_unchecked.pointer_nonneg]
  simp [unchecked, getElem?_cells_pointer]

/-- **Storing any number modulo 256 does not fail**, and the tape has the byte. -/
lemma put?_unchecked (t : Tape) (v : ℤ) :
    t.unchecked.put? v = some (t.write (UInt8.ofNat (v % 256).toNat)).unchecked := by
  have hindex : 0 ≤ t.unchecked.pointer ∧ t.unchecked.pointer < t.unchecked.cells.length := by
    obtain ⟨hlen, -, hnonneg, hlt⟩ := t.inOrder_unchecked
    exact ⟨hnonneg, hlen ▸ hlt⟩
  have hbyte : 0 ≤ v % 256 ∧ v % 256 < 256 := by omega
  have hval : ((UInt8.ofNat (v % 256).toNat).toNat : ℤ) = v % 256 := by
    rw [UInt8.toNat_ofNat']
    omega
  rw [UncheckedTape.put?, UncheckedTape.store?, if_pos ⟨hindex, hbyte⟩]
  simp only [unchecked, cells_write, pointer_write, List.map_set, hval, Int.toNat_natCast]

/-- A move to the right is the same on the row: at the end of the tape the index stays. -/
lemma move_unchecked_right (t : Tape) :
    t.unchecked.move 1 = ((t.move? .right).getD t).unchecked := by
  cases hm : t.move? .right with
  | none =>
    have hend := move?_right_eq_none_iff.1 hm
    rw [UncheckedTape.move, if_neg]
    · rfl
    · simp [unchecked]
      omega
  | some u =>
    have hnext := pointer_of_move?_right hm
    have hlt := u.pointer_lt_length
    rw [length_of_move? hm] at hlt
    rw [UncheckedTape.move, if_pos]
    · simp [unchecked, cells_of_move? hm, hnext]
    · simp [unchecked]
      omega

/-- A move to the left is the same on the row: at the start of the tape the index stays. -/
lemma move_unchecked_left (t : Tape) :
    t.unchecked.move (-1) = ((t.move? .left).getD t).unchecked := by
  cases hm : t.move? .left with
  | none =>
    have hend := move?_left_eq_none_iff.1 hm
    rw [UncheckedTape.move, if_neg]
    · rfl
    · simp [unchecked]
      omega
  | some u =>
    have hnext := pointer_of_move?_left hm
    have hlt := t.pointer_lt_length
    rw [UncheckedTape.move, if_pos]
    · simp [unchecked, cells_of_move? hm]
      omega
    · simp [unchecked]
      omega

end Tape

/-! ## Bytes -/

/-- Adding one to a byte is adding one to its number, in the last eight bits. -/
lemma ofNat_toNat_add_one (v : UInt8) :
    UInt8.ofNat (((v.toNat : ℤ) + 1) % 256).toNat = v + 1 := by
  apply UInt8.toNat_inj.1
  rw [UInt8.toNat_ofNat', UInt8.toNat_add]
  have := v.toNat_lt
  simp
  omega

/-- Taking one from a byte is taking one from its number, in the last eight bits. -/
lemma ofNat_toNat_sub_one (v : UInt8) :
    UInt8.ofNat (((v.toNat : ℤ) - 1) % 256).toNat = v - 1 := by
  apply UInt8.toNat_inj.1
  rw [UInt8.toNat_ofNat', UInt8.toNat_sub]
  have := v.toNat_lt
  simp
  omega

/-- The number of a byte is that of the byte. -/
lemma ofNat_toNat_emod (v : UInt8) : UInt8.ofNat ((v.toNat : ℤ) % 256).toNat = v := by
  apply UInt8.toNat_inj.1
  rw [UInt8.toNat_ofNat']
  have := v.toNat_lt
  omega

/-- Every byte is the number of a character. -/
lemma charBytes?_toNat (v : UInt8) :
    UncheckedTape.charBytes? (v.toNat : ℤ) = some (cellBytes v) := by
  have hvalid : Nat.isValidChar v.toNat := by
    have := v.toNat_lt
    exact .inl (by omega)
  rw [UncheckedTape.charBytes?, Int.toNat_natCast, if_pos ⟨Int.natCast_nonneg _, hvalid⟩]
  rfl

/-! ## Commands -/

/-- **No command fails on the row of a tape.** It leaves the row of the tape that it leaves, and it
writes what its events say. -/
lemma State.perform?_unchecked (s : State) (host : Host) (c : Command) (pos : Position) :
    s.tape.unchecked.perform? s.input c =
      some ((s.perform host c pos).state.tape.unchecked,
        Event.output (s.emitted host c)) := by
  cases c with
  | moveRight =>
    rw [UncheckedTape.perform?, Tape.move_unchecked_right, perform, move]
    cases s.tape.move? .right <;> rfl
  | moveLeft =>
    rw [UncheckedTape.perform?, Tape.move_unchecked_left, perform, move]
    cases s.tape.move? .left <;> rfl
  | increment =>
    simp only [UncheckedTape.perform?, Tape.load?_unchecked, Tape.put?_unchecked,
      Option.bind_eq_bind, Option.bind_some, ofNat_toNat_add_one]
    rfl
  | decrement =>
    simp only [UncheckedTape.perform?, Tape.load?_unchecked, Tape.put?_unchecked,
      Option.bind_eq_bind, Option.bind_some, ofNat_toNat_sub_one]
    rfl
  | output =>
    have hout : Event.output (s.emitted host .output) = cellBytes s.tape.current := by
      cases hf : host.flush <;> simp [emitted, hf, Event.output, Event.written]
    simp only [UncheckedTape.perform?, Tape.load?_unchecked, charBytes?_toNat, hout,
      Option.bind_eq_bind, Option.bind_some]
    rfl
  | input =>
    obtain ⟨ht, hi, -, -⟩ := s.ask_frame host
    have hout : Event.output (s.emitted host .input) = [] := by
      cases hp : host.prompt <;> simp [emitted, hp, Event.output, Event.written]
    rw [hout]
    cases hin : s.input with
    | nil =>
      rw [perform, read_of_input_eq_nil (hi.trans hin), ht]
      rfl
    | cons v input =>
      rw [perform, read_of_input_eq_cons (hi.trans hin), ht]
      simp only [UncheckedTape.perform?, Tape.put?_unchecked, Option.bind_eq_bind,
        Option.bind_some, ofNat_toNat_emod]
      rfl

/-- A command does fail where the index is not on the row or the cell holds no character. -/
example : UncheckedTape.perform? ⟨[7], 1⟩ [] .increment = none ∧
    UncheckedTape.perform? ⟨[-1], 0⟩ [] .output = none := by
  decide

end TapeLang
