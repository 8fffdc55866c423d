import TapeLang.State
import TapeLang.Proofs.Matching

set_option autoImplicit false

/-!
# The jump machine

The jump machine executes operations one at a time. It knows no trees: a program counter says which
operation is next, and at a delimiter the machine may jump to the delimiter that matches. Its memory
holds the cells as one row with an index into it, and the bytes written and read so far.

## Main definitions

* `TapeLang.JumpMachine.Memory` — all that an operation may change.
* `TapeLang.JumpMachine.Memory.perform` — what a command does to the memory.
* `TapeLang.JumpMachine.Control` — the machine is at an operation, or it has halted.
* `TapeLang.JumpMachine.step` — one step of the machine on a list of operations.
* `TapeLang.State.memory` — the memory that holds what a state holds.

## Main results

* `TapeLang.JumpMachine.perform_memory` — a command does the same to a state and to its memory; if
  it fails the memory stays as it was.
-/

namespace TapeLang

namespace JumpMachine

/-- All that an operation may change. -/
@[ext]
structure Memory where
  /-- The cells from left to right. -/
  cells : List UInt8
  /-- The index of the current cell. -/
  pointer : ℕ
  /-- The bytes that were not read yet. -/
  input : List UInt8
  /-- The bytes written so far. -/
  output : List UInt8
  /-- The bytes read so far. -/
  consumed : List UInt8
  /-- The number of reads since the counters were cleared. -/
  reads : ℕ
  /-- The number of writes since the counters were cleared. -/
  writes : ℕ
  deriving DecidableEq

namespace Memory

/-- The byte in the current cell. -/
def current (m : Memory) : UInt8 :=
  m.cells.getD m.pointer 0

/-- The memory with another byte in the current cell. -/
def store (m : Memory) (v : UInt8) : Memory :=
  { m with cells := m.cells.set m.pointer v }

/-- What the command at a position does, unless it fails. -/
def perform (m : Memory) (c : Command) (pos : Position) : Except RunError Memory :=
  match c with
  | .moveRight =>
    if m.pointer + 1 < m.cells.length then .ok { m with pointer := m.pointer + 1 }
    else .error (.offTape pos m.pointer .right m.cells.length)
  | .moveLeft =>
    if 0 < m.pointer then .ok { m with pointer := m.pointer - 1 }
    else .error (.offTape pos m.pointer .left m.cells.length)
  | .increment => .ok (m.store (m.current + 1))
  | .decrement => .ok (m.store (m.current - 1))
  | .output => .ok { m with output := m.output ++ cellBytes m.current, writes := m.writes + 1 }
  | .input =>
    match m.input with
    | [] => .error (.inputExhausted pos m.reads)
    | v :: input =>
      .ok { m.store v with input, consumed := m.consumed ++ [v], reads := m.reads + 1 }

end Memory

/-- What the machine is about to do. -/
inductive Control where
  /-- The operation at the program counter is next. -/
  | running (pc : ℕ) (m : Memory)
  /-- The machine has halted, with an error if an operation failed. -/
  | halted (m : Memory) (error : Option RunError)
  deriving DecidableEq

/-- One step on a list of operations. Behind the last operation the machine halts, and it halts at
an operation that fails. At a loop begin with a zero cell it jumps behind the matching loop end, at
a loop end with another cell back to the matching loop begin. A delimiter that matches no other is
passed over. -/
def step (code : List Operation) : Control → Control
  | .halted m error => .halted m error
  | .running pc m =>
    match code[pc]? with
    | none => .halted m none
    | some op =>
      match op.symbol with
      | .command c =>
        match m.perform c op.position with
        | .ok m' => .running (pc + 1) m'
        | .error e => .halted m (some e)
      | .loopBegin =>
        if m.current = 0 then .running ((closing? code pc).getD pc + 1) m else .running (pc + 1) m
      | .loopEnd =>
        if m.current = 0 then .running (pc + 1) m
        else .running ((opening? code pc).getD (pc + 1)) m

end JumpMachine

/-- The memory that holds what a state holds. -/
def State.memory (s : State) : JumpMachine.Memory where
  cells := s.tape.cells
  pointer := s.tape.pointer
  input := s.input
  output := s.output
  consumed := s.consumed
  reads := s.reads
  writes := s.writes

namespace JumpMachine

variable {s : State} {host : Host} {c : Command} {pos : Position} {e : RunError}

/-! ## Commands -/

/-- The current cell is the same in the memory. -/
@[simp] lemma current_memory (s : State) : s.memory.current = s.tape.current := by
  rw [Memory.current, List.getD_eq_getElem?_getD]
  simp only [State.memory, Tape.getElem?_cells_pointer, Option.getD_some]

/-- A write on the tape stores a byte in the memory. -/
lemma memory_write (s : State) (v : UInt8) :
    { s with tape := s.tape.write v }.memory = s.memory.store v :=
  Memory.ext (Tape.cells_write s.tape v) rfl rfl rfl rfl rfl rfl

/-- A move changes only the pointer of the memory. -/
lemma memory_move {t : Tape} {d : Direction} (h : s.tape.move? d = some t) :
    { s with tape := t }.memory = { s.memory with pointer := t.pointer } :=
  Memory.ext (Tape.cells_of_move? h) rfl rfl rfl rfl rfl rfl

/-- Moving right is the same on the tape and in the memory. -/
lemma perform_memory_moveRight (s : State) (pos : Position) :
    s.memory.perform .moveRight pos = match (s.move pos .right).error with
      | none => .ok (s.move pos .right).state.memory
      | some e => .error e := by
  have hlen : s.memory.cells.length = s.tape.length := Tape.length_cells s.tape
  have hptr : s.memory.pointer = s.tape.pointer := rfl
  simp only [Memory.perform, State.move, hlen, hptr]
  cases h : s.tape.move? .right with
  | none =>
    have hend := Tape.move?_right_eq_none_iff.1 h
    simp only [if_neg (show ¬s.tape.pointer + 1 < s.tape.length by omega)]
  | some t =>
    have hnext := Tape.pointer_of_move?_right h
    have hlt := t.pointer_lt_length
    rw [Tape.length_of_move? h, hnext] at hlt
    simp only [if_pos hlt, memory_move h, hnext]

/-- Moving left is the same on the tape and in the memory. -/
lemma perform_memory_moveLeft (s : State) (pos : Position) :
    s.memory.perform .moveLeft pos = match (s.move pos .left).error with
      | none => .ok (s.move pos .left).state.memory
      | some e => .error e := by
  have hlen : s.memory.cells.length = s.tape.length := Tape.length_cells s.tape
  have hptr : s.memory.pointer = s.tape.pointer := rfl
  simp only [Memory.perform, State.move, hlen, hptr]
  cases h : s.tape.move? .left with
  | none =>
    have hend := Tape.move?_left_eq_none_iff.1 h
    simp only [if_neg (show ¬0 < s.tape.pointer by omega)]
  | some t =>
    have hnext := Tape.pointer_of_move?_left h
    simp only [if_pos (show 0 < s.tape.pointer by omega), memory_move h]
    rw [show s.tape.pointer - 1 = t.pointer by omega]

/-- Reading is the same on the streams and in the memory. -/
lemma perform_memory_input (s : State) (host : Host) (pos : Position) :
    s.memory.perform .input pos = match ((s.ask host).read pos).error with
      | none => .ok ((s.ask host).read pos).state.memory
      | some e => .error e := by
  obtain ⟨ht, hi, hr, hw⟩ := s.ask_frame host
  have hin : s.memory.input = s.input := rfl
  cases h : s.input with
  | nil =>
    rw [State.read_of_input_eq_nil (hi.trans h), hr]
    simp only [Memory.perform, hin, h]
    rfl
  | cons v input =>
    rw [State.read_of_input_eq_cons (hi.trans h), ht, hr, hw]
    simp only [Memory.perform, hin, h]
    refine congrArg Except.ok (Memory.ext (Tape.cells_write s.tape v).symm rfl rfl ?_ ?_ rfl rfl)
    · simp [State.memory, Memory.store, Event.written]
    · simp [State.memory, Event.readBytes]

/-- **A command does the same to a state and to its memory.** -/
lemma perform_memory (s : State) (host : Host) (c : Command) (pos : Position) :
    s.memory.perform c pos = match (s.perform host c pos).error with
      | none => .ok (s.perform host c pos).state.memory
      | some e => .error e := by
  cases c with
  | moveRight => exact perform_memory_moveRight s pos
  | moveLeft => exact perform_memory_moveLeft s pos
  | increment => simp only [Memory.perform, State.perform, memory_write, current_memory]
  | decrement => simp only [Memory.perform, State.perform, memory_write, current_memory]
  | output =>
    refine congrArg Except.ok (Memory.ext rfl rfl rfl ?_ (s.consumed_write host).symm rfl rfl)
    rw [current_memory]
    exact (s.output_write host).symm
  | input => exact perform_memory_input s host pos

/-- A move that fails leaves the memory as it was. -/
lemma memory_of_move_error {d : Direction} (h : (s.move pos d).error = some e) :
    (s.move pos d).state.memory = s.memory := by
  simp only [State.move] at h ⊢
  cases hm : s.tape.move? d with
  | none => rfl
  | some t =>
    rw [hm] at h
    cases h

/-- A command that fails leaves the memory as it was. -/
lemma memory_of_perform_error (h : (s.perform host c pos).error = some e) :
    (s.perform host c pos).state.memory = s.memory := by
  cases c with
  | moveRight => exact memory_of_move_error h
  | moveLeft => exact memory_of_move_error h
  | increment => cases h
  | decrement => cases h
  | output => cases h
  | input =>
    obtain ⟨ht, hi, hr, hw⟩ := s.ask_frame host
    simp only [State.perform] at h ⊢
    cases hin : s.input with
    | nil =>
      rw [State.read_of_input_eq_nil (hi.trans hin), ht, hi, hr, hw]
      simp [State.memory, Event.written, Event.readBytes]
    | cons v input =>
      rw [State.read_of_input_eq_cons (hi.trans hin)] at h
      cases h

end JumpMachine

end TapeLang
