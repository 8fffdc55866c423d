import TapeLang.Proofs.Lockstep

set_option autoImplicit false

/-!
# Left and right

The two ends of the tape are treated alike. If all moves of a tree are turned around, the tree does
on the reversed tape what it did before, seen in a mirror: it comes to an end exactly if it did,
with the same streams and counters, and where it fails it fails at the same node, with the
directions exchanged and the pointer counted from the other end.

## Main definitions

* `TapeLang.Direction.opposite`, `TapeLang.Command.mirrored` — the other direction, and a command
  with its move turned around.
* `TapeLang.mirrored`, `TapeLang.Program.mirrored` — the same for trees and programs.
* `TapeLang.Tape.mirrored`, `TapeLang.RunError.mirrored` — a tape and an error seen from the other
  side.
* `TapeLang.State.Mirrors` — a state shows the tape of another one reversed.

## Main results

* `TapeLang.State.mirrors_iff` — the state that shows the reversed tape is the mirrored one.
* `TapeLang.State.perform_mirrored` — a command and its mirror image do the same.
* `TapeLang.runs_mirrored_iff` — a run and its mirror image.
* `TapeLang.run_mirrored` — the two ends of the tape are treated alike.
-/

namespace TapeLang

/-- The other direction. -/
def Direction.opposite : Direction → Direction
  | left => right
  | right => left

/-- The command with its move turned around, if it is one. -/
def Command.mirrored : Command → Command
  | moveRight => moveLeft
  | moveLeft => moveRight
  | c => c

mutual

/-- The node with all moves turned around, at the same places. -/
def Node.mirrored : Node → Node
  | .command c pos => .command c.mirrored pos
  | .loop pos body => .loop pos (mirrored body)
  | .bare pos => .bare pos
  | .block pos body => .block pos (mirrored body)

/-- The nodes with all moves turned around. -/
def mirrored : List Node → List Node
  | [] => []
  | n :: ns => n.mirrored :: mirrored ns

end

/-- The program with all moves turned around. -/
def Program.mirrored (p : Program) : Program :=
  { p with body := TapeLang.mirrored p.body }

/-- The tape with its two sides exchanged. -/
def Tape.mirrored (t : Tape) : Tape :=
  ⟨t.right, t.current, t.left⟩

/-- The state with the two sides of its tape exchanged. -/
def State.mirrored (s : State) : State :=
  { s with tape := s.tape.mirrored }

/-- The error that the mirrored tree reports in place of another one. Where a move leaves the tape,
the direction is the other one and the pointer is counted from the other end. -/
def RunError.mirrored : RunError → RunError
  | offTape pos pointer d length => offTape pos (length - 1 - pointer) d.opposite length
  | inputExhausted pos ordinal => inputExhausted pos ordinal
  | nestingDepth root => nestingDepth root
  | unknownNode kind => unknownNode kind

/-- The outcome seen from the other side. -/
def Outcome.mirrored (o : Outcome) : Outcome :=
  ⟨o.state.mirrored, o.error.map RunError.mirrored⟩

/-- The state `s'` has the cells of `s` in reversed order, with the pointer on the same cell, and
agrees with `s` in all that is not the tape. -/
structure State.Mirrors (s s' : State) : Prop where
  /-- The cells are reversed. -/
  cells : s'.tape.cells = s.tape.cells.reverse
  /-- The pointer is counted from the other end. -/
  pointer : s'.tape.pointer = s.tape.length - 1 - s.tape.pointer
  /-- The same input is left. -/
  input : s'.input = s.input
  /-- The same number of reads was counted. -/
  reads : s'.reads = s.reads
  /-- The same number of writes was counted. -/
  writes : s'.writes = s.writes
  /-- The same has happened. -/
  events : s'.events = s.events

variable {host : Host} {root : Position} {room : ℕ} {nodes : List Node} {s s' : State}
  {o : Outcome}

/-! ## Trees -/

@[simp] lemma mirrored_nil : mirrored [] = [] := by
  rw [mirrored]

@[simp] lemma mirrored_cons_command (c : Command) (pos : Position) (ns : List Node) :
    mirrored (.command c pos :: ns) = .command c.mirrored pos :: mirrored ns := by
  rw [mirrored, Node.mirrored]

@[simp] lemma mirrored_cons_loop (pos : Position) (body ns : List Node) :
    mirrored (.loop pos body :: ns) = .loop pos (mirrored body) :: mirrored ns := by
  rw [mirrored, Node.mirrored]

@[simp] lemma mirrored_cons_bare (pos : Position) (ns : List Node) :
    mirrored (.bare pos :: ns) = .bare pos :: mirrored ns := by
  rw [mirrored, Node.mirrored]

@[simp] lemma mirrored_cons_block (pos : Position) (body ns : List Node) :
    mirrored (.block pos body :: ns) = .block pos (mirrored body) :: mirrored ns := by
  rw [mirrored, Node.mirrored]

@[simp] lemma Command.mirrored_mirrored (c : Command) : c.mirrored.mirrored = c := by
  cases c <;> rfl

/-- Turning all moves around twice changes nothing. -/
@[simp] lemma mirrored_mirrored (nodes : List Node) : mirrored (mirrored nodes) = nodes := by
  induction nodes using Node.list_induction with
  | nil => simp
  | command c pos rest ih => simp [ih]
  | loop pos body rest ihb ih => simp [ihb, ih]
  | bare pos rest ih => simp [ih]
  | block pos body rest ihb ih => simp [ihb, ih]

/-- The second command is the mirror image of the first, at the same position. -/
def MirrorCommand (c : Command) (pos : Position) (c' : Command) (pos' : Position) : Prop :=
  c' = c.mirrored ∧ pos' = pos

/-- A tree and its mirror image have the same shape. -/
lemma alike_mirrored (nodes : List Node) : Alike MirrorCommand nodes (mirrored nodes) := by
  induction nodes using Node.list_induction with
  | nil => exact mirrored_nil ▸ .nil
  | command c pos rest ih => exact mirrored_cons_command c pos rest ▸ .command ⟨rfl, rfl⟩ ih
  | loop pos body rest ihb ih => exact mirrored_cons_loop pos body rest ▸ .loop ihb ih
  | bare pos rest _ => exact mirrored_cons_bare pos rest ▸ .bare
  | block pos body rest _ _ => exact mirrored_cons_block pos body rest ▸ .block

/-! ## Tapes -/

namespace Tape

@[simp] lemma cells_mirrored (t : Tape) : t.mirrored.cells = t.cells.reverse := by
  simp [cells, mirrored]

@[simp] lemma length_mirrored (t : Tape) : t.mirrored.length = t.length := by
  simp only [length, mirrored]
  omega

@[simp] lemma pointer_mirrored (t : Tape) : t.mirrored.pointer = t.length - 1 - t.pointer := by
  simp only [pointer, length, mirrored]
  omega

/-- A move in a mirror is a move in the other direction. -/
lemma move?_mirrored (t : Tape) (d : Direction) :
    t.mirrored.move? d.opposite = (t.move? d).map mirrored := by
  obtain ⟨left, current, right⟩ := t
  cases d with
  | left => cases left <;> rfl
  | right => cases right <;> rfl

end Tape

namespace State

@[simp] lemma mirrored_mirrored (s : State) : s.mirrored.mirrored = s := rfl

/-- **The state that shows the reversed tape is the mirrored one.** -/
lemma mirrors_iff : Mirrors s s' ↔ s' = s.mirrored := by
  constructor
  · intro h
    have htape : s'.tape = s.tape.mirrored :=
      Tape.ext_cells_pointer (h.cells.trans (Tape.cells_mirrored _).symm)
        (h.pointer.trans (Tape.pointer_mirrored _).symm)
    have htrace : s'.trace = s.trace := List.reverse_inj.1 h.events
    obtain ⟨tape, input, reads, writes, trace⟩ := s'
    obtain rfl : tape = _ := htape
    obtain rfl : input = _ := h.input
    obtain rfl : reads = _ := h.reads
    obtain rfl : writes = _ := h.writes
    obtain rfl : trace = _ := htrace
    rfl
  · rintro rfl
    exact ⟨Tape.cells_mirrored _, Tape.pointer_mirrored _, rfl, rfl, rfl, rfl⟩

/-! ## Commands -/

/-- A move and the move in the other direction on the reversed tape do the same. -/
lemma move_mirrored (s : State) (pos : Position) (d : Direction) :
    s.mirrored.move pos d.opposite = (s.move pos d).mirrored := by
  have hmove : s.mirrored.tape.move? d.opposite = (s.tape.move? d).map Tape.mirrored :=
    s.tape.move?_mirrored d
  rw [move, move, hmove]
  cases s.tape.move? d with
  | some tape => rfl
  | none =>
    show (⟨s.mirrored, some (.offTape pos s.tape.mirrored.pointer d.opposite
      s.tape.mirrored.length)⟩ : Outcome) = _
    rw [Tape.pointer_mirrored, Tape.length_mirrored]
    rfl

/-- A move and the move in the other direction on the reversed tape take the same calls. -/
lemma moveCalls_mirrored (s : State) (d : Direction) :
    s.mirrored.moveCalls d.opposite = (s.moveCalls d).map (Prod.map id State.mirrored) := by
  have hmove : s.mirrored.tape.move? d.opposite = (s.tape.move? d).map Tape.mirrored :=
    s.tape.move?_mirrored d
  rw [moveCalls, moveCalls, hmove]
  cases s.tape.move? d <;> rfl

/-- **A command and its mirror image do the same**, seen from the two sides, by the same calls. -/
lemma perform_mirrored (s : State) (host : Host) (c : Command) (pos : Position) :
    s.mirrored.perform host c.mirrored pos = (s.perform host c pos).mirrored ∧
      s.mirrored.calls host c.mirrored = (s.calls host c).map (Prod.map id State.mirrored) := by
  cases c with
  | moveRight => exact ⟨s.move_mirrored pos .right, s.moveCalls_mirrored .right⟩
  | moveLeft => exact ⟨s.move_mirrored pos .left, s.moveCalls_mirrored .left⟩
  | increment | decrement | output => exact ⟨rfl, rfl⟩
  | input =>
    cases hp : host.prompt <;> cases hin : s.input <;>
      simp [perform, ask, read, calls, promptCalls, readCalls, log, hp, hin, mirrored,
        Outcome.mirrored, Command.mirrored, RunError.mirrored, Tape.write, Tape.mirrored]

end State

/-! ## Runs -/

/-- **A run and its mirror image stay together.** -/
lemma lockstep_mirrored (host : Host) (root : Position) :
    Lockstep host host root root MirrorCommand (fun s s' => s' = s.mirrored)
      (Lockstep.Counterpart RunError.mirrored fun _ => False) (fun _ _ _ _ => False) False := by
  refine .of_map (fun _ _ => False) (fun _ => Iff.rfl) (fun _ _ _ => rfl) ⟨rfl, id⟩
    (fun _ => ⟨rfl, id⟩) ?_ (fun ⟨_, _, h⟩ => h) (fun _ h => h.elim) (fun _ h => h.elim)
  rintro s c pos _ _ ⟨rfl, rfl⟩ -
  exact s.perform_mirrored host c _

/-- The mirror image of a run is a run. -/
lemma Runs.mirrored (h : Runs host root room nodes s o) :
    Runs host root room (TapeLang.mirrored nodes) s.mirrored o.mirrored := by
  rcases (lockstep_mirrored host root).exists_runs_map h (alike_mirrored nodes) with
    ⟨hruns, -⟩ | ⟨_, _, _, _, _, _, _, _, -, -, -, hfalse, -⟩ | ⟨hfalse, -⟩
  · exact hruns
  · exact hfalse.elim
  · exact hfalse.elim

/-- **A tree runs exactly if its mirror image does**, to outcomes that are mirror images.

**Proof sketch.** The mirror image of the mirror image is the tree itself, and outcomes are
unique. -/
lemma runs_mirrored_iff {o' : Outcome} :
    Runs host root room (mirrored nodes) s.mirrored o' ↔
      ∃ o, Runs host root room nodes s o ∧ o' = o.mirrored := by
  constructor
  · intro h
    have hback : Runs host root room nodes s o'.mirrored := by
      simpa using h.mirrored
    exact ⟨_, hback, h.unique hback.mirrored⟩
  · rintro ⟨o, h, rfl⟩
    exact h.mirrored

/-- **The two ends of the tape are treated alike.** With all moves turned around and on the reversed
tape, a program comes to an end exactly if it does as it is. Both then leave tapes that are each
other's reverse, and they agree in streams, counters and error, except that an error at an end of
the tape shows the other direction and the pointer as counted from the other end. -/
theorem run_mirrored (host : Host) (p : Program) (s s' : State) (hs : s.Mirrors s') :
    ((∃ o, s.RunsTo host p o) ↔ ∃ o', s'.RunsTo host p.mirrored o') ∧
      ∀ o o', s.RunsTo host p o → s'.RunsTo host p.mirrored o' →
        o.state.Mirrors o'.state ∧ o'.error = o.error.map RunError.mirrored := by
  obtain rfl := State.mirrors_iff.1 hs
  have hiff : ∀ o', s.mirrored.RunsTo host p.mirrored o' ↔
      ∃ o, s.RunsTo host p o ∧ o' = o.mirrored := by
    intro o'
    simp only [State.runsTo_iff]
    exact runs_mirrored_iff (s := s.clearCounters)
  constructor
  · constructor
    · rintro ⟨o, h⟩
      exact ⟨_, (hiff _).2 ⟨o, h, rfl⟩⟩
    · rintro ⟨o', h⟩
      obtain ⟨o, h, -⟩ := (hiff o').1 h
      exact ⟨o, h⟩
  · intro o o' h h'
    obtain ⟨o₁, h₁, rfl⟩ := (hiff o').1 h'
    obtain rfl := (State.runsTo_iff.1 h).unique (State.runsTo_iff.1 h₁)
    exact ⟨State.mirrors_iff.2 rfl, rfl⟩

/-- A program that fills the cells to its right until it leaves the tape. Its mirror image on the
reversed tape fills those to its left and leaves the tape at the other end. -/
theorem run_mirrored_filling :
    let p : Program := ⟨.start, [.command .increment ⟨1, 1⟩, .loop ⟨1, 2⟩
      [.command .moveRight ⟨1, 3⟩, .command .increment ⟨1, 4⟩, .command .output ⟨1, 5⟩]]⟩
    let s : State := { tape := ⟨[9], 4, [6]⟩ }
    let s' : State := { tape := ⟨[6], 4, [9]⟩ }
    let o : Outcome :=
      ⟨{ tape := ⟨[5, 9], 7, []⟩, writes := 1, trace := [.flush, .write [7]] },
        some (.offTape ⟨1, 3⟩ 2 .right 3)⟩
    let o' : Outcome :=
      ⟨{ tape := ⟨[], 7, [5, 9]⟩, writes := 1, trace := [.flush, .write [7]] },
        some (.offTape ⟨1, 3⟩ 0 .left 3)⟩
    s.Mirrors s' ∧ s.RunsTo .usual p o ∧ s'.RunsTo .usual p.mirrored o' ∧ o.state.Mirrors o'.state ∧
      o'.error = o.error.map RunError.mirrored := by
  intro p s s' o o'
  have hs : s.Mirrors s' := ⟨rfl, rfl, rfl, rfl, rfl, rfl⟩
  have h : s.RunsTo .usual p o := ⟨9, rfl⟩
  have h' : s'.RunsTo .usual p.mirrored o' := ⟨9, rfl⟩
  exact ⟨hs, h, h', (run_mirrored .usual p s s' hs).2 o o' h h'⟩

end TapeLang
