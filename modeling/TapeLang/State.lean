import TapeLang.Symbol
import TapeLang.Position
import TapeLang.Node.Basic
import TapeLang.Tape.Basic
import TapeLang.Host

set_option autoImplicit false

/-!
# The state of a run

A command acts on the tape, on the input that is left, on two counters and on the list of events.
What it does is given twice: as a whole, and as the calls to the host that it is made of. The first
call for which the host has no room cuts the command off, and the calls before it stay in effect.

## Main definitions

* `TapeLang.State` — everything that a command may change.
* `TapeLang.RunError` — why a run stops early.
* `TapeLang.Outcome` — the state that a run leaves, and perhaps the error that ended it.
* `TapeLang.State.perform` — what a command does.
* `TapeLang.State.nodeCalls` — the calls with which a node begins, each with the state it is made
  in.
* `TapeLang.State.cutOff?` — where a node is cut off, if it is.

## Main results

* `TapeLang.State.cutOff?_eq_none_iff` — a node is not cut off exactly if there is room for all of
  its calls.
-/

namespace TapeLang

/-- Everything that a command may change. -/
structure State where
  /-- The tape. -/
  tape : Tape
  /-- The bytes that were not read yet. -/
  input : List UInt8 := []
  /-- The number of bytes read since the counters were cleared. -/
  reads : Nat := 0
  /-- The number of cells written since the counters were cleared. -/
  writes : Nat := 0
  /-- The events so far, the latest first. -/
  trace : List Event := []
  deriving DecidableEq

/-- Why a run stops early. -/
inductive RunError where
  /-- The command at `pos` moves the pointer off the tape. -/
  | offTape (pos : Position) (pointer : Nat) (direction : Direction) (length : Nat)
  /-- The command at `pos` reads behind the end of the input, after `ordinal` reads. -/
  | inputExhausted (pos : Position) (ordinal : Nat)
  /-- There is no room for a call inside of so many loops; the position is that of the root of the
  program. -/
  | nestingDepth (root : Position)
  /-- A node of this kind has no meaning. -/
  | unknownNode (kind : Kind)
  deriving DecidableEq

namespace RunError

/-- The kind and position of the node that an error reports. -/
def node? : RunError → Option (Kind × Position)
  | offTape pos _ .left _ => some (.command .moveLeft, pos)
  | offTape pos _ .right _ => some (.command .moveRight, pos)
  | inputExhausted pos _ => some (.command .input, pos)
  | nestingDepth root => some (.block, root)
  | unknownNode _ => none

/-- The text of an error with a position. -/
def locatedMessage (pos : Position) (detail : String) : String :=
  "Runtime error at " ++ pos.text ++ ": " ++ detail

/-- The text of an error. -/
def message : RunError → String
  | offTape pos pointer direction length =>
    locatedMessage pos ("cannot move " ++ direction.name ++ " from cell " ++ toString pointer ++
      " (tape is [0, " ++ toString length ++ "))")
  | inputExhausted pos ordinal =>
    locatedMessage pos ("input exhausted at read #" ++ toString ordinal)
  | nestingDepth root => locatedMessage root "loops are nested too deeply to execute"
  | unknownNode kind => "Unknown instruction node: " ++ kind.name

end RunError

/-- The state that a run leaves, and the error that ended it, if any. -/
structure Outcome where
  /-- The state at the end. -/
  state : State
  /-- The error that ended the run. -/
  error : Option RunError := none
  deriving DecidableEq

/-- The bytes that are written for a cell: its value is the number of a character, which is encoded
in UTF-8. -/
def cellBytes (v : UInt8) : List UInt8 :=
  String.utf8EncodeChar (Char.ofNat v.toNat)

namespace State

/-- The events so far, in order. -/
def events (s : State) : List Event :=
  s.trace.reverse

/-- The bytes written so far. -/
def output (s : State) : List UInt8 :=
  Event.output s.events

/-- The bytes read so far. -/
def consumed (s : State) : List UInt8 :=
  Event.input s.events

/-- The prompts shown so far. -/
def prompts (s : State) : String :=
  Event.prompts s.events

/-- Moves the pointer to a neighbour cell. -/
def move (s : State) (pos : Position) (d : Direction) : Outcome :=
  match s.tape.move? d with
  | some tape => ⟨{ s with tape }, none⟩
  | none => ⟨s, some (.offTape pos s.tape.pointer d s.tape.length)⟩

/-- Writes the character of the current cell, then flushes the output. -/
def write (s : State) (host : Host) : State :=
  let trace := .write (cellBytes s.tape.current) :: s.trace
  { s with
    writes := s.writes + 1
    trace := if host.flush then .flush :: trace else trace }

/-- Shows the prompt for the next read. -/
def ask (s : State) (host : Host) : State :=
  if host.prompt then { s with trace := .promptFlush :: .prompt s.reads :: s.trace } else s

/-- Reads the next byte into the current cell. -/
def read (s : State) (pos : Position) : Outcome :=
  match s.input with
  | [] => ⟨{ s with trace := .read none :: s.trace }, some (.inputExhausted pos s.reads)⟩
  | v :: input =>
    ⟨{ s with
        tape := s.tape.write v
        input
        reads := s.reads + 1
        trace := .read (some v) :: s.trace }, none⟩

/-- What the command at a position does. -/
def perform (s : State) (host : Host) (c : Command) (pos : Position) : Outcome :=
  match c with
  | .moveRight => s.move pos .right
  | .moveLeft => s.move pos .left
  | .increment => ⟨{ s with tape := s.tape.write (s.tape.current + 1) }, none⟩
  | .decrement => ⟨{ s with tape := s.tape.write (s.tape.current - 1) }, none⟩
  | .output => ⟨s.write host, none⟩
  | .input => (s.ask host).read pos

/-! ## Calls -/

/-- The state after an event. -/
def log (s : State) (e : Event) : State :=
  { s with trace := e :: s.trace }

/-- The calls of a move. -/
def moveCalls (s : State) (d : Direction) : List (HostCall × State) :=
  match s.tape.move? d with
  | some _ => [(.move, s)]
  | none => [(.move, s), (.offTape, s)]

/-- The calls of a prompt. -/
def promptCalls (s : State) (host : Host) : List (HostCall × State) :=
  if host.prompt then [(.prompt, s), (.promptFlush, s.log (.prompt s.reads))] else []

/-- The calls behind the prompt of a read. A byte is counted before it is stored. -/
def readCalls (s : State) : List (HostCall × State) :=
  match s.input with
  | [] => [(.read, s), (.exhausted, s.log (.read none))]
  | v :: input =>
    [(.read, s),
      (.store, { s with input, reads := s.reads + 1, trace := .read (some v) :: s.trace })]

/-- The calls of a command. Whether the output can be flushed is found out in any case. -/
def calls (s : State) (host : Host) : Command → List (HostCall × State)
  | .moveRight => s.moveCalls .right
  | .moveLeft => s.moveCalls .left
  | .increment => [(.adjust, s)]
  | .decrement => [(.adjust, s)]
  | .output => [(.write, s), (.flush, s.log (.write (cellBytes s.tape.current)))]
  | .input => s.promptCalls host ++ (s.ask host).readCalls

/-- The calls with which a node begins: all calls of a command, the test of a loop, and the error of
a node without a meaning. Each call stands with the state in which it is made. -/
def nodeCalls (s : State) (host : Host) : Node → List (HostCall × State)
  | .command c _ => s.calls host c
  | .loop _ _ => [(.test, s)]
  | .bare _ => [(.unknown, s)]
  | .block _ _ => [(.unknown, s)]

/-- There is room for a call. -/
def fits (host : Host) (room : Nat) (call : HostCall × State) : Bool :=
  host.frames call.1 call.2.trace call.2.input ≤ room

/-- The state in which a node is cut off: that of its first call for which there is no room. -/
def cutOff? (s : State) (host : Host) (room : Nat) (n : Node) : Option State :=
  ((s.nodeCalls host n).find? fun call => !fits host room call).map Prod.snd

/-! ## What is written and read -/

/-- An event writes behind what was written before it. -/
@[simp] theorem output_mk_cons (tape : Tape) (input : List UInt8) (reads writes : Nat) (e : Event)
    (s : State) : (mk tape input reads writes (e :: s.trace)).output = s.output ++ e.written := by
  simp [output, events, Event.output]

/-- An event reads behind what was read before it. -/
@[simp] theorem consumed_mk_cons (tape : Tape) (input : List UInt8) (reads writes : Nat) (e : Event)
    (s : State) :
    (mk tape input reads writes (e :: s.trace)).consumed = s.consumed ++ e.readBytes := by
  simp [consumed, events, Event.input]

/-- A write puts the bytes of the current cell behind the output. -/
@[simp] theorem output_write (s : State) (host : Host) :
    (s.write host).output = s.output ++ cellBytes s.tape.current := by
  cases h : host.flush <;>
    simp [output, events, write, h, Event.output, Event.written]

/-- A write reads nothing. -/
@[simp] theorem consumed_write (s : State) (host : Host) :
    (s.write host).consumed = s.consumed := by
  cases h : host.flush <;>
    simp [consumed, events, write, h, Event.input, Event.readBytes]

/-- Reading behind the end of the input fails. -/
theorem read_of_input_eq_nil {s : State} (h : s.input = []) (pos : Position) :
    s.read pos =
      ⟨{ s with trace := .read none :: s.trace }, some (.inputExhausted pos s.reads)⟩ := by
  rw [read, h]

/-- Reading takes the first byte of the input. -/
theorem read_of_input_eq_cons {s : State} {v : UInt8} {input : List UInt8}
    (h : s.input = v :: input) (pos : Position) :
    s.read pos =
      ⟨{ s with
          tape := s.tape.write v
          input
          reads := s.reads + 1
          trace := .read (some v) :: s.trace }, none⟩ := by
  rw [read, h]

/-- A prompt leaves tape, input and counters alone. -/
theorem ask_frame (s : State) (host : Host) :
    (s.ask host).tape = s.tape ∧ (s.ask host).input = s.input ∧
      (s.ask host).reads = s.reads ∧ (s.ask host).writes = s.writes := by
  cases h : host.prompt <;> simp [ask, h]

/-- A command fails for one of three reasons: there is no cell to the right, there is none to the
left, or there is no byte to read. -/
theorem error_cases {s : State} {host : Host} {c : Command} {pos : Position} {e : RunError}
    (h : (s.perform host c pos).error = some e) :
    (c = .moveRight ∧ s.tape.move? .right = none ∧
        e = .offTape pos s.tape.pointer .right s.tape.length) ∨
      (c = .moveLeft ∧ s.tape.move? .left = none ∧
        e = .offTape pos s.tape.pointer .left s.tape.length) ∨
      (c = .input ∧ s.input = [] ∧ e = .inputExhausted pos s.reads) := by
  cases c with
  | moveRight =>
    simp only [perform, move] at h
    cases hm : s.tape.move? .right with
    | none =>
      simp only [hm, Option.some.injEq] at h
      exact .inl ⟨rfl, rfl, h.symm⟩
    | some t => simp [hm] at h
  | moveLeft =>
    simp only [perform, move] at h
    cases hm : s.tape.move? .left with
    | none =>
      simp only [hm, Option.some.injEq] at h
      exact .inr (.inl ⟨rfl, rfl, h.symm⟩)
    | some t => simp [hm] at h
  | increment => cases h
  | decrement => cases h
  | output => cases h
  | input =>
    obtain ⟨-, hi, hr, -⟩ := s.ask_frame host
    cases hin : s.input with
    | nil =>
      rw [perform, read_of_input_eq_nil (hi.trans hin), hr] at h
      exact .inr (.inr ⟨rfl, rfl, (Option.some.inj h).symm⟩)
    | cons v input =>
      rw [perform, read_of_input_eq_cons (hi.trans hin)] at h
      cases h

/-! ## Where a node is cut off -/

/-- The calls of a move are made before it. -/
theorem eq_of_mem_moveCalls {s t : State} {d : Direction} {call : HostCall}
    (h : (call, t) ∈ s.moveCalls d) : t = s := by
  unfold moveCalls at h
  split at h
  · simp_all
  · simp only [List.mem_cons, Prod.mk.injEq, List.not_mem_nil, or_false] at h
    exact h.elim And.right And.right

/-- The calls of a read are made before it, behind a read that finds no byte, or with the byte
counted and not yet stored. -/
theorem cases_of_mem_readCalls {s t : State} {call : HostCall} (h : (call, t) ∈ s.readCalls) :
    t = s ∨ (s.input = [] ∧ t = s.log (.read none)) ∨
      ∃ v input, s.input = v :: input ∧
        t = { s with input, reads := s.reads + 1, trace := .read (some v) :: s.trace } := by
  unfold readCalls at h
  split at h
  · next hin =>
    simp only [List.mem_cons, Prod.mk.injEq, List.not_mem_nil, or_false] at h
    exact h.imp And.right fun h => .inl ⟨hin, h.2⟩
  · next v input hin =>
    simp only [List.mem_cons, Prod.mk.injEq, List.not_mem_nil, or_false] at h
    exact h.imp And.right fun h => .inr ⟨v, input, hin, h.2⟩

/-- A node is not cut off exactly if there is room for all of its calls. -/
theorem cutOff?_eq_none_iff {s : State} {host : Host} {room : Nat} {n : Node} :
    s.cutOff? host room n = none ↔
      ∀ call ∈ s.nodeCalls host n, host.frames call.1 call.2.trace call.2.input ≤ room := by
  simp [cutOff?, fits]

/-- A node that is cut off is cut off in the state of one of its calls, for which there is no
room. -/
theorem exists_of_cutOff?_eq_some {s t : State} {host : Host} {room : Nat} {n : Node}
    (h : s.cutOff? host room n = some t) :
    ∃ call, (call, t) ∈ s.nodeCalls host n ∧ room < host.frames call t.trace t.input := by
  obtain ⟨⟨call, u⟩, hfind, rfl⟩ := Option.map_eq_some_iff.1 h
  have hroom := List.find?_some hfind
  exact ⟨call, List.mem_of_find?_eq_some hfind, by simpa [fits] using hroom⟩

/-- Where there is room for every call no node is cut off. -/
theorem cutOff?_eq_none {host : Host} {room : Nat}
    (h : ∀ call trace input, host.frames call trace input ≤ room) (s : State) (n : Node) :
    s.cutOff? host room n = none :=
  cutOff?_eq_none_iff.2 fun _ _ => h _ _ _

/-- A loop that is not cut off leaves room for its body. -/
theorem room_pos_of_cutOff?_loop {s : State} {host : Host} {room : Nat} {pos : Position}
    {body : List Node} (h : s.cutOff? host room (.loop pos body) = none) : 0 < room :=
  Nat.lt_of_lt_of_le (host.frames_test_pos s.trace s.input)
    (cutOff?_eq_none_iff.1 h (.test, s) (List.mem_singleton.2 rfl))

/-! ## Prompts -/

/-- A prompt is not part of the output. -/
@[simp] theorem output_ask (s : State) (host : Host) :
    (s.ask host).output = s.output := by
  cases h : host.prompt <;>
    simp [output, events, ask, h, Event.output, Event.written]

/-- A prompt reads nothing. -/
@[simp] theorem consumed_ask (s : State) (host : Host) :
    (s.ask host).consumed = s.consumed := by
  cases h : host.prompt <;>
    simp [consumed, events, ask, h, Event.input, Event.readBytes]

end State

end TapeLang
