import TapeLang.Tape.Dump
import TapeLang.Run

set_option autoImplicit false

/-!
# Sessions

A session works step by step on one tape and one pair of byte streams. It goes on after an error.
A new tape replaces the old one only if it can be made. The counters are cleared by a restart and by
every run whose text is a program.

## Main definitions

* `TapeLang.Session` — a tape layout and the state of tape, streams and counters.
* `TapeLang.Session.Step` — what can be asked of a session.
* `TapeLang.Session.step`, `TapeLang.Session.steps` — the session after one step and after many,
  with the replies.
-/

namespace TapeLang

/-- A tape layout and the state of tape, streams and counters. -/
structure Session where
  /-- The layout of the tape. -/
  layout : Layout
  /-- Tape, streams and counters. -/
  state : State

namespace Session

/-- What can be asked of a session. -/
inductive Step where
  /-- Adds one to the current cell. -/
  | increment
  /-- Takes one from the current cell. -/
  | decrement
  /-- Stores a number modulo 256 in the current cell. -/
  | set (v : Int)
  /-- Puts the pointer on a cell. -/
  | pointer (index : Nat)
  /-- Asks whether the cell at a distance is on the tape. -/
  | reaches (distance : Int)
  /-- Asks for the number of cells. -/
  | length
  /-- Asks for the cells that are not zero. -/
  | cells
  /-- Asks for the text of a window of the tape. -/
  | dump (start length : Int)
  /-- Replaces the tape. -/
  | tape (length : Int) (start : Option Int)
  /-- Clears the counters. -/
  | restart
  /-- Puts bytes behind the input. -/
  | feed (bytes : List UInt8)
  /-- Runs a text with cleared counters. -/
  | run (source : String)
  /-- Runs a text and lets the counters go on. -/
  | exec (source : String)

/-- What a step answers. -/
inductive Answer where
  | truth (b : Bool)
  | count (n : Nat)
  | cells (cells : List (Nat × UInt8))
  | text (s : String)

/-- Why a step failed. -/
inductive Failure where
  | parse (e : ParseError)
  | layout (e : LayoutError)
  | allocation (e : Tape.AllocationError)
  | run (e : RunError)

/-- What a step leaves: the session, an answer if it was asked for one, and the error if it
failed. -/
structure Result where
  /-- The session after the step. -/
  session : Session
  /-- The answer to a question. -/
  answer : Option Answer := none
  /-- The error of a step that failed. -/
  failure : Option Failure := none

/-- Why a session cannot begin. -/
inductive OpenError where
  | layout (e : LayoutError)
  | allocation (e : Tape.AllocationError)

/-- The blank tape of a length and perhaps a start, with its layout, where there is memory for
`storage` cells. -/
def makeTape (storage : Nat) (length : Int) (start : Option Int) :
    Except OpenError (Layout × Tape) :=
  match Layout.make length start with
  | .error e => .error (.layout e)
  | .ok layout =>
    match Tape.allocate storage layout with
    | .error e => .error (.allocation e)
    | .ok tape => .ok (layout, tape)

/-- The session on a blank tape. -/
def start (host : Host) (length : Int) (start : Option Int) (input : List UInt8) :
    Except OpenError Session := do
  let (layout, tape) ← makeTape host.storage length start
  return ⟨layout, { tape, input }⟩

/-- The session with another state. -/
def withState (s : Session) (state : State) : Session :=
  { s with state }

/-- The session with another byte in the current cell. -/
def store (s : Session) (v : UInt8) : Session :=
  s.withState { s.state with tape := s.state.tape.write v }

/-- What an outcome leaves of a session. -/
def ofOutcome (s : Session) (o : Outcome) : Result :=
  ⟨s.withState o.state, none, o.error.map .run⟩

/-- Parses a text and hands the program on. -/
def withProgram (host : Host) (s : Session) (source : String) (run : Program → Option Outcome) :
    Option Result :=
  match parseText host source with
  | .error e => some ⟨s, none, some (.parse e)⟩
  | .ok p => (run p).map s.ofOutcome

/-- One step of a session. There is no result if a program does not come to an end within `fuel`
steps. -/
def step (host : Host) (fuel : Nat) (s : Session) : Step → Option Result
  | .increment => some ⟨s.store (s.state.tape.current + 1), none, none⟩
  | .decrement => some ⟨s.store (s.state.tape.current - 1), none, none⟩
  | .set v => some ⟨s.store (UInt8.ofNat (v % 256).toNat), none, none⟩
  | .pointer index =>
    let tape := (s.state.tape.moveTo? index).getD s.state.tape
    some ⟨s.withState { s.state with tape }, none, none⟩
  | .reaches distance => some ⟨s, some (.truth (s.state.tape.reaches distance)), none⟩
  | .length => some ⟨s, some (.count s.state.tape.length), none⟩
  | .cells => some ⟨s, some (.cells s.state.tape.nonzeroCells), none⟩
  | .dump start length => some ⟨s, some (.text (s.state.tape.dump start length)), none⟩
  | .tape length start =>
    match makeTape host.storage length start with
    | .error (.layout e) => some ⟨s, none, some (.layout e)⟩
    | .error (.allocation e) => some ⟨s, none, some (.allocation e)⟩
    | .ok (layout, tape) => some ⟨⟨layout, { s.state with tape }⟩, none, none⟩
  | .restart => some ⟨s.withState s.state.clearCounters, none, none⟩
  | .feed bytes => some ⟨s.withState { s.state with input := s.state.input ++ bytes }, none, none⟩
  | .run source => s.withProgram host source fun p => s.state.run host fuel p
  | .exec source => s.withProgram host source fun p => s.state.execute host fuel p

/-- What a step is answered with: its result and the bytes that it wrote. -/
structure Reply where
  /-- The result of the step. -/
  result : Result
  /-- The bytes written in the step. -/
  written : List UInt8

/-- The reply to one step: the bytes written in it are those behind what was written before. -/
def reply (host : Host) (fuel : Nat) (s : Session) (step : Step) : Option Reply :=
  (s.step host fuel step).map fun result =>
    ⟨result, result.session.state.output.drop s.state.output.length⟩

/-- The session after a list of steps, with the replies. -/
def steps (host : Host) (fuel : Nat) (s : Session) : List Step → Option (Session × List Reply)
  | [] => some (s, [])
  | st :: sts =>
    match s.reply host fuel st with
    | none => none
    | some r => (steps host fuel r.result.session sts).map fun (final, rs) => (final, r :: rs)

end Session

end TapeLang
