import TapeLang.Event

set_option autoImplicit false

/-!
# The host of a run

A program runs inside of a host. The host connects the streams, and it has a call stack with room
for so many frames and memory for so many cells. A loop that is open takes a frame, and so does
whatever a run asks of its host: to test a cell, to move the pointer, to write, to build an error.
How many frames each of these takes is up to the host, and so is the room; both are parameters here.

What holds of all hosts is that 801 loops inside of each other leave room for any call, and that
1100 loops are too many.

## Main definitions

* `TapeLang.HostCall` — what a run asks of its host.
* `TapeLang.Host` — the streams, the call stack and the memory that a program finds.
* `TapeLang.Host.height` — how many nodes of a program may stand inside of one another.
* `TapeLang.Host.FlushesWrites` — there is room for a flush wherever there was for the write.
* `TapeLang.MemoryHost` — a host that keeps what is written in memory.
* `TapeLang.Host.usual`, `TapeLang.MemoryHost.usual` — a host with a stack of a thousand frames.
-/

namespace TapeLang

/-- What a run asks of its host. Each call takes frames of the call stack until it is done. -/
inductive HostCall where
  /-- Tests whether the current cell is zero. -/
  | test
  /-- Moves the pointer, if there is a neighbour cell. -/
  | move
  /-- Builds the error of a move off the tape. -/
  | offTape
  /-- Adds one to the current cell, or takes one from it. -/
  | adjust
  /-- Writes the character of the current cell. -/
  | write
  /-- Flushes the output, if it can be flushed. -/
  | flush
  /-- Shows a prompt. -/
  | prompt
  /-- Flushes the prompt. -/
  | promptFlush
  /-- Reads a byte. -/
  | read
  /-- Builds the error of a read that found no byte. -/
  | exhausted
  /-- Stores a byte that was read. -/
  | store
  /-- Builds the error of a node without a meaning. -/
  | unknown
  deriving DecidableEq

/-- What a program finds where it runs. -/
structure Host where
  /-- There is a stream for prompts. -/
  prompt : Bool
  /-- The output can be flushed. -/
  flush : Bool
  /-- The frames for which there is room above those of the outermost list of nodes. -/
  room : Nat
  /-- The frames that a call takes, with those of all calls inside of it. Streams have buffers, so
  it may depend on the events before, the latest first, and on the bytes that are left to read. -/
  frames : HostCall → List Event → List UInt8 → Nat
  /-- The frames for which there is room above those of the outermost list of operations. -/
  parseRoom : Nat
  /-- The frames that building a node takes. -/
  buildFrames : Nat
  /-- The largest number of cells for which there is memory. -/
  storage : Nat
  /-- A test takes a frame. -/
  frames_test_pos : ∀ trace input, 0 < frames .test trace input
  /-- A run inside of 801 loops has room for every call. -/
  frames_le_room : ∀ call trace input, 802 + frames call trace input ≤ room
  /-- There is no room for 1100 loops inside of each other. -/
  room_lt : room < 1100
  /-- Building a node takes a frame. -/
  buildFrames_pos : 0 < buildFrames
  /-- Inside of 801 loops a node can be built. -/
  buildFrames_le_parseRoom : 801 + buildFrames ≤ parseRoom
  /-- There is no room for parsing 1100 loops inside of each other. -/
  parseRoom_lt : parseRoom < 1100

namespace Host

/-- How many nodes of a program may stand inside of one another. A node inside of `k` loops is built
`k` frames above the outermost list of operations. -/
def height (host : Host) : Nat :=
  host.parseRoom + 1 - host.buildFrames

/-- The host with other optional streams. -/
def withStreams (host : Host) (prompt flush : Bool) : Host :=
  { host with prompt, flush }

/-- Loops that nest 801 deep can be parsed, with commands in the innermost, and 1100 cannot. -/
theorem height_bounds (host : Host) : 802 ≤ host.height ∧ host.height < 1100 := by
  have hpos := host.buildFrames_pos
  have hle := host.buildFrames_le_parseRoom
  have hlt := host.parseRoom_lt
  unfold height
  omega

end Host

/-- The host has room for a flush wherever it had room for the write in front of it. -/
def Host.FlushesWrites (host : Host) : Prop :=
  ∀ bytes trace input,
    host.frames .flush (.write bytes :: trace) input ≤ host.frames .write trace input

/-- A host that keeps what is written in memory: to flush it takes no more frames than to write. -/
structure MemoryHost extends Host where
  /-- Where there was room for a write there is room for the flush behind it. -/
  flushesWrites : toHost.FlushesWrites

instance : Coe MemoryHost Host :=
  ⟨MemoryHost.toHost⟩

/-- The frames that calls take in a usual host. -/
def HostCall.usualFrames : HostCall → Nat
  | test => 1
  | move => 3
  | offTape => 5
  | adjust => 1
  | write => 2
  | flush => 2
  | prompt => 2
  | promptFlush => 2
  | read => 1
  | exhausted => 5
  | store => 2
  | unknown => 1

/-- A host whose call stack has a thousand frames, a few of them taken. There are no prompts, and
the output can be flushed. -/
def Host.usual : Host where
  prompt := false
  flush := true
  room := 997
  frames call _ _ := call.usualFrames
  parseRoom := 996
  buildFrames := 1
  storage := 0x10000000000
  frames_test_pos _ _ := by decide
  frames_le_room call _ _ := by cases call <;> decide
  room_lt := by decide
  buildFrames_pos := by decide
  buildFrames_le_parseRoom := by decide
  parseRoom_lt := by decide

/-- The usual host keeps what is written in memory. -/
def MemoryHost.usual : MemoryHost :=
  { Host.usual with flushesWrites := fun _ _ _ => Nat.le_refl 2 }

end TapeLang
