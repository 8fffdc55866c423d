import TapeLang.CommandLine.Log
import TapeLang.CommandLine.Setup
import TapeLang.CommandLine.Source
import TapeLang.CommandLine.Usage
import TapeLang.Node.Outline
import TapeLang.Run
import TapeLang.Tape.Dump

set_option autoImplicit false

/-!
# The command line

A command line names a program file. The file is read, the tape is laid out, and the program is
listed or run. What can fail fails in this order: the arguments, the file, its encoding, the layout
of the tape, the program, the allocation of the tape, the run.

## Main definitions

* `TapeLang.Report` — what a command line leaves: an exit code and two output streams.
* `TapeLang.Options.info`, `TapeLang.Options.debug` — records of what happens, for those who ask.
* `TapeLang.Options.openingLog` — what is logged before the program is looked at.
* `TapeLang.Options.reportSource` — the report of a program text.
* `TapeLang.commandLine` — the report of a command line.
-/

namespace TapeLang

/-- What a command line leaves. -/
structure Report where
  /-- The exit code. -/
  exit : Nat
  /-- The bytes of the standard output. -/
  stdout : List UInt8
  /-- The text of the standard error stream. -/
  stderr : String
  deriving DecidableEq

/-- The report of a failure before anything was written. -/
def Report.failed (exit : Nat) (stderr : String) : Report :=
  ⟨exit, [], stderr⟩

namespace Options

/-! ## Records -/

/-- Whether records are shown that have to be asked for a number of times. -/
def shows (o : Options) (times : Nat) : Bool :=
  !o.quiet && times ≤ o.verbosity

/-- A record of the course of events, shown if it was asked for once. -/
def info (o : Options) (text : String) : String :=
  if o.shows 1 then "INFO: " ++ text ++ "\n" else ""

/-- A record of the details, shown if it was asked for twice. -/
def debug (o : Options) (text : String) : String :=
  if o.shows 2 then "DEBUG: " ++ text ++ "\n" else ""

/-- A log with an error behind it that the program does not account for, and with its trace if
records were asked for. -/
def internalError (o : Options) (log : Log) (message : String) : Log :=
  let log := log.write ("Internal interpreter error: " ++ message ++ "\n")
  if o.verbosity = 0 then log else log.trace

/-- The record about the file. -/
def sourceRecord (o : Options) (source : String) : String :=
  o.info ("Program: " ++ o.input ++ " (" ++ toString source.length ++ " characters)")

/-- The record about the layout of the tape. -/
def layoutRecord (o : Options) (layout : Layout) : String :=
  o.info ("Tape:    " ++ toString layout.length ++ " cells, pointer at " ++ toString layout.start)

/-- The log of the file and the layout of the tape. A layout whose numbers cannot be written leaves
the trace of this error in place of its record. -/
def openingLog (o : Options) (source : String) (layout : Layout) : Log :=
  let log := Log.empty.write (o.sourceRecord source)
  if o.shows 1 && !layout.isWritable then (log.write "--- Logging error ---\n").trace
  else log.write (o.layoutRecord layout)

/-- The record about the operations. -/
def operationsRecord (o : Options) (source : String) (ops : List Operation) : String :=
  o.debug ("Tokenized " ++ toString source.length ++ " characters into " ++ toString ops.length ++
    " operations")

/-- The record about the program. -/
def programRecord (o : Options) (ops : List Operation) (p : Program) : String :=
  o.debug ("Parsed " ++ toString ops.length ++ " operations into " ++ toString (nodeCount p.body) ++
    " nodes (max loop depth " ++ toString (nesting p.body) ++ ")")

/-- The record about the tape before the run. -/
def tapeRecord (o : Options) (layout : Layout) : String :=
  o.debug ("Allocated tape: " ++ toString layout.length ++ " cells, pointer at " ++
    toString layout.start)

/-- The text of a finished run: its counters and where the pointer is. -/
def finishedText (s : State) : String :=
  "Run finished: " ++ toString s.writes ++ " bytes out, " ++ toString s.reads ++
    " bytes in, pointer at " ++ toString s.tape.pointer

/-- The part of the tape that is shown at the end: up to eight cells to the left of the pointer come
first. -/
def exitDump (t : Tape) : String :=
  t.dump (max ((t.pointer : Int) - 8) 0) Tape.dumpLength

/-- The records after a run. -/
def closingRecords (o : Options) (s : State) : String :=
  o.debug (finishedText s) ++ o.info ("Done: pointer at " ++ toString s.tape.pointer) ++
    o.debug ("Tape at exit: " ++ exitDump s.tape)

/-! ## The run -/

/-- The host as a run finds it: there are prompts if they were asked for, and the output can be
flushed. -/
def connect (o : Options) (host : Host) : Host :=
  host.withStreams o.prompt true

/-- The report of a run, whose log goes on from the log before it. -/
def reportOutcome (o : Options) (log : Log) (outcome : Outcome) : Report :=
  let log := log.write outcome.state.prompts
  match outcome.error with
  | none => ⟨0, outcome.state.output, (log.write (o.closingRecords outcome.state)).text⟩
  | some (.unknownNode kind) =>
    ⟨2, outcome.state.output, (o.internalError log (RunError.unknownNode kind).message).text⟩
  | some e =>
    ⟨1, outcome.state.output, (log.write ("Runtime error: " ++ e.message ++ "\n")).text⟩

/-- The report of a program text with a tape layout. There is none if the program does not come to
an end within `fuel` steps. -/
def reportSource (host : Host) (o : Options) (fuel : Nat) (source : String) (layout : Layout)
    (input : List UInt8) : Option Report :=
  let ops := operations source
  let log := (o.openingLog source layout).write (o.operationsRecord source ops)
  if o.tokens then
    some ⟨0, Utf8.encode (unlines (ops.map Operation.text)), log.text⟩
  else
    match parse host ops with
    | .error e => some (.failed 1 (log.write ("Parse error: " ++ e.message ++ "\n")).text)
    | .ok p =>
      let log := log.write (o.programRecord ops p)
      if o.tree then
        some ⟨0, Utf8.encode p.text, log.text⟩
      else
        match Tape.allocate host.storage layout with
        | .error e => some (.failed 2 (o.internalError log e.message).text)
        | .ok tape =>
          let start : State := { tape, input }
          (start.run (o.connect host) fuel p).map
            (o.reportOutcome (log.write (o.tapeRecord layout)))

/-- The report of what options ask for. -/
def report (host : Host) (o : Options) (fuel : Nat) (files : Files) (input : List UInt8) :
    Option Report :=
  match readSource files o.input with
  | .error e => some (.failed 1 (e.message ++ "\n"))
  | .ok source =>
    match o.layout with
    | .error e => some (.failed 1 ("Configuration error: " ++ e.message ++ "\n"))
    | .ok layout => o.reportSource host fuel source layout input

end Options

/-- The report of a command line that runs nothing. -/
def Stop.report : Stop → Report
  | help => ⟨0, Utf8.encode helpText, ""⟩
  | version => ⟨0, Utf8.encode versionText, ""⟩
  | wrong e => .failed 2 (usageText ++ "bfi: error: " ++ e.message ++ "\n")

/-- The report of a command line. There is none if the program does not come to an end within `fuel`
steps. -/
def commandLine (host : Host) (rules : ArgumentRules) (fuel : Nat) (files : Files)
    (arguments : List String) (input : List UInt8) : Option Report :=
  match readArguments rules arguments with
  | .error stop => some stop.report
  | .ok o => o.report host fuel files input

end TapeLang
