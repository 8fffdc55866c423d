import TapeLang.CommandLine.Report

set_option autoImplicit false

/-!
# The program

Reads the program file and the standard input, and writes what the report of the command line says.

## Main definitions

* `main` — the entry point.
-/

namespace TapeLang

/-- How the arguments are read. -/
def argumentRules : ArgumentRules :=
  { dashesAreNone := false, strictLetters := true }

/-- More steps than a run can take in a lifetime. -/
def lifetimeFuel : Nat := 1000000000000000000

/-- What a name in the file system stands for. -/
def lookUp (name : String) : IO (Option File) := do
  if name.contains '\x00' then
    return none
  try
    let bytes ← IO.FS.readBinFile name
    return some (.regular bytes.toList)
  catch e =>
    match e with
    | .permissionDenied .. => return some .denied
    | .inappropriateType _ code _ => return if code = 21 then some .directory else none
    | _ => return none

/-- All bytes that a stream still holds, behind those read before. -/
partial def readAll (stream : IO.FS.Stream) (before : ByteArray) : IO ByteArray := do
  let bytes ← stream.read 65536
  if bytes.isEmpty then
    return before
  readAll stream (before ++ bytes)

/-- The report of a command line in the file system and with the standard input. The input is left
alone if nothing is run. -/
def reportOf (arguments : List String) : IO (Option Report) := do
  match readArguments argumentRules arguments with
  | .error stop => return some stop.report
  | .ok o =>
    let file ← lookUp o.input
    let input ← if o.tokens || o.tree || file.isNone then pure ByteArray.empty
      else readAll (← IO.getStdin) ByteArray.empty
    let files (name : String) : Option File := if name = o.input then file else none
    return o.report .usual lifetimeFuel files input.toList

end TapeLang

/-- Runs the command line and leaves its exit code. -/
def main (arguments : List String) : IO UInt32 := do
  match ← TapeLang.reportOf arguments with
  | none => return 2
  | some report =>
    let stdout ← IO.getStdout
    stdout.write ⟨report.stdout.toArray⟩
    stdout.flush
    (← IO.getStderr).putStr report.stderr
    return UInt32.ofNat report.exit
