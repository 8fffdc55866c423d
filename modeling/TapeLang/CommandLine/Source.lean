import TapeLang.Text.Lines
import TapeLang.Text.Quoted
import TapeLang.Text.Utf8

set_option autoImplicit false

/-!
# The program file

The program file is UTF-8 text. Its three forms of line end all become line feeds before anything
else is done with it.

## Main definitions

* `TapeLang.File`, `TapeLang.Files` — what a name in the file system stands for.
* `TapeLang.SourceError` — why there is no program text.
* `TapeLang.readSource` — the text of a program file.
-/

namespace TapeLang

/-- What a name in the file system stands for. -/
inductive File where
  /-- A file with its bytes. -/
  | regular (bytes : List UInt8)
  /-- A directory. -/
  | directory
  /-- A file that may not be read. -/
  | denied
  deriving DecidableEq

/-- What the names in a file system stand for. -/
abbrev Files := String → Option File

/-- Why there is no program text. -/
inductive SourceError where
  /-- There is no file of the name. -/
  | missing (name : String)
  /-- The name is that of a directory. -/
  | directory (name : String)
  /-- The file may not be read. -/
  | denied (name : String)
  /-- The file is not UTF-8. -/
  | encoding (name : String) (fault : Utf8.Fault)
  deriving DecidableEq

/-- The text of an error. -/
def SourceError.message : SourceError → String
  | missing name => "Error: Input file does not exist: " ++ name
  | directory name =>
    "Error reading " ++ name ++ ": [Errno 21] Is a directory: " ++
      String.ofList (Quoted.encode name.toList)
  | denied name =>
    "Error reading " ++ name ++ ": [Errno 13] Permission denied: " ++
      String.ofList (Quoted.encode name.toList)
  | encoding name fault => "Error reading " ++ name ++ ": " ++ fault.message

/-- The text of a program file, with one line feed for each line end. -/
def readSource (files : Files) (name : String) : Except SourceError String :=
  match files name with
  | none => .error (.missing name)
  | some .directory => .error (.directory name)
  | some .denied => .error (.denied name)
  | some (.regular bytes) =>
    match Utf8.decode bytes with
    | .error fault => .error (.encoding name fault)
    | .ok text => .ok (String.ofList (foldLineEnds text))

end TapeLang
