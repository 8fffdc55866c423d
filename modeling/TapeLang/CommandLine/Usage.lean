set_option autoImplicit false

/-!
# Usage and help

## Main definitions

* `TapeLang.usageText`, `TapeLang.helpText`, `TapeLang.versionText` — what the command line says
  about itself.
-/

namespace TapeLang

/-- Lines, each with its line end. -/
def unlines (lines : List String) : String :=
  String.join (lines.map (· ++ "\n"))

/-- How the command line is to be written. -/
def usageText : String := unlines [
  "usage: bfi [-h] [--tape-length TAPE_LENGTH] [--start START] [--prompt]",
  "           [--verbose] [--quiet] [--tokens] [--ast] [--version]",
  "           input"]

/-- The usage and what each argument means. -/
def helpText : String := usageText ++ unlines [
  "",
  "Interpreter for the eight-symbol tape language",
  "",
  "positional arguments:",
  "  input                 Program source file",
  "",
  "options:",
  "  -h, --help            show this help message and exit",
  "  --tape-length TAPE_LENGTH",
  "                        Number of tape cells (default: 1024)",
  "  --start START         Initial data pointer offset (default: tape length / 2)",
  "  --prompt              Print 'Input N:' on stderr before each read",
  "  --verbose, -v         Increase log verbosity (-v, -vv)",
  "  --quiet, -q           Only log errors",
  "  --tokens              Dump operation stream and exit (debug)",
  "  --ast                 Dump instruction tree and exit (debug)",
  "  --version             show program's version number and exit"]

/-- The name and the version of the program. -/
def versionText : String :=
  "bfi 0.1.0\n"

end TapeLang
