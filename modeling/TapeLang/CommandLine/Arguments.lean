import TapeLang.Text.DecimalDigit
import TapeLang.Text.Quoted

set_option autoImplicit false

/-!
# Command line arguments

There is one positional argument, the program file, and there are options, some with a value. A long
option may be shortened as long as it stays unique, its value may be attached with `=`, and options
of one letter may be joined. The argument `--` makes everything behind it positional.

Arguments are read in two passes. The first one tells options from positional arguments, and finds
short forms that fit several options. The second one goes from left to right and gives every option
its value; help and version end it at once. Readers of command lines differ in what they make of an
attached `--` and of what follows a one-letter name; the rules are a parameter.

## Main definitions

* `TapeLang.Switch` — the options, with their names.
* `TapeLang.Options` — what a command line asks for.
* `TapeLang.ArgumentRules` — the rules on which readers of command lines differ.
* `TapeLang.UsageError` — why a command line makes no sense.
* `TapeLang.classify` — the first pass.
* `TapeLang.Draft.consume` — the second pass.
* `TapeLang.readArguments` — what a command line asks for, or why nothing is run.
-/

namespace TapeLang

/-- The options of the command line. -/
inductive Switch where
  | help
  | tapeLength
  | start
  | prompt
  | verbose
  | quiet
  | tokens
  | tree
  | version
  deriving DecidableEq

namespace Switch

/-- All options, in the order in which short forms are looked up. -/
def all : List Switch :=
  [help, tapeLength, start, prompt, verbose, quiet, tokens, tree, version]

/-- The names of an option. -/
def names : Switch → List String
  | help => ["-h", "--help"]
  | tapeLength => ["--tape-length"]
  | start => ["--start"]
  | prompt => ["--prompt"]
  | verbose => ["--verbose", "-v"]
  | quiet => ["--quiet", "-q"]
  | tokens => ["--tokens"]
  | tree => ["--ast"]
  | version => ["--version"]

/-- Every name with its option. -/
def table : List (String × Switch) :=
  all.flatMap fun o => o.names.map fun name => (name, o)

/-- The option of a name. -/
def ofName? (name : List Char) : Option Switch :=
  table.lookup (String.ofList name)

/-- The names that begin with a text, with their options. -/
def completions (start : List Char) : List (String × Switch) :=
  table.filter fun (name, _) => start.isPrefixOf name.toList

/-- How errors name an option. -/
def title (o : Switch) : String :=
  String.intercalate "/" o.names

/-- Whether an option has a value. -/
def takesValue : Switch → Bool
  | tapeLength => true
  | start => true
  | _ => false

end Switch

/-- What a command line asks for. -/
structure Options where
  /-- The name of the program file. -/
  input : String
  /-- The number of cells, as text. -/
  tapeLength : Option String := none
  /-- The start of the pointer, as text. -/
  start : Option String := none
  /-- Prompts are shown before each read. -/
  prompt : Bool := false
  /-- How often more records were asked for. -/
  verbosity : Nat := 0
  /-- No records are shown. -/
  quiet : Bool := false
  /-- The operations are listed instead of run. -/
  tokens : Bool := false
  /-- The instruction tree is listed instead of run. -/
  tree : Bool := false
  deriving DecidableEq

/-- The rules on which readers of command lines differ. -/
structure ArgumentRules where
  /-- An attached value `--` stands for none. -/
  dashesAreNone : Bool
  /-- An equals sign behind a letter attaches a value, and joined letters end before one that is no
  option. Otherwise letters are joined across the sign, and one that is no option is refused. -/
  strictLetters : Bool
  deriving DecidableEq

/-- Why a command line makes no sense. -/
inductive UsageError where
  /-- A short form fits several options. -/
  | ambiguous (argument : String) (names : List String)
  /-- An option lacks its value. -/
  | missingValue (o : Switch)
  /-- An option without value has one. -/
  | unexpectedValue (o : Switch) (value : List Char)
  /-- There is no program file. -/
  | missingInput
  /-- There are arguments that mean nothing. -/
  | unrecognized (arguments : List String)
  deriving DecidableEq

/-- The text of an error. -/
def UsageError.message : UsageError → String
  | ambiguous argument names =>
    "ambiguous option: " ++ argument ++ " could match " ++ String.intercalate ", " names
  | missingValue o => "argument " ++ o.title ++ ": expected one argument"
  | unexpectedValue o value =>
    "argument " ++ o.title ++ ": ignored explicit argument " ++ String.ofList (Quoted.encode value)
  | missingInput => "the following arguments are required: input"
  | unrecognized arguments => "unrecognized arguments: " ++ String.intercalate " " arguments

/-! ## The first pass -/

/-- What an argument is. -/
inductive Item where
  /-- A positional argument or the value of the option before it. -/
  | positional (text : String)
  /-- The argument behind which all are positional. -/
  | separator
  /-- An option, by a one-letter name or not, perhaps with an attached value. The value of a letter
  is all that follows it, with an equals sign in front if there is one. -/
  | option (o : Switch) (letter : Bool) (value : Option (List Char))
  /-- Something that looks like an option. -/
  | unknown (text : String)
  deriving DecidableEq

/-- A text before and behind its first equals sign. -/
def splitAtEquals (text : List Char) : List Char × Option (List Char) :=
  match text.dropWhile (· != '=') with
  | [] => (text, none)
  | _ :: value => (text.takeWhile (· != '='), some value)

/-- Whether a character is a decimal digit. -/
def isDecimalDigit (c : Char) : Bool :=
  (decimalDigit? c).isSome

/-- Whether a text is a minus sign with a number in digits, perhaps with a point before its last
digits; a line feed may end the text. -/
def isNegativeNumber (text : List Char) : Bool :=
  match text with
  | '-' :: rest =>
    let number := if rest.getLast? = some '\n' then rest.dropLast else rest
    let whole := number.takeWhile isDecimalDigit
    match number.dropWhile isDecimalDigit with
    | [] => !whole.isEmpty
    | '.' :: fraction => !fraction.isEmpty && fraction.all isDecimalDigit
    | _ => false
  | _ => false

/-- What an argument is that begins with a minus sign but has no option's name. -/
def classifyOther (argument : String) : Item :=
  let text := argument.toList
  if isNegativeNumber text || text.contains ' ' then .positional argument else .unknown argument

/-- What an argument is, if none of those before it was the separator. -/
def classify (argument : String) : Except UsageError Item :=
  match argument.toList with
  | '-' :: second :: more =>
    let text := '-' :: second :: more
    let letter := second != '-'
    match Switch.ofName? text with
    | some o => .ok (.option o letter none)
    | none =>
      if letter then
        match Switch.ofName? ['-', second] with
        | some o => .ok (.option o true (some more))
        | none => .ok (classifyOther argument)
      else
        let (name, value) := splitAtEquals text
        match value, Switch.ofName? name with
        | some value, some o => .ok (.option o false (some value))
        | _, _ =>
          match Switch.completions name with
          | [] => .ok (classifyOther argument)
          | [(_, o)] => .ok (.option o false value)
          | several => .error (.ambiguous argument (several.map Prod.fst))
  | _ => .ok (.positional argument)

/-- What each argument is. -/
def classifyAll : List String → Except UsageError (List Item)
  | [] => .ok []
  | argument :: rest =>
    if argument = "--" then .ok (.separator :: rest.map .positional)
    else do
      let item ← classify argument
      let items ← classifyAll rest
      return item :: items

/-! ## The second pass -/

/-- Why nothing is run. -/
inductive Stop where
  /-- The help is asked for. -/
  | help
  /-- The version is asked for. -/
  | version
  /-- The command line makes no sense. -/
  | wrong (e : UsageError)
  deriving DecidableEq

/-- What is known while arguments are read. -/
structure Draft where
  /-- The program file, once it was met. -/
  input : Option String := none
  /-- What the options ask for; the program file in it is not used. -/
  options : Options := { input := "" }
  /-- The arguments that mean nothing, in order. -/
  extras : List String := []
  deriving DecidableEq

namespace Draft

/-- Adds an argument that means nothing. -/
def extra (d : Draft) (text : String) : Draft :=
  { d with extras := d.extras ++ [text] }

/-- What an option without value asks for. -/
def act (d : Draft) : Switch → Except Stop Draft
  | .help => .error .help
  | .version => .error .version
  | .prompt => .ok { d with options := { d.options with prompt := true } }
  | .verbose => .ok { d with options := { d.options with verbosity := d.options.verbosity + 1 } }
  | .quiet => .ok { d with options := { d.options with quiet := true } }
  | .tokens => .ok { d with options := { d.options with tokens := true } }
  | .tree => .ok { d with options := { d.options with tree := true } }
  | .tapeLength => .ok d
  | .start => .ok d

/-- What options without value ask for, one after another. -/
def actAll (d : Draft) : List Switch → Except Stop Draft
  | [] => .ok d
  | o :: os => do
    let d ← d.act o
    d.actAll os

/-- Gives an option its value; the last value counts. -/
def assign (d : Draft) (o : Switch) (value : Option String) : Draft :=
  match o with
  | .tapeLength => { d with options := { d.options with tapeLength := value } }
  | .start => { d with options := { d.options with start := value } }
  | _ => d

/-- The options of joined letters, where `o` is the one read last and `letters` follow it, and what
is left as an argument that means nothing. -/
def joined (rules : ArgumentRules) (o : Switch) (letters : List Char) :
    Except Stop (List Switch × Option String) :=
  match letters with
  | [] => .ok ([o], none)
  | c :: cs =>
    if rules.strictLetters && c == '=' then .error (.wrong (.unexpectedValue o cs))
    else
      match Switch.ofName? ['-', c] with
      | some next => do
        let (os, left) ← joined rules next cs
        return (o :: os, left)
      | none =>
        if rules.strictLetters && c != '-' then
          .ok ([o], some (String.ofList ('-' :: letters)))
        else .error (.wrong (.unexpectedValue o letters))

/-- The options of a one-letter name `o` and the text behind it, and what is left of that. -/
def spelled (rules : ArgumentRules) (o : Switch) (text : List Char) :
    Except Stop (List Switch × Option String) :=
  match text with
  | ['='] => .error (.wrong (.unexpectedValue o []))
  | '=' :: letters =>
    if rules.strictLetters then .error (.wrong (.unexpectedValue o letters))
    else joined rules o letters
  | letters => joined rules o letters

/-- An option with an attached value. -/
def attach (rules : ArgumentRules) (d : Draft) (o : Switch) (letter : Bool) (value : List Char) :
    Except Stop Draft :=
  if o.takesValue then
    let isNone := rules.dashesAreNone && value == ['-', '-']
    .ok (d.assign o (if isNone then none else some (String.ofList value)))
  else if letter then do
    let (os, left) ← spelled rules o value
    let d ← d.actAll os
    return left.elim d d.extra
  else
    .error (.wrong (.unexpectedValue o value))

/-- Checks at the end that there is a program file and that every argument means something. -/
def finish (d : Draft) : Except Stop Options :=
  match d.input, d.extras with
  | none, _ => .error (.wrong .missingInput)
  | some input, [] => .ok { d.options with input }
  | some _, extras => .error (.wrong (.unrecognized extras))

/-- Reads the arguments from left to right. The first positional argument that is no value is the
program file; a separator right before or behind it is dropped. -/
def consume (rules : ArgumentRules) (d : Draft) : List Item → Except Stop Options
  | [] => d.finish
  | .unknown text :: rest => (d.extra text).consume rules rest
  | .option o letter (some value) :: rest => do
    let d ← d.attach rules o letter value
    d.consume rules rest
  | .option o _ none :: .positional value :: rest =>
    if o.takesValue then (d.assign o (some value)).consume rules rest
    else do
      let d ← d.act o
      d.consume rules (.positional value :: rest)
  | .option o _ none :: rest =>
    if o.takesValue then .error (.wrong (.missingValue o))
    else do
      let d ← d.act o
      d.consume rules rest
  | .separator :: .positional text :: rest =>
    match d.input with
    | none => { d with input := some text }.consume rules rest
    | some _ => (d.extra "--").consume rules (.positional text :: rest)
  | .separator :: rest => (d.extra "--").consume rules rest
  | .positional text :: .separator :: rest =>
    match d.input with
    | none => { d with input := some text }.consume rules rest
    | some _ => (d.extra text).consume rules (.separator :: rest)
  | .positional text :: rest =>
    match d.input with
    | none => { d with input := some text }.consume rules rest
    | some _ => (d.extra text).consume rules rest

end Draft

/-- What a command line asks for, or why nothing is run. -/
def readArguments (rules : ArgumentRules) (arguments : List String) : Except Stop Options :=
  match classifyAll arguments with
  | .error e => .error (.wrong e)
  | .ok items => ({} : Draft).consume rules items

end TapeLang
