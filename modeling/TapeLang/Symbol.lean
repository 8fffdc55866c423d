set_option autoImplicit false

/-!
# The eight symbols

A program text consists of eight symbols; every other character is a comment. Six symbols are
commands, the other two delimit loops.

## Main definitions

* `TapeLang.Command` — the six commands.
* `TapeLang.Symbol` — a command or a loop delimiter.
* `TapeLang.Symbol.char`, `TapeLang.Symbol.ofChar?` — the character of a symbol and back.

## Main results

* `TapeLang.Symbol.ofChar?_eq_some_iff` — a character is read as a symbol exactly when it is the
  character of that symbol.
-/

namespace TapeLang

/-- The commands, which act on the tape or on the two byte streams. -/
inductive Command where
  | moveRight
  | moveLeft
  | increment
  | decrement
  | output
  | input
  deriving DecidableEq

/-- The symbols of a program text: the commands and the two loop delimiters. -/
inductive Symbol where
  | command (c : Command)
  | loopBegin
  | loopEnd
  deriving DecidableEq

namespace Symbol

/-- The character that stands for a symbol in a program text. -/
def char : Symbol → Char
  | command .moveRight => '>'
  | command .moveLeft => '<'
  | command .increment => '+'
  | command .decrement => '-'
  | command .output => '.'
  | command .input => ','
  | loopBegin => '['
  | loopEnd => ']'

/-- The symbol that a character stands for, if it is not part of a comment. -/
def ofChar? (c : Char) : Option Symbol :=
  match c with
  | '>' => some (command .moveRight)
  | '<' => some (command .moveLeft)
  | '+' => some (command .increment)
  | '-' => some (command .decrement)
  | '.' => some (command .output)
  | ',' => some (command .input)
  | '[' => some loopBegin
  | ']' => some loopEnd
  | _ => none

/-- The name of a symbol in the text form of an operation. -/
def name : Symbol → String
  | command .moveRight => "MOVE_RIGHT"
  | command .moveLeft => "MOVE_LEFT"
  | command .increment => "INCREMENT"
  | command .decrement => "DECREMENT"
  | command .output => "OUTPUT"
  | command .input => "INPUT"
  | loopBegin => "LOOP_BEGIN"
  | loopEnd => "LOOP_END"

/-- The character of a symbol is read as that symbol. -/
@[simp] theorem ofChar?_char (s : Symbol) : ofChar? s.char = some s := by
  cases s with
  | command c => cases c <;> rfl
  | loopBegin => rfl
  | loopEnd => rfl

/-- A character is read as a symbol exactly when it is the character of that symbol. -/
theorem ofChar?_eq_some_iff {c : Char} {s : Symbol} : ofChar? c = some s ↔ c = s.char := by
  constructor
  · intro h
    unfold ofChar? at h
    split at h <;> cases h <;> rfl
  · rintro rfl
    exact ofChar?_char s

end Symbol

end TapeLang
