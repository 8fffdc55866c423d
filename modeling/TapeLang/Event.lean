set_option autoImplicit false

/-!
# Stream events

Running a program writes bytes, reads bytes and may prompt for input. The events of a run are all
that an observer of its streams sees, in order.

## Main definitions

* `TapeLang.Event` — one thing that happens to a stream.
* `TapeLang.Event.output`, `TapeLang.Event.input`, `TapeLang.Event.prompts` — what a list of events
  wrote, read, and showed as prompts.
-/

namespace TapeLang

/-- One thing that happens to a stream. -/
inductive Event where
  /-- Bytes are written. -/
  | write (bytes : List UInt8)
  /-- The output is flushed. -/
  | flush
  /-- The prompt for the input of a number is shown. -/
  | prompt (ordinal : Nat)
  /-- The prompt is flushed. -/
  | promptFlush
  /-- A byte is read, or none if the input is exhausted. -/
  | read (byte : Option UInt8)
  deriving DecidableEq

namespace Event

/-- The bytes that an event writes. -/
def written : Event → List UInt8
  | write bytes => bytes
  | _ => []

/-- The bytes that an event reads. -/
def readBytes : Event → List UInt8
  | read (some byte) => [byte]
  | _ => []

/-- The text that an event shows as a prompt. -/
def promptText : Event → String
  | prompt ordinal => "Input " ++ toString ordinal ++ ":\n"
  | _ => ""

/-- The bytes that events write, in order. -/
def output (events : List Event) : List UInt8 :=
  events.flatMap written

/-- The bytes that events read, in order. -/
def input (events : List Event) : List UInt8 :=
  events.flatMap readBytes

/-- The prompts that events show, in order. -/
def prompts (events : List Event) : String :=
  String.join (events.map promptText)

@[simp] theorem output_append (xs ys : List Event) :
    output (xs ++ ys) = output xs ++ output ys := by
  simp [output]

@[simp] theorem input_append (xs ys : List Event) :
    input (xs ++ ys) = input xs ++ input ys := by
  simp [input]

end Event

end TapeLang
