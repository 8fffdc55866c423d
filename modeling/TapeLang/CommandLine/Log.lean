set_option autoImplicit false

/-!
# The log

Records, prompts and errors go to the standard error stream in the order in which they arise. Of a
trace only the head is shown: its details are left out, and so is all that would follow them.

## Main definitions

* `TapeLang.Log` — the text of the stream so far, and whether a trace has ended it.
* `TapeLang.Log.write` — the log with a text behind it.
* `TapeLang.Log.trace` — the log with the head of a trace behind it.

## Main results

* `TapeLang.Log.write_write` — two texts one behind the other are one text.
-/

namespace TapeLang

/-- What the standard error stream shows. -/
structure Log where
  /-- The text so far. -/
  text : String
  /-- Whether a trace has ended the text. -/
  ended : Bool
  deriving DecidableEq

/-- The first line of a trace. -/
def traceHead : String :=
  "Traceback (most recent call last):\n"

namespace Log

/-- The log before anything was written. -/
def empty : Log :=
  ⟨"", false⟩

/-- The log with a text behind it, unless a trace has ended it. -/
def write (log : Log) (text : String) : Log :=
  if log.ended then log else ⟨log.text ++ text, false⟩

/-- The log with the head of a trace behind it, which ends it. -/
def trace (log : Log) : Log :=
  ⟨(log.write traceHead).text, true⟩

/-- Two texts one behind the other are one text. -/
theorem write_write (log : Log) (a b : String) :
    (log.write a).write b = log.write (a ++ b) := by
  cases h : log.ended <;> simp [write, h, String.append_assoc]

end Log

end TapeLang
