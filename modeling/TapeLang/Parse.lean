import TapeLang.Operation
import TapeLang.Node.Basic
import TapeLang.Host

set_option autoImplicit false

/-!
# From operations to the instruction tree

The operations between a loop begin and the loop end that matches it are the body of a loop. They
are found by counting delimiters, then parsed on their own. Nodes may stand inside of each other as
deep as the host has room for. A command counts as well as a loop, since a node has to be built for
it.

A program is parsed from left to right, and the first fault met is reported: a loop end at depth
zero, a loop begin without a match, or a body that nests too deeply. A body is only parsed once
its loop end has been found, so a missing loop end hides a deep nest, and a fault behind a deep
nest is hidden by it.

## Main definitions

* `TapeLang.ParseError` — why a list of operations is no program.
* `TapeLang.splitLoop` — splits the operations behind a loop begin at the matching loop end.
* `TapeLang.parse`, `TapeLang.parseText` — the program of a list of operations, and of a text.

## Main results

* `TapeLang.splitLoop_eq_some` — a split loses nothing.
-/

namespace TapeLang

/-- Why a list of operations is no program. -/
inductive ParseError where
  /-- A loop end that no loop begin matches. -/
  | unmatchedEnd (op : Operation)
  /-- A loop begin that no loop end matches. -/
  | unmatchedBegin (op : Operation)
  /-- There is no room for so many nodes inside of each other; the operation is the first loop begin
  of all. -/
  | tooDeep (op : Operation)
  deriving DecidableEq

namespace ParseError

/-- The operation that an error reports. -/
def operation : ParseError → Operation
  | unmatchedEnd op => op
  | unmatchedBegin op => op
  | tooDeep op => op

/-- The text of an error, without the position. -/
def detail : ParseError → String
  | unmatchedEnd op => "Loop ending at #" ++ toString op.offset ++ " has no beginning"
  | unmatchedBegin op => "Loop that starts at #" ++ toString op.offset ++ " has no matching ending!"
  | tooDeep op => "Loops starting at #" ++ toString op.offset ++ " are nested too deeply"

/-- The text of an error. -/
def message (e : ParseError) : String :=
  "Parse error at " ++ e.operation.position.text ++ ": " ++ e.detail

end ParseError

/-- Splits the operations behind a loop begin into the body of the loop, the matching loop end and
the rest; `depth` counts the loops of the body that are still open. -/
def splitLoop (depth : Nat) : List Operation → Option (List Operation × Operation × List Operation)
  | [] => none
  | op :: ops =>
    match op.symbol, depth with
    | .loopEnd, 0 => some ([], op, ops)
    | .loopEnd, depth + 1 =>
      (splitLoop depth ops).map fun (body, close, rest) => (op :: body, close, rest)
    | .loopBegin, _ =>
      (splitLoop (depth + 1) ops).map fun (body, close, rest) => (op :: body, close, rest)
    | .command _, _ =>
      (splitLoop depth ops).map fun (body, close, rest) => (op :: body, close, rest)

/-- A split loses nothing. -/
theorem splitLoop_eq_some {depth : Nat} {ops body rest : List Operation} {close : Operation}
    (h : splitLoop depth ops = some (body, close, rest)) : ops = body ++ close :: rest := by
  fun_induction splitLoop depth ops generalizing body with
  | case1 => cases h
  | case2 op ops _ =>
    cases h
    rfl
  | case3 op ops _ _ ih | case4 op _ ops _ ih | case5 op _ ops _ _ ih =>
    simp only [Option.map_eq_some_iff, Prod.exists, Prod.mk.injEq] at h
    obtain ⟨b, c, r, hs, rfl, rfl, rfl⟩ := h
    rw [ih hs]
    rfl

/-- The body of a split loop is shorter than what was split. -/
theorem splitLoop_body_length {depth : Nat} {ops body rest : List Operation} {close : Operation}
    (h : splitLoop depth ops = some (body, close, rest)) : body.length < ops.length := by
  simp [splitLoop_eq_some h]

/-- The rest behind a split loop is shorter than what was split. -/
theorem splitLoop_rest_length {depth : Nat} {ops body rest : List Operation} {close : Operation}
    (h : splitLoop depth ops = some (body, close, rest)) : rest.length < ops.length := by
  simp [splitLoop_eq_some h]
  omega

/-- The nodes of a list of operations, where `levels` of them may stand inside of one another. The
first loop begin of the whole program, if one was met before, is `first`. -/
def parseSpan (levels : Nat) (first : Option Operation) (ops : List Operation) :
    Except ParseError (List Node) :=
  match ops with
  | [] => .ok []
  | op :: ops =>
    match op.symbol with
    | .command c =>
      match levels with
      | 0 => .error (.tooDeep (first.getD op))
      | inner + 1 => do
        let nodes ← parseSpan (inner + 1) first ops
        return .command c op.position :: nodes
    | .loopEnd => .error (.unmatchedEnd op)
    | .loopBegin =>
      match _h : splitLoop 0 ops with
      | none => .error (.unmatchedBegin op)
      | some (body, _, rest) =>
        let first := first.getD op
        match levels with
        | 0 => .error (.tooDeep first)
        | inner + 1 => do
          let body ← parseSpan inner (some first) body
          let nodes ← parseSpan (inner + 1) (some first) rest
          return .loop op.position body :: nodes
termination_by ops.length
decreasing_by
  · simp
  · exact Nat.lt_succ_of_lt (splitLoop_body_length _h)
  · exact Nat.lt_succ_of_lt (splitLoop_rest_length _h)

/-- The program of a list of operations. Its root stands at the start of the text. -/
def parse (host : Host) (ops : List Operation) : Except ParseError Program := do
  let body ← parseSpan host.height none ops
  return ⟨.start, body⟩

/-- The program of a text. -/
def parseText (host : Host) (source : String) : Except ParseError Program :=
  parse host (operations source)

end TapeLang
