import TapeLang.Symbol
import TapeLang.Position

set_option autoImplicit false

/-!
# Operations

An operation is one symbol of a program together with its offset among the symbols and its
position in the text. The scanner turns a text into its operations.

## Main definitions

* `TapeLang.Operation` — a symbol with its offset and its position.
* `TapeLang.operationsFrom` — the operations of a text that begins at a given position and offset.
* `TapeLang.Scanner` — the state that stays between two scans; a second scan goes on where the
  first one ended.
* `TapeLang.operations` — the operations of a whole text.

## Main results

* `TapeLang.operationsFrom_append` — the operations of two texts in a row.
* `TapeLang.length_operationsFrom` — there is one operation for each symbol of the text.
-/

namespace TapeLang

/-- A symbol of a program, with its offset among the symbols and its position in the text. -/
structure Operation where
  /-- The symbol. -/
  symbol : Symbol
  /-- How many symbols stand before this one. -/
  offset : Int
  /-- Where the symbol stands in the text. -/
  position : Position
  deriving DecidableEq

namespace Operation

/-- The text form of an operation, as in `Operation(INCREMENT, #0, L1:1)`. -/
def text (op : Operation) : String :=
  "Operation(" ++ op.symbol.name ++ ", #" ++ toString op.offset ++ ", " ++ op.position.text ++ ")"

end Operation

/-- The operations of a text whose first character stands at `pos` and whose first symbol has the
offset `offset`. -/
def operationsFrom (pos : Position) (offset : Int) : List Char → List Operation
  | [] => []
  | c :: cs =>
    match Symbol.ofChar? c with
    | some s => ⟨s, offset, pos⟩ :: operationsFrom (pos.next c) (offset + 1) cs
    | none => operationsFrom (pos.next c) offset cs

/-- The operations of a program text. -/
def operations (source : String) : List Operation :=
  operationsFrom .start 0 source.toList

/-- What a scanner keeps between two scans: the position behind the text read so far and the
operations found in it. -/
structure Scanner where
  /-- The position behind the text read so far. -/
  position : Position := .start
  /-- The operations found so far, in order. -/
  operations : List Operation := []

namespace Scanner

/-- Reads a text behind what was read before: positions and offsets continue. -/
def scan (s : Scanner) (source : String) : Scanner where
  position := s.position.after source.toList
  operations := s.operations ++ operationsFrom s.position s.operations.length source.toList

/-- Reads the same text a number of times. -/
def scanTimes (source : String) : Nat → Scanner → Scanner
  | 0, s => s
  | n + 1, s => scanTimes source n (s.scan source)

end Scanner

/-- The symbols of a text: what is left of it without the comments. -/
def symbols (text : List Char) : List Symbol :=
  text.filterMap Symbol.ofChar?

/-- The operations of two texts in a row: the second text begins where the first one ends. -/
theorem operationsFrom_append (pos : Position) (offset : Int) (xs ys : List Char) :
    operationsFrom pos offset (xs ++ ys) =
      operationsFrom pos offset xs ++
        operationsFrom (pos.after xs) (offset + (symbols xs).length) ys := by
  induction xs generalizing pos offset with
  | nil => simp [operationsFrom, symbols]
  | cons c cs ih =>
    cases h : Symbol.ofChar? c with
    | none => simp [operationsFrom, symbols, h, ih]
    | some s =>
      have e : offset + 1 + ((cs.filterMap Symbol.ofChar?).length : Int) =
          offset + ((cs.filterMap Symbol.ofChar?).length + 1) := by omega
      simp [operationsFrom, symbols, h, ih, e]

/-- The operations carry the symbols of the text, in order. -/
@[simp] theorem map_symbol_operationsFrom (pos : Position) (offset : Int) (text : List Char) :
    (operationsFrom pos offset text).map Operation.symbol = symbols text := by
  induction text generalizing pos offset with
  | nil => rfl
  | cons c cs ih =>
    cases h : Symbol.ofChar? c with
    | none => simp [operationsFrom, symbols, h, ih]
    | some s => simp [operationsFrom, symbols, h, ih]

/-- There is one operation for each symbol of the text. -/
theorem length_operationsFrom (pos : Position) (offset : Int) (text : List Char) :
    (operationsFrom pos offset text).length = (symbols text).length := by
  rw [← map_symbol_operationsFrom pos offset text, List.length_map]

end TapeLang
