import Mathlib.Data.Int.Notation
import Mathlib.Data.List.Induction
import Mathlib.Data.Nat.Notation
import Mathlib.Tactic.Lemma
import TapeLang.Operation

set_option autoImplicit false

/-!
# What a scanner holds

A scanner counts lines, columns and offsets while it reads. What it holds at any moment is said here
by the text that it has read so far, however many scans that took: a second scan goes on where the
first one ended, so it makes no difference whether a text is read in one scan or in several.

## Main definitions

* `TapeLang.Position.behind` — the position behind a text, from the line feeds of the text.
* `TapeLang.Scanner.HasRead` — a scanner holds the position behind a text and its operations.

## Main results

* `TapeLang.Position.after_start` — stepping through a text leads to the position behind it.
* `TapeLang.getElem?_operationsFrom_iff` — the operation of an index is the symbol of that index.
* `TapeLang.Scanner.HasRead.scan`, `TapeLang.Scanner.HasRead.scanTimes` — a scan goes on from what
  was read before.
* `TapeLang.scanTimes_exact` — what a scanner holds after a text was read a number of times.
-/

namespace TapeLang

/-- The position behind a text: one line more than the text has line feeds, and one column more than
it has characters behind the last line feed. -/
def Position.behind (text : List Char) : Position :=
  ⟨1 + text.count '\n', 1 + (text.reverse.takeWhile (· ≠ '\n')).length⟩

/-- A scanner holds the position behind a text and the operations of that text. -/
structure Scanner.HasRead (s : Scanner) (text : List Char) : Prop where
  /-- The position is the one behind the text. -/
  position_eq : s.position = .behind text
  /-- The operations are those of the text. -/
  operations_eq : s.operations = operationsFrom .start 0 text

variable {text pre post : List Char} {pos : Position} {offset : ℤ} {op : Operation} {k : ℕ}
  {s : Scanner}

/-! ## Positions -/

lemma Position.behind_append_lineFeed (text : List Char) :
    behind (text ++ ['\n']) = ⟨(behind text).line + 1, 1⟩ := by
  simp [behind]
  omega

lemma Position.behind_append_of_ne {c : Char} (hc : c ≠ '\n') (text : List Char) :
    behind (text ++ [c]) = ⟨(behind text).line, (behind text).col + 1⟩ := by
  simp [behind, hc]
  omega

/-- **Stepping through a text leads to the position behind it.**

**Proof sketch.** Induction on the text from its end. A line feed begins a line, and any other
character is one more behind the last line feed. -/
lemma Position.after_start (text : List Char) : start.after text = behind text := by
  induction text using List.reverseRecOn with
  | nil => rfl
  | append_singleton text c ih =>
    rw [after_append, ih, after_cons, after_nil, next]
    split
    · next hc => rw [hc, behind_append_lineFeed]
    · next hc => rw [behind_append_of_ne hc]

/-! ## Operations -/

/-- The operation of an index stands where the text can be cut at its character with as many symbols
in front. -/
lemma exists_cut_of_getElem?_operationsFrom
    (h : (operationsFrom pos offset text)[k]? = some op) :
    ∃ pre post, text = pre ++ op.symbol.char :: post ∧ (symbols pre).length = k ∧
      op.offset = offset + k ∧ op.position = pos.after pre := by
  induction text generalizing pos offset k with
  | nil => simp [operationsFrom] at h
  | cons c cs ih =>
    cases hc : Symbol.ofChar? c with
    | none =>
      simp only [operationsFrom, hc] at h
      obtain ⟨pre, post, rfl, hk, hoff, hpos⟩ := ih h
      exact ⟨c :: pre, post, rfl, by simpa [symbols, hc] using hk, hoff, hpos⟩
    | some x =>
      simp only [operationsFrom, hc] at h
      obtain rfl := Symbol.ofChar?_eq_some_iff.1 hc
      cases k with
      | zero =>
        obtain rfl := Option.some.inj h
        exact ⟨[], cs, rfl, rfl, by simp, rfl⟩
      | succ k =>
        obtain ⟨pre, post, rfl, hk, hoff, hpos⟩ := ih h
        refine ⟨x.char :: pre, post, rfl, by simpa [symbols] using hk, ?_, hpos⟩
        push_cast
        omega

/-- **The operation of an index is the symbol of that index**: it stands where the text can be cut
at its character with as many symbols in front. -/
lemma getElem?_operationsFrom_iff :
    (operationsFrom pos offset text)[k]? = some op ↔
      ∃ pre post, text = pre ++ op.symbol.char :: post ∧ (symbols pre).length = k ∧
        op.offset = offset + k ∧ op.position = pos.after pre := by
  refine ⟨exists_cut_of_getElem?_operationsFrom, ?_⟩
  rintro ⟨pre, post, rfl, rfl, hoff, hpos⟩
  have hop : op = ⟨op.symbol, offset + (symbols pre).length, pos.after pre⟩ := by
    rw [← hoff, ← hpos]
  rw [operationsFrom_append, ← length_operationsFrom pos offset pre,
    List.getElem?_append_right (Nat.le_refl _), Nat.sub_self]
  simp only [operationsFrom, Symbol.ofChar?_char, List.getElem?_cons_zero]
  rw [length_operationsFrom, ← hop]

/-! ## Scans -/

lemma Scanner.hasRead_nil : ({} : Scanner).HasRead [] :=
  ⟨rfl, rfl⟩

/-- A scan goes on from what was read before. -/
lemma Scanner.HasRead.scan (h : s.HasRead text) (source : String) :
    (s.scan source).HasRead (text ++ source.toList) := by
  refine ⟨?_, ?_⟩
  · rw [Scanner.scan, h.position_eq, ← Position.after_start, ← Position.after_append,
      Position.after_start]
  · have hlength : (s.operations.length : ℤ) = 0 + (symbols text).length := by
      rw [h.operations_eq, length_operationsFrom, Int.zero_add]
    rw [operationsFrom_append, Scanner.scan, hlength, h.position_eq, Position.after_start,
      ← h.operations_eq]

/-- Several scans of a text go on from what was read before, as one scan of the repeated text. -/
lemma Scanner.HasRead.scanTimes (h : s.HasRead text) (source : String) (n : ℕ) :
    (Scanner.scanTimes source n s).HasRead
      (text ++ (List.replicate n source.toList).flatten) := by
  induction n generalizing s text with
  | zero => simpa [Scanner.scanTimes] using h
  | succ n ih =>
    rw [List.replicate_succ, List.flatten_cons, ← List.append_assoc]
    exact ih (h.scan source)

/-- **What a scanner holds after a text was read a number of times** is what the repeated text has:
one operation for each symbol, in order. The offset of an operation is its index, and its position
is the one behind the text in front of it. The scanner itself is behind the whole text. -/
theorem scanTimes_exact (source : String) (n : ℕ) :
    let text := (List.replicate n source.toList).flatten
    let s := Scanner.scanTimes source n {}
    s.operations.length = (symbols text).length ∧
      (∀ (k : ℕ) (op : Operation), s.operations[k]? = some op ↔
        ∃ pre post, text = pre ++ op.symbol.char :: post ∧ (symbols pre).length = k ∧
          op.offset = k ∧ op.position = .behind pre) ∧
      s.position = .behind text := by
  intro text s
  have hread : s.HasRead text := Scanner.hasRead_nil.scanTimes source n
  refine ⟨?_, fun k op => ?_, hread.position_eq⟩
  · rw [hread.operations_eq, length_operationsFrom]
  · rw [hread.operations_eq, getElem?_operationsFrom_iff]
    simp only [Int.zero_add, Position.after_start]

end TapeLang
