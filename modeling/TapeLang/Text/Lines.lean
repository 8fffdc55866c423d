set_option autoImplicit false

/-!
# Line ends

A line may end with a line feed, a carriage return, or a carriage return and a line feed. Folding
turns each of the three into one line feed.

## Main definitions

* `TapeLang.foldLineEnds` — a text in which every line ends with a line feed.

## Main results

* `TapeLang.cr_not_mem_foldLineEnds` — no carriage return is left.
-/

namespace TapeLang

/-- A text with one line feed for each line end. -/
def foldLineEnds : List Char → List Char
  | [] => []
  | '\r' :: '\n' :: rest => '\n' :: foldLineEnds rest
  | c :: rest => (if c = '\r' then '\n' else c) :: foldLineEnds rest

/-- No carriage return is left. -/
theorem cr_not_mem_foldLineEnds (text : List Char) : '\r' ∉ foldLineEnds text := by
  fun_induction foldLineEnds text with
  | case1 => simp
  | case2 rest ih => simpa using ih
  | case3 c rest _ ih =>
    rw [List.mem_cons, not_or]
    refine ⟨?_, ih⟩
    split
    · decide
    · next h => exact fun e => h e.symm

end TapeLang
