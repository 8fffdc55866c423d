import TapeLang.Proofs.Scans
import TapeLang.Text.Lines

set_option autoImplicit false

/-!
# Folded line ends

Folding the line ends of a text replaces every carriage return with a line feed behind it, and then
every carriage return that is left, by one line feed. So each line end counts as one, whichever of
the three forms it has, and nothing else of the text changes: its symbols are the same, and the line
of each is one more than the number of line ends in front of it.

## Main definitions

* `TapeLang.replaceAll` — a text with every occurrence of a part replaced.
* `TapeLang.lineEndCount` — the number of line ends of a text.
* `TapeLang.CountsLineEnds` — operations have the symbols of a text, and the lines in which they
  stand.

## Main results

* `TapeLang.foldLineEnds_eq_replaceAll` — folding replaces two parts, one after the other.
* `TapeLang.count_foldLineEnds` — one line feed is left of each line end.
* `TapeLang.countsLineEnds_operations` — the operations of a folded text count the line ends of the
  text.
-/

namespace TapeLang

/-- A text with every occurrence of a part replaced, from left to right. -/
def replaceAll (old new : List Char) (text : List Char) : List Char :=
  match text with
  | [] => []
  | c :: rest =>
    if old ≠ [] ∧ old <+: c :: rest then new ++ replaceAll old new ((c :: rest).drop old.length)
    else c :: replaceAll old new rest
termination_by text.length
decreasing_by
  · next h =>
    have hpos := List.length_pos_iff.2 h.1
    rw [List.length_drop, List.length_cons]
    omega
  · exact Nat.lt_succ_self _

/-- The number of places where a line feed follows a carriage return. -/
def lineEndPairs (text : List Char) : ℕ :=
  (text.zip text.tail).count ('\r', '\n')

/-- The number of line ends: each carriage return is one, and each line feed, but the two together
are only one. -/
def lineEndCount (text : List Char) : ℕ :=
  text.count '\r' + text.count '\n' - lineEndPairs text

/-- Operations count the line ends of a text: they have its symbols, in order, and the line of each
is one more than the number of line ends in front of its character. -/
structure CountsLineEnds (text : List Char) (ops : List Operation) : Prop where
  /-- The symbols are those of the text. -/
  symbols_eq : ops.map Operation.symbol = symbols text
  /-- The text can be cut at the character of an operation, whose line counts the line ends in front
  of it. -/
  exists_cut : ∀ (k : ℕ) (op : Operation), ops[k]? = some op →
    ∃ pre post, text = pre ++ op.symbol.char :: post ∧ (symbols pre).length = k ∧
      op.position.line = 1 + lineEndCount pre

variable {text pre post : List Char} {c : Char}

/-! ## Two replacements -/

lemma replaceAll_nil (old new : List Char) : replaceAll old new [] = [] := by
  rw [replaceAll]

/-- An occurrence in front is replaced. -/
lemma replaceAll_append {old : List Char} (hne : old ≠ []) (new text : List Char) :
    replaceAll old new (old ++ text) = new ++ replaceAll old new text := by
  obtain ⟨c, old, rfl⟩ := List.exists_cons_of_ne_nil hne
  rw [List.cons_append, replaceAll, if_pos ⟨hne, List.prefix_append _ _⟩, ← List.cons_append,
    List.drop_left]

/-- A character with which no occurrence begins is kept. -/
lemma replaceAll_cons_of_not_isPrefix {old : List Char} (h : ¬old <+: c :: text) (new : List Char) :
    replaceAll old new (c :: text) = c :: replaceAll old new text := by
  rw [replaceAll, if_neg (fun h' => h h'.2)]

/-- **Folding replaces every pair of a carriage return and a line feed, and then every carriage
return that is left, by a line feed.** -/
lemma foldLineEnds_eq_replaceAll (text : List Char) :
    foldLineEnds text = replaceAll ['\r'] ['\n'] (replaceAll ['\r', '\n'] ['\n'] text) := by
  fun_induction foldLineEnds text with
  | case1 => rw [replaceAll_nil, replaceAll_nil]
  | case2 rest ih =>
    rw [show '\r' :: '\n' :: rest = ['\r', '\n'] ++ rest from rfl, replaceAll_append (by simp),
      List.singleton_append, replaceAll_cons_of_not_isPrefix (by simp), ih]
  | case3 c rest hpair ih =>
    have hno : ¬['\r', '\n'] <+: c :: rest := by
      rintro ⟨after, h⟩
      obtain ⟨rfl, rfl⟩ := List.cons.inj h
      exact hpair after rfl rfl
    rw [replaceAll_cons_of_not_isPrefix hno, ih]
    by_cases hc : c = '\r'
    · have hone (text : List Char) :
          replaceAll ['\r'] ['\n'] ('\r' :: text) = '\n' :: replaceAll ['\r'] ['\n'] text :=
        replaceAll_append (List.cons_ne_nil _ _) ['\n'] text
      rw [if_pos hc, hc, hone]
    · rw [if_neg hc, replaceAll_cons_of_not_isPrefix (by simpa using fun h => hc h.symm)]

/-! ## Counting -/

lemma lineEndPairs_cons (c : Char) (text : List Char) :
    lineEndPairs (c :: text) =
      lineEndPairs text + if c = '\r' ∧ text.head? = some '\n' then 1 else 0 := by
  cases text with
  | nil => simp [lineEndPairs]
  | cons d text => simp [lineEndPairs, List.count_cons]

/-- **One line feed is left of each line end.** -/
lemma count_foldLineEnds (text : List Char) :
    (foldLineEnds text).count '\n' = lineEndCount text := by
  have h : (foldLineEnds text).count '\n' + lineEndPairs text =
      text.count '\r' + text.count '\n' := by
    fun_induction foldLineEnds text with
    | case1 => rfl
    | case2 rest ih =>
      simp [lineEndPairs_cons]
      omega
    | case3 c rest hpair ih =>
      have hno : ¬(c = '\r' ∧ rest.head? = some '\n') := by
        rintro ⟨rfl, hhead⟩
        obtain ⟨after, rfl⟩ := List.head?_eq_some_iff.1 hhead
        exact hpair after rfl rfl
      rw [lineEndPairs_cons, if_neg hno, List.count_cons, List.count_cons, List.count_cons]
      by_cases hc : c = '\r'
      · simp [hc]
        omega
      · simp [hc]
        omega
  rw [lineEndCount]
  omega

/-! ## Symbols -/

/-- A text can be cut at a character that belongs to no line end. -/
lemma foldLineEnds_append_cons (hr : c ≠ '\r') (hn : c ≠ '\n') (pre post : List Char) :
    foldLineEnds (pre ++ c :: post) = foldLineEnds pre ++ c :: foldLineEnds post := by
  have hcons : foldLineEnds (c :: post) = c :: foldLineEnds post := by
    rw [foldLineEnds, if_neg hr]
    exact fun after h => absurd h hr
  fun_induction foldLineEnds pre with
  | case1 => exact hcons
  | case2 rest ih =>
    rw [List.cons_append, List.cons_append, foldLineEnds, ih, List.cons_append]
  | case3 d rest hpair ih =>
    rw [List.cons_append, foldLineEnds, ih, List.cons_append]
    -- a pair at the cut would end with the character
    rintro after rfl hafter
    cases rest with
    | nil => exact hn (List.cons.inj hafter).1
    | cons e rest => exact hpair rest rfl (by rw [(List.cons.inj hafter).1])

/-- A character that is read as no symbol is that of none. -/
lemma Symbol.char_ne_of_ofChar?_eq_none (h : ofChar? c = none) (x : Symbol) : x.char ≠ c := by
  rintro rfl
  rw [ofChar?_char] at h
  cases h

lemma Symbol.ofChar?_carriageReturn : ofChar? '\r' = none := rfl

lemma Symbol.ofChar?_lineFeed : ofChar? '\n' = none := rfl

/-- Folding changes no symbol. -/
lemma symbols_foldLineEnds (text : List Char) : symbols (foldLineEnds text) = symbols text := by
  unfold symbols
  fun_induction foldLineEnds text with
  | case1 => rfl
  | case2 rest ih =>
    rw [List.filterMap_cons_none Symbol.ofChar?_lineFeed,
      List.filterMap_cons_none Symbol.ofChar?_carriageReturn,
      List.filterMap_cons_none Symbol.ofChar?_lineFeed, ih]
  | case3 c rest _ ih =>
    by_cases hc : c = '\r'
    · rw [if_pos hc, hc, List.filterMap_cons_none Symbol.ofChar?_lineFeed,
        List.filterMap_cons_none Symbol.ofChar?_carriageReturn, ih]
    · rw [if_neg hc, List.filterMap_cons, List.filterMap_cons, ih]

/-- The symbol behind a part of a text is, in the folded text, in the line that the line ends of the
part lead to. -/
lemma getElem?_operations_foldLineEnds (pre post : List Char) (x : Symbol) :
    ((operations (String.ofList (foldLineEnds (pre ++ x.char :: post))))[(symbols pre).length]?) =
      some ⟨x, (symbols pre).length, .behind (foldLineEnds pre)⟩ := by
  have hcut := foldLineEnds_append_cons (x.char_ne_of_ofChar?_eq_none Symbol.ofChar?_carriageReturn)
    (x.char_ne_of_ofChar?_eq_none Symbol.ofChar?_lineFeed) pre post
  rw [operations, String.toList_ofList, getElem?_operationsFrom_iff]
  refine ⟨_, _, hcut, by rw [symbols_foldLineEnds], (Int.zero_add _).symm, ?_⟩
  rw [Position.after_start]

/-- **The operations of a folded text count the line ends of the text.**

**Proof sketch.** The text has as many symbols as the folded text. An operation of the folded text
has the index of a symbol of the text, at which the text can be cut, and so can the folded text. -/
lemma countsLineEnds_operations (text : List Char) :
    CountsLineEnds text (operations (String.ofList (foldLineEnds text))) := by
  have hsymbols : (operations (String.ofList (foldLineEnds text))).map Operation.symbol =
      symbols text := by
    rw [operations, String.toList_ofList, map_symbol_operationsFrom, symbols_foldLineEnds]
  refine ⟨hsymbols, fun k op hop => ?_⟩
  have hlength : k < (operationsFrom .start 0 text).length := by
    rw [length_operationsFrom, ← hsymbols, List.length_map]
    exact (List.getElem?_eq_some_iff.1 hop).1
  obtain ⟨pre, post, htext, rfl, -, -⟩ :=
    exists_cut_of_getElem?_operationsFrom (List.getElem?_eq_getElem hlength)
  generalize ((operationsFrom .start 0 text)[(symbols pre).length]).symbol = x at htext
  subst htext
  rw [getElem?_operations_foldLineEnds] at hop
  obtain rfl := Option.some.inj hop
  exact ⟨pre, post, rfl, rfl, by rw [Position.behind, count_foldLineEnds]⟩

end TapeLang
