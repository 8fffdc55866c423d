import Mathlib.Data.List.Induction
import TapeLang.Proofs.BigStep
import TapeLang.Proofs.Faults
import TapeLang.Proofs.Scans

set_option autoImplicit false

/-!
# Where errors point

An error that carries a position points at the character of the text that is at fault. A position is
looked up in the lines of the text, which only a line feed ends. It passes from the scanner through
the tree into the error, so that each of the three has to keep it.

## Main definitions

* `TapeLang.charAt?` — the character at a position.
* `TapeLang.textBefore` — the text in front of a position.
* `TapeLang.ParseError.PointsInto`, `TapeLang.RunError.PointsInto` — an error points at a character
  of the kind that it reports.
* `TapeLang.RunError.CarriesMark` — an error carries a command of a row or the root.

## Main results

* `TapeLang.charAt?_of_mem_operations` — an operation of a text is one character of it.
* `TapeLang.mem_of_parse_eq_error` — a parse error carries a delimiter of the list.
* `TapeLang.Runs.carriesMark` — a run error carries a command of the tree or the root.
* `TapeLang.runText_pointsInto` — all errors point at the characters that they report.
-/

namespace TapeLang

/-- The character at a position, both line and column counted from 1. -/
def charAt? (text : List Char) (p : Position) : Option Char :=
  if 1 ≤ p.line ∧ 1 ≤ p.col then
    (text.splitOn '\n')[(p.line - 1).toNat]?.bind fun cs => cs[(p.col - 1).toNat]?
  else none

/-- The text in front of a position: all lines above it, and what its line holds to the left of
it. -/
def textBefore (text : List Char) (p : Position) : List Char :=
  let above := (text.splitOn '\n').take (p.line - 1).toNat
  let left := ((text.splitOn '\n').getD (p.line - 1).toNat []).take (p.col - 1).toNat
  ['\n'].intercalate (above ++ [left])

namespace ParseError

/-- The symbol of the operation that an error carries. -/
def symbol : ParseError → Symbol
  | unmatchedEnd _ => .loopEnd
  | unmatchedBegin _ => .loopBegin
  | tooDeep _ => .loopBegin

/-- An error points at the delimiter that it reports, and its offset counts the symbols in front of
that delimiter. -/
structure PointsInto (text : List Char) (e : ParseError) : Prop where
  /-- The delimiter stands at the position. -/
  charAt?_eq : charAt? text e.operation.position = some (match e with
    | unmatchedEnd _ => ']'
    | unmatchedBegin _ => '['
    | tooDeep _ => '[')
  /-- The symbols in front of it are counted. -/
  offset_eq : e.operation.offset = (symbols (textBefore text e.operation.position)).length

end ParseError

/-- An error points at the command that it reports, and at the start of the text if it is that there
is no room inside of so many loops. No text has nodes without a meaning. -/
def RunError.PointsInto (text : List Char) : RunError → Prop
  | offTape pos _ .right _ => charAt? text pos = some '>'
  | offTape pos _ .left _ => charAt? text pos = some '<'
  | inputExhausted pos _ => charAt? text pos = some ','
  | nestingDepth root => root = ⟨1, 1⟩
  | unknownNode _ => False

/-- An error carries a command of a row of symbols with positions, or the root. -/
def RunError.CarriesMark (root : Position) (row : List (Symbol × Option Position)) (e : RunError) :
    Prop :=
  (∃ c pos, e.node? = some (.command c, pos) ∧ (Symbol.command c, some pos) ∈ row) ∨
    e = .nestingDepth root

variable {text pre post : List Char} {pos : Position} {offset : ℤ} {op : Operation}
  {ops : List Operation} {nodes : List Node} {root : Position} {host : Host} {room : ℕ}
  {s : State} {o : Outcome} {c : Command}

/-! ## Positions in the lines of a text -/

/-- The position behind a text is the place in the lines where they go on with what follows.

**Proof sketch.** Induction on the text from its end. What follows a text and a character is what
follows the text, with the character in front. -/
lemma exists_lines (pre : List Char) :
    ∃ above left, Position.start.after pre = ⟨above.length + 1, left.length + 1⟩ ∧
      ∀ post line below, post.splitOn '\n' = line :: below →
        (pre ++ post).splitOn '\n' = above ++ (left ++ line) :: below := by
  induction pre using List.reverseRecOn with
  | nil => exact ⟨[], [], rfl, fun post line below h => h⟩
  | append_singleton pre c ih =>
    obtain ⟨above, left, hpos, hlines⟩ := ih
    rw [Position.after_append, hpos]
    by_cases hc : c = '\n'
    · refine ⟨above ++ [left], [], ?_, fun post line below h => ?_⟩
      · simp [Position.next, hc]
      · rw [List.append_assoc, hlines _ [] (line :: below)]
        · simp
        · simp [List.splitOn_cons_eq_if_modifyHead, hc, h]
    · refine ⟨above, left ++ [c], ?_, fun post line below h => ?_⟩
      · simp [Position.next, hc]
      · rw [List.append_assoc, hlines _ (c :: line) below]
        · simp
        · simp [List.splitOn_cons_eq_if_modifyHead, hc, h]

/-- The position behind a text is where the next character stands. -/
lemma charAt?_after {c : Char} (hc : c ≠ '\n') (pre post : List Char) :
    charAt? (pre ++ c :: post) (Position.start.after pre) = some c := by
  obtain ⟨above, left, hpos, hlines⟩ := exists_lines pre
  obtain ⟨line, below, hpost⟩ := List.exists_cons_of_ne_nil (List.splitOn_ne_nil '\n' post)
  have hnext : (c :: post).splitOn '\n' = (c :: line) :: below := by
    simp [List.splitOn_cons_eq_if_modifyHead, hc, hpost]
  rw [charAt?, hpos, hlines _ _ _ hnext, if_pos (by dsimp only; omega)]
  simp

/-- The text in front of the position behind a text is that text. -/
lemma textBefore_after (pre post : List Char) :
    textBefore (pre ++ post) (Position.start.after pre) = pre := by
  obtain ⟨above, left, hpos, hlines⟩ := exists_lines pre
  obtain ⟨line, below, hpost⟩ := List.exists_cons_of_ne_nil (List.splitOn_ne_nil '\n' post)
  have hpre : pre.splitOn '\n' = above ++ [left] := by
    simpa using hlines [] [] [] (List.splitOn_nil '\n')
  rw [textBefore, hpos, hlines _ _ _ hpost]
  simp only [Int.add_sub_cancel, Int.toNat_natCast, List.take_left, List.getD_eq_getElem?_getD,
    List.getElem?_append_right (Nat.le_refl _), Nat.sub_self, List.getElem?_cons_zero,
    Option.getD_some]
  rw [← hpre, List.intercalate_splitOn]

/-! ## Operations -/

/-- No symbol is a line feed. -/
lemma Symbol.char_ne_lineFeed (x : Symbol) : x.char ≠ '\n' := by
  cases x with
  | command c => cases c <;> decide
  | loopBegin => decide
  | loopEnd => decide

/-- An operation that is read from a text stands where the text can be cut at its character. -/
lemma exists_cut_of_mem_operationsFrom (h : op ∈ operationsFrom pos offset text) :
    ∃ pre post, text = pre ++ op.symbol.char :: post ∧ op.position = pos.after pre ∧
      op.offset = offset + (symbols pre).length := by
  obtain ⟨k, hk⟩ := List.mem_iff_getElem?.1 h
  obtain ⟨pre, post, htext, rfl, hoff, hpos⟩ := exists_cut_of_getElem?_operationsFrom hk
  exact ⟨pre, post, htext, hpos, hoff⟩

/-- **An operation of a text is one character of it**: it stands at the position of the operation,
and the offset counts the symbols in front of it. -/
lemma charAt?_of_mem_operations {source : String} (h : op ∈ operations source) :
    charAt? source.toList op.position = some op.symbol.char ∧
      op.offset = (symbols (textBefore source.toList op.position)).length := by
  obtain ⟨pre, post, htext, hpos, hoff⟩ := exists_cut_of_mem_operationsFrom h
  rw [htext, hpos, textBefore_after, charAt?_after op.symbol.char_ne_lineFeed]
  exact ⟨rfl, by simpa using hoff⟩

/-! ## Parse errors -/

/-- **A parse error carries a delimiter of the list**, of the kind that the error reports. -/
lemma mem_of_parse_eq_error {e : ParseError} (h : parse host ops = .error e) :
    e.operation ∈ ops ∧ e.operation.symbol = e.symbol := by
  obtain ⟨good, nodes, tail, rfl, hg, ht⟩ := exists_spells_append_blocked ops
  by_cases hn : height nodes ≤ host.height
  · rw [hg.parse_append_blocked hn ht] at h
    cases ht with
    | nil => cases h
    | strayEnd he =>
      simp only [he, if_true, Except.error.injEq] at h
      subst h
      exact ⟨by simp [ParseError.operation], he⟩
    | openBegin hb _ =>
      simp only [hb, reduceCtorEq, if_false, Except.error.injEq] at h
      subst h
      exact ⟨by simp [ParseError.operation], hb⟩
  · obtain ⟨b, hfirst, herr⟩ := hg.parse_append_tooDeep hn tail
    obtain rfl := Except.error.inj (herr.symm.trans h)
    have hb := List.find?_some hfirst
    exact ⟨List.mem_of_find?_eq_some hfirst, of_decide_eq_true hb⟩

/-- A parse error points at the delimiter that it reports. -/
lemma ParseError.pointsInto_of_parseText {source : String} {e : ParseError}
    (h : parseText host source = .error e) : e.PointsInto source.toList := by
  obtain ⟨hmem, hsym⟩ := mem_of_parse_eq_error h
  obtain ⟨hchar, hoff⟩ := charAt?_of_mem_operations hmem
  refine ⟨?_, hoff⟩
  rw [hchar, hsym]
  cases e <;> rfl

/-! ## Run errors -/

/-- A command that fails reports itself. -/
lemma node?_of_perform_error {e : RunError} (h : (s.perform host c pos).error = some e) :
    e.node? = some (.command c, pos) := by
  cases c with
  | moveRight | moveLeft =>
    simp only [State.perform, State.move] at h
    split at h <;> cases h
    rfl
  | increment | decrement | output => cases h
  | input =>
    simp only [State.perform, State.read] at h
    split at h <;> cases h
    rfl

/-- A longer row has all the marks that an error may carry. -/
lemma RunError.CarriesMark.mono {row row' : List (Symbol × Option Position)} {e : RunError}
    (h : e.CarriesMark root row) (hsub : row ⊆ row') : e.CarriesMark root row' := by
  rcases h with ⟨c, pos, hnode, hmem⟩ | rfl
  · exact .inl ⟨c, pos, hnode, hsub hmem⟩
  · exact .inr rfl

/-- **A run error carries a command of the tree or the root.**

**Proof sketch.** Induction on the run. The marks of a tree are those of its first node, with the
marks of the body if it is a loop, and those of the rest. -/
lemma Runs.carriesMark {e : RunError} (h : Runs host root room nodes s o)
    (hp : isPlain nodes = true) (he : o.error = some e) : e.CarriesMark root (marks nodes) := by
  induction h with
  | nil => cases he
  | cutOff _ => exact .inr (Option.some.inj he).symm
  | command _ _ _ ih =>
    rw [isPlain_cons_command] at hp
    exact (ih hp he).mono (by simp)
  | fail _ herr =>
    obtain rfl := Option.some.inj (herr.symm.trans he)
    exact .inl ⟨_, _, node?_of_perform_error herr, by simp⟩
  | skip _ _ _ ih =>
    simp only [isPlain_cons_loop, Bool.and_eq_true] at hp
    refine (ih hp.2 he).mono fun x hx => ?_
    simp [hx]
  | again _ _ _ _ _ ihl => exact ihl hp he
  | broken _ _ _ ih =>
    simp only [isPlain_cons_loop, Bool.and_eq_true] at hp
    refine (ih hp.1 he).mono fun x hx => ?_
    simp [hx]
  | bare _ => simp at hp
  | block _ => simp at hp

/-- A command among the marks of a tree is a character of the text from which the tree is parsed. -/
lemma charAt?_of_mem_marks {source : String} {p : Program} (h : parseText host source = .ok p)
    (hmem : (Symbol.command c, some pos) ∈ marks p.body) :
    charAt? source.toList pos = some (Symbol.command c).char := by
  rw [← (parse_eq_ok_iff.1 h).1.map_mark] at hmem
  obtain ⟨op, hop, hmark⟩ := List.mem_map.1 hmem
  simp only [Operation.mark, Prod.mk.injEq] at hmark
  obtain ⟨hsym, hpos⟩ := hmark
  rw [if_neg (by simp [hsym]), Option.some.injEq] at hpos
  rw [← hpos, ← hsym]
  exact (charAt?_of_mem_operations hop).1

/-- A run error points at the command that it reports, from whichever state a program runs and
however much room there is. -/
lemma RunError.pointsInto_of_runs {source : String} {p : Program} {e : RunError}
    (hp : parseText host source = .ok p) (h : Runs host p.root room p.body s o)
    (he : o.error = some e) : e.PointsInto source.toList := by
  obtain ⟨hs, -, hroot⟩ := parse_eq_ok_iff.1 hp
  rcases h.carriesMark hs.isPlain he with ⟨c, pos, hnode, hmem⟩ | rfl
  · have hchar := charAt?_of_mem_marks hp hmem
    cases e with
    | offTape pos' pointer d length =>
      cases d <;> cases hnode <;> exact hchar
    | inputExhausted pos' ordinal =>
      cases hnode
      exact hchar
    | nestingDepth root => cases hnode
    | unknownNode kind => cases hnode
  · exact hroot

/-- **Errors point at the characters that they report**: a parse error at the delimiter, with the
number of symbols in front of it, and a run error at the command. If there is no room inside of so
many loops, however many that may be, the error shows the start of the text. -/
theorem runText_pointsInto (source : String) (host : Host) (fuel : ℕ) :
    (∀ layout input e, runText host fuel source layout input = .error (.parse e) →
      e.PointsInto source.toList) ∧
    (∀ layout input o e, runText host fuel source layout input = .ok (some o) →
      o.error = some e → e.PointsInto source.toList) ∧
    ∀ p room s o e, parseText host source = .ok p →
      exec host p.root fuel room p.body s = some o → o.error = some e →
        e.PointsInto source.toList := by
  refine ⟨fun layout input e h => ?_, fun layout input o e h he => ?_,
    fun p room s o e hp h he => ?_⟩
  · rw [runText] at h
    cases hp : parseText host source with
    | error e' =>
      simp only [hp, Except.error.injEq, StartError.parse.injEq] at h
      exact h ▸ ParseError.pointsInto_of_parseText hp
    | ok p =>
      simp only [hp] at h
      split at h <;> cases h
  · rw [runText] at h
    cases hp : parseText host source with
    | error e' => simp [hp] at h
    | ok p =>
      simp only [hp] at h
      split at h
      · cases h
      · exact RunError.pointsInto_of_runs hp (State.runsTo_iff.1 ⟨fuel, Except.ok.inj h⟩) he
  · exact RunError.pointsInto_of_runs hp (runs_of_exec h) he

/-- A loop end on the second line closes nothing. In a loop on that line a move leaves the tape, and
if there is room for one frame only, the loop is entered and nothing in it can be done. -/
theorem runText_pointsInto_second_line :
    let stray : ParseError := .unmatchedEnd ⟨.loopEnd, 2, ⟨2, 2⟩⟩
    let outside : RunError := .offTape ⟨2, 3⟩ 1 .right 2
    let start : State := { tape := ⟨[0], 0, []⟩, input := [5] }
    let p : Program := ⟨.start, [.command .increment ⟨1, 3⟩,
      .loop ⟨2, 1⟩ [.command .input ⟨2, 2⟩, .command .moveRight ⟨2, 3⟩]]⟩
    (runText .usual 9 "1 +\n.]" ⟨2, 1, by decide⟩ [5] = .error (.parse stray) ∧
      stray.PointsInto "1 +\n.]".toList) ∧
    (runText .usual 9 "1 +\n[,>]" ⟨2, 1, by decide⟩ [5] =
        .ok (some ⟨{ tape := ⟨[0], 5, []⟩, reads := 1, trace := [.read (some 5)] }, some outside⟩) ∧
      outside.PointsInto "1 +\n[,>]".toList) ∧
    parseText .usual "1 +\n[,>]" = .ok p ∧
      exec .usual p.root 9 1 p.body start =
        some ⟨{ start with tape := ⟨[0], 1, []⟩ }, some (.nestingDepth p.root)⟩ ∧
      (RunError.nestingDepth p.root).PointsInto "1 +\n[,>]".toList := by
  intro stray outside start p
  have hparse : parseText .usual "1 +\n[,>]" = .ok p := by cbv
  have hrun : runText .usual 9 "1 +\n[,>]" ⟨2, 1, by decide⟩ [5] =
      .ok (some ⟨{ tape := ⟨[0], 5, []⟩, reads := 1, trace := [.read (some 5)] },
        some outside⟩) := by
    rw [runText, hparse]
    rfl
  refine ⟨⟨by cbv, ?_⟩, ⟨hrun, ?_⟩, hparse, rfl, ?_⟩
  · exact (runText_pointsInto _ .usual 9).1 ⟨2, 1, by decide⟩ [5] _ (by cbv)
  · exact (runText_pointsInto _ .usual 9).2.1 ⟨2, 1, by decide⟩ [5] _ _ hrun rfl
  · exact (runText_pointsInto _ .usual 9).2.2 p 1 start _ _ hparse rfl rfl

end TapeLang
