import Mathlib.Data.Int.Notation
import Mathlib.Data.List.Basic
import Mathlib.Data.List.TakeDrop
import Mathlib.Data.Option.Basic
import TapeLang.CommandLine.Usage
import TapeLang.Node.Outline
import TapeLang.Parse
import TapeLang.Proofs.Encoding
import TapeLang.Proofs.Outlines

set_option autoImplicit false

/-!
# Reading lists back

A list of operations or nodes is a text of lines, one for each operation or node. Here readers are
given for such lines and texts, and it is shown that they read what was written: nothing that a list
is made of gets lost in it.

## Main definitions

* `TapeLang.field?` — the part of a text between two marks.
* `TapeLang.Operation.ofText?`, `TapeLang.Outline.Entry.ofText?` — what a line shows.
* `TapeLang.readOperations?`, `TapeLang.readProgram?` — what a whole list shows.
* `TapeLang.markedNumber?` — the number that an error shows.

## Main results

* `TapeLang.Operation.ofText?_text`, `TapeLang.Outline.Entry.ofText?_text` — lines are read back.
* `TapeLang.readOperations?_operations`, `TapeLang.readProgram?_programText` — lists are read back.
* `TapeLang.ParseError.markedNumber?_message` — the number in an error is an offset.
-/

namespace TapeLang

/-- What stands between `lead`, which begins the text, and the first `stop`, and what stands behind
that. -/
def field? (lead : String) (stop : Char) (text : List Char) : Option (List Char × List Char) := do
  let text ← lead.toList.isPrefixOf? text
  let rest ← [stop].isPrefixOf? (text.dropWhile (· ≠ stop))
  return (text.takeWhile (· ≠ stop), rest)

/-- The natural number whose decimal digits a text consists of. -/
def natural? (text : List Char) : Option ℕ :=
  if text ≠ [] ∧ text.all Char.isDigit = true then some (Nat.ofDigitChars 10 text 0) else none

/-- The integer that a text is the decimal form of. -/
def integer? : List Char → Option ℤ
  | '-' :: digits => (natural? digits).map fun n : ℕ => -(n : ℤ)
  | digits => (natural? digits).map Int.ofNat

/-- The position that a text is the form of. -/
def Position.ofText? (text : List Char) : Option Position := do
  let (line, col) ← field? "L" ':' text
  return ⟨← integer? line, ← integer? col⟩

/-- The symbol of a name. -/
def Symbol.ofName? (name : List Char) : Option Symbol :=
  [command .moveRight, command .moveLeft, command .increment, command .decrement, command .output,
    command .input, loopBegin, loopEnd].find? (·.name.toList = name)

/-- The kind of a name. -/
def Kind.ofName? (name : List Char) : Option Kind :=
  [command .moveRight, command .moveLeft, command .increment, command .decrement, command .output,
    command .input, loop, bare, block].find? (·.name.toList = name)

/-- The operation that a line shows. -/
def Operation.ofText? (text : List Char) : Option Operation := do
  let (name, text) ← field? "Operation(" ',' text
  let (offset, text) ← field? " #" ',' text
  let (position, text) ← field? " " ')' text
  guard (text = [])
  return ⟨← Symbol.ofName? name, ← integer? offset, ← Position.ofText? position⟩

/-- An entry as a line, without the line feed. -/
def Outline.Entry.text (e : Outline.Entry) : String :=
  String.ofList (List.replicate (2 * e.depth) ' ') ++ e.kind.name ++ " @" ++ e.position.text

/-- The entry that a line shows: two spaces stand for one level. -/
def Outline.Entry.ofText? (text : List Char) : Option Outline.Entry := do
  let (indent, text) := text.span (· = ' ')
  let (name, text) ← field? "" ' ' text
  let position ← "@".toList.isPrefixOf? text
  return ⟨indent.length / 2, ← Kind.ofName? name, ← Position.ofText? position⟩

/-- The number behind the first `#` of a text. -/
def markedNumber? (text : List Char) : Option ℤ := do
  let (digits, _) ← field? "#" ' ' (text.dropWhile (· ≠ '#'))
  integer? digits

/-- The lines of a text in UTF-8. What stands behind the last line feed is no line. -/
def linesOf? (bytes : List UInt8) : Option (List (List Char)) :=
  match Utf8.decode bytes with
  | .ok text => some (text.splitOn '\n').dropLast
  | .error _ => none

/-- The operations that the lines of a text show. -/
def readOperations? (bytes : List UInt8) : Option (List Operation) :=
  (linesOf? bytes).bind (List.mapM Operation.ofText?)

/-- The program that the lines of a text show: its root, then the nodes under it. -/
def readProgram? (bytes : List UInt8) : Option Program := do
  let lines ← linesOf? bytes
  match ← lines.mapM Outline.Entry.ofText? with
  | ⟨0, .block, root⟩ :: entries => some ⟨root, ofOutline 1 entries⟩
  | _ => none

variable {c stop : Char} {a : ℤ} {lead : String} {body rest : List Char}

/-! ## Fields -/

lemma isPrefixOf?_append (lead rest : List Char) :
    lead.isPrefixOf? (lead ++ rest) = some rest := by
  induction lead with
  | nil => rfl
  | cons c cs ih => simp [List.isPrefixOf?, ih]

lemma forall_mem_ne (h : stop ∉ body) : ∀ c ∈ body, decide (c ≠ stop) = true := fun _ hc =>
  decide_eq_true (ne_of_mem_of_not_mem hc h)

/-- A field that does not hold the character it ends at is read as it is. -/
lemma field?_append (h : stop ∉ body) :
    field? lead stop (lead.toList ++ (body ++ stop :: rest)) = some (body, rest) := by
  rw [field?, isPrefixOf?_append, Option.bind_eq_bind, Option.bind_some,
    List.takeWhile_append_of_pos (forall_mem_ne h), List.dropWhile_append_of_pos (forall_mem_ne h),
    List.dropWhile_cons_of_neg (by simp), List.takeWhile_cons_of_neg (by simp),
    List.append_nil]
  exact congrArg (Option.bind · _) (isPrefixOf?_append [stop] rest)

/-! ## Integers and positions -/

/-- The decimal form of a natural number consists of digits. -/
lemma isDigit_of_mem_repr {n : ℕ} (h : c ∈ n.repr.toList) : c.isDigit = true := by
  rw [Nat.toList_repr] at h
  exact Nat.isDigit_of_mem_toDigits (by decide) (by decide) h

lemma natural?_repr (n : ℕ) : natural? n.repr.toList = some n := by
  have hdigits : n.repr.toList.all Char.isDigit = true :=
    List.all_eq_true.2 fun _ => isDigit_of_mem_repr
  have hne : n.repr.toList ≠ [] := by simp
  rw [natural?, if_pos ⟨hne, hdigits⟩, Nat.toList_repr,
    Nat.ofDigitChars_toDigits (by decide) (by decide)]

/-- A text that does not begin with a sign is read as a natural number. -/
lemma integer?_of_not_mem {text : List Char} (h : '-' ∉ text) :
    integer? text = (natural? text).map Int.ofNat := by
  unfold integer?
  split
  · exact absurd List.mem_cons_self h
  · rfl

lemma integer?_toString (a : ℤ) : integer? (toString a).toList = some a := by
  rw [Int.toString_eq_repr, Int.repr_eq_if]
  split
  · next ha =>
    have hsign : '-' ∉ a.toNat.repr.toList := fun h => absurd (isDigit_of_mem_repr h) (by decide)
    rw [integer?_of_not_mem hsign, natural?_repr, Option.map_some]
    exact congrArg some (Int.toNat_of_nonneg ha)
  · next ha =>
    rw [String.toList_append]
    show (natural? (-a).toNat.repr.toList).map (fun n : ℕ => -(n : ℤ)) = some a
    rw [natural?_repr, Option.map_some, Int.toNat_of_nonneg (by omega), Int.neg_neg]

/-- The decimal form of an integer has digits and perhaps a sign. -/
lemma isDigit_or_eq_of_mem_toString (h : c ∈ (toString a).toList) : c.isDigit = true ∨ c = '-' := by
  rw [Int.toString_eq_repr, Int.repr_eq_if] at h
  split at h
  · exact .inl (isDigit_of_mem_repr h)
  · rw [String.toList_append, List.mem_append] at h
    rcases h with h | h
    · exact .inr (List.mem_singleton.1 h)
    · exact .inl (isDigit_of_mem_repr h)

/-- A character that is neither a digit nor a sign is in no decimal form. -/
lemma not_mem_toString (a : ℤ) (hc : c.isDigit = false) (hsign : c ≠ '-') :
    c ∉ (toString a).toList := by
  intro h
  rcases isDigit_or_eq_of_mem_toString h with h | h
  · rw [hc] at h
    cases h
  · exact hsign h

lemma Position.toList_text (p : Position) :
    p.text.toList = "L".toList ++ ((toString p.line).toList ++ ':' :: (toString p.col).toList) := by
  simp [Position.text]

lemma Position.ofText?_text (p : Position) : ofText? p.text.toList = some p := by
  rw [ofText?, p.toList_text, field?_append (not_mem_toString p.line (by decide) (by decide))]
  simp only [Option.bind_eq_bind, Option.bind_some, integer?_toString]
  rfl

/-- A character that is neither a digit nor one of the three marks is in no position. -/
lemma Position.not_mem_text (p : Position) (hc : c.isDigit = false) (hmark : c ∉ ['L', ':', '-']) :
    c ∉ p.text.toList := by
  obtain ⟨hletter, hcolon, hsign⟩ : c ≠ 'L' ∧ c ≠ ':' ∧ c ≠ '-' := by simpa using hmark
  rw [p.toList_text, List.mem_append, List.mem_append, List.mem_cons, not_or, not_or, not_or]
  exact ⟨fun h => hletter (List.mem_singleton.1 h), not_mem_toString _ hc hsign, hcolon,
    not_mem_toString _ hc hsign⟩

/-! ## Operations -/

lemma Symbol.ofName?_name (s : Symbol) : ofName? s.name.toList = some s := by
  cases s with
  | command c => cases c <;> decide
  | loopBegin => decide
  | loopEnd => decide

lemma Symbol.not_mem_name (s : Symbol) : ',' ∉ s.name.toList ∧ '\n' ∉ s.name.toList := by
  cases s with
  | command c => cases c <;> decide
  | loopBegin => decide
  | loopEnd => decide

lemma Operation.toList_text (op : Operation) :
    op.text.toList = "Operation(".toList ++ (op.symbol.name.toList ++ ',' ::
      (" #".toList ++ ((toString op.offset).toList ++ ',' ::
        (" ".toList ++ (op.position.text.toList ++ [')']))))) := by
  have htext : op.text = "Operation(" ++ op.symbol.name ++ ", #" ++ toString op.offset ++ ", " ++
      op.position.text ++ ")" := rfl
  simp [htext]

/-- **A line shows the operation that it is the form of.** -/
lemma Operation.ofText?_text (op : Operation) : ofText? op.text.toList = some op := by
  have hoffset : ',' ∉ (toString op.offset).toList := not_mem_toString _ (by decide) (by decide)
  have hposition : ')' ∉ op.position.text.toList :=
    op.position.not_mem_text (by decide) (by decide)
  rw [ofText?, op.toList_text]
  simp only [field?_append op.symbol.not_mem_name.1, field?_append hoffset, field?_append hposition,
    Symbol.ofName?_name, integer?_toString, Position.ofText?_text, Option.bind_eq_bind,
    Option.bind_some]
  rfl

lemma Operation.lineFeed_not_mem_text (op : Operation) : '\n' ∉ op.text.toList := by
  have hoffset : '\n' ∉ (toString op.offset).toList := not_mem_toString _ (by decide) (by decide)
  have hposition : '\n' ∉ op.position.text.toList :=
    op.position.not_mem_text (by decide) (by decide)
  simp only [op.toList_text, List.mem_append, List.mem_cons, op.symbol.not_mem_name.2, hoffset,
    hposition]
  decide

/-! ## Entries -/

lemma Kind.ofName?_name (k : Kind) : ofName? k.name.toList = some k := by
  cases k with
  | command c => cases c <;> decide
  | loop => decide
  | bare => decide
  | block => decide

lemma Kind.not_mem_name (k : Kind) : ' ' ∉ k.name.toList ∧ '\n' ∉ k.name.toList := by
  cases k with
  | command c => cases c <;> decide
  | loop => decide
  | bare => decide
  | block => decide

lemma Kind.name_ne_nil (k : Kind) : k.name.toList ≠ [] := by
  cases k with
  | command c => cases c <;> decide
  | loop => decide
  | bare => decide
  | block => decide

namespace Outline.Entry

lemma toList_text (e : Outline.Entry) :
    e.text.toList = List.replicate (2 * e.depth) ' ' ++
      (e.kind.name.toList ++ ' ' :: ("@".toList ++ e.position.text.toList)) := by
  simp [Entry.text]

/-- The indent of an entry ends where the name of its kind begins. -/
lemma span_toList_text (e : Outline.Entry) :
    e.text.toList.span (· = ' ') = (List.replicate (2 * e.depth) ' ',
      e.kind.name.toList ++ ' ' :: ("@".toList ++ e.position.text.toList)) := by
  have hindent : ∀ c ∈ List.replicate (2 * e.depth) ' ', decide (c = ' ') = true := fun c hc =>
    decide_eq_true (List.eq_of_mem_replicate hc)
  obtain ⟨c, cs, hname⟩ := List.exists_cons_of_ne_nil e.kind.name_ne_nil
  have hc : c ≠ ' ' := by
    rintro rfl
    exact e.kind.not_mem_name.1 (hname ▸ List.mem_cons_self)
  rw [List.span_eq_takeWhile_dropWhile, toList_text, List.takeWhile_append_of_pos hindent,
    List.dropWhile_append_of_pos hindent, hname]
  simp [hc]

/-- **A line shows the entry that it is the form of.** -/
lemma ofText?_text (e : Outline.Entry) : ofText? e.text.toList = some e := by
  have hname (rest : List Char) :
      field? "" ' ' (e.kind.name.toList ++ ' ' :: rest) = some (e.kind.name.toList, rest) :=
    field?_append e.kind.not_mem_name.1
  have hlevels : (List.replicate (2 * e.depth) ' ').length / 2 = e.depth := by simp
  simp only [ofText?, span_toList_text, hname, isPrefixOf?_append, Kind.ofName?_name,
    Position.ofText?_text, hlevels, Option.bind_eq_bind, Option.bind_some]
  rfl

lemma lineFeed_not_mem_text (e : Outline.Entry) : '\n' ∉ e.text.toList := by
  have hposition : '\n' ∉ e.position.text.toList :=
    e.position.not_mem_text (by decide) (by decide)
  simp only [e.toList_text, List.mem_append, List.mem_cons, List.mem_replicate,
    e.kind.not_mem_name.2, hposition]
  simp

end Outline.Entry

/-! ## Lines -/

lemma splitOn_lines {lines : List (List Char)} (h : ∀ line ∈ lines, '\n' ∉ line) :
    (lines.flatMap (· ++ ['\n'])).splitOn '\n' = lines ++ [[]] := by
  induction lines with
  | nil => simp
  | cons line lines ih =>
    obtain ⟨hline, hlines⟩ := List.forall_mem_cons.1 h
    rw [List.flatMap_cons, List.append_assoc, List.singleton_append,
      List.splitOn_append_cons_self_of_not_mem hline, ih hlines, List.cons_append]

/-- **The lines of a text are those it was put together of.** -/
lemma linesOf?_unlines {lines : List String} (h : ∀ line ∈ lines, '\n' ∉ line.toList) :
    linesOf? (Utf8.encode (unlines lines)) = some (lines.map String.toList) := by
  have htext : unlines lines =
      String.ofList ((lines.map String.toList).flatMap (· ++ ['\n'])) := by
    rw [← String.toList_inj, unlines, String.toList_join, String.toList_ofList, List.flatMap_map,
      List.flatMap_map]
    simp
  have hlines : ∀ line ∈ lines.map String.toList, '\n' ∉ line := by simpa using h
  rw [htext, linesOf?, Utf8.decode_eq_ok_iff.2 rfl]
  simp only [splitOn_lines hlines, List.dropLast_concat]

lemma mapM_map_eq_some {α β : Type} {read : β → Option α} {write : α → β}
    (h : ∀ x, read (write x) = some x) (xs : List α) : (xs.map write).mapM read = some xs := by
  rw [List.mapM_map, show read ∘ write = fun x => pure (id x) from funext h, List.mapM_pure,
    List.map_id]
  rfl

lemma linesOf?_operations (ops : List Operation) :
    linesOf? (Utf8.encode (unlines (ops.map Operation.text))) =
      some (ops.map (String.toList ∘ Operation.text)) := by
  have hlines : ∀ line ∈ ops.map Operation.text, '\n' ∉ line.toList := by
    simpa using fun op _ => op.lineFeed_not_mem_text
  rw [linesOf?_unlines hlines, List.map_map]

lemma linesOf?_programText (p : Program) :
    linesOf? (Utf8.encode p.text) =
      some (p.outline.map (String.toList ∘ Outline.Entry.text)) := by
  have hlines : ∀ line ∈ p.outline.map Outline.Entry.text, '\n' ∉ line.toList := by
    simpa using fun e _ => e.lineFeed_not_mem_text
  have htext : p.text = unlines (p.outline.map Outline.Entry.text) := by
    rw [unlines, List.map_map]
    rfl
  rw [htext, linesOf?_unlines hlines, List.map_map]

/-- **The list of operations is read back as the operations.** -/
lemma readOperations?_operations (ops : List Operation) :
    readOperations? (Utf8.encode (unlines (ops.map Operation.text))) = some ops := by
  rw [readOperations?, linesOf?_operations]
  exact mapM_map_eq_some Operation.ofText?_text ops

/-- **The list of a program is read back as the program.** -/
lemma readProgram?_programText (p : Program) : readProgram? (Utf8.encode p.text) = some p := by
  have hentries : (p.outline.map (String.toList ∘ Outline.Entry.text)).mapM
      Outline.Entry.ofText? = some p.outline :=
    mapM_map_eq_some Outline.Entry.ofText?_text _
  rw [readProgram?, linesOf?_programText, Option.bind_eq_bind, Option.bind_some, hentries]
  simp [Program.outline, ofOutline_outline]

/-! ## Errors -/

/-- A number between the first mark and a space is read as it is. -/
lemma markedNumber?_append (before : String) (a : ℤ) (after : String)
    (hbefore : before.toList.dropWhile (· ≠ '#') = ['#']) (hafter : after.toList.head? = some ' ') :
    markedNumber? (before ++ toString a ++ after).toList = some a := by
  obtain ⟨rest, hrest⟩ := List.head?_eq_some_iff.1 hafter
  have hdigits : ' ' ∉ (toString a).toList := not_mem_toString a (by decide) (by decide)
  have hfield : field? "#" ' ' (['#'] ++ ((toString a).toList ++ ' ' :: rest)) =
      some ((toString a).toList, rest) :=
    field?_append hdigits
  rw [String.toList_append, String.toList_append, List.append_assoc, hrest, markedNumber?,
    List.dropWhile_append, hbefore, if_neg (by simp), hfield]
  exact integer?_toString a

/-- What stands in front of the first mark does not matter. -/
lemma markedNumber?_append_of_not_mem {before : List Char} (h : '#' ∉ before) (text : List Char) :
    markedNumber? (before ++ text) = markedNumber? text := by
  rw [markedNumber?, List.dropWhile_append_of_pos (forall_mem_ne h), markedNumber?]

lemma ParseError.markedNumber?_detail (e : ParseError) :
    markedNumber? e.detail.toList = some e.operation.offset := by
  cases e with
  | unmatchedEnd op => exact markedNumber?_append _ op.offset _ (by decide) (by decide)
  | unmatchedBegin op => exact markedNumber?_append _ op.offset _ (by decide) (by decide)
  | tooDeep op => exact markedNumber?_append _ op.offset _ (by decide) (by decide)

/-- **The number that an error shows is the offset of its operation.** -/
lemma ParseError.markedNumber?_message (e : ParseError) :
    markedNumber? e.message.toList = some e.operation.offset := by
  have hbefore : '#' ∉ "Parse error at ".toList ++ e.operation.position.text.toList ++
      ": ".toList := by
    have hposition : '#' ∉ e.operation.position.text.toList :=
      e.operation.position.not_mem_text (by decide) (by decide)
    simp only [List.mem_append, hposition, or_false]
    decide
  have hmessage : e.message =
      "Parse error at " ++ e.operation.position.text ++ ": " ++ e.detail := rfl
  rw [hmessage, String.toList_append, String.toList_append, String.toList_append,
    markedNumber?_append_of_not_mem hbefore, e.markedNumber?_detail]

end TapeLang
