import Mathlib.Data.List.Basic
import TapeLang.Proofs.Readback
import TapeLang.Proofs.RunRecords

set_option autoImplicit false

/-!
# Dumps read back

A dump is a number in hexadecimal digits, a colon, and a row of cells, each with a blank or a
bracket on both sides. A reader is given for such texts. It reads from the dump of any window where
the window begins, what its cells hold, and which of them is the current one, so a dump of a whole
tape loses nothing of it.

## Main definitions

* `TapeLang.Hex.number?` — the number of a text of hexadecimal digits.
* `TapeLang.Dump`, `TapeLang.Dump.ofText?` — what a dump shows.
* `TapeLang.Dump.pointer?` — the index of the cell that a dump marks.

## Main results

* `TapeLang.Hex.number?_upper` — numbers are read back.
* `TapeLang.Tape.ofText?_dump` — dumps are read back.
* `TapeLang.Tape.window_eq` — the cells of a window.
* `TapeLang.dump_decodes` — what a dump shows, for every window of every tape.
-/

namespace TapeLang

/-- The value of a hexadecimal digit. -/
def Hex.digit? (c : Char) : Option ℕ :=
  "0123456789ABCDEF".toList.idxOf? c

/-- The number of a text of hexadecimal digits. -/
def Hex.number? (text : List Char) : Option ℕ :=
  text.foldlM (fun n c => (digit? c).map (16 * n + ·)) 0

/-- Whether the characters around a cell mark it; other characters stand around none. -/
def mark? (before after : Char) : Option Bool :=
  if before = '[' ∧ after = ']' then some true
  else if before = ' ' ∧ after = ' ' then some false
  else none

/-- The values of a row of cells, and whether they are marked. -/
def readCells? : List Char → Option (List (UInt8 × Bool))
  | [] => some []
  | before :: high :: low :: after :: text => do
    let v ← Hex.number? [high, low]
    let marked ← mark? before after
    return (UInt8.ofNat v, marked) :: (← readCells? text)
  | _ => none

/-- What a dump shows. -/
structure Dump where
  /-- The index of the first cell. -/
  base : ℕ
  /-- The values of the cells, and whether they are marked. -/
  cells : List (UInt8 × Bool)
  deriving DecidableEq

/-- What a text shows as a dump. -/
def Dump.ofText? (text : List Char) : Option Dump := do
  let (base, text) ← field? "" ':' text
  let text ← [' '].isPrefixOf? text
  return ⟨← Hex.number? base, ← readCells? text⟩

/-- The index of the first cell that a dump marks. -/
def Dump.pointer? (d : Dump) : Option ℕ :=
  (d.cells.findIdx? (·.2)).map (d.base + ·)

variable {n width : ℕ} {c : Char}

/-! ## Hexadecimal numbers -/

lemma Hex.digit?_digitChar {d : ℕ} (hd : d < 16) : digit? d.digitChar.toUpper = some d := by
  have hall : ∀ d < 16, digit? (Nat.digitChar d).toUpper = some d := by decide
  exact hall d hd

/-- The digits of a number are read back. -/
lemma Hex.number?_toDigits (n : ℕ) : number? ((Nat.toDigits 16 n).map Char.toUpper) = some n := by
  induction n using Nat.strong_induction_on with
  | _ n ih =>
    rw [Nat.toDigits_eq_if (by decide)]
    split
    · next hlt => simp [number?, digit?_digitChar hlt]
    · next hge =>
      have hdiv : number? ((Nat.toDigits 16 (n / 16)).map Char.toUpper) = some (n / 16) :=
        ih _ (by omega)
      rw [number?] at hdiv ⊢
      rw [List.map_append, List.foldlM_append, hdiv]
      simp [digit?_digitChar (Nat.mod_lt n (by decide))]
      omega

lemma Hex.number?_replicate (k : ℕ) (text : List Char) :
    number? (List.replicate k '0' ++ text) = number? text := by
  induction k with
  | zero => rfl
  | succ k ih =>
    rw [List.replicate_succ, List.cons_append, ← ih]
    rfl

lemma Hex.upper_eq (width n : ℕ) :
    upper width n = List.replicate (width - (Nat.toDigits 16 n).length) '0' ++
      (Nat.toDigits 16 n).map Char.toUpper := by
  rw [upper, lower, List.map_append, List.map_replicate]
  rfl

/-- **Numbers are read back**, however many zeros are in front. -/
lemma Hex.number?_upper (width n : ℕ) : number? (upper width n) = some n := by
  rw [upper_eq, number?_replicate, number?_toDigits]

lemma Hex.length_upper (h : (Nat.toDigits 16 n).length ≤ width) :
    (upper width n).length = width := by
  rw [upper_eq, List.length_append, List.length_replicate, List.length_map]
  omega

/-- What is read to a number has digits only. -/
lemma Hex.isSome_digit?_of_mem {text : List Char} {m : ℕ}
    (h : text.foldlM (fun n c => (digit? c).map (16 * n + ·)) n = some m) (hc : c ∈ text) :
    (digit? c).isSome := by
  induction text generalizing n with
  | nil => cases hc
  | cons d text ih =>
    rw [List.foldlM_cons] at h
    cases hd : digit? d with
    | none => simp [hd] at h
    | some value =>
      rw [hd] at h
      rcases List.mem_cons.1 hc with rfl | hc
      · rw [hd]
        rfl
      · exact ih h hc

lemma Hex.colon_not_mem_upper (width n : ℕ) : ':' ∉ upper width n := by
  intro hc
  have hdigit := isSome_digit?_of_mem (number?_upper width n) hc
  cases hdigit

/-! ## Cells -/

/-- The text of a cell is four characters: two digits, and a mark on both sides. -/
lemma Tape.readCells?_cellText (marked : Bool) (v : UInt8) (text : List Char) :
    readCells? ((cellText marked v).toList ++ text) =
      (readCells? text).map ((v, marked) :: ·) := by
  have hlength : (Hex.upper 2 v.toNat).length = 2 :=
    Hex.length_upper ((Nat.length_toDigits_le_iff (by decide) (by decide)).2 v.toNat_lt)
  obtain ⟨high, low, hdigits⟩ := List.length_eq_two.1 hlength
  have hnumber : Hex.number? [high, low] = some v.toNat := hdigits ▸ Hex.number?_upper 2 v.toNat
  have hrow {before after : Char} (hmark : mark? before after = some marked) :
      readCells? ([before, high, low, after] ++ text) =
        (readCells? text).map ((v, marked) :: ·) := by
    show readCells? (before :: high :: low :: after :: text) = _
    rw [readCells?, hnumber, hmark]
    cases readCells? text <;> simp
  cases marked with
  | false =>
    have hchars : (cellText false v).toList = [' ', high, low, ' '] := by simp [cellText, hdigits]
    rw [hchars, hrow rfl]
  | true =>
    have hchars : (cellText true v).toList = ['[', high, low, ']'] := by simp [cellText, hdigits]
    rw [hchars, hrow rfl]

/-- A row of cells is read back. -/
lemma Tape.readCells?_join (cells : List (UInt8 × Bool)) :
    readCells? (String.join (cells.map fun (v, marked) => cellText marked v)).toList =
      some cells := by
  induction cells with
  | nil => rfl
  | cons cell cells ih =>
    rw [List.map_cons, String.join_cons, String.toList_append, readCells?_cellText, ih]
    rfl

/-- A row of values from an index on, in which the cell of an index is marked. -/
def markedCells (base pointer : ℕ) (vs : List UInt8) : List (UInt8 × Bool) :=
  (vs.zipIdx base).map fun (v, i) => (v, i == pointer)

/-- The cells of a window are those of the tape from its base on and before its end. -/
lemma Tape.window_eq (t : Tape) (start length : ℤ) :
    t.window start length =
      ((t.cells.take (min (start + length) t.length).toNat).drop start.toNat).zipIdx
        start.toNat := by
  rw [window, windowBase]
  generalize (min (start + length) (t.length : ℤ)).toNat = stop
  refine List.ext_getElem? fun k => ?_
  rw [List.getElem?_take, List.getElem?_drop, List.getElem?_zipIdx, List.getElem?_zipIdx,
    List.getElem?_drop, List.getElem?_take, Nat.zero_add]
  by_cases hk : k < stop - start.toNat
  · rw [if_pos hk, if_pos (by omega)]
  · rw [if_neg hk, if_neg (by omega)]
    rfl

/-- **Dumps are read back**, for every window. -/
lemma Tape.ofText?_dump (t : Tape) (start length : ℤ) :
    Dump.ofText? (t.dump start length).toList =
      some ⟨start.toNat, markedCells start.toNat t.pointer
        ((t.cells.take (min (start + length) t.length).toNat).drop start.toNat)⟩ := by
  let cells := markedCells start.toNat t.pointer
    ((t.cells.take (min (start + length) t.length).toNat).drop start.toNat)
  have htext : (t.dump start length).toList = "".toList ++ (Hex.upper 4 start.toNat ++ ':' ::
      ([' '] ++ (String.join (cells.map fun (v, marked) => cellText marked v)).toList)) := by
    have hcells : ((t.window start length).map fun (v, i) => cellText (i == t.pointer) v) =
        cells.map fun (v, marked) => cellText marked v := by
      simp only [window_eq, cells, markedCells, List.map_map, Function.comp_def]
    rw [dump, hcells, String.toList_append, String.toList_append, String.toList_ofList,
      List.append_assoc]
    rfl
  rw [Dump.ofText?, htext, field?_append (Hex.colon_not_mem_upper _ _)]
  simp only [Option.bind_eq_bind, Option.bind_some, isPrefixOf?_append, Hex.number?_upper,
    readCells?_join]
  rfl

/-! ## Marks -/

lemma markedCells_cons (base pointer : ℕ) (v : UInt8) (vs : List UInt8) :
    markedCells base pointer (v :: vs) =
      (v, base == pointer) :: markedCells (base + 1) pointer vs := by
  rw [markedCells, List.zipIdx_cons]
  rfl

lemma map_fst_markedCells (base pointer : ℕ) (vs : List UInt8) :
    (markedCells base pointer vs).map Prod.fst = vs := by
  rw [markedCells, List.map_map]
  exact List.zipIdx_map_fst base vs

lemma getElem?_markedCells (base pointer : ℕ) (vs : List UInt8) (k : ℕ) :
    (markedCells base pointer vs)[k]? = vs[k]?.map fun v => (v, base + k == pointer) := by
  rw [markedCells, List.getElem?_map, List.getElem?_zipIdx, Option.map_map]
  rfl

/-- **One cell is marked if the pointer is among them**, and none if not. -/
lemma countP_markedCells (base pointer : ℕ) (vs : List UInt8) :
    (markedCells base pointer vs).countP (·.2) =
      if base ≤ pointer ∧ pointer < base + vs.length then 1 else 0 := by
  induction vs generalizing base with
  | nil => simp [markedCells]
  | cons v vs ih =>
    rw [markedCells_cons, List.countP_cons, ih, List.length_cons]
    by_cases hbase : base = pointer
    · have hlt : ¬pointer + 1 ≤ pointer := by omega
      simp [hbase, hlt]
    · simp only [hbase, beq_iff_eq, if_false, Nat.add_zero]
      grind

/-- The first marked cell is that of the pointer. -/
lemma findIdx?_markedCells (base pointer : ℕ) (vs : List UInt8) :
    ((markedCells base pointer vs).findIdx? (·.2)).map (base + ·) =
      if base ≤ pointer ∧ pointer < base + vs.length then some pointer else none := by
  induction vs generalizing base with
  | nil => simp [markedCells]
  | cons v vs ih =>
    rw [markedCells_cons, List.findIdx?_cons, List.length_cons]
    by_cases hbase : base = pointer
    · simp [hbase]
    · have hshift : (fun i => base + (i + 1)) = (base + 1 + ·) := by
        funext i
        omega
      simp only [hbase, beq_iff_eq, if_false, Option.map_map, Function.comp_def, hshift, ih]
      grind

/-! ## Windows -/

/-- The pointer is among the cells of a window exactly if it is in the window. -/
lemma Tape.pointer_mem_window_iff (t : Tape) (start length : ℤ) :
    start.toNat ≤ t.pointer ∧ t.pointer < start.toNat +
        ((t.cells.take (min (start + length) t.length).toNat).drop start.toNat).length ↔
      max start 0 ≤ t.pointer ∧ t.pointer < min (start + length) t.length := by
  rw [List.length_drop, List.length_take, length_cells]
  omega

/-- The dump of a whole tape shows all of its cells. -/
lemma Tape.ofText?_dump_length (t : Tape) :
    Dump.ofText? (t.dump 0 t.length).toList = some ⟨0, markedCells 0 t.pointer t.cells⟩ := by
  have hstop : (min (0 + (t.length : ℤ)) t.length).toNat = t.cells.length := by
    rw [length_cells]
    omega
  rw [ofText?_dump, hstop, List.take_length]
  rfl

/-- The pointer of a tape can be read from its cells if they are marked. -/
lemma Tape.findIdx?_markedCells_cells (t : Tape) :
    ((markedCells 0 t.pointer t.cells).findIdx? (·.2)).map (0 + ·) = some t.pointer := by
  rw [findIdx?_markedCells, length_cells, Nat.zero_add,
    if_pos ⟨Nat.zero_le _, t.pointer_lt_length⟩]

/-- **The dump of a whole tape determines the tape.** -/
lemma Tape.dump_inj (t u : Tape) :
    t.dump 0 t.length = u.dump 0 u.length ↔ t.cells = u.cells ∧ t.pointer = u.pointer := by
  constructor
  · intro h
    have hread := t.ofText?_dump_length
    rw [h, ofText?_dump_length] at hread
    have hmarked : markedCells 0 u.pointer u.cells = markedCells 0 t.pointer t.cells :=
      congrArg Dump.cells (Option.some.inj hread)
    have hcells := congrArg (List.map Prod.fst) hmarked
    rw [map_fst_markedCells, map_fst_markedCells] at hcells
    have hpointer := t.findIdx?_markedCells_cells
    rw [← hmarked, findIdx?_markedCells_cells] at hpointer
    exact ⟨hcells.symm, (Option.some.inj hpointer).symm⟩
  · rintro ⟨hcells, hpointer⟩
    rw [ext_cells_pointer hcells hpointer]

/-- **The dump of a tape around its pointer marks the current cell**, with as many cells in front of
it as there are, but no more than eight. -/
lemma Tape.exists_ofText?_exitDump (t : Tape) :
    ∃ d, Dump.ofText? (Options.exitDump t).toList = some d ∧
      d.cells[min t.pointer 8]? = some (t.current, true) := by
  refine ⟨_, ofText?_dump _ _ _, ?_⟩
  have hlt := t.pointer_lt_length
  have hindex : (max ((t.pointer : ℤ) - 8) 0).toNat + min t.pointer 8 = t.pointer := by omega
  rw [getElem?_markedCells, hindex, List.getElem?_drop, hindex, List.getElem?_take, if_pos,
    getElem?_cells_pointer, Option.map_some, beq_self_eq_true]
  rw [dumpLength]
  omega

/-- The last record of a run is a dump of the tape that it left. -/
lemma Options.exists_closingRecords_eq {o : Options} (h : o.shows 2 = true) (s : State) :
    ∃ front, o.closingRecords s =
      front ++ ("DEBUG: Tape at exit: " ++ exitDump s.tape ++ "\n") := by
  have hexit : "DEBUG: Tape at exit: " = "DEBUG: " ++ "Tape at exit: " := rfl
  refine ⟨o.debug (finishedText s) ++ o.info ("Done: pointer at " ++ toString s.tape.pointer), ?_⟩
  rw [closingRecords, debug_of_shows h ("Tape at exit: " ++ exitDump s.tape), hexit]
  simp only [String.append_assoc, -String.reduceAppend]

/-- **What a dump shows**, for every window of every tape. The window begins at the given start, or
with the tape if that is negative, and ends before the sum of start and length, or with the tape.
From the text can be read where the window begins, what each of its cells holds, and where the
pointer is if it is in the window. One cell is marked then, and none if not.

The dump of a whole tape therefore differs from that of any other tape. Behind a run that was
successful, the last line of the standard error stream is, for those who ask for details, a dump in
which the current cell is marked, with as many cells in front of it as there are, but no more than
eight. -/
theorem dump_decodes (t : Tape) (start length : ℤ) :
    (∃ d, Dump.ofText? (t.dump start length).toList = some d ∧ (d.base : ℤ) = max start 0 ∧
      d.cells.map Prod.fst =
        (t.cells.take (min (start + length) t.length).toNat).drop (max start 0).toNat ∧
      (max start 0 ≤ t.pointer ∧ t.pointer < min (start + length) t.length →
        d.pointer? = some t.pointer ∧ d.cells.countP (·.2) = 1) ∧
      (¬(max start 0 ≤ t.pointer ∧ t.pointer < min (start + length) t.length) →
        d.pointer? = none ∧ d.cells.countP (·.2) = 0)) ∧
    (∀ u : Tape,
      t.dump 0 t.length = u.dump 0 u.length ↔ t.cells = u.cells ∧ t.pointer = u.pointer) ∧
    ∀ (host : Host) (rules : ArgumentRules) (files : Files) (arguments : List String) (o : Options)
      (input : List UInt8) (r : Report),
      readArguments rules arguments = .ok o → o.tokens = false → o.tree = false →
      o.shows 2 = true → Concludes host rules files arguments input r → r.exit = 0 →
      ∃ outcome, RunsFile host files o input outcome ∧
        let last := outcome.state.tape
        ∃ front d,
          r.stderr = front ++
            ("DEBUG: Tape at exit: " ++ last.dump (max ((last.pointer : ℤ) - 8) 0) 16 ++ "\n") ∧
          Dump.ofText? (last.dump (max ((last.pointer : ℤ) - 8) 0) 16).toList = some d ∧
          d.cells[min last.pointer 8]? = some (last.current, true) := by
  have hbase : (max start 0).toNat = start.toNat := by omega
  refine ⟨⟨_, t.ofText?_dump start length, Int.ofNat_toNat start, ?_, ?_, ?_⟩, t.dump_inj, ?_⟩
  · rw [map_fst_markedCells, hbase]
  · intro hinside
    rw [← t.pointer_mem_window_iff] at hinside
    exact ⟨(findIdx?_markedCells _ _ _).trans (if_pos hinside),
      (countP_markedCells _ _ _).trans (if_pos hinside)⟩
  · intro houtside
    rw [← t.pointer_mem_window_iff] at houtside
    exact ⟨(findIdx?_markedCells _ _ _).trans (if_neg houtside),
      (countP_markedCells _ _ _).trans (if_neg houtside)⟩
  · intro host rules files arguments o input r hread htokens htree hshows h hexit
    obtain ⟨outcome, hruns, -, -, front, hstderr⟩ := h.exists_runsFile hread htokens htree hexit
    obtain ⟨records, hrecords⟩ := Options.exists_closingRecords_eq hshows outcome.state
    obtain ⟨d, hd, hcurrent⟩ := outcome.state.tape.exists_ofText?_exitDump
    refine ⟨outcome, hruns, front ++ records, d, ?_, hd, hcurrent⟩
    rw [hstderr, hrecords, ← String.append_assoc]
    rfl

/-- The dump of a window that begins in front of a tape and ends on the second of its cells. -/
example : Tape.dump ⟨[1], 0xAB, [3]⟩ (-1) 3 = "0000:  01 [AB]" := by decide +kernel

end TapeLang
