import TapeLang.Proofs.Encoding
import TapeLang.Proofs.Endings
import TapeLang.Proofs.Nests
import TapeLang.Proofs.Performed

set_option autoImplicit false

/-!
# The text that a run writes

A run writes cells, and for each cell the bytes of the character with its number. The bytes of a
whole run are therefore those of a text, also if the run is cut off, and the cells can be read off
them: no two lists of cells are written as the same bytes. A cell is counted behind its flush, so
that a run which is cut off there has written one character more than it has counted.

## Main definitions

* `TapeLang.cellChar` — the character of a cell.
* `TapeLang.shown` — the cells that are written by commands, in order.
* `TapeLang.Host.buffered` — a host whose flush takes more frames than a write.

## Main results

* `TapeLang.decode_flatMap_cellBytes` — the bytes of cells are decoded to their characters.
* `TapeLang.flatMap_cellBytes_inj` — the bytes of cells determine the cells.
* `TapeLang.Line.output` — commands write the bytes of the cells that they show, and count them.
* `TapeLang.run_output_decodes` — the output of a run is the text of the cells that it shows.
* `TapeLang.run_output_decodes_without_room` — a character may be written and not counted.
-/

namespace TapeLang

/-- The character of a cell, whose number is the value of the cell. -/
def cellChar (v : UInt8) : Char :=
  Char.ofNat v.toNat

/-- The cell that a command has written, if it has written one. -/
def Performed.shown? (x : Performed) : Option UInt8 :=
  match x.command with
  | .output => if x.events.any Event.isWrite then some x.state.tape.current else none
  | _ => none

/-- The cells that commands have written, in order: at each output command, the current cell of its
moment. -/
def shown (xs : List Performed) : List UInt8 :=
  xs.filterMap Performed.shown?

variable {host : Host} {root : Position} {s : State} {o : Outcome} {xs : List Performed}
  {vs ws : List UInt8}

/-! ## The bytes of cells -/

/-- The number of the character of a cell is the value of the cell. -/
@[simp] lemma toNat_cellChar (v : UInt8) : (cellChar v).toNat = v.toNat := by
  have hvalid : v.toNat.isValidChar := .inl (Nat.lt_trans v.toNat_lt (by decide))
  rw [cellChar, Char.ofNat, dif_pos hvalid]
  rfl

lemma cellChar_injective : Function.Injective cellChar := by
  intro v w h
  rw [← UInt8.toNat_inj, ← toNat_cellChar, h, toNat_cellChar]

/-- Cells are written as the bytes of their text. -/
lemma flatMap_cellBytes (vs : List UInt8) :
    vs.flatMap cellBytes = Utf8.encode (String.ofList (vs.map cellChar)) := by
  rw [Utf8.encode, String.toList_ofList, List.flatMap_map]
  rfl

/-- **The bytes of cells are decoded to their characters.** -/
lemma decode_flatMap_cellBytes (vs : List UInt8) :
    Utf8.decode (vs.flatMap cellBytes) = .ok (vs.map cellChar) :=
  Utf8.decode_eq_ok_iff.2 (flatMap_cellBytes vs)

/-- **The bytes of cells determine the cells.** -/
lemma flatMap_cellBytes_inj : vs.flatMap cellBytes = ws.flatMap cellBytes ↔ vs = ws := by
  refine ⟨fun h => ?_, congrArg _⟩
  have htext := decode_flatMap_cellBytes vs
  rw [h, decode_flatMap_cellBytes] at htext
  exact (List.map_inj_right fun _ _ hchar => cellChar_injective hchar).1 (Except.ok.inj htext).symm

/-- A cell takes two bytes from 128 on, and one below. -/
lemma length_cellBytes (v : UInt8) : (cellBytes v).length = 1 + if 128 ≤ v then 1 else 0 := by
  have hlt := v.toNat_lt
  show (String.utf8EncodeChar (cellChar v)).length = _
  rw [Utf8.length_utf8EncodeChar, toNat_cellChar, Utf8.tailCount]
  by_cases hv : 128 ≤ v
  · have hv' : 128 ≤ v.toNat := hv
    rw [if_neg (by omega), if_pos (by omega), if_pos hv]
  · have hv' : ¬128 ≤ v.toNat := hv
    rw [if_pos (by omega), if_neg hv]

/-- The number of bytes of cells. -/
lemma length_flatMap_cellBytes (vs : List UInt8) :
    (vs.flatMap cellBytes).length = vs.length + vs.countP (128 ≤ ·) := by
  induction vs with
  | nil => rfl
  | cons v vs ih =>
    rw [List.flatMap_cons, List.length_append, ih, length_cellBytes, List.length_cons,
      List.countP_cons]
    simp only [decide_eq_true_eq]
    omega

/-! ## Runs -/

lemma shown_cons (x : Performed) (xs : List Performed) :
    shown (x :: xs) = x.shown?.toList ++ shown xs := by
  cases h : x.shown? <;> simp [shown, h]

/-- One command shows the cell that it has written. -/
@[simp] lemma shown_singleton (x : Performed) : shown [x] = x.shown?.toList := by
  rw [shown_cons, shown, List.filterMap_nil, List.append_nil]

/-- The events of a command write the bytes of the cell that it shows. -/
lemma Performed.output_emitted (s : State) (host : Host) (c : Command) (pos : Position) :
    Event.output (s.emitted host c) =
        (⟨s, c, pos, s.emitted host c⟩ : Performed).shown?.toList.flatMap cellBytes ∧
      Event.writeCount (s.emitted host c) =
        (⟨s, c, pos, s.emitted host c⟩ : Performed).shown?.toList.length := by
  cases c with
  | moveRight | moveLeft | increment | decrement => exact ⟨rfl, rfl⟩
  | output =>
    cases hf : host.flush <;>
      simp [State.emitted, hf, shown?, Event.output, Event.written, Event.writeCount,
        Event.isWrite, List.countP_cons]
  | input =>
    cases hp : host.prompt <;>
      simp [State.emitted, hp, shown?, Event.output, Event.written, Event.writeCount, Event.isWrite]

/-- A command shows no cell if its events write none. -/
lemma Performed.shown?_eq_none {x : Performed} (h : Event.writeCount x.events = 0) :
    x.shown? = none := by
  obtain ⟨s, c, pos, events⟩ := x
  cases c with
  | output => simpa [shown?, Event.writeCount, List.countP_eq_zero] using h
  | moveRight | moveLeft | increment | decrement | input => rfl

/-- Events that write no cell write nothing. -/
lemma Event.output_eq_nil {events : List Event} (h : writeCount events = 0) :
    output events = [] := by
  rw [writeCount, List.countP_eq_zero] at h
  rw [output, List.flatMap_eq_nil_iff]
  intro e he
  cases e with
  | write bytes => exact absurd rfl (h _ he)
  | read byte | flush | prompt n | promptFlush => rfl

/-- A command that is cut off behind a write is an output command. -/
lemma Performed.eq_output_of_cutOff? {room : ℕ} {c : Command} {pos : Position} {t : State}
    {bytes : List UInt8} (hcut : s.cutOff? host room (.command c pos) = some t)
    (hbegun : t.events = s.events ++ [.write bytes]) : c = .output := by
  by_contra hc
  obtain ⟨begun, hbegun', hfirst, -⟩ := (State.within_of_cutOff? hcut).exists_events
  obtain rfl := List.append_cancel_left (hbegun.symm.trans hbegun')
  have hle : Event.writeCount [.write bytes] ≤
      Event.writeCount (s.emittedBy host (.command c pos)) := hfirst.sublist.countP_le
  rw [State.writeCount_emittedBy fun pos' heq => hc (Node.command.inj heq).1] at hle
  exact absurd hle (by simp [Event.writeCount, Event.isWrite])

/-- A line writes the bytes of the cells that it shows, and counts them. Only a last cell that could
not be flushed is not counted. -/
lemma Line.output (h : Line host root s xs o) :
    o.state.output = s.output ++ (shown xs).flatMap cellBytes ∧
      (o.state.writes = s.writes + (shown xs).length ∨
        ¬host.FlushesWrites ∧ o.error = some (.nestingDepth root) ∧
          o.state.writes + 1 = s.writes + (shown xs).length) := by
  induction h with
  | stop _ => simp [shown]
  | @next c pos s xs o _ _ ih =>
    obtain ⟨hout, hcount⟩ := Performed.output_emitted s host c pos
    have hwrites := (s.counters_perform host c pos).2
    rw [shown_cons, List.flatMap_append, List.length_append, ih.1, ← hout, ← hcount]
    refine ⟨?_, ih.2.imp ?_ ?_⟩
    · rw [State.output, s.events_perform, Event.output_append, List.append_assoc]
      rfl
    · omega
    · rintro ⟨hflush, herr, hlast⟩
      exact ⟨hflush, herr, by omega⟩
  | @fail c pos s e _ =>
    obtain ⟨hout, hcount⟩ := Performed.output_emitted s host c pos
    have hwrites := (s.counters_perform host c pos).2
    rw [shown_singleton, ← hout, ← hcount]
    refine ⟨?_, .inl hwrites⟩
    rw [State.output, s.events_perform, Event.output_append]
    rfl
  | @cutOff room c pos s t begun hcut hbegun =>
    have hwrites := (State.within_of_cutOff? hcut).writes
    rw [shown_singleton]
    rcases State.write_cases_of_cutOff? hcut with hnone | ⟨rfl, hwrite, hflush⟩
    · have hcount := hnone begun hbegun
      rw [Performed.shown?_eq_none hcount, State.output, hbegun, Event.output_append,
        Event.output_eq_nil hcount]
      exact ⟨rfl, .inl hwrites⟩
    · obtain rfl : begun = [.write (cellBytes s.tape.current)] :=
        List.append_cancel_left (hbegun.symm.trans (by simp [State.log, State.events]))
      obtain rfl := Performed.eq_output_of_cutOff? hcut hbegun
      refine ⟨?_, .inr ⟨fun hall => ?_, rfl, rfl⟩⟩
      · rw [State.output, hbegun, Event.output_append]
        rfl
      · exact absurd (Nat.lt_of_lt_of_le hflush (hall _ _ _)) (Nat.not_lt.2 hwrite)

/-- **A program writes the bytes of the cells that it shows**, and counts them, but for a last cell
that could not be flushed. -/
lemma State.PerformsTo.output {p : Program} (h : s.PerformsTo host p xs o) :
    o.state.output = s.output ++ (shown xs).flatMap cellBytes ∧
      (o.state.writes = (shown xs).length ∨
        ¬host.FlushesWrites ∧ o.error = some (.nestingDepth p.root) ∧
          o.state.writes + 1 = (shown xs).length) := by
  obtain ⟨hout, hwrites⟩ := h.line.output
  exact ⟨hout, by simpa [State.clearCounters] using hwrites⟩

/-- **The output of a run is the text of the cells that it shows, in UTF-8.** Whether the run fails
or not, its bytes are decoded to one character for each output command that has written, in order,
and the number of the character is the value of the current cell at that moment. Each character
takes one byte, and one more if the cell is 128 or greater. Two runs write the same bytes exactly if
they show the same cells, whatever else they do. The counter counts the characters. It leaves out
the last one only if a run is cut off between the write and the flush, which cannot happen if a
flush takes no more frames than a write, nor if 801 loops are nested.

**Proof sketch.** The events of the run are those of its commands, and these write the bytes of the
cells that are shown. Decoding undoes the encoding of each character, and so the bytes determine the
cells. -/
theorem run_output_decodes (host : Host) (p : Program) (s : State) (o : Outcome)
    (h : s.RunsTo host p o) :
    (∃ bytes, o.state.output = s.output ++ bytes ∧
      (∃ xs, s.PerformsTo host p xs o) ∧
      ∀ xs, s.PerformsTo host p xs o →
        (∃ text, Utf8.decode bytes = .ok text ∧ bytes = Utf8.encode (String.ofList text) ∧
          text.map Char.toNat = (shown xs).map UInt8.toNat ∧
          (text.length = o.state.writes ∨
            ¬host.FlushesWrites ∧ o.error = some (.nestingDepth p.root) ∧
              text.length = o.state.writes + 1) ∧
          bytes.length = text.length + (shown xs).countP (128 ≤ ·)) ∧
        ∀ (host' : Host) (p' : Program) (s' : State) (o' : Outcome)
          (bytes' : List UInt8) (xs' : List Performed), s'.PerformsTo host' p' xs' o' →
          o'.state.output = s'.output ++ bytes' → (bytes = bytes' ↔ shown xs = shown xs')) ∧
    (nesting p.body ≤ 801 → o.error ≠ some (.nestingDepth p.root)) := by
  obtain ⟨xs₀, hxs₀⟩ := State.runsTo_iff_exists_performsTo.1 h
  refine ⟨⟨(shown xs₀).flatMap cellBytes, hxs₀.output.1, ⟨xs₀, hxs₀⟩, fun xs hxs => ?_⟩,
    fun hn => h.ne_nestingDepth hn _⟩
  obtain ⟨hout, hwrites⟩ := hxs.output
  have hbytes : (shown xs₀).flatMap cellBytes = (shown xs).flatMap cellBytes :=
    List.append_cancel_left (hxs₀.output.1.symm.trans hout)
  rw [hbytes]
  refine ⟨⟨(shown xs).map cellChar, decode_flatMap_cellBytes _, flatMap_cellBytes _, ?_, ?_, ?_⟩,
    ?_⟩
  · rw [List.map_map]
    exact List.map_congr_left fun v _ => toNat_cellChar v
  · rw [List.length_map]
    exact hwrites.imp Eq.symm fun ⟨hflush, herr, hlast⟩ => ⟨hflush, herr, hlast.symm⟩
  · rw [List.length_map, length_flatMap_cellBytes]
  · intro host' p' s' o' bytes' xs' hxs' hout'
    obtain rfl : bytes' = (shown xs').flatMap cellBytes :=
      List.append_cancel_left (hout'.symm.trans hxs'.output.1)
    exact flatMap_cellBytes_inj

/-- A program that shows two bytes of its input and asks for a third one that is not there. What it
has written by then is a text of two characters, in three bytes. -/
theorem run_output_decodes_cut_off :
    let echo : List Node := [.command .input ⟨1, 3⟩, .command .output ⟨1, 4⟩]
    let p : Program := ⟨.start, [.command .increment ⟨1, 1⟩, .loop ⟨1, 2⟩ echo]⟩
    let s : State := { tape := ⟨[], 0, []⟩, input := [200, 65] }
    let bytes : List UInt8 := [195, 136, 65]
    ∃ o xs, s.RunsTo .usual p o ∧ o.error = some (.inputExhausted ⟨1, 3⟩ 2) ∧
      o.state.output = bytes ∧ s.PerformsTo .usual p xs o ∧ Utf8.decode bytes = .ok ['È', 'A'] ∧
      shown xs = [200, 65] ∧ o.state.writes = 2 ∧ bytes.length = 2 + (shown xs).countP (128 ≤ ·) ∧
      nesting p.body ≤ 801 ∧ o.error ≠ some (.nestingDepth .start) := by
  intro echo p s bytes
  let events : List Event := [.read (some 200), .write [195, 136], .flush, .read (some 65),
    .write [65], .flush, .read none]
  let o : Outcome :=
    ⟨{ tape := ⟨[], 65, []⟩, reads := 2, writes := 2, trace := events.reverse },
      some (.inputExhausted ⟨1, 3⟩ 2)⟩
  have h : s.RunsTo .usual p o := ⟨9, by decide +kernel⟩
  have hn : nesting p.body ≤ 801 := by decide +kernel
  obtain ⟨⟨bytes', hout, ⟨xs, hxs⟩, hall⟩, hdepth⟩ := run_output_decodes .usual p s o h
  obtain rfl : bytes' = bytes := hout.symm
  obtain ⟨⟨text, htext, -, hvalues, -, hlength⟩, -⟩ := hall xs hxs
  have hchars : Utf8.decode bytes = .ok ['È', 'A'] :=
    Utf8.decode_eq_ok_iff.2 (by decide +kernel)
  obtain rfl : text = ['È', 'A'] := Except.ok.inj (htext.symm.trans hchars)
  have hshown : shown xs = [200, 65] :=
    (List.map_inj_right fun _ _ hv => UInt8.toNat_inj.1 hv).1 hvalues.symm
  exact ⟨o, xs, h, rfl, rfl, hxs, hchars, hshown, rfl, hlength, hn, hdepth hn⟩

/-- A host that buffers its output, so that a flush takes more frames than a write. -/
def Host.buffered : Host :=
  { Host.usual with
    frames := fun call _ _ => if call = .flush then 3 else call.usualFrames
    frames_test_pos := fun _ _ => by decide
    frames_le_room := fun call _ _ => by cases call <;> decide }

/-- An output command inside of 994 loops of a host that buffers its output. There is room for the
write and not for the flush, so that a character is written and not counted. -/
theorem run_output_decodes_without_room :
    let p : Program := ⟨.start, .command .increment .start :: nest 994 [.command .output .start]⟩
    let s : State := { tape := ⟨[], 0, []⟩ }
    let o : Outcome :=
      ⟨{ tape := ⟨[], 1, []⟩, trace := [.write [1]] }, some (.nestingDepth .start)⟩
    s.RunsTo .buffered p o ∧ o.state.output = [1] ∧ Utf8.decode [1] = .ok [Char.ofNat 1] ∧
      [Char.ofNat 1].length ≠ o.state.writes := by
  intro p s o
  have hinside : Runs .buffered .start 2 [.command .output .start] { tape := ⟨[], 1, []⟩ } o :=
    .cutOff rfl
  exact ⟨State.runsTo_iff.2 (.command rfl rfl (hinside.nest_broken (by decide) (by decide) 994)),
    rfl, Utf8.decode_eq_ok_iff.2 rfl, by decide⟩

end TapeLang
