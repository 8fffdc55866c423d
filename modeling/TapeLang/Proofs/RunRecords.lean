import TapeLang.Proofs.NodeTexts
import TapeLang.Proofs.OutputText
import TapeLang.Proofs.StageReports

set_option autoImplicit false

/-!
# The records of a finished run

A program that runs to its end without an error leaves three records behind everything else on the
standard error stream: two counters and the pointer, the pointer once more, and a part of the tape.
The first counter is said to be that of the bytes that were written, but it counts the cells that
were, each of them once. A cell takes two bytes from 128 on.

## Main definitions

* `TapeLang.RunsFile` — the program of a file runs to an outcome.
* `TapeLang.runRecords`, `TapeLang.Report.RecordsRun` — the records of a run, and that a report ends
  with them.

## Main results

* `TapeLang.Concludes.exists_runsFile` — behind a successful report there is a run that came to its
  end, and its records close the log.
* `TapeLang.concludes_recordsRun` — what the records of a run show.
-/

namespace TapeLang

/-- The records of a run that left a tape: the counters of what it wrote and read, the pointer, and
a part of the tape. -/
def runRecords (written read : ℕ) (t : Tape) : String :=
  "DEBUG: Run finished: " ++ toString written ++
    (" bytes out, " ++ toString read ++ " bytes in, pointer at " ++ toString t.pointer ++ "\n" ++
      "INFO: Done: pointer at " ++ toString t.pointer ++ "\n" ++
      "DEBUG: Tape at exit: " ++ Options.exitDump t ++ "\n")

/-- The program of a file runs to an outcome: the file holds its text, the options lay out its tape,
and the run comes to an end. -/
def RunsFile (host : Host) (files : Files) (o : Options) (input : List UInt8) (outcome : Outcome) :
    Prop :=
  ∃ source layout fuel, Holds files o.input source ∧ o.Lays layout ∧
    runText (o.connect host) fuel source layout input = .ok (some outcome)

/-- A report ends with the records of a run. -/
def Report.RecordsRun (r : Report) (written read : ℕ) (t : Tape) : Prop :=
  ∃ front, r.stderr = front ++ runRecords written read t

variable {host : Host} {rules : ArgumentRules} {files : Files} {o : Options}
  {arguments : List String} {input : List UInt8} {r : Report} {layout : Layout} {tape : Tape}
  {outcome : Outcome} {log : Log}

/-! ## The log goes on -/

@[simp] lemma Log.ended_write (log : Log) (text : String) : (log.write text).ended = log.ended := by
  cases h : log.ended <;> simp [Log.write, h]

lemma Log.text_write (h : log.ended = false) (text : String) :
    (log.write text).text = log.text ++ text := by
  simp [Log.write, h]

/-- The numbers of a tape that is allocated can be written: its cells can be numbered. -/
lemma isWritable_of_allocate {storage : ℕ} (h : Tape.allocate storage layout = .ok tape) :
    layout.isWritable = true := by
  have hlength : layout.length ≤ Tape.addressLimit := by
    by_contra hlt
    rw [Tape.allocate, if_pos (Nat.lt_of_not_le hlt)] at h
    cases h
  have hlimit (m : ℕ) (hm : 19 ≤ m) : Tape.addressLimit < Nat.pow 10 m :=
    Nat.lt_of_lt_of_le (by decide : Tape.addressLimit < 10 ^ 19)
      (Nat.pow_le_pow_right (by decide) hm)
  have hwritable (n : ℕ) (hn : n ≤ layout.length) : isWritable n = true :=
    decide_eq_true (Nat.lt_of_le_of_lt (Nat.le_trans hn hlength) (hlimit _ (by decide)))
  rw [Layout.isWritable, Bool.and_eq_true]
  exact ⟨hwritable _ (Nat.le_refl _), hwritable _ (Nat.le_of_lt layout.start_lt)⟩

/-- No trace ends the log before the run of a program. -/
lemma Options.ended_runLog (o : Options) (source : String) (p : Program)
    (h : layout.isWritable = true) : (o.runLog source layout p).ended = false := by
  rw [runLog, programLog, textLog, openingLog]
  simp [h, Log.empty]

/-! ## Finished runs -/

lemma RunsFile.unique {outcome' : Outcome} (h : RunsFile host files o input outcome)
    (h' : RunsFile host files o input outcome') : outcome = outcome' := by
  obtain ⟨source, layout, fuel, hholds, hlays, hrun⟩ := h
  obtain ⟨source', layout', fuel', hholds', hlays', hrun'⟩ := h'
  obtain rfl := hholds.unique hholds'
  obtain rfl := hlays.unique hlays'
  exact runText_unique hrun hrun'

/-- **Behind a successful report there is a run that came to its end**, and its records close the
log. -/
lemma Concludes.exists_runsFile (h : Concludes host rules files arguments input r)
    (hread : readArguments rules arguments = .ok o) (htokens : o.tokens = false)
    (htree : o.tree = false) (hexit : r.exit = 0) :
    ∃ outcome, RunsFile host files o input outcome ∧ outcome.error = none ∧
      r.stdout = outcome.state.output ∧
      ∃ front, r.stderr = front ++ o.closingRecords outcome.state := by
  obtain ⟨fuel, h⟩ := h
  rw [commandLine_of_ok hread] at h
  obtain ⟨early, ⟨stage, _, _, _, hstage, _⟩, hreport⟩ |
    ⟨source, layout, p, tape, hholds, hlays, hparse, hallocate, -⟩ :=
    report_cases htokens htree host files input
  · obtain rfl := Option.some.inj ((hreport fuel).symm.trans h)
    rw [hexit] at hstage
    cases stage <;> cases hstage
  · rw [Options.report_of_ok (readSource_eq_ok_iff.2 hholds) (layout_eq_ok_iff.2 hlays),
      Options.reportSource_of_run htokens htree hparse hallocate] at h
    obtain ⟨outcome, hrun, rfl⟩ := Option.map_eq_some_iff.1 h
    have hruns : (State.mk tape input 0 0 []).RunsTo (o.connect host) p outcome := ⟨fuel, hrun⟩
    have hnone : outcome.error = none := by
      cases herror : outcome.error with
      | none => rfl
      | some e =>
        rw [exit_reportOutcome_of_some o _ herror fun kind he =>
          hruns.ne_unknownNode hparse kind (he ▸ herror)] at hexit
        cases hexit
    have htext : runText (o.connect host) fuel source layout input = .ok (some outcome) :=
      runText_connect_eq_ok_some_iff.2 ⟨p, tape, hparse, hallocate, hrun⟩
    refine ⟨outcome, ⟨source, layout, fuel, hholds, hlays, htext⟩, hnone,
      stdout_reportOutcome _ _ _, (o.runLog source layout p).text ++ outcome.state.prompts, ?_⟩
    have hended := o.ended_runLog source p (isWritable_of_allocate hallocate)
    rw [Options.reportOutcome, hnone, Log.text_write (by rw [Log.ended_write, hended]),
      Log.text_write hended]

/-! ## Counters and bytes -/

/-- A report does not end with the records of two runs that wrote differently, but read the same
number of bytes and left the same tape. -/
lemma Report.RecordsRun.written_unique {written written' read : ℕ}
    (h : r.RecordsRun written read tape) (h' : r.RecordsRun written' read tape) :
    written = written' := by
  obtain ⟨front, hfront⟩ := h
  obtain ⟨front', hfront'⟩ := h'
  obtain ⟨behind, hbehind⟩ : ∃ behind, ∀ n,
      runRecords n read tape = "DEBUG: Run finished: " ++ toString n ++ behind :=
    ⟨_, fun _ => rfl⟩
  have hends : front.toList ++ "DEBUG: Run finished: ".toList ++ (toString written).toList =
      front'.toList ++ "DEBUG: Run finished: ".toList ++ (toString written').toList := by
    have htext := congrArg String.toList (hfront.symm.trans hfront')
    rw [hbehind, hbehind] at htext
    simpa only [String.toList_append, ← List.append_assoc, List.append_cancel_right_eq] using htext
  -- from the end, the counter goes to the first blank
  have hlead : "DEBUG: Run finished: ".toList = "DEBUG: Run finished:".toList ++ [' '] := rfl
  have hblank (n : ℕ) : ' ' ∉ (toString n).toList.reverse := by
    rw [List.mem_reverse]
    exact not_mem_toString n (by decide) (by decide)
  have hreverse := congrArg List.reverse hends
  rw [hlead] at hreverse
  simp only [List.reverse_append, List.reverse_singleton] at hreverse
  simp only [List.singleton_append] at hreverse
  obtain ⟨hdigits, -⟩ := append_cons_inj_of_not_mem (hblank written) (hblank written') hreverse
  have hread (n : ℕ) : integer? (toString n).toList = some (n : ℤ) := integer?_toString n
  have hnumber := congrArg integer? (List.reverse_inj.1 hdigits)
  rw [hread, hread, Option.some.injEq, Int.natCast_inj] at hnumber
  exact hnumber

/-- Details are shown, and so is the course of events. -/
lemma Options.shows_one (h : o.shows 2 = true) : o.shows 1 = true := by
  simp only [shows, Bool.and_eq_true, decide_eq_true_eq] at h ⊢
  exact ⟨h.1, by omega⟩

lemma Options.debug_of_shows (h : o.shows 2 = true) (text : String) :
    o.debug text = "DEBUG: " ++ text ++ "\n" :=
  if_pos h

lemma Options.info_of_shows (h : o.shows 1 = true) (text : String) :
    o.info text = "INFO: " ++ text ++ "\n" :=
  if_pos h

/-- The records after a run, for those who ask for details. -/
lemma Options.closingRecords_of_shows (h : o.shows 2 = true) (s : State) :
    o.closingRecords s = runRecords s.writes s.reads s.tape := by
  have htext : finishedText s = "Run finished: " ++ toString s.writes ++ " bytes out, " ++
      toString s.reads ++ " bytes in, pointer at " ++ toString s.tape.pointer := rfl
  have hfinished : "DEBUG: Run finished: " = "DEBUG: " ++ "Run finished: " := rfl
  have hdone : "INFO: Done: pointer at " = "INFO: " ++ "Done: pointer at " := rfl
  have hexit : "DEBUG: Tape at exit: " = "DEBUG: " ++ "Tape at exit: " := rfl
  delta runRecords
  rw [closingRecords, debug_of_shows h, debug_of_shows h, info_of_shows (shows_one h), htext,
    hfinished, hdone, hexit]
  simp only [String.append_assoc, -String.reduceAppend]

/-- **The counters of a run without an error count the cells that it wrote and the bytes that it
read**, and no byte of the input is lost. -/
lemma RunsFile.counters (h : RunsFile host files o input outcome) (hnone : outcome.error = none) :
    (∃ vs : List UInt8, outcome.state.output = vs.flatMap cellBytes ∧
        outcome.state.writes = vs.length) ∧
      outcome.state.reads = outcome.state.consumed.length ∧
      outcome.state.consumed ++ outcome.state.input = input := by
  obtain ⟨source, layout, fuel, -, -, hrun⟩ := h
  obtain ⟨p, tape, -, -, hrun⟩ := runText_eq_ok_some_iff.1 hrun
  have hne : outcome.error ≠ some (.nestingDepth p.root) := by
    rw [hnone]
    simp
  obtain ⟨xs, hxs⟩ := State.runsTo_iff_exists_performsTo.1 ⟨fuel, hrun⟩
  obtain ⟨hout, hwrites⟩ := hxs.output
  obtain ⟨hinput, new, hnew, htallies⟩ := hxs.runs.goesOn_of_ne (State.tallies_clearCounters _) hne
  refine ⟨⟨shown xs, hout, hwrites.resolve_right fun hcut => hne hcut.2.1⟩, ?_, hinput⟩
  rw [htallies.reads, State.consumed, hnew, List.nil_append, Event.length_input]
  rfl

/-- The bytes of cells are as many as their characters, and one more for each that is not ASCII. -/
lemma length_flatMap_cellBytes_eq_text (vs : List UInt8) :
    (vs.flatMap cellBytes).length =
      (vs.map cellChar).length + (vs.map cellChar).countP (0x80 ≤ ·.toNat) := by
  have hcell (v : UInt8) : decide (0x80 ≤ (cellChar v).toNat) = decide (128 ≤ v) := by
    rw [toNat_cellChar]
    exact decide_eq_decide.2 Iff.rfl
  simp only [length_flatMap_cellBytes, List.length_map, List.countP_map, Function.comp_def, hcell]

/-- **What the records of a run show.** If a command line asks for details and its program runs to
the end without an error, the last lines of the standard error stream are the records of this run.
The pointer is that of the tape that is left. The number of bytes that were read is right. The
number of bytes that were written is that of the characters that were: it is right exactly if all of
them are ASCII, and otherwise too small by one for each of the others. -/
theorem concludes_recordsRun (host : Host) (rules : ArgumentRules) (files : Files)
    (arguments : List String) (o : Options) (input : List UInt8) (r : Report)
    (hread : readArguments rules arguments = .ok o)
    (htokens : o.tokens = false) (htree : o.tree = false) (hshows : o.shows 2 = true)
    (h : Concludes host rules files arguments input r) (hexit : r.exit = 0) :
    ∃ outcome, RunsFile host files o input outcome ∧ outcome.error = none ∧
      r.stdout = outcome.state.output ∧
      input = outcome.state.consumed ++ outcome.state.input ∧
      ∃ text, Utf8.decode r.stdout = .ok text ∧
        r.RecordsRun text.length outcome.state.consumed.length outcome.state.tape ∧
        r.stdout.length = text.length + text.countP (0x80 ≤ ·.toNat) ∧
        (text.length = r.stdout.length ↔ ∀ c ∈ text, c.toNat < 0x80) := by
  obtain ⟨outcome, hruns, hnone, hstdout, front, hstderr⟩ :=
    h.exists_runsFile hread htokens htree hexit
  obtain ⟨⟨vs, hout, hwrites⟩, hreads, hinput⟩ := hruns.counters hnone
  have hbytes : r.stdout = vs.flatMap cellBytes := hstdout.trans hout
  have hlength : r.stdout.length =
      (vs.map cellChar).length + (vs.map cellChar).countP (0x80 ≤ ·.toNat) := by
    rw [hbytes, length_flatMap_cellBytes_eq_text]
  refine ⟨outcome, hruns, hnone, hstdout, hinput.symm, vs.map cellChar, ?_, ⟨front, ?_⟩, hlength,
    ?_⟩
  · rw [hbytes, decode_flatMap_cellBytes]
  · rw [hstderr, Options.closingRecords_of_shows hshows, hwrites, hreads, List.length_map]
  · rw [hlength, Nat.left_eq_add, List.countP_eq_zero]
    simp only [decide_eq_true_eq, Nat.not_le]

/-- A program that writes the letter which it reads: one character, in one byte. -/
theorem concludes_recordsRun_letter :
    let rules : ArgumentRules := ⟨false, true⟩
    let files : Files := fun _ => some (.regular [0x2C, 0x2E])
    let arguments := ["echo", "-vv", "--tape-length", "1"]
    ∃ r, Concludes .usual rules files arguments [65, 66] r ∧ r.exit = 0 ∧ r.stdout = [65] ∧
      r.RecordsRun 1 1 ⟨[], 65, []⟩ := by
  intro rules files arguments
  have hread : readArguments rules arguments =
      .ok { input := "echo", verbosity := 2, tapeLength := some "1" } := by decide +kernel
  have hreport :
      (commandLine .usual rules 5 files arguments [65, 66]).map (fun r => (r.exit, r.stdout)) =
        some (0, [65]) := by decide +kernel
  obtain ⟨r, hr, hboth⟩ := Option.map_eq_some_iff.1 hreport
  obtain ⟨hexit, hstdout⟩ := Prod.mk.inj hboth
  have h : Concludes .usual rules files arguments [65, 66] r := ⟨5, hr⟩
  obtain ⟨outcome, hruns, -, -, -, text, hdecode, hrecords, -⟩ :=
    concludes_recordsRun .usual rules files arguments _ [65, 66] r hread rfl rfl rfl h hexit
  have hrun : RunsFile .usual files
      { input := "echo", verbosity := 2, tapeLength := some "1" } [65, 66]
      ⟨{ tape := ⟨[], 65, []⟩, input := [66], reads := 1, writes := 1,
         trace := [.flush, .write [65], .read (some 65)] }, none⟩ :=
    ⟨",.", ⟨1, 0, by decide⟩, 4, ⟨[',', '.'], rfl, rfl⟩,
      ⟨.inr ⟨"1", rfl, by decide, by decide +kernel⟩, .inl ⟨.inl rfl, rfl⟩⟩, by decide +kernel⟩
  obtain rfl := hruns.unique hrun
  have htext : Utf8.decode r.stdout = .ok ['A'] := by
    rw [hstdout]
    decide +kernel
  obtain rfl := Except.ok.inj (hdecode.symm.trans htext)
  exact ⟨r, h, hexit, hstdout, hrecords⟩

/-- A program that writes a single character in two bytes. Its record says that it wrote one. -/
theorem concludes_recordsRun_two_bytes :
    let rules : ArgumentRules := ⟨false, true⟩
    let files : Files := fun _ => some (.regular [0x2D, 0x2E])
    let arguments := ["p.bf", "-vv", "--tape-length", "1"]
    ∃ r, Concludes .usual rules files arguments [] r ∧ r.exit = 0 ∧ r.stdout = [0xC3, 0xBF] ∧
      r.RecordsRun 1 0 ⟨[], 255, []⟩ ∧ ¬r.RecordsRun r.stdout.length 0 ⟨[], 255, []⟩ := by
  intro rules files arguments
  let front := "INFO: Program: p.bf (2 characters)\n" ++ "INFO: Tape:    1 cells, pointer at 0\n" ++
    "DEBUG: Tokenized 2 characters into 2 operations\n" ++
    "DEBUG: Parsed 2 operations into 2 nodes (max loop depth 0)\n" ++
    "DEBUG: Allocated tape: 1 cells, pointer at 0\n"
  let records := "DEBUG: Run finished: 1 bytes out, 0 bytes in, pointer at 0\n" ++
    "INFO: Done: pointer at 0\n" ++ "DEBUG: Tape at exit: 0000: [FF]\n"
  have hreport : commandLine .usual rules 5 files arguments [] =
      some ⟨0, [0xC3, 0xBF], front ++ records⟩ := by decide +kernel
  have hrecords : records = runRecords 1 0 ⟨[], 255, []⟩ := by decide +kernel
  have hone : (Report.mk 0 [0xC3, 0xBF] (front ++ records)).RecordsRun 1 0 ⟨[], 255, []⟩ :=
    ⟨front, congrArg (front ++ ·) hrecords⟩
  refine ⟨_, ⟨5, hreport⟩, rfl, rfl, hone, fun htwo => ?_⟩
  have hsame : 1 = 2 := hone.written_unique htwo
  omega

end TapeLang
