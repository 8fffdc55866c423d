import TapeLang.Proofs.Entries
import TapeLang.Proofs.Stages

set_option autoImplicit false

/-!
# The report of the first stage that fails

The first stage that fails decides on the exit code and on the one error that is shown, and before
the run nothing is written. What is written by a run does not depend on how it ends.

## Main definitions

* `TapeLang.Report.ShowsErrors` — the errors that a report shows, among records and prompts.
* `TapeLang.Report.FollowsStages` — a report is that of the first stage that fails.

## Main results

* `TapeLang.report_cases` — a stage before the run fails, or the program runs.
* `TapeLang.concludes_of_firstFault` — the report is that of the first stage that fails.
-/

namespace TapeLang

/-- The errors that a report shows. Whatever else it shows the options ask for. -/
def Report.ShowsErrors (r : Report) (o : Options) (errors : List String) : Prop :=
  ∃ log, r.stderr = log.text ∧ o.Logs log errors

/-- The report is that of the first stage that fails, and of the run if the text is run. -/
structure Report.FollowsStages (r : Report) (host : Host) (files : Files) (o : Options)
    (input : List UInt8) : Prop where
  /-- The first stage that fails gives the exit code and the only error. Before the run nothing is
  written. -/
  of_firstFault (stage : Stage) (text : String) (h : FirstFault host files o input stage text) :
    r.exit = stage.exit ∧ r.ShowsErrors o [text] ∧ (stage ≠ .programRuns → r.stdout = [])
  /-- If no stage fails, the exit code is zero and there is no error. -/
  of_not_failsAt (h : ∀ stage text, ¬FailsAt host files o input stage text) :
    r.exit = 0 ∧ r.ShowsErrors o []
  /-- What is written is what the text writes if it is run with the same tape, input and streams. -/
  stdout_eq (source : String) (layout : Layout) (fuel : ℕ) (outcome : Outcome)
    (hholds : Holds files o.input source) (hlays : o.Lays layout)
    (hrun : runText (o.connect host) fuel source layout input = .ok (some outcome)) :
    r.stdout = outcome.state.output

variable {rules : ArgumentRules} {files : Files} {o : Options} {arguments : List String}
  {input : List UInt8} {r : Report} {stage : Stage} {text source : String} {layout : Layout}
  {host : Host} {fuel : ℕ} {p : Program} {tape : Tape} {outcome : Outcome} {e : RunError}

/-! ## Early reports -/

/-- Where neither records nor prompts are asked for, a report shows its errors and nothing else. -/
lemma Report.ShowsErrors.stderr_eq {errors : List String} (h : r.ShowsErrors o errors)
    (hprompt : o.prompt = false) (hverbosity : o.verbosity = 0) :
    r.stderr = String.join (errors.map (· ++ "\n")) := by
  obtain ⟨log, hlog, hlogs⟩ := h
  rw [hlog, hlogs.eq_of_silent hprompt hverbosity]

/-- A report of a stage before the run that is the first to fail. -/
def Report.IsEarly (r : Report) (host : Host) (files : Files) (o : Options) (input : List UInt8) :
    Prop :=
  ∃ stage text, FirstFault host files o input stage text ∧ stage ≠ .programRuns ∧
    r.exit = stage.exit ∧ r.ShowsErrors o [text] ∧ r.stdout = []

lemma FirstFault.isEarly (h : FirstFault host files o input stage text) (hne : stage ≠ .programRuns)
    {log : Log} (hlog : o.Logs log [text]) :
    (Report.failed stage.exit log.text).IsEarly host files o input :=
  ⟨stage, text, h, hne, rfl, ⟨log, rfl, hlog⟩, rfl⟩

/-- The log of an error that is all that is shown. -/
lemma Options.logs_error (o : Options) (text : String) : o.Logs ⟨text ++ "\n", false⟩ [text] := by
  have herror := o.logs_empty.error text
  rwa [show Log.empty.write (text ++ "\n") = ⟨text ++ "\n", false⟩ from
    congrArg (Log.mk · false) String.empty_append] at herror

/-- **Either a stage before the run fails, and the report is that of the first such stage, or the
program runs.** -/
lemma report_cases (htokens : o.tokens = false) (htree : o.tree = false) (host : Host)
    (files : Files) (input : List UInt8) :
    (∃ r : Report, r.IsEarly host files o input ∧ ∀ fuel, o.report host fuel files input = some r) ∨
      ∃ source layout p tape, Holds files o.input source ∧ o.Lays layout ∧
        parseText host source = .ok p ∧ Tape.allocate host.storage layout = .ok tape ∧
        Passes host files o input 8 := by
  cases hread : readSource files o.input with
  | error e =>
    obtain ⟨stage, hfault, hexit, hne⟩ := exists_firstFault_of_readSource hread host input
    refine .inl ⟨_, hfault.isEarly hne (o.logs_error _), fun fuel => ?_⟩
    rw [Options.report_of_source_error hread, hexit]
  | ok source =>
    have hholds := readSource_eq_ok_iff.1 hread
    have hfile : Passes host files o input 2 := hholds.passes
    cases hlayout : o.layout with
    | error e =>
      obtain ⟨stage, hfault, hexit, hne⟩ := exists_firstFault_of_layout hfile hlayout
      refine .inl ⟨_, hfault.isEarly hne (o.logs_error _), fun fuel => ?_⟩
      rw [Options.report_of_layout_error hread hlayout, hexit]
    | ok layout =>
      have hlays := layout_eq_ok_iff.1 hlayout
      cases hparse : parseText host source with
      | error e =>
        have hfault : FirstFault host files o input _ _ := ⟨.parse hholds hparse, hfile.lays hlays⟩
        refine .inl ⟨_, hfault.isEarly (by decide) ((o.logs_textLog source layout).error _),
          fun fuel => ?_⟩
        rw [Options.report_of_ok hread hlayout,
          Options.reportSource_of_parse_error htokens hparse]
        rfl
      | ok p =>
        have hparses := (hfile.lays hlays).parse hholds hparse
        cases hallocate : Tape.allocate host.storage layout with
        | error e =>
          have hfault : FirstFault host files o input _ _ := ⟨.allocate hlays hallocate, hparses⟩
          refine .inl ⟨_, hfault.isEarly (by decide)
            ((o.logs_programLog source layout p).internalError _), fun fuel => ?_⟩
          rw [Options.report_of_ok hread hlayout,
            Options.reportSource_of_allocation_error htokens htree hparse hallocate]
          rfl
        | ok tape =>
          exact .inr ⟨source, layout, p, tape, hholds, hlays, hparse, hallocate,
            hparses.allocate hlays hallocate⟩

/-! ## Reports of runs -/

/-- What is written is what the run wrote, however it ended. -/
lemma stdout_reportOutcome (o : Options) (log : Log) (outcome : Outcome) :
    (o.reportOutcome log outcome).stdout = outcome.state.output := by
  unfold Options.reportOutcome
  dsimp only
  split <;> rfl

lemma exit_reportOutcome_of_none (o : Options) (log : Log) (h : outcome.error = none) :
    (o.reportOutcome log outcome).exit = 0 := by
  unfold Options.reportOutcome
  rw [h]

lemma exit_reportOutcome_of_some (o : Options) (log : Log) (h : outcome.error = some e)
    (hknown : ∀ kind, e ≠ .unknownNode kind) : (o.reportOutcome log outcome).exit = 1 := by
  unfold Options.reportOutcome
  rw [h]
  cases e with
  | unknownNode kind => exact absurd rfl (hknown kind)
  | _ => rfl

/-- The report of a text that is run: it is written what the run wrote, and the error that ended the
run is the only one. -/
lemma exists_report_of_run (htokens : o.tokens = false) (htree : o.tree = false)
    (hholds : Holds files o.input source) (hlays : o.Lays layout)
    (hrun : runText (o.connect host) fuel source layout input = .ok (some outcome)) :
    ∃ fuel' r, o.report host fuel' files input = some r ∧ r.stdout = outcome.state.output ∧
      (outcome.error = none → r.exit = 0 ∧ r.ShowsErrors o []) ∧
      ∀ e, outcome.error = some e →
        r.exit = 1 ∧ r.ShowsErrors o ["Runtime error: " ++ e.message] := by
  obtain ⟨p, tape, hparse, hallocate, hrun⟩ := runText_connect_eq_ok_some_iff.1 hrun
  have hruns : State.RunsTo _ (o.connect host) p outcome := ⟨fuel, hrun⟩
  have hprompt : ∀ n, .prompt n ∈ outcome.state.events → o.prompt := by
    intro n hn
    by_contra hno
    exact hruns.prompt_not_mem (Bool.not_eq_true _ ▸ hno) List.not_mem_nil hn
  obtain ⟨log, hlog, hlogs⟩ :=
    Options.logs_reportOutcome (o.logs_runLog source layout p) outcome hprompt
  have hknown := hruns.ne_unknownNode hparse
  refine ⟨fuel, o.reportOutcome (o.runLog source layout p) outcome, ?_, stdout_reportOutcome _ _ _,
    ?_, ?_⟩
  · rw [Options.report_of_ok (readSource_eq_ok_iff.2 hholds) (layout_eq_ok_iff.2 hlays),
      Options.reportSource_of_run htokens htree hparse hallocate, hrun]
    rfl
  · intro hnone
    rw [hnone] at hlogs
    exact ⟨exit_reportOutcome_of_none o _ hnone, log, hlog, hlogs⟩
  · intro e hsome
    have hne : ∀ kind, e ≠ .unknownNode kind := fun kind h => hknown kind (h ▸ hsome)
    rw [hsome] at hlogs
    refine ⟨exit_reportOutcome_of_some o _ hsome hne, log, hlog, ?_⟩
    cases e with
    | unknownNode kind => exact absurd rfl (hne kind)
    | _ => exact hlogs

/-- The text of a command line that comes to an end comes to an end. -/
lemma Concludes.exists_runText (h : Concludes host rules files arguments input r)
    (hread : readArguments rules arguments = .ok o) (htokens : o.tokens = false)
    (htree : o.tree = false) (hholds : Holds files o.input source) (hlays : o.Lays layout) :
    ∃ fuel, runText (o.connect host) fuel source layout input ≠ .ok none := by
  obtain ⟨fuel, h⟩ := h
  rw [commandLine_of_ok hread, Options.report_of_ok (readSource_eq_ok_iff.2 hholds)
    (layout_eq_ok_iff.2 hlays)] at h
  cases hparse : parseText (o.connect host) source with
  | error e => exact ⟨0, by simp [runText, hparse]⟩
  | ok p =>
    have hparse' : parseText host source = .ok p := hparse
    cases hallocate : Tape.allocate host.storage layout with
    | error e =>
      have hallocate' : Tape.allocate (o.connect host).storage layout = .error e := hallocate
      exact ⟨0, by simp [runText, hparse, hallocate']⟩
    | ok tape =>
      rw [Options.reportSource_of_run htokens htree hparse' hallocate] at h
      obtain ⟨outcome, hrun, -⟩ := Option.map_eq_some_iff.1 h
      refine ⟨fuel, ?_⟩
      rw [runText_connect_eq_ok_some_iff.2 ⟨p, tape, hparse', hallocate, hrun⟩]
      simp

/-- A text that comes to an end and gets to run has an outcome. -/
lemma exists_runText_eq_ok_some (hparse : parseText host source = .ok p)
    (hallocate : Tape.allocate host.storage layout = .ok tape)
    (h : ∃ fuel, runText (o.connect host) fuel source layout input ≠ .ok none) :
    ∃ fuel outcome, runText (o.connect host) fuel source layout input = .ok (some outcome) := by
  obtain ⟨fuel, h⟩ := h
  cases hrun : (State.mk tape input 0 0 []).run (o.connect host) fuel p with
  | none =>
    have hparse' : parseText (o.connect host) source = .ok p := hparse
    have hallocate' : Tape.allocate (o.connect host).storage layout = .ok tape := hallocate
    exact absurd (by simp only [runText, hparse', hallocate', hrun]) h
  | some outcome =>
    exact ⟨fuel, outcome,
      runText_connect_eq_ok_some_iff.2 ⟨p, tape, hparse, hallocate, hrun⟩⟩

/-! ## All reports -/

lemma Report.IsEarly.followsStages (h : r.IsEarly host files o input) :
    r.FollowsStages host files o input := by
  obtain ⟨stage, text, hfault, hne, hexit, herrors, hstdout⟩ := h
  refine ⟨?_, ?_, ?_⟩
  · intro stage' text' hfault'
    obtain ⟨rfl, rfl⟩ := firstFault_unique hfault hfault'
    exact ⟨hexit, herrors, fun _ => hstdout⟩
  · intro hno
    exact absurd hfault.1 (hno stage text)
  · intro source layout fuel outcome hholds hlays hrun
    have hrank := passes_of_run hholds hlays hrun stage text hfault.1
    exact absurd (Stage.eq_programRuns hrank) hne

lemma Concludes.followsStages_of_run (h : Concludes host rules files arguments input r)
    (hread : readArguments rules arguments = .ok o) (htokens : o.tokens = false)
    (htree : o.tree = false) (hholds : Holds files o.input source) (hlays : o.Lays layout)
    (hrun : runText (o.connect host) fuel source layout input = .ok (some outcome)) :
    r.FollowsStages host files o input := by
  obtain ⟨fuel', r', hr', hstdout, hnone, hsome⟩ :=
    exists_report_of_run htokens htree hholds hlays hrun
  obtain rfl := h.unique ⟨fuel', by rw [commandLine_of_ok hread, hr']⟩
  refine ⟨?_, ?_, ?_⟩
  · intro stage text hfault
    obtain rfl := Stage.eq_programRuns (passes_of_run hholds hlays hrun stage text hfault.1)
    obtain ⟨hfail, -⟩ := hfault
    cases hfail with
    | run hholds' hlays' hrun' he =>
      obtain rfl := hholds.unique hholds'
      obtain rfl := hlays.unique hlays'
      obtain rfl := runText_unique hrun hrun'
      obtain ⟨hexit, herrors⟩ := hsome _ he
      exact ⟨hexit, herrors, fun hne => absurd rfl hne⟩
  · intro hno
    cases he : outcome.error with
    | none => exact hnone he
    | some e => exact absurd (.run hholds hlays hrun he) (hno _ _)
  · intro source' layout' fuel' outcome' hholds' hlays' hrun'
    obtain rfl := hholds.unique hholds'
    obtain rfl := hlays.unique hlays'
    obtain rfl := runText_unique hrun hrun'
    exact hstdout

/-- **The first stage that fails decides on the report.** The arguments name a program file, perhaps
values for the tape, and ask for no list. The command line comes to an end exactly if the program
does, should it get to run. If some stage fails, the exit code is that of the first such stage, the
one error that is shown is the error of that stage, and unless that stage is the run nothing is
written. If no stage fails, the exit code is zero and no error is shown. If the text is run, what is
written is what the run writes, also if it ends with an error.

**Proof sketch.** Each stage is passed or is the first to fail. Behind the last one before the run
the report is that of the outcome. -/
theorem concludes_of_firstFault (host : Host) (rules : ArgumentRules) (files : Files)
    (arguments : List String) (o : Options) (input : List UInt8)
    (hread : readArguments rules arguments = .ok o) (htokens : o.tokens = false)
    (htree : o.tree = false) :
    ((∃ r, Concludes host rules files arguments input r) ↔
      ∀ source layout, Holds files o.input source → o.Lays layout →
        ∃ fuel, runText (o.connect host) fuel source layout input ≠ .ok none) ∧
    ∀ r, Concludes host rules files arguments input r → r.FollowsStages host files o input := by
  obtain ⟨r₀, hearly, hr₀⟩ | ⟨source, layout, p, tape, hholds, hlays, hparse, hallocate, -⟩ :=
    report_cases htokens htree host files input
  · have hconcludes : Concludes host rules files arguments input r₀ :=
      ⟨0, by rw [commandLine_of_ok hread, hr₀]⟩
    refine ⟨⟨?_, fun _ => ⟨r₀, hconcludes⟩⟩, fun r hr => ?_⟩
    · rintro ⟨r, hr⟩ source layout hholds hlays
      exact hr.exists_runText hread htokens htree hholds hlays
    · obtain rfl := hr.unique hconcludes
      exact hearly.followsStages
  · refine ⟨⟨?_, fun hends => ?_⟩, fun r hr => ?_⟩
    · rintro ⟨r, hr⟩ source layout hholds hlays
      exact hr.exists_runText hread htokens htree hholds hlays
    · obtain ⟨fuel, outcome, hrun⟩ :=
        exists_runText_eq_ok_some hparse hallocate (hends source layout hholds hlays)
      obtain ⟨fuel', r, hr, -⟩ := exists_report_of_run htokens htree hholds hlays hrun
      exact ⟨r, fuel', by rw [commandLine_of_ok hread, hr]⟩
    · obtain ⟨fuel, outcome, hrun⟩ := exists_runText_eq_ok_some hparse hallocate
        (hr.exists_runText hread htokens htree hholds hlays)
      exact hr.followsStages_of_run hread htokens htree hholds hlays hrun

/-- Of a start that is no numeral, a length that is zero and a loop without an end, the start is the
first to be reported. -/
theorem concludes_of_firstFault_start :
    let rules : ArgumentRules := ⟨false, true⟩
    let files : Files := fun name => if name = "p" then some (.regular [46, 91]) else none
    let arguments := ["--start=x", "p", "--tape-length", "0"]
    let o : Options := { input := "p", tapeLength := some "0", start := some "x" }
    let text := "Configuration error: invalid literal for int() with base 10: 'x'"
    (readArguments rules arguments = .ok o ∧ o.tokens = false ∧ o.tree = false) ∧
      (∃ other, FailsAt .usual files o [] .lengthPositive other) ∧
      (∃ other, FailsAt .usual files o [] .programParses other) ∧
      FirstFault .usual files o [] .startIsNumeral text ∧
      ∃ r, Concludes .usual rules files arguments [] r ∧ r.exit = 1 ∧ r.stderr = text ++ "\n" ∧
        r.stdout = [] := by
  intro rules files arguments o text
  have hread : readArguments rules arguments = .ok o := by decide +kernel
  have hholds : Holds files o.input ".[" := ⟨['.', '['], rfl, rfl⟩
  have hlength : Stands o.tapeLength Layout.defaultLength 0 :=
    .inr ⟨"0", rfl, by decide, by decide +kernel⟩
  have hstart : Misspelled o.start (.malformed .ten ['x']) :=
    ⟨"x", rfl, by decide, by decide +kernel⟩
  have htext : "Configuration error: " ++ (NumeralError.malformed .ten ['x']).message = text := by
    decide +kernel
  have hfault : FirstFault .usual files o [] .startIsNumeral text :=
    ⟨htext ▸ .start hstart, hholds.passes.length hlength⟩
  obtain ⟨hends, hstages⟩ := 
    concludes_of_firstFault .usual rules files arguments o [] hread rfl rfl
  obtain ⟨r, hr⟩ := hends.2 fun source layout _ hlays => absurd hstart hlays.2.not_misspelled
  obtain ⟨hexit, herrors, hstdout⟩ := (hstages r hr).of_firstFault _ _ hfault
  have hparse : parseText .usual ".[" = .error (.unmatchedBegin ⟨.loopBegin, 1, ⟨1, 2⟩⟩) := by cbv
  have hstderr : r.stderr = text ++ "\n" := by
    rw [herrors.stderr_eq rfl rfl]
    decide +kernel
  exact ⟨⟨hread, rfl, rfl⟩, ⟨_, .notPositive hlength (by decide)⟩, ⟨_, .parse hholds hparse⟩,
    hfault, r, hr, hexit, hstderr, hstdout (by decide)⟩

end TapeLang
