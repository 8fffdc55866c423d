import Mathlib.Data.Nat.Notation
import Mathlib.Tactic.Lemma
import TapeLang.CommandLine.Report

set_option autoImplicit false

/-!
# Reports, case by case

A command line is reported in one of seven ways: after its arguments, its file, the layout of its
tape, a list of operations, an error of the text, a tree, an error of the tape, or a run. For each
of them there is one equation here, so that what is shown of reports need not look into how they
come about. Only the last one depends on the number of steps that there are to spend.

## Main definitions

* `TapeLang.Concludes` — a command line comes to an end with a report.
* `TapeLang.Options.textLog`, `TapeLang.Options.programLog`, `TapeLang.Options.runLog` — what is
  logged before the text is parsed, behind the program, and before the run.

## Main results

* `TapeLang.Options.reportSource_of_run` — a text that runs is reported by its outcome.
* `TapeLang.Concludes.unique` — the report is unique.
-/

namespace TapeLang

/-- A command line comes to an end with a report. -/
def Concludes (host : Host) (rules : ArgumentRules) (files : Files) (arguments : List String)
    (input : List UInt8) (r : Report) : Prop :=
  ∃ fuel, commandLine host rules fuel files arguments input = some r

variable {host : Host} {rules : ArgumentRules} {o : Options} {fuel fuel' : ℕ} {files : Files}
  {arguments : List String} {source : String} {layout : Layout} {input : List UInt8}
  {p : Program} {tape : Tape}
  {r r' : Report}

namespace Options

/-! ## Logs -/

/-- What is logged before a text is parsed. -/
def textLog (o : Options) (source : String) (layout : Layout) : Log :=
  (o.openingLog source layout).write (o.operationsRecord source (operations source))

/-- What is logged up to the program of a text. -/
def programLog (o : Options) (source : String) (layout : Layout) (p : Program) : Log :=
  (o.textLog source layout).write (o.programRecord (operations source) p)

/-- What is logged before a run. -/
def runLog (o : Options) (source : String) (layout : Layout) (p : Program) : Log :=
  (o.programLog source layout p).write (o.tapeRecord layout)

/-! ## Texts -/

lemma reportSource_of_tokens (htokens : o.tokens = true) (host : Host) (fuel : ℕ) (source : String)
    (layout : Layout) (input : List UInt8) :
    o.reportSource host fuel source layout input =
      some ⟨0, Utf8.encode (unlines ((operations source).map Operation.text)),
        (o.textLog source layout).text⟩ :=
  if_pos htokens

lemma reportSource_of_parse_error (htokens : o.tokens = false) {e : ParseError}
    (hparse : parseText host source = .error e) (fuel : ℕ) (layout : Layout) (input : List UInt8) :
    o.reportSource host fuel source layout input =
      some (.failed 1
        ((o.textLog source layout).write ("Parse error: " ++ e.message ++ "\n")).text) := by
  rw [parseText] at hparse
  simp only [reportSource, htokens, hparse]
  rfl

lemma reportSource_of_tree (htokens : o.tokens = false) (htree : o.tree = true)
    (hparse : parseText host source = .ok p) (fuel : ℕ) (layout : Layout) (input : List UInt8) :
    o.reportSource host fuel source layout input =
      some ⟨0, Utf8.encode p.text, (o.programLog source layout p).text⟩ := by
  rw [parseText] at hparse
  simp only [reportSource, htokens, hparse, htree]
  rfl

lemma reportSource_of_allocation_error (htokens : o.tokens = false) (htree : o.tree = false)
    (hparse : parseText host source = .ok p) {e : Tape.AllocationError}
    (hallocate : Tape.allocate host.storage layout = .error e) (fuel : ℕ) (input : List UInt8) :
    o.reportSource host fuel source layout input =
      some (.failed 2 (o.internalError (o.programLog source layout p) e.message).text) := by
  rw [parseText] at hparse
  simp only [reportSource, htokens, hparse, htree, hallocate]
  rfl

/-- A text that runs is reported by its outcome. -/
lemma reportSource_of_run (htokens : o.tokens = false) (htree : o.tree = false)
    (hparse : parseText host source = .ok p)
    (hallocate : Tape.allocate host.storage layout = .ok tape) (fuel : ℕ) (input : List UInt8) :
    o.reportSource host fuel source layout input =
      ((State.mk tape input 0 0 []).run (o.connect host) fuel p).map
        (o.reportOutcome (o.runLog source layout p)) := by
  rw [parseText] at hparse
  simp only [reportSource, htokens, hparse, htree, hallocate]
  rfl

/-- More steps do not change the report of a text. -/
lemma reportSource_mono (hle : fuel ≤ fuel')
    (h : o.reportSource host fuel source layout input = some r) :
    o.reportSource host fuel' source layout input = some r := by
  cases htokens : o.tokens with
  | true =>
    rw [reportSource_of_tokens htokens] at h ⊢
    exact h
  | false =>
    cases hparse : parseText host source with
    | error e =>
      rw [reportSource_of_parse_error htokens hparse] at h ⊢
      exact h
    | ok p =>
      cases htree : o.tree with
      | true =>
        rw [reportSource_of_tree htokens htree hparse] at h ⊢
        exact h
      | false =>
        cases hallocate : Tape.allocate host.storage layout with
        | error e =>
          rw [reportSource_of_allocation_error htokens htree hparse hallocate] at h ⊢
          exact h
        | ok tape =>
          rw [reportSource_of_run htokens htree hparse hallocate] at h ⊢
          obtain ⟨outcome, hrun, rfl⟩ := Option.map_eq_some_iff.1 h
          exact congrArg (Option.map _) (exec_mono hle hrun)

/-! ## Files and layouts -/

lemma report_of_source_error {e : SourceError} (hread : readSource files o.input = .error e)
    (host : Host) (fuel : ℕ) (input : List UInt8) :
    o.report host fuel files input = some (.failed 1 (e.message ++ "\n")) := by
  rw [report, hread]

lemma report_of_layout_error (hread : readSource files o.input = .ok source) {e : SetupError}
    (hlayout : o.layout = .error e) (host : Host) (fuel : ℕ) (input : List UInt8) :
    o.report host fuel files input =
      some (.failed 1 ("Configuration error: " ++ e.message ++ "\n")) := by
  rw [report, hread, hlayout]

lemma report_of_ok (hread : readSource files o.input = .ok source) (hlayout : o.layout = .ok layout)
    (host : Host) (fuel : ℕ) (input : List UInt8) :
    o.report host fuel files input = o.reportSource host fuel source layout input := by
  rw [report, hread, hlayout]

/-- More steps do not change the report of what options ask for. -/
lemma report_mono (hle : fuel ≤ fuel') (h : o.report host fuel files input = some r) :
    o.report host fuel' files input = some r := by
  cases hread : readSource files o.input with
  | error e =>
    rw [report_of_source_error hread] at h ⊢
    exact h
  | ok source =>
    cases hlayout : o.layout with
    | error e =>
      rw [report_of_layout_error hread hlayout] at h ⊢
      exact h
    | ok layout =>
      rw [report_of_ok hread hlayout] at h ⊢
      exact reportSource_mono hle h

end Options

/-! ## Command lines -/

lemma commandLine_of_error {stop : Stop} (hread : readArguments rules arguments = .error stop)
    (host : Host) (fuel : ℕ) (files : Files) (input : List UInt8) :
    commandLine host rules fuel files arguments input = some stop.report := by
  rw [commandLine, hread]

lemma commandLine_of_ok (hread : readArguments rules arguments = .ok o) (host : Host) (fuel : ℕ)
    (files : Files) (input : List UInt8) :
    commandLine host rules fuel files arguments input = o.report host fuel files input := by
  rw [commandLine, hread]

/-- More steps do not change a report. -/
lemma commandLine_mono (hle : fuel ≤ fuel')
    (h : commandLine host rules fuel files arguments input = some r) :
    commandLine host rules fuel' files arguments input = some r := by
  cases hread : readArguments rules arguments with
  | error stop =>
    rw [commandLine_of_error hread] at h ⊢
    exact h
  | ok o =>
    rw [commandLine_of_ok hread] at h ⊢
    exact o.report_mono hle h

/-- **The report of a command line is unique.** -/
lemma Concludes.unique (h : Concludes host rules files arguments input r)
    (h' : Concludes host rules files arguments input r') : r = r' := by
  obtain ⟨fuel, h⟩ := h
  obtain ⟨fuel', h'⟩ := h'
  have hmax := commandLine_mono (Nat.le_max_left fuel fuel') h
  rw [commandLine_mono (Nat.le_max_right fuel fuel') h'] at hmax
  exact (Option.some.inj hmax).symm

end TapeLang
