import TapeLang.CommandLine.Report
import TapeLang.Proofs.Encoding
import TapeLang.Proofs.Endings
import TapeLang.Proofs.Parsing

set_option autoImplicit false

/-!
# The stages of a command line

A command line that runs a program may fail at nine stages, from a file that is not there to a
command of the program that cannot be done. What it is for a stage to fail is said here for each
stage by itself, without a word about the others, and several may fail at once. One of them is the
first.

## Main definitions

* `TapeLang.Stage` — the stages, with their order and their exit codes.
* `TapeLang.Holds` — a file holds a text.
* `TapeLang.Options.Lays` — options lay out a tape.
* `TapeLang.FailsAt`, `TapeLang.FirstFault` — a stage fails with an error in a host, and no stage
  before it fails.

## Main results

* `TapeLang.firstFault_unique` — only one stage is the first to fail.
* `TapeLang.exists_firstFault_of_readSource`, `TapeLang.exists_firstFault_of_layout` — where the
  file or the options are at fault, some stage is the first to fail.
* `TapeLang.passes_of_run` — before a run that comes to an end no stage fails.
-/

namespace TapeLang

/-- The stages at which a command line that runs a program may fail. -/
inductive Stage where
  | fileExists
  | fileReadable
  | lengthIsNumeral
  | startIsNumeral
  | lengthPositive
  | startInside
  | programParses
  | tapeAllocatable
  | programRuns
  deriving DecidableEq

namespace Stage

/-- The place of a stage in the order. -/
def rank : Stage → ℕ
  | fileExists => 0
  | fileReadable => 1
  | lengthIsNumeral => 2
  | startIsNumeral => 3
  | lengthPositive => 4
  | startInside => 5
  | programParses => 6
  | tapeAllocatable => 7
  | programRuns => 8

/-- The exit code if a stage fails. -/
def exit : Stage → ℕ
  | tapeAllocatable => 2
  | _ => 1

end Stage

/-- A file holds a text: its bytes are those of some text, of which all line ends are folded. -/
def Holds (files : Files) (name source : String) : Prop :=
  ∃ text : List Char, files name = some (.regular (Utf8.encode (String.ofList text))) ∧
    source = String.ofList (foldLineEnds text)

/-- The value of an option stands for a number: the default if there is no value or an empty one,
else the number that it is a numeral of. -/
def Stands (value : Option String) (default n : ℤ) : Prop :=
  (value = none ∨ value = some "") ∧ n = default ∨
    ∃ text, value = some text ∧ text ≠ "" ∧ readOptionValue text = .ok n

/-- The value of an option is neither empty nor a numeral. -/
def Misspelled (value : Option String) (e : NumeralError) : Prop :=
  ∃ text, value = some text ∧ text ≠ "" ∧ readOptionValue text = .error e

/-- Options lay out a tape: its length and its start are what the options stand for. Without a start
the pointer begins in the middle. -/
def Options.Lays (o : Options) (layout : Layout) : Prop :=
  Stands o.tapeLength Layout.defaultLength layout.length ∧
    Stands o.start (layout.length / 2) layout.start

/-- A stage fails with an error. -/
inductive FailsAt (host : Host) (files : Files) (o : Options) (input : List UInt8) :
    Stage → String → Prop where
  /-- There is no file. -/
  | missing (h : files o.input = none) :
      FailsAt host files o input .fileExists (SourceError.missing o.input).message
  /-- There is a directory. -/
  | directory (h : files o.input = some .directory) :
      FailsAt host files o input .fileReadable (SourceError.directory o.input).message
  /-- The file may not be read. -/
  | denied (h : files o.input = some .denied) :
      FailsAt host files o input .fileReadable (SourceError.denied o.input).message
  /-- The bytes of the file are those of no text. -/
  | encoding {bytes : List UInt8} {fault : Utf8.Fault} (h : files o.input = some (.regular bytes))
      (hno : ∀ text, bytes ≠ Utf8.encode text) (hfault : Utf8.decode bytes = .error fault) :
      FailsAt host files o input .fileReadable (SourceError.encoding o.input fault).message
  /-- The value for the length is no numeral. -/
  | length {e : NumeralError} (h : Misspelled o.tapeLength e) :
      FailsAt host files o input .lengthIsNumeral ("Configuration error: " ++ e.message)
  /-- The value for the start is no numeral. -/
  | start {e : NumeralError} (h : Misspelled o.start e) :
      FailsAt host files o input .startIsNumeral ("Configuration error: " ++ e.message)
  /-- The length is not positive. -/
  | notPositive {n : ℤ} (h : Stands o.tapeLength Layout.defaultLength n) (hn : n ≤ 0) :
      FailsAt host files o input .lengthPositive
        ("Configuration error: " ++ (SetupError.layout (.lengthNotPositive n)).message)
  /-- The start is not inside the tape. -/
  | outside {n m : ℤ} (h : Stands o.tapeLength Layout.defaultLength n)
      (hm : Stands o.start (n / 2) m) (hout : m < 0 ∨ n ≤ m) :
      FailsAt host files o input .startInside
        ("Configuration error: " ++ (SetupError.layout (.startOutside m n)).message)
  /-- The text is no program. -/
  | parse {source : String} {e : ParseError} (h : Holds files o.input source)
      (he : parseText host source = .error e) :
      FailsAt host files o input .programParses ("Parse error: " ++ e.message)
  /-- There is no room for the tape. -/
  | allocate {layout : Layout} {e : Tape.AllocationError} (h : o.Lays layout)
      (he : Tape.allocate host.storage layout = .error e) :
      FailsAt host files o input .tapeAllocatable ("Internal interpreter error: " ++ e.message)
  /-- The program ends with an error. -/
  | run {source : String} {layout : Layout} {fuel : ℕ} {outcome : Outcome} {e : RunError}
      (h : Holds files o.input source) (hlayout : o.Lays layout)
      (hrun : runText (o.connect host) fuel source layout input = .ok (some outcome))
      (he : outcome.error = some e) :
      FailsAt host files o input .programRuns ("Runtime error: " ++ e.message)

/-- A stage fails with an error, and no stage before it fails. -/
def FirstFault (host : Host) (files : Files) (o : Options) (input : List UInt8) (stage : Stage)
    (text : String) : Prop :=
  FailsAt host files o input stage text ∧
    ∀ stage' text', FailsAt host files o input stage' text' → stage.rank ≤ stage'.rank

variable {host : Host} {files : Files} {o : Options} {input : List UInt8} {stage stage' : Stage}
  {text text' source : String} {layout : Layout} {name : String} {value : Option String}
  {default n m : ℤ}

/-! ## Files and options -/

/-- The text of a file is read exactly if the file holds it. -/
lemma readSource_eq_ok_iff : readSource files name = .ok source ↔ Holds files name source := by
  unfold readSource
  constructor
  · intro h
    split at h
    · cases h
    · cases h
    · cases h
    · next bytes hfile =>
      split at h
      · cases h
      · next text hdecode =>
        cases h
        rw [Utf8.decode_eq_ok_iff] at hdecode
        exact ⟨text, hdecode ▸ hfile, rfl⟩
  · rintro ⟨text, hfile, rfl⟩
    rw [hfile]
    dsimp only
    rw [Utf8.decode_eq_ok_iff.2 rfl]

lemma optionNumber_some (h : text ≠ "") :
    optionNumber (some text) = (readOptionValue text).map some := by
  have hempty : text.isEmpty = false := by simpa using h
  simp only [optionNumber, hempty]
  cases readOptionValue text <;> rfl

/-- The value of an option is read to a number exactly if it stands for it. -/
lemma stands_iff :
    Stands value default n ↔
      ∃ number, optionNumber value = .ok number ∧ n = number.getD default := by
  constructor
  · rintro (⟨rfl | rfl, rfl⟩ | ⟨text, rfl, hne, hread⟩)
    · exact ⟨none, rfl, rfl⟩
    · exact ⟨none, rfl, rfl⟩
    · exact ⟨some n, by rw [optionNumber_some hne, hread]; rfl, rfl⟩
  · rintro ⟨number, hread, rfl⟩
    cases value with
    | none =>
      cases hread
      exact .inl ⟨.inl rfl, rfl⟩
    | some text =>
      by_cases hne : text = ""
      · subst hne
        cases hread
        exact .inl ⟨.inr rfl, rfl⟩
      · rw [optionNumber_some hne] at hread
        cases hnumeral : readOptionValue text with
        | error e =>
          rw [hnumeral] at hread
          cases hread
        | ok k =>
          rw [hnumeral] at hread
          cases hread
          exact .inr ⟨text, rfl, hne, hnumeral⟩

/-- The value of an option is not read exactly if it is misspelled. -/
lemma misspelled_iff {e : NumeralError} : Misspelled value e ↔ optionNumber value = .error e := by
  constructor
  · rintro ⟨text, rfl, hne, hread⟩
    rw [optionNumber_some hne, hread]
    rfl
  · intro hread
    cases value with
    | none => cases hread
    | some text =>
      by_cases hne : text = ""
      · subst hne
        cases hread
      · rw [optionNumber_some hne] at hread
        cases hnumeral : readOptionValue text with
        | error e' =>
          rw [hnumeral] at hread
          cases hread
          exact ⟨text, rfl, hne, hnumeral⟩
        | ok k =>
          rw [hnumeral] at hread
          cases hread

/-- A value does not stand for two numbers. -/
lemma Stands.unique (h : Stands value default n) (h' : Stands value default m) : n = m := by
  obtain ⟨number, hread, rfl⟩ := stands_iff.1 h
  obtain ⟨number', hread', rfl⟩ := stands_iff.1 h'
  rw [hread] at hread'
  cases hread'
  rfl

/-- A value that stands for a number is not misspelled. -/
lemma Stands.not_misspelled {e : NumeralError} (h : Stands value default n) :
    ¬Misspelled value e := by
  intro h'
  obtain ⟨number, hread, -⟩ := stands_iff.1 h
  rw [misspelled_iff.1 h'] at hread
  cases hread

/-- A layout is made of a length and a start exactly if the start is inside of the length. -/
lemma lays_iff : o.Lays layout ↔ ∃ length start, optionNumber o.tapeLength = .ok length ∧
    optionNumber o.start = .ok start ∧
    Layout.make (length.getD Layout.defaultLength) start = .ok layout := by
  have hpositive : 0 < layout.length := Nat.zero_lt_of_lt layout.start_lt
  constructor
  · rintro ⟨hlength, hstart⟩
    obtain ⟨length, hlength, hl⟩ := stands_iff.1 hlength
    obtain ⟨start, hstart, hs⟩ := stands_iff.1 hstart
    refine ⟨length, start, hlength, hstart, Layout.make_eq_ok_iff.2 ⟨?_, hl, ?_⟩⟩
    · omega
    · rw [← hl]
      exact hs
  · rintro ⟨length, start, hlength, hstart, hmake⟩
    obtain ⟨-, hl, hs⟩ := Layout.make_eq_ok_iff.1 hmake
    refine ⟨stands_iff.2 ⟨length, hlength, hl⟩, stands_iff.2 ⟨start, hstart, ?_⟩⟩
    rw [← hl] at hs
    exact hs

/-- The layout that options ask for is the one that they lay out. -/
lemma layout_eq_ok_iff : o.layout = .ok layout ↔ o.Lays layout := by
  rw [lays_iff, Options.layout]
  cases optionNumber o.tapeLength with
  | error e => simp
  | ok length =>
    cases optionNumber o.start with
    | error e => simp
    | ok start =>
      cases hmake : Layout.make (length.getD Layout.defaultLength) start with
      | error e => simp [hmake]
      | ok layout' => simp [hmake]

lemma Holds.unique {source' : String} (h : Holds files name source)
    (h' : Holds files name source') : source = source' := by
  rw [← readSource_eq_ok_iff] at h h'
  exact Except.ok.inj (h.symm.trans h')

lemma Options.Lays.unique {layout' : Layout} (h : o.Lays layout) (h' : o.Lays layout') :
    layout = layout' := by
  rw [← layout_eq_ok_iff] at h h'
  exact Except.ok.inj (h.symm.trans h')

/-! ## Runs -/

variable {fuel fuel' : ℕ} {p : Program} {tape : Tape} {s : State}
  {outcome outcome' : Outcome} {e : RunError}

/-- A text runs to an outcome exactly if it is a program, there is room for the tape, and the run
comes to an end. -/
lemma runText_eq_ok_some_iff : runText host fuel source layout input = .ok (some outcome) ↔
    ∃ p tape, parseText host source = .ok p ∧ Tape.allocate host.storage layout = .ok tape ∧
      (State.mk tape input 0 0 []).run host fuel p = some outcome := by
  unfold runText
  cases parseText host source with
  | error e => simp
  | ok p =>
    cases Tape.allocate host.storage layout with
    | error e => simp
    | ok tape => simp

/-- The streams to which a command line connects a run make no difference before the run. -/
lemma runText_connect_eq_ok_some_iff :
    runText (o.connect host) fuel source layout input = .ok (some outcome) ↔
      ∃ p tape, parseText host source = .ok p ∧ Tape.allocate host.storage layout = .ok tape ∧
        (State.mk tape input 0 0 []).run (o.connect host) fuel p = some outcome :=
  runText_eq_ok_some_iff

lemma State.RunsTo.unique (h : s.RunsTo host p outcome) (h' : s.RunsTo host p outcome') :
    outcome = outcome' :=
  (State.runsTo_iff.1 h).unique (State.runsTo_iff.1 h')

/-- A text does not run to two outcomes. -/
lemma runText_unique (h : runText host fuel source layout input = .ok (some outcome))
    (h' : runText host fuel' source layout input = .ok (some outcome')) :
    outcome = outcome' := by
  obtain ⟨p, tape, hparse, hallocate, hrun⟩ := runText_eq_ok_some_iff.1 h
  obtain ⟨p', tape', hparse', hallocate', hrun'⟩ := runText_eq_ok_some_iff.1 h'
  rw [hparse] at hparse'
  rw [hallocate] at hallocate'
  cases hparse'
  cases hallocate'
  exact State.RunsTo.unique ⟨fuel, hrun⟩ ⟨fuel', hrun'⟩

/-- The program of a text has no node without a meaning. -/
lemma State.RunsTo.ne_unknownNode (h : s.RunsTo host p outcome)
    (hparse : parseText host source = .ok p) (kind : Kind) :
    outcome.error ≠ some (.unknownNode kind) := by
  have hplain := (parse_eq_ok_iff.1 hparse).1.isPlain
  obtain he | ⟨_, _, _, _, he⟩ | ⟨_, _, he⟩ | he :=
    (State.runsTo_iff.1 h).error_cases hplain <;> rw [he] <;> simp

/-! ## Stages -/

/-- A stage does not fail with two errors. -/
lemma FailsAt.text_unique (h : FailsAt host files o input stage text)
    (h' : FailsAt host files o input stage text') : text = text' := by
  cases h with
  | missing h =>
    cases h'
    rfl
  | directory h =>
    cases h' with
    | directory _ => rfl
    | denied h' => cases h.symm.trans h'
    | encoding h' _ _ => cases h.symm.trans h'
  | denied h =>
    cases h' with
    | directory h' => cases h.symm.trans h'
    | denied _ => rfl
    | encoding h' _ _ => cases h.symm.trans h'
  | encoding h _ hfault =>
    cases h' with
    | directory h' => cases h.symm.trans h'
    | denied h' => cases h.symm.trans h'
    | encoding h' _ hfault' =>
      cases h.symm.trans h'
      cases hfault.symm.trans hfault'
      rfl
  | length h =>
    cases h' with
    | length h' =>
      rw [misspelled_iff] at h h'
      cases h.symm.trans h'
      rfl
  | start h =>
    cases h' with
    | start h' =>
      rw [misspelled_iff] at h h'
      cases h.symm.trans h'
      rfl
  | notPositive h _ =>
    cases h' with
    | notPositive h' _ => rw [h.unique h']
  | outside h hm _ =>
    cases h' with
    | outside h' hm' _ =>
      obtain rfl := h.unique h'
      rw [hm.unique hm']
  | parse h he =>
    cases h' with
    | parse h' he' =>
      obtain rfl := h.unique h'
      cases he.symm.trans he'
      rfl
  | allocate h he =>
    cases h' with
    | allocate h' he' =>
      obtain rfl := h.unique h'
      cases he.symm.trans he'
      rfl
  | run h hlayout hrun he =>
    cases h' with
    | run h' hlayout' hrun' he' =>
      obtain rfl := h.unique h'
      obtain rfl := hlayout.unique hlayout'
      obtain rfl := runText_unique hrun hrun'
      cases he.symm.trans he'
      rfl

/-- Stages at the same place of the order are the same. -/
lemma Stage.eq_of_rank_eq (h : stage.rank = stage'.rank) : stage = stage' := by
  cases stage <;> cases stage' <;> first | rfl | cases h

/-- The run is the last stage. -/
lemma Stage.eq_programRuns (h : 8 ≤ stage.rank) : stage = .programRuns := by
  cases stage <;> first | rfl | exact absurd h (by decide)

/-- **Only one stage is the first to fail, and it fails with one error.** -/
lemma firstFault_unique (h : FirstFault host files o input stage text)
    (h' : FirstFault host files o input stage' text') : stage = stage' ∧ text = text' := by
  obtain rfl : stage = stage' :=
    Stage.eq_of_rank_eq (Nat.le_antisymm (h.2 _ _ h'.1) (h'.2 _ _ h.1))
  exact ⟨rfl, h.1.text_unique h'.1⟩

/-- No stage before the `k`-th one fails. -/
def Passes (host : Host) (files : Files) (o : Options) (input : List UInt8) (k : ℕ) : Prop :=
  ∀ stage text, FailsAt host files o input stage text → k ≤ stage.rank

lemma Passes.succ {k : ℕ} (h : Passes host files o input k)
    (hk : ∀ stage text, FailsAt host files o input stage text → stage.rank ≠ k) :
    Passes host files o input (k + 1) :=
  fun stage text hfail => Nat.lt_of_le_of_ne (h stage text hfail) (hk stage text hfail).symm

lemma passes_zero (host : Host) (files : Files) (o : Options) (input : List UInt8) :
    Passes host files o input 0 :=
  fun _ _ _ => Nat.zero_le _

/-- If a file holds a text, the stages of the file do not fail. -/
lemma Holds.passes (h : Holds files o.input source) : Passes host files o input 2 := by
  obtain ⟨text, hfile, -⟩ := h
  intro stage error hfail
  cases hfail with
  | missing h => cases h.symm.trans hfile
  | directory h => cases h.symm.trans hfile
  | denied h => cases h.symm.trans hfile
  | encoding h hno _ =>
    cases h.symm.trans hfile
    exact absurd rfl (hno _)
  | _ => decide

/-- A length that is a numeral does not fail to be one. -/
lemma Passes.length (h : Passes host files o input 2) (hn : Stands o.tapeLength default n) :
    Passes host files o input 3 := by
  refine h.succ fun stage text hfail => ?_
  cases hfail with
  | length h => exact absurd h hn.not_misspelled
  | _ => decide

lemma Passes.start (h : Passes host files o input 3) (hm : Stands o.start default m) :
    Passes host files o input 4 := by
  refine h.succ fun stage text hfail => ?_
  cases hfail with
  | start h => exact absurd h hm.not_misspelled
  | _ => decide

lemma Passes.positive (h : Passes host files o input 4)
    (hn : Stands o.tapeLength Layout.defaultLength n) (hpositive : 0 < n) :
    Passes host files o input 5 := by
  refine h.succ fun stage text hfail => ?_
  cases hfail with
  | notPositive h hle =>
    rw [h.unique hn] at hle
    omega
  | _ => decide

/-- Options that lay out a tape pass all stages of the options. -/
lemma Passes.lays (h : Passes host files o input 2) (hlays : o.Lays layout) :
    Passes host files o input 6 := by
  have hpositive : 0 < layout.length := Nat.zero_lt_of_lt layout.start_lt
  refine (((h.length hlays.1).start hlays.2).positive hlays.1 (by omega)).succ
    fun stage text hfail => ?_
  cases hfail with
  | outside hn hm hout =>
    obtain rfl := hn.unique hlays.1
    have hstart := hm.unique hlays.2
    have := layout.start_lt
    omega
  | _ => decide

lemma Passes.parse (h : Passes host files o input 6) (hholds : Holds files o.input source)
    (hparse : parseText host source = .ok p) : Passes host files o input 7 := by
  refine h.succ fun stage text hfail => ?_
  cases hfail with
  | parse h he =>
    obtain rfl := h.unique hholds
    cases he.symm.trans hparse
  | _ => decide

lemma Passes.allocate (h : Passes host files o input 7) (hlays : o.Lays layout)
    (hallocate : Tape.allocate host.storage layout = .ok tape) : Passes host files o input 8 := by
  refine h.succ fun stage text hfail => ?_
  cases hfail with
  | allocate h he =>
    obtain rfl := h.unique hlays
    cases he.symm.trans hallocate
  | _ => decide

/-- A file that gives no text fails at the first or second stage. -/
lemma exists_firstFault_of_readSource {e : SourceError} (h : readSource files o.input = .error e)
    (host : Host) (input : List UInt8) :
    ∃ stage, FirstFault host files o input stage e.message ∧ stage.exit = 1 ∧
      stage ≠ .programRuns := by
  unfold readSource at h
  cases hfile : files o.input with
  | none =>
    rw [hfile] at h
    cases h
    exact ⟨_, ⟨.missing hfile, passes_zero _ _ _ _⟩, rfl, by decide⟩
  | some file =>
    have hpasses : Passes host files o input 1 := by
      refine (passes_zero _ _ _ _).succ fun stage text hfail => ?_
      cases hfail with
      | missing h => cases h.symm.trans hfile
      | _ => decide
    rw [hfile] at h
    cases file with
    | directory =>
      cases h
      exact ⟨_, ⟨.directory hfile, hpasses⟩, rfl, by decide⟩
    | denied =>
      cases h
      exact ⟨_, ⟨.denied hfile, hpasses⟩, rfl, by decide⟩
    | regular bytes =>
      cases hdecode : Utf8.decode bytes with
      | ok text =>
        simp only [hdecode] at h
        cases h
      | error fault =>
        simp only [hdecode] at h
        cases h
        -- bytes of a text would have been decoded
        refine ⟨_, ⟨.encoding hfile (fun text htext => ?_) hdecode, hpasses⟩, rfl, by decide⟩
        rw [← String.ofList_toList (s := text)] at htext
        cases hdecode.symm.trans (Utf8.decode_eq_ok_iff.2 htext)

/-- Options that lay out no tape fail at one of the stages three to six. -/
lemma exists_firstFault_of_layout {e : SetupError} (hpasses : Passes host files o input 2)
    (h : o.layout = .error e) :
    ∃ stage, FirstFault host files o input stage ("Configuration error: " ++ e.message) ∧
      stage.exit = 1 ∧ stage ≠ .programRuns := by
  unfold Options.layout at h
  cases hlength : optionNumber o.tapeLength with
  | error numeral =>
    rw [hlength] at h
    cases h
    exact ⟨_, ⟨.length (misspelled_iff.2 hlength), hpasses⟩, rfl, by decide⟩
  | ok length =>
    have hn : Stands o.tapeLength Layout.defaultLength (length.getD Layout.defaultLength) :=
      stands_iff.2 ⟨length, hlength, rfl⟩
    rw [hlength] at h
    dsimp only at h
    generalize length.getD Layout.defaultLength = n at h hn
    cases hstart : optionNumber o.start with
    | error numeral =>
      rw [hstart] at h
      cases h
      exact ⟨_, ⟨.start (misspelled_iff.2 hstart), hpasses.length hn⟩, rfl, by decide⟩
    | ok start =>
      have hm : Stands o.start (n / 2) (start.getD (n / 2)) := stands_iff.2 ⟨start, hstart, rfl⟩
      rw [hstart] at h
      dsimp only at h
      by_cases hpositive : n ≤ 0
      · rw [Layout.make, if_pos hpositive] at h
        cases h
        exact ⟨_, ⟨.notPositive hn hpositive, (hpasses.length hn).start hm⟩, rfl, by decide⟩
      · rw [Layout.make, if_neg hpositive] at h
        dsimp only at h
        by_cases hinside : 0 ≤ start.getD (n / 2) ∧ start.getD (n / 2) < n
        · rw [dif_pos hinside] at h
          cases h
        · rw [dif_neg hinside] at h
          cases h
          exact ⟨_, ⟨.outside hn hm (by omega),
            ((hpasses.length hn).start hm).positive hn (by omega)⟩, rfl, by decide⟩

/-- Before a run that comes to an end no stage fails. -/
lemma passes_of_run (hholds : Holds files o.input source) (hlays : o.Lays layout)
    (hrun : runText (o.connect host) fuel source layout input = .ok (some outcome)) :
    Passes host files o input 8 := by
  obtain ⟨p, tape, hparse, hallocate, -⟩ := runText_connect_eq_ok_some_iff.1 hrun
  exact ((hholds.passes.lays hlays).parse hholds hparse).allocate hlays hallocate

end TapeLang
