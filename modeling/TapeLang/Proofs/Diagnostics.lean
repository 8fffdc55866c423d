import TapeLang.Proofs.Exchanges
import TapeLang.Proofs.Parsing
import TapeLang.Proofs.Reports
import TapeLang.Proofs.Tasks

set_option autoImplicit false

/-!
# Records and prompts

Options for records and prompts change what is shown on the standard error stream and nothing else:
whether a command line comes to an end, its exit code and its output depend on its task alone. This
holds for every way in which a command line may fail, as long as the loops of the program keep clear
of the number for which there is just room: a prompt takes frames of the host too.

## Main definitions

* `TapeLang.KeepsClear` — the loops of a text nest 801 deep at most, or 1100 deep at least.
* `TapeLang.Report.SameResult` — two reports have the same exit code and output.

## Main results

* `TapeLang.State.RunsTo.exists_of_nesting_le` — a run comes to the same end with any optional
  streams.
* `TapeLang.concludes_of_sameTask` — only the task decides on the end, exit code and output.
-/

namespace TapeLang

variable {host : Host} {rules : ArgumentRules} {p : Program} {ops : List Operation} {s : State}
  {outcome outcome' : Outcome} {options options' : Options} {files : Files}
  {arguments arguments' : List String}
  {input : List UInt8} {r r' : Report}

/-- Two reports have the same exit code and the same output. -/
def Report.SameResult (r r' : Report) : Prop :=
  r.exit = r'.exit ∧ r.stdout = r'.stdout

/-- The loops of the operations nest 801 deep at most, or 1100 deep at least. -/
def KeepsClear (ops : List Operation) : Prop :=
  NestsWithin 801 ops ∨ ¬NestsWithin 1099 ops

/-- The loops of a program whose operations keep clear nest 801 deep at most. -/
lemma KeepsClear.nesting_le (h : KeepsClear ops) (hparse : parse host ops = .ok p) :
    nesting p.body ≤ 801 := by
  obtain ⟨hspells, hheight, -⟩ := parse_eq_ok_iff.1 hparse
  rcases h with h | h
  · exact hspells.nestsWithin_iff.1 h
  · have hfits : FitsWithin host.height ops := hspells.fitsWithin_iff.2 hheight
    have hlt := host.height_bounds.2
    exact absurd (hfits.nestsWithin.mono (Nat.le_of_lt_succ hlt)) h

/-- A program whose loops nest 801 deep at most comes to an end with any optional streams if it does
with some. -/
lemma State.RunsTo.exists_of_nesting_le (h : s.RunsTo host p outcome) (hn : nesting p.body ≤ 801)
    (prompt flush : Bool) :
    ∃ outcome', s.RunsTo (host.withStreams prompt flush) p outcome' ∧
      outcome.state.SameTransfers outcome'.state ∧ outcome'.error = outcome.error := by
  rcases h.exists_withStreams prompt flush with hcut | ⟨outcome', h', hcut | hsame⟩
  · exact absurd hcut (h.ne_nestingDepth hn _)
  · exact absurd hcut (h'.ne_nestingDepth hn _)
  · exact ⟨outcome', h', hsame⟩

namespace Options

/-- Exit code and output of a run depend on what was written and on the error. -/
lemma reportOutcome_sameResult (options options' : Options) (log log' : Log)
    (houtput : outcome'.state.output = outcome.state.output)
    (herror : outcome'.error = outcome.error) :
    (options.reportOutcome log outcome).SameResult (options'.reportOutcome log' outcome') := by
  unfold reportOutcome
  dsimp only
  rw [herror, houtput]
  split <;> exact ⟨rfl, rfl⟩

/-- Options for the same task list or run a text with the same result. -/
lemma exists_reportSource (htask : options.task = options'.task) {fuel : ℕ} {source : String}
    (hclear : KeepsClear (operations source)) {layout : Layout}
    (h : options.reportSource host fuel source layout input = some r) :
    ∃ fuel' r',
      options'.reportSource host fuel' source layout input = some r' ∧ r.SameResult r' := by
  have htokens' : options'.tokens = options.tokens :=
    (congrArg tokens htask.symm : options'.task.tokens = _)
  have htree' : options'.tree = options.tree := (congrArg tree htask.symm : options'.task.tree = _)
  cases htokens : options.tokens with
  | true =>
    rw [reportSource_of_tokens htokens] at h
    cases h
    exact ⟨0, _, reportSource_of_tokens (htokens'.trans htokens) .., rfl, rfl⟩
  | false =>
    rw [htokens] at htokens'
    cases hparse : parseText host source with
    | error e =>
      rw [reportSource_of_parse_error htokens hparse] at h
      cases h
      exact ⟨0, _, reportSource_of_parse_error htokens' hparse .., rfl, rfl⟩
    | ok p =>
      cases htree : options.tree with
      | true =>
        rw [reportSource_of_tree htokens htree hparse] at h
        cases h
        exact ⟨0, _, reportSource_of_tree htokens' (htree'.trans htree) hparse .., rfl, rfl⟩
      | false =>
        rw [htree] at htree'
        cases hallocate : Tape.allocate host.storage layout with
        | error e =>
          rw [reportSource_of_allocation_error htokens htree hparse hallocate] at h
          cases h
          exact ⟨0, _, reportSource_of_allocation_error htokens' htree' hparse hallocate ..,
            rfl, rfl⟩
        | ok tape =>
          rw [reportSource_of_run htokens htree hparse hallocate] at h
          obtain ⟨outcome, hrun, rfl⟩ := Option.map_eq_some_iff.1 h
          have hruns : State.RunsTo _ (options.connect host) p outcome := ⟨fuel, hrun⟩
          obtain ⟨outcome', ⟨fuel', hrun'⟩, hsame, herror⟩ :=
            hruns.exists_of_nesting_le (hclear.nesting_le hparse) options'.prompt true
          refine ⟨fuel', options'.reportOutcome (options'.runLog source layout p) outcome', ?_,
            reportOutcome_sameResult _ _ _ _ hsame.output_eq.1 herror⟩
          rw [reportSource_of_run htokens' htree' hparse hallocate]
          exact congrArg (Option.map _) hrun'

/-- Options for the same task are reported with the same result. -/
lemma exists_report (htask : options.task = options'.task) {fuel : ℕ}
    (hclear : ∀ source, readSource files options.input = .ok source →
      KeepsClear (operations source))
    (h : options.report host fuel files input = some r) :
    ∃ fuel' r', options'.report host fuel' files input = some r' ∧ r.SameResult r' := by
  have hinput : options'.input = options.input :=
    (congrArg Options.input htask.symm : options'.task.input = _)
  have hlayout' : options'.layout = options.layout :=
    (congrArg Options.layout htask.symm : options'.task.layout = _)
  cases hread : readSource files options.input with
  | error e =>
    rw [report_of_source_error hread] at h
    cases h
    rw [← hinput] at hread
    exact ⟨0, _, report_of_source_error hread .., rfl, rfl⟩
  | ok source =>
    cases hlayout : options.layout with
    | error e =>
      rw [report_of_layout_error hread hlayout] at h
      cases h
      rw [← hinput] at hread
      exact ⟨0, _, report_of_layout_error hread (hlayout'.trans hlayout) .., rfl, rfl⟩
    | ok layout =>
      rw [report_of_ok hread hlayout] at h
      obtain ⟨fuel', r', h', hresult⟩ := exists_reportSource htask (hclear source hread) h
      rw [← hinput] at hread
      exact ⟨fuel', r', by rw [report_of_ok hread (hlayout'.trans hlayout), h'], hresult⟩

end Options

/-- Command lines with the same task name the same program file. -/
lemma SameTask.exists_input (hsame : SameTask rules arguments arguments')
    (hread' : readArguments rules arguments' = .ok options') :
    ∃ options, readArguments rules arguments = .ok options ∧ options'.input = options.input := by
  rw [SameTask, hread'] at hsame
  cases hread : readArguments rules arguments with
  | error stop =>
    rw [hread] at hsame
    cases hsame
  | ok options =>
    rw [hread] at hsame
    have htask : options.task = options'.task := Except.ok.inj hsame
    exact ⟨options, rfl, (congrArg Options.input htask.symm : options'.task.input = _)⟩

/-- Command lines with the same task end with the same result. -/
lemma Concludes.exists_of_sameTask (hsame : SameTask rules arguments arguments')
    (hclear : ∀ o source, readArguments rules arguments = .ok o →
      readSource files o.input = .ok source → KeepsClear (operations source))
    (h : Concludes host rules files arguments input r) :
    ∃ r', Concludes host rules files arguments' input r' ∧ r.SameResult r' := by
  obtain ⟨fuel, h⟩ := h
  rw [SameTask] at hsame
  cases hread : readArguments rules arguments with
  | error stop =>
    rw [commandLine_of_error hread] at h
    cases h
    cases hread' : readArguments rules arguments' with
    | error stop' =>
      rw [hread, hread'] at hsame
      cases hsame
      exact ⟨_, ⟨0, commandLine_of_error hread' ..⟩, rfl, rfl⟩
    | ok options' =>
      rw [hread, hread'] at hsame
      cases hsame
  | ok options =>
    rw [commandLine_of_ok hread] at h
    cases hread' : readArguments rules arguments' with
    | error stop' =>
      rw [hread, hread'] at hsame
      cases hsame
    | ok options' =>
      rw [hread, hread'] at hsame
      obtain ⟨fuel', r', h', hresult⟩ := 
        Options.exists_report (Except.ok.inj hsame) (fun source => hclear options source hread) h
      exact ⟨r', ⟨fuel', by rw [commandLine_of_ok hread', h']⟩, hresult⟩

/-- **Records and prompts change neither the end nor the result.** An argument that asks for records
or prompts does not change the task. Of two command lines with the same task, both come to an end or
neither does, and then their exit codes and their outputs are the same, for any files and input:
with any text or none, with any values for the tape, and whether the operations or the tree are
listed or the program runs. This is so if the loops of the text nest 801 deep at most, or 1100 deep
at least; in between there may be room for a read and none for the prompt in front of it.

**Proof sketch.** All that may fail before the run depends on the task alone. The run only differs
in prompts, so the two runs stay together from command to command. -/
theorem concludes_of_sameTask (host : Host) (rules : ArgumentRules) (files : Files)
    (input : List UInt8) :
    (∀ (o : Switch) (name : String) (before after : List String), o.IsDiagnostic → name ∈ o.names →
      "--" ∉ before →
      (∀ argument ∈ before.getLast?, ∀ x, classify argument = .ok x → ¬x.Waits) →
      after.head? ≠ some "--" → SameTask rules (before ++ name :: after) (before ++ after)) ∧
    ∀ arguments arguments' : List String, SameTask rules arguments arguments' →
      (∀ o source, readArguments rules arguments = .ok o → readSource files o.input = .ok source →
        KeepsClear (operations source)) →
      ((∃ r, Concludes host rules files arguments input r) ↔
          ∃ r', Concludes host rules files arguments' input r') ∧
        ∀ r r', Concludes host rules files arguments input r →
          Concludes host rules files arguments' input r' →
          r.exit = r'.exit ∧ r.stdout = r'.stdout := by
  constructor
  · intro o name before after ho hname hseparator hlast hafter
    exact readArguments_insert ho hname hseparator hlast hafter
  · intro arguments arguments' hsame hclear
    have hclear' : ∀ o' source, readArguments rules arguments' = .ok o' →
        readSource files o'.input = .ok source → KeepsClear (operations source) := by
      intro o' source ho' hsource
      obtain ⟨o, ho, hinput⟩ := hsame.exists_input ho'
      exact hclear o source ho (hinput ▸ hsource)
    refine ⟨⟨?_, ?_⟩, ?_⟩
    · rintro ⟨r, h⟩
      obtain ⟨r', h', -⟩ := h.exists_of_sameTask hsame hclear
      exact ⟨r', h'⟩
    · rintro ⟨r', h'⟩
      obtain ⟨r, h, -⟩ := h'.exists_of_sameTask hsame.symm hclear'
      exact ⟨r, h⟩
    · intro r r' h h'
      obtain ⟨r'', h'', hresult⟩ := h.exists_of_sameTask hsame hclear
      rwa [h''.unique h'] at hresult

/-- A program that asks for one byte more than there is fails after the same output, with records
and prompts or without. -/
theorem concludes_of_sameTask_exhausted :
    let rules : ArgumentRules := ⟨false, true⟩
    let files : Files := fun name => if name = "p" then some (.regular [44, 46, 44]) else none
    let r : Report :=
      ⟨1, [65], "Runtime error: Runtime error at L1:3: input exhausted at read #1\n"⟩
    let r' : Report :=
      ⟨1, [65], "INFO: Program: p (3 characters)\nINFO: Tape:    1024 cells, pointer at 512\n" ++
        "Input 0:\nInput 1:\nRuntime error: Runtime error at L1:3: input exhausted at read #1\n"⟩
    SameTask rules ["p"] ["-v", "p", "--prompt"] ∧ KeepsClear (operations ",.,") ∧
      Concludes .usual rules files ["p"] [65] r ∧
      Concludes .usual rules files ["-v", "p", "--prompt"] [65] r' ∧
      r.exit = r'.exit ∧ r.stdout = r'.stdout := by
  intro rules files r r'
  obtain ⟨hinsert, hresult⟩ := concludes_of_sameTask .usual rules files [65]
  have hverbose : SameTask rules ["-v", "p"] ["p"] :=
    hinsert .verbose "-v" [] ["p"] (.inr (.inl rfl)) (by decide) (by decide) (by simp) (by decide)
  have hprompt : SameTask rules ["-v", "p", "--prompt"] ["-v", "p"] := by
    refine hinsert .prompt "--prompt" ["-v", "p"] [] (.inl rfl) (by decide) (by decide) ?_
      (by decide)
    intro argument hlast x hx
    obtain rfl : "p" = argument := Option.some.inj hlast
    have hpositional : classify "p" = .ok (.positional "p") := by decide
    rw [hpositional] at hx
    cases hx
    exact id
  have hsame : SameTask rules ["p"] ["-v", "p", "--prompt"] := (hprompt.trans hverbose).symm
  have hr : Concludes .usual rules files ["p"] [65] r := ⟨9, by decide +kernel⟩
  have hr' : Concludes .usual rules files ["-v", "p", "--prompt"] [65] r' :=
    ⟨9, by decide +kernel⟩
  have hclear : KeepsClear (operations ",.,") := .inl (by decide)
  refine ⟨hsame, hclear, hr, hr', (hresult _ _ hsame ?_).2 r r' hr hr'⟩
  intro o source ho hsource
  have hread : readArguments rules ["p"] = .ok { input := "p" } := by decide +kernel
  obtain rfl := Except.ok.inj (hread.symm.trans ho)
  have htext : readSource files "p" = .ok ",.," := by decide +kernel
  obtain rfl := Except.ok.inj (htext.symm.trans hsource)
  exact hclear

end TapeLang
