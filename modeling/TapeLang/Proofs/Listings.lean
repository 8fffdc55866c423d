import TapeLang.Proofs.Locations
import TapeLang.Proofs.Readback
import TapeLang.Proofs.StageReports

set_option autoImplicit false

/-!
# What the lists of a program show

The operations and the nodes of a text can be listed instead of running it. Either list can be read
back, and the two go together: a list of nodes has a line for each operation that is no loop end,
and an error that is shown in its place has the number of a line of the list of operations.

## Main definitions

* `TapeLang.IsAbout` — a command line has valid options and names a file that holds a text.
* `TapeLang.Report.ListsOperations`, `TapeLang.Report.ListsProgram` — a report lists operations, or
  the nodes of a program.
* `TapeLang.Report.Follows` — a list of nodes has the lines that a list of operations gives it.
* `TapeLang.Report.PointsInto` — the error of a report has the number of a line of a list.

## Main results

* `TapeLang.concludes_of_lists` — what the two lists of a text show.
-/

namespace TapeLang

/-- A command line is about a text: its arguments are options, which lay out a tape and name a file
that holds the text. -/
structure IsAbout (rules : ArgumentRules) (files : Files) (arguments : List String) (o : Options)
    (source : String) : Prop where
  /-- The arguments are read as the options. -/
  read : readArguments rules arguments = .ok o
  /-- The file holds the text. -/
  holds : Holds files o.input source
  /-- The options lay out a tape. -/
  lays : ∃ layout, o.Lays layout

/-- The report lists operations: their list is read back from the lines. -/
structure Report.ListsOperations (r : Report) (ops : List Operation) : Prop where
  /-- It is a success. -/
  exit_eq : r.exit = 0
  /-- The lines show the operations. -/
  stdout_eq : readOperations? r.stdout = some ops

/-- The report lists the nodes of a program: the program is read back from the lines. -/
structure Report.ListsProgram (r : Report) (p : Program) : Prop where
  /-- It is a success. -/
  exit_eq : r.exit = 0
  /-- The lines show the program. -/
  stdout_eq : readProgram? r.stdout = some p

/-- The nodes that a report lists follow the operations that another one lists. Behind the line of
the root there is one line for each operation that is no loop end, in the same order. It shows the
kind of the node and the position of the operation, one level deeper than the number of loops that
are open before the operation. -/
def Report.Follows (r list : Report) : Prop :=
  ∃ ops lines, readOperations? list.stdout = some ops ∧
    linesOf? r.stdout = some ("Program @L1:1".toList :: lines) ∧
    lines.length = ops.countP (·.symbol ≠ .loopEnd) ∧
    ∀ pre op post kind, ops = pre ++ op :: post → op.symbol.kind? = some kind →
      ∃ k : ℕ, depth pre = k ∧ lines[pre.countP (·.symbol ≠ .loopEnd)]? =
        some (Outline.Entry.mk (1 + k) kind op.position).text.toList

/-- The report of an error in place of nodes: nothing is listed, and the number that the error shows
is that of the line that shows its operation in the list of another report. -/
structure Report.PointsInto (r list : Report) (o : Options) (e : ParseError) : Prop where
  /-- It is a failure. -/
  exit_eq : r.exit = 1
  /-- Nothing is listed. -/
  stdout_eq : r.stdout = []
  /-- The error is the only one. -/
  showsErrors : r.ShowsErrors o ["Parse error: " ++ e.message]
  /-- The error shows the number of the line of its operation. -/
  exists_line : ∃ (n : ℕ) (lines : List (List Char)),
    markedNumber? e.message.toList = some (n : ℤ) ∧ linesOf? list.stdout = some lines ∧
      lines[n]? = some e.operation.text.toList

variable {host : Host} {rules : ArgumentRules} {files : Files} {arguments : List String}
  {input : List UInt8} {o : Options} {source : String} {p : Program} {e : ParseError}
  {ops : List Operation} {r list : Report}

/-- A command line that is about a text is reported as the text with some layout. -/
lemma IsAbout.exists_commandLine (h : IsAbout rules files arguments o source) (host : Host)
    (fuel : ℕ) (input : List UInt8) :
    ∃ layout, commandLine host rules fuel files arguments input =
      o.reportSource host fuel source layout input := by
  obtain ⟨layout, hlays⟩ := h.lays
  refine ⟨layout, ?_⟩
  rw [commandLine_of_ok h.read, Options.report_of_ok (readSource_eq_ok_iff.2 h.holds)
    (layout_eq_ok_iff.2 hlays)]

/-! ## Reports of lists -/

/-- The operations of a text are listed, whether or not they are a program. -/
lemma IsAbout.concludes_of_tokens (h : IsAbout rules files arguments o source)
    (htokens : o.tokens = true) (host : Host) (input : List UInt8) :
    ∃ stderr, Concludes host rules files arguments input
      ⟨0, Utf8.encode (unlines ((operations source).map Operation.text)), stderr⟩ := by
  obtain ⟨layout, hreport⟩ := h.exists_commandLine host 0 input
  rw [Options.reportSource_of_tokens htokens] at hreport
  exact ⟨_, 0, hreport⟩

/-- The nodes of a program are listed. -/
lemma IsAbout.concludes_of_tree (h : IsAbout rules files arguments o source)
    (htokens : o.tokens = false) (htree : o.tree = true)
    (hparse : parseText host source = .ok p) (input : List UInt8) :
    ∃ stderr, Concludes host rules files arguments input ⟨0, Utf8.encode p.text, stderr⟩ := by
  obtain ⟨layout, hreport⟩ := h.exists_commandLine host 0 input
  rw [Options.reportSource_of_tree htokens htree hparse] at hreport
  exact ⟨_, 0, hreport⟩

/-- A text that is no program is an error. -/
lemma IsAbout.concludes_of_error (h : IsAbout rules files arguments o source)
    (htokens : o.tokens = false) (hparse : parseText host source = .error e) (input : List UInt8) :
    ∃ r, Concludes host rules files arguments input r ∧ r.exit = 1 ∧ r.stdout = [] ∧
      r.ShowsErrors o ["Parse error: " ++ e.message] := by
  obtain ⟨layout, hreport⟩ := h.exists_commandLine host 0 input
  rw [Options.reportSource_of_parse_error htokens hparse] at hreport
  exact ⟨_, ⟨0, hreport⟩, rfl, rfl, _, rfl, (o.logs_textLog source layout).error _⟩

/-! ## The two lists -/

/-- **The nodes of a program follow its operations.** -/
lemma Report.follows_of_parse (hparse : parse host ops = .ok p) (hr : r.stdout = Utf8.encode p.text)
    (hlist : list.stdout = Utf8.encode (unlines (ops.map Operation.text))) : r.Follows list := by
  obtain ⟨hspells, -, hroot⟩ := parse_eq_ok_iff.1 hparse
  refine ⟨ops, (outline 1 p.body).map (String.toList ∘ Outline.Entry.text), ?_, ?_, ?_, ?_⟩
  · rw [hlist, readOperations?_operations]
  · rw [hr, linesOf?_programText, Program.outline, hroot]
    rfl
  · rw [List.length_map, hspells.length_outline]
  · intro pre op post kind hcut hkind
    obtain ⟨k, hdepth, hentry⟩ := hspells.getElem?_outline 1 hcut hkind
    refine ⟨k, hdepth, ?_⟩
    rw [List.getElem?_map, hentry]
    rfl

/-- **The number that an error shows is that of the line of its operation.** -/
lemma Report.exists_line_of_parse_error (hparse : parseText host source = .error e)
    (hlist : list.stdout = Utf8.encode (unlines ((operations source).map Operation.text))) :
    ∃ (n : ℕ) (lines : List (List Char)),
      markedNumber? e.message.toList = some (n : ℤ) ∧ linesOf? list.stdout = some lines ∧
        lines[n]? = some e.operation.text.toList := by
  obtain ⟨n, hn⟩ := List.mem_iff_getElem?.1 (mem_of_parse_eq_error hparse).1
  obtain ⟨-, -, -, -, hoffset, -⟩ := exists_cut_of_getElem?_operationsFrom hn
  refine ⟨n, _, ?_, by rw [hlist, linesOf?_operations], ?_⟩
  · rw [e.markedNumber?_message, hoffset, Int.zero_add]
  · rw [List.getElem?_map, hn]
    rfl

/-- **What the two lists of a text show.** Of two command lines about one text the first asks for
its operations, the other one for its nodes. The operations are listed in any case, and are read
back from their lines. If the text is a program, its nodes are listed and read back as well, and
they follow the operations line for line. If it is none, nothing is listed in their place, and the
number in the error is that of the line that shows the operation of the error.

**Proof sketch.** Both lists are written line by line, and each line is read back as what it shows.
The outline of a program follows the operations that spell it, and the offset of an operation is its
number in the list. -/
theorem concludes_of_lists (host : Host) {rules : ArgumentRules} {files : Files}
    {arguments arguments' : List String} {o o' : Options} {source : String}
    (h : IsAbout rules files arguments o source)
    (h' : IsAbout rules files arguments' o' source) (htokens : o.tokens = true)
    (htokens' : o'.tokens = false) (htree' : o'.tree = true) (input input' : List UInt8) :
    ∃ r r', Concludes host rules files arguments input r ∧
      Concludes host rules files arguments' input' r' ∧
      r.ListsOperations (operations source) ∧
      (∀ p, parseText host source = .ok p → r'.ListsProgram p ∧ r'.Follows r) ∧
      ∀ e, parseText host source = .error e → r'.PointsInto r o' e := by
  obtain ⟨stderr, hr⟩ := h.concludes_of_tokens htokens host input
  have hlists : Report.ListsOperations
      ⟨0, Utf8.encode (unlines ((operations source).map Operation.text)), stderr⟩
      (operations source) :=
    ⟨rfl, readOperations?_operations _⟩
  cases hparse : parseText host source with
  | ok p =>
    obtain ⟨stderr', hr'⟩ := h'.concludes_of_tree htokens' htree' hparse input'
    refine ⟨_, _, hr, hr', hlists, ?_, by simp⟩
    rintro _ ⟨⟩
    exact ⟨⟨rfl, readProgram?_programText p⟩, Report.follows_of_parse hparse rfl rfl⟩
  | error e =>
    obtain ⟨r', hr', hexit, hstdout, herrors⟩ := h'.concludes_of_error htokens' hparse input'
    refine ⟨_, _, hr, hr', hlists, by simp, ?_⟩
    rintro _ ⟨⟩
    exact ⟨hexit, hstdout, herrors, Report.exists_line_of_parse_error hparse rfl⟩

/-- A program on two lines, and a text whose second symbol closes a loop that was never begun. -/
theorem concludes_of_lists_closed_and_stray :
    let rules : ArgumentRules := ⟨false, true⟩
    let files : Files := fun name =>
      if name = "closed" then some (.regular [43, 91, 10, 62, 46, 93])
      else if name = "stray" then some (.regular [46, 93, 91]) else none
    let p : Program := ⟨.start, [.command .increment ⟨1, 1⟩,
      .loop ⟨1, 2⟩ [.command .moveRight ⟨2, 1⟩, .command .output ⟨2, 2⟩]]⟩
    let e : ParseError := .unmatchedEnd ⟨.loopEnd, 1, ⟨1, 2⟩⟩
    (∃ r r', Concludes .usual rules files ["closed", "--tokens"] [] r ∧
      Concludes .usual rules files ["--ast", "closed"] [] r' ∧ r'.ListsProgram p ∧ r'.Follows r) ∧
    ∃ r r', Concludes .usual rules files ["stray", "--tokens"] [] r ∧
      Concludes .usual rules files ["--ast", "stray"] [] r' ∧ r.ListsOperations (operations ".][") ∧
      r'.PointsInto r { input := "stray", tree := true } e := by
  intro rules files p e
  have hlays (o : Options) (hlength : o.tapeLength = none) (hstart : o.start = none) :
      ∃ layout, o.Lays layout :=
    ⟨⟨1024, 512, by decide⟩, .inl ⟨.inl hlength, rfl⟩, .inl ⟨.inl hstart, rfl⟩⟩
  have hclosed : IsAbout rules files ["closed", "--tokens"] { input := "closed", tokens := true }
      "+[\n>.]" :=
    ⟨by decide +kernel, ⟨"+[\n>.]".toList, rfl, rfl⟩, hlays _ rfl rfl⟩
  have hclosed' : IsAbout rules files ["--ast", "closed"] { input := "closed", tree := true }
      "+[\n>.]" :=
    ⟨by decide +kernel, ⟨"+[\n>.]".toList, rfl, rfl⟩, hlays _ rfl rfl⟩
  have hstray :
      IsAbout rules files ["stray", "--tokens"] { input := "stray", tokens := true } ".][" :=
    ⟨by decide +kernel, ⟨".][".toList, rfl, rfl⟩, hlays _ rfl rfl⟩
  have hstray' : IsAbout rules files ["--ast", "stray"] { input := "stray", tree := true } ".][" :=
    ⟨by decide +kernel, ⟨".][".toList, rfl, rfl⟩, hlays _ rfl rfl⟩
  have hparse : parseText .usual "+[\n>.]" = .ok p := by cbv
  have herror : parseText .usual ".][" = .error e := by cbv
  obtain ⟨r, r', hr, hr', -, hprogram, -⟩ :=
    concludes_of_lists .usual hclosed hclosed' rfl rfl rfl [] []
  obtain ⟨q, q', hq, hq', hlists, -, herrors⟩ :=
    concludes_of_lists .usual hstray hstray' rfl rfl rfl [] []
  exact ⟨⟨r, r', hr, hr', hprogram p hparse⟩, q, q', hq, hq', hlists, herrors e herror⟩

end TapeLang
