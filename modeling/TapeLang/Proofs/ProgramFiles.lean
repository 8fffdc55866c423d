import TapeLang.Proofs.DecodingFaults
import TapeLang.Proofs.LineEnds
import TapeLang.Proofs.Reports
import TapeLang.Proofs.Stages

set_option autoImplicit false

/-!
# What becomes of the bytes of a program file

The bytes of a program file are those of one text, or of none. If they are those of a text, the
program is that text with its line ends folded. If not, nothing is run, and what is reported is the
first fault of the bytes: how many bytes of whole characters stand before it, and how far the next
character goes until it goes wrong.

## Main definitions

* `TapeLang.placeText` — the words for some of the bytes of a file.

## Main results

* `TapeLang.commandLine_of_bytes` — how a command line depends on the bytes of its file.
-/

namespace TapeLang

/-- The words for the bytes at a position: a single byte is shown, of several only the positions of
the first and the last are. -/
def placeText (position : ℕ) (range : List UInt8) : String :=
  match range with
  | [b] =>
    "byte 0x" ++ String.ofList (Hex.lower 2 b.toNat) ++ " in position " ++ toString position
  | _ =>
    "bytes in position " ++ toString position ++ "-" ++ toString (position + range.length - 1)

variable {files : Files} {name : String} {bytes : List UInt8} {text : List Char} {f : Utf8.Fault}

/-- The text of a fault is about its range. -/
lemma Utf8.Fault.message_eq (f : Utf8.Fault) :
    f.message = "'utf-8' codec can't decode " ++ placeText f.position f.range ++ ": " ++
      f.reason.text := by
  obtain ⟨position, lead, tails, reason⟩ := f
  cases tails <;> rfl

/-- The line that reports a fault of a file. -/
lemma message_encoding_line (name : String) (f : Utf8.Fault) :
    (SourceError.encoding name f).message ++ "\n" =
      "Error reading " ++ name ++ ": 'utf-8' codec can't decode " ++
        placeText f.position f.range ++ ": " ++ f.reason.text ++ "\n" := by
  have hmessage : (SourceError.encoding name f).message =
      "Error reading " ++ name ++ ": " ++ f.message := rfl
  have hcolon : ": 'utf-8' codec can't decode " = ": " ++ "'utf-8' codec can't decode " := rfl
  rw [hmessage, Utf8.Fault.message_eq, hcolon]
  simp only [String.append_assoc, -String.reduceAppend]

/-- A file of a text is read as that text, with its line ends folded. -/
lemma readSource_of_decode (hfile : files name = some (.regular bytes))
    (hdecode : Utf8.decode bytes = .ok text) :
    readSource files name = .ok (String.ofList (foldLineEnds text)) := by
  simp only [readSource, hfile, hdecode]

/-- A file of bytes with a fault is not read. -/
lemma readSource_of_decode_error (hfile : files name = some (.regular bytes))
    (hdecode : Utf8.decode bytes = .error f) :
    readSource files name = .error (.encoding name f) := by
  simp only [readSource, hfile, hdecode]

/-- **How a command line depends on the bytes of its file.** If they are well-formed, they are the
bytes of exactly one text. Every carriage return with a line feed behind it is replaced in this
text, and then every carriage return that is left, and the report is that of the text that results.
No carriage return is left in it, and its operations stand in the lines that the line ends of the
file make, each of which counts once.

If they are not well-formed, they have a first fault, which is the only error, and nothing is
written or run. -/
theorem commandLine_of_bytes (host : Host) (rules : ArgumentRules) (files : Files)
    (arguments : List String) (o : Options) (bytes : List UInt8)
    (hread : readArguments rules arguments = .ok o)
    (hfile : files o.input = some (.regular bytes)) :
    (Utf8.IsWellFormed bytes → ∃ text : List Char,
      (∀ other, bytes = Utf8.encode (String.ofList other) ↔ other = text) ∧
      let source := String.ofList (replaceAll ['\r'] ['\n'] (replaceAll ['\r', '\n'] ['\n'] text))
      (∀ layout, o.Lays layout → ∀ fuel input,
        commandLine host rules fuel files arguments input =
          o.reportSource host fuel source layout input) ∧
      '\r' ∉ source.toList ∧ CountsLineEnds text (operations source)) ∧
    (¬Utf8.IsWellFormed bytes →
      (∃ f : Utf8.Fault, f.IsFirst bytes) ∧
      ∀ f : Utf8.Fault, f.IsFirst bytes → ∀ fuel input,
        commandLine host rules fuel files arguments input =
          some (.failed 1 ("Error reading " ++ o.input ++ ": 'utf-8' codec can't decode " ++
            placeText f.position f.range ++ ": " ++ f.reason.text ++ "\n"))) := by
  refine ⟨fun hwell => ?_, fun hnot => ⟨Utf8.exists_isFirst hnot, fun f hfirst fuel input => ?_⟩⟩
  · obtain ⟨text, hdecode⟩ := Utf8.isWellFormed_iff_decode.1 hwell
    refine ⟨text, fun other => ?_, ?_⟩
    · rw [← Utf8.decode_eq_ok_iff, hdecode, Except.ok.injEq, eq_comm]
    · rw [← foldLineEnds_eq_replaceAll]
      refine ⟨fun layout hlays fuel input => ?_, ?_, countsLineEnds_operations text⟩
      · rw [commandLine_of_ok hread, Options.report_of_ok (readSource_of_decode hfile hdecode)
          (layout_eq_ok_iff.2 hlays)]
      · rw [String.toList_ofList]
        exact cr_not_mem_foldLineEnds text
  · have hdecode := (Utf8.decode_eq_error_iff hnot).2 hfirst
    rw [commandLine_of_ok hread,
      Options.report_of_source_error (readSource_of_decode_error hfile hdecode),
      message_encoding_line]

/-- A file with two of the three line ends one behind the other, and a file with two of the three
bytes of a character. -/
theorem commandLine_of_bytes_line_ends_and_cut :
    let rules : ArgumentRules := ⟨false, true⟩
    let ends : List UInt8 := [0xC3, 0xA9, 0x0D, 0x0A, 0x0D, 0x2B]
    let cut : List UInt8 := [0x2B, 0xE2, 0x82, 0x28]
    let files : Files := fun name => some (.regular (if name = "ends" then ends else cut))
    (Utf8.IsWellFormed ends ∧ ends = Utf8.encode "é\r\n\r+" ∧
      (∀ fuel input, commandLine .usual rules fuel files ["ends"] input =
        Options.reportSource .usual { input := "ends" } fuel "é\n\n+"
          ⟨1024, 512, by decide⟩ input) ∧
      CountsLineEnds "é\r\n\r+".toList [⟨.command .increment, 0, ⟨3, 1⟩⟩]) ∧
    ¬Utf8.IsWellFormed cut ∧
      (Utf8.Fault.mk 1 0xE2 [0x82] .invalidContinuation).IsFirst cut ∧
      ∀ fuel input, commandLine .usual rules fuel files ["cut"] input =
        some (.failed 1 ("Error reading cut: 'utf-8' codec can't decode " ++
          "bytes in position 1-2: invalid continuation byte\n")) := by
  intro rules ends cut files
  have hdecode : Utf8.decode ends = .ok "é\r\n\r+".toList := by decide +kernel
  have hcut : Utf8.decode cut = .error ⟨1, 0xE2, [0x82], .invalidContinuation⟩ := by
    decide +kernel
  have hwell : Utf8.IsWellFormed ends := Utf8.isWellFormed_iff_decode.2 ⟨_, hdecode⟩
  have hnot : ¬Utf8.IsWellFormed cut := by
    intro h
    obtain ⟨text, htext⟩ := Utf8.isWellFormed_iff_decode.1 h
    rw [hcut] at htext
    cases htext
  obtain ⟨hgood, -⟩ := commandLine_of_bytes .usual rules files ["ends"] { input := "ends" } ends
    (by decide +kernel) rfl
  obtain ⟨-, hbad⟩ := commandLine_of_bytes .usual rules files ["cut"] { input := "cut" } cut
    (by decide +kernel) rfl
  have hencode := Utf8.decode_eq_ok_iff.1 hdecode
  obtain ⟨text, hunique, hreport, -, hcounts⟩ := hgood hwell
  obtain rfl := (hunique _).1 hencode
  have hfolded : String.ofList (replaceAll ['\r'] ['\n']
      (replaceAll ['\r', '\n'] ['\n'] "é\r\n\r+".toList)) = "é\n\n+" := by cbv
  have hops : operations "é\n\n+" = [⟨.command .increment, 0, ⟨3, 1⟩⟩] := by cbv
  rw [hfolded] at hreport hcounts
  rw [hops] at hcounts
  have hfirst := Utf8.isFirst_of_decode hcut
  refine ⟨⟨hwell, hencode, hreport _ ⟨.inl ⟨.inl rfl, rfl⟩, .inl ⟨.inl rfl, rfl⟩⟩, hcounts⟩, hnot,
    hfirst, fun fuel input => ?_⟩
  rw [(hbad hnot).2 _ hfirst]
  decide +kernel

end TapeLang
