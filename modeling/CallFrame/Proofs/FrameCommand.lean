import CallFrame.Main
import CallFrame.Proofs.Faults
import CallFrame.Proofs.Options

/-! # The command for frames

The command takes texts one after the other. For each it reads a signature, sizes both frames and
prints a line, and the first text that fails ends the run. What follows says that such a run is a
fold over the texts, however many there are and wherever the failure is.

* **`FrameReport.make_eq_error_iff`** — a line is missing only when the stub has no layout;
  `FrameReport.make_eq_ok_iff` says what it holds otherwise.
* **`FrameReport.newline_notMem_line`** — a line holds no line break.
* **`Failure.report_convention`** and its companions spell what is shown of a failure.
* **`runTexts_append`** — a run over two lists is a run over the first followed by one over the
  second.
* **`Options.frame_fold`** — the exit code and both texts that a run leaves, for any options. -/

namespace CallFrame

namespace FrameReport

/-! ## Reports -/

/-- **A report is missing exactly when the layout is.** The direct call never stops after the stub
has its layout, so the second computation adds no fault of its own. -/
theorem make_eq_error_iff {convention : Convention} {signature : Signature} {fault : Fault}
    (hfits : signature.text.utf8ByteSize < Word.bound) :
    make convention signature = .error fault ↔
      (convention.stubLayout signature).outcome = .error fault := by
  simp only [make, bind_eq_error_iff, pure, Except.pure, reduceCtorEq, and_false, exists_false,
    or_false]
  constructor
  · rintro (hlayout | ⟨layout, hlayout, hdirect⟩)
    · exact hlayout
    · -- a direct call that stops has stopped the stub before it
      rw [Convention.stubLayout_eq_error_iff_stubFrame hfits]
      exact Convention.stubFrame_eq_error_of_directFrame hfits hdirect
  · intro hlayout
    exact Or.inl hlayout

/-- **What a report holds**: its signature, the parts of the stub's layout and the size of the
direct call. -/
theorem make_eq_ok_iff {convention : Convention} {signature : Signature} {report : FrameReport} :
    make convention signature = .ok report ↔
      ∃ layout direct, (convention.stubLayout signature).outcome = .ok layout ∧
        (convention.directFrame signature.text).outcome = .ok direct ∧
        report = ⟨signature, layout.outArgs, layout.size, direct, layout.isTailCall⟩ := by
  simp only [make, bind_eq_ok_iff, pure, Except.pure, Except.ok.injEq]
  constructor
  · rintro ⟨layout, hlayout, direct, hdirect, rfl⟩
    exact ⟨layout, direct, hlayout, hdirect, rfl⟩
  · rintro ⟨layout, direct, hlayout, hdirect, rfl⟩
    exact ⟨layout, hlayout, direct, hdirect, rfl⟩

/-- The letters of a signature are no line breaks. -/
theorem newline_notMem_text (signature : Signature) : '\n' ∉ signature.text.toList := by
  have hletter : ∀ kind : Kind, '\n' ≠ kind.letter := by
    intro kind
    cases kind <;> decide
  rw [Signature.toList_text, List.mem_cons, List.mem_map, not_or]
  refine ⟨hletter signature.result, ?_⟩
  rintro ⟨kind, -, hsame⟩
  exact hletter kind.val hsame.symm

/-- The digits of a number are no line breaks. -/
theorem newline_notMem_digits (number : Nat) : '\n' ∉ (toString number).toList := by
  have hdigits : (toString number).toList = Decimal.digits number := String.toList_ofList
  rw [hdigits]
  intro hmem
  exact absurd (Decimal.isDigit_of_mem_digits hmem) (by decide)

/-- The decimal text of a word holds no line break. -/
theorem newline_notMem_decimal (word : Word) : '\n' ∉ (Decimal.text word).toList :=
  newline_notMem_digits word.toNat

/-- **A line holds no line break**, in either form. -/
theorem newline_notMem_line (report : FrameReport) (format : Format) :
    '\n' ∉ (report.line format).toList := by
  have htext := newline_notMem_text report.signature
  have hnumber := newline_notMem_decimal
  cases format with
  | text =>
      have hkind : '\n' ∉ (stubKind report.tailCall).toList := by
        cases report.tailCall <;> decide
      simp only [line, sentence, String.toList_append, List.mem_append, htext, hnumber, hkind]
      decide
  | json =>
      have htruth : '\n' ∉ (truth report.tailCall).toList := by
        cases report.tailCall <;> decide
      unfold line json
      simp only [String.toList_append, List.mem_append, htext, hnumber, htruth]
      decide

end FrameReport

namespace CommandLine

/-! ## What is shown of a failure -/

namespace Failure

/-- **Numbers of no convention are shown with the rule that they break.** -/
theorem report_convention {error : ConventionError} {reason : String}
    (hreason : error.reason = reason) (hline : '\n' ∉ reason.toList) :
    (convention error).report =
      "Error: Invalid calling convention\n\nCaused by:\n    Invalid calling convention: " ++
        reason ++ "\n" := by
  have hopening : '\n' ∉ "Invalid calling convention: ".toList := by decide
  have hreport : (convention error).report = "Error: " ++ "Invalid calling convention" ++
      "\n\nCaused by:\n    " ++ indent ("Invalid calling convention: " ++ error.reason) ++
      "\n" := rfl
  rw [hreport, hreason, indent_append, indent_of_newline_notMem hopening,
    indent_of_newline_notMem hline, ← String.toList_inj]
  simp

/-- **A text that is no signature is quoted in front of the sentence on its defect.** -/
theorem report_signature (text : String) {error : SignatureError} {sentence : String}
    (hsentence : indent error.message = sentence) :
    (signature text error).report =
      "Error: Invalid shorty '" ++ text ++ "'\n\nCaused by:\n    " ++ sentence ++ "\n" := by
  have hreport : (signature text error).report = "Error: " ++
      ("Invalid shorty '" ++ text ++ "'") ++ "\n\nCaused by:\n    " ++ indent error.message ++
        "\n" := rfl
  rw [hreport, hsentence, ← String.toList_inj]
  simp

/-- A character is set in when it is a line break. -/
theorem indent_singleton (character : Char) :
    indent (String.singleton character) =
      if character = '\n' then "\n    " else String.singleton character := by
  by_cases hbreak : character = '\n'
  · rw [if_pos hbreak, hbreak]
    decide
  · have hline : '\n' ∉ (String.singleton character).toList := by
      simpa using Ne.symm hbreak
    rw [if_neg hbreak, indent_of_newline_notMem hline]

/-- An unknown letter is set in when it is a line break, and nothing else of its sentence is. -/
theorem indent_message_unknownLetter (character : Char) (position : Nat) :
    indent (SignatureError.unknownLetter character position).message =
      "Invalid shorty character '" ++
        (if character = '\n' then "\n    " else String.singleton character) ++
          "' at position " ++ toString position := by
  have hdigits := FrameReport.newline_notMem_digits position
  have hopening : '\n' ∉ "Invalid shorty character '".toList := by decide
  have hclosing : '\n' ∉ ("' at position " ++ toString position).toList := by
    rw [String.toList_append, List.mem_append, not_or]
    exact ⟨by decide, hdigits⟩
  calc indent (SignatureError.unknownLetter character position).message
    _ = indent ("Invalid shorty character '" ++ String.singleton character ++
        ("' at position " ++ toString position)) := rfl
    _ = "Invalid shorty character '" ++
        (if character = '\n' then "\n    " else String.singleton character) ++
          ("' at position " ++ toString position) := by
      rw [indent_append, indent_append, indent_singleton, indent_of_newline_notMem hopening,
        indent_of_newline_notMem hclosing]
    _ = _ := (String.append_assoc ..).symm

/-- The sentence about an argument of the result's kind is one line. -/
theorem indent_message_voidArgument (position : Nat) :
    indent (SignatureError.voidArgument position).message =
      "Void is only valid as a return type (argument at position " ++ toString position ++ ")" := by
  have hdigits := FrameReport.newline_notMem_digits position
  have hline : '\n' ∉ ("Void is only valid as a return type (argument at position " ++
      toString position ++ ")").toList := by
    rw [String.toList_append, String.toList_append, List.mem_append, List.mem_append, not_or,
      not_or]
    exact ⟨⟨by decide, hdigits⟩, by decide⟩
  exact indent_of_newline_notMem hline

end Failure

/-! ## What a run shows -/

/-- **What can be seen of a run.** -/
structure Observation where
  /-- The exit code. -/
  exitCode : Nat
  /-- The text on the output stream. -/
  output : String
  /-- The text on the error stream. -/
  complaint : String
  deriving DecidableEq

/-- **What can be seen of a run with numbers of no convention**: nothing but the rule that they
break, whatever the command is. -/
def Observation.rejected (error : ConventionError) : Observation where
  exitCode := 1
  output := ""
  complaint :=
    "Error: Invalid calling convention\n\nCaused by:\n    Invalid calling convention: " ++
    (match error with
      | .zeroWordSize => "word size must be non-zero"
      | .alignmentNotPowerOfTwo stackAlignment =>
          "stack alignment " ++ Decimal.text stackAlignment ++ " is not a power of two"
      | .wordSizeNotDividing wordSize stackAlignment =>
          "word size " ++ Decimal.text wordSize ++ " does not divide stack alignment " ++
            Decimal.text stackAlignment) ++ "\n"

/-- What can be seen of an outcome. -/
def Outcome.observed (outcome : Outcome) : Observation where
  exitCode := outcome.ending.exitCode
  output := outcome.output
  complaint := outcome.ending.complaint?.getD ""

/-- A failure for numbers of no convention shows the rule that they break. -/
theorem Outcome.observed_of_convention (error : ConventionError) :
    Outcome.observed ⟨[], .failure (.convention error)⟩ = .rejected error := by
  have hdecimal := FrameReport.newline_notMem_decimal
  refine congrArg (Observation.mk 1 "") ?_
  cases error with
  | zeroWordSize => exact Failure.report_convention rfl (by decide)
  | alignmentNotPowerOfTwo stackAlignment =>
      refine Failure.report_convention rfl ?_
      simp only [String.toList_append, List.mem_append, hdecimal]
      decide
  | wordSizeNotDividing wordSize stackAlignment =>
      refine Failure.report_convention rfl ?_
      simp only [String.toList_append, List.mem_append, hdecimal]
      decide

/-- Only a success has the exit code zero. -/
theorem Ending.exitCode_eq_zero_iff {ending : Ending} :
    ending.exitCode = 0 ↔ ending = .success := by
  cases ending <;> simp [exitCode]

namespace Outcome

/-- A run goes on after a success. -/
theorem andThen_of_success {first : Outcome} (hsucceeded : first.ending = .success)
    (second : Outcome) :
    first.andThen second = ⟨first.lines ++ second.lines, second.ending⟩ := by
  rw [andThen, hsucceeded]

/-- A run ends with whatever is no success. -/
theorem andThen_of_ne_success {first : Outcome} (hstopped : first.ending ≠ .success)
    (second : Outcome) : first.andThen second = first := by
  obtain ⟨lines, ending⟩ := first
  cases ending with
  | success => exact absurd rfl hstopped
  | _ => rfl

/-- **What can be seen of two runs in a row**: after exit code zero the output of both and the end
of the second, otherwise the first alone. -/
theorem observed_andThen (first second : Outcome) :
    (first.andThen second).observed =
      if first.observed.exitCode = 0 then
        ⟨second.observed.exitCode, first.observed.output ++ second.observed.output,
          second.observed.complaint⟩
      else first.observed := by
  by_cases hsucceeded : first.ending = .success
  · have houtput := output_andThen hsucceeded second
    have hzero : first.observed.exitCode = 0 := Ending.exitCode_eq_zero_iff.mpr hsucceeded
    rw [if_pos hzero, observed, houtput, andThen_of_success hsucceeded]
    rfl
  · have hzero : ¬ first.observed.exitCode = 0 := fun h =>
      hsucceeded (Ending.exitCode_eq_zero_iff.mp h)
    rw [if_neg hzero, andThen_of_ne_success hsucceeded]

end Outcome

namespace Invocation

variable {invocation : Invocation} {convention : Convention}

/-- With numbers of no convention the command does not matter. -/
theorem run_of_error {error : ConventionError}
    (hconvention : invocation.convention? = .error error) :
    invocation.run = ⟨[], .failure (.convention error)⟩ := by
  rw [run, hconvention]

/-- What can be seen with numbers of no convention. -/
theorem observed_run_of_error {error : ConventionError}
    (hconvention : invocation.convention? = .error error) :
    invocation.run.observed = .rejected error := by
  rw [run_of_error hconvention, Outcome.observed_of_convention]

/-- With numbers of a convention the texts are taken one by one. -/
theorem run_of_frame (hconvention : invocation.convention? = .ok convention) {texts : List String}
    (hcommand : invocation.command = .frame texts) :
    invocation.run = runTexts convention invocation.format texts := by
  rw [run, hconvention]
  dsimp only
  rw [hcommand]

/-- With numbers of a convention the counts are sized. -/
theorem run_of_outArgs {floatingPoint integer : Word}
    (hconvention : invocation.convention? = .ok convention)
    (hcommand : invocation.command = .outArgs floatingPoint integer) :
    invocation.run = runOutArgs convention invocation.format floatingPoint integer := by
  rw [run, hconvention]
  dsimp only
  rw [hcommand]

end Invocation

/-! ## One text and many -/

variable {convention : Convention} {text : String}

/-- One text alone is a list of texts. -/
theorem runTexts_singleton (convention : Convention) (format : Format) (text : String) :
    runTexts convention format [text] = runText convention format text :=
  Outcome.andThen_done _

/-- The first text of a list comes before all others. -/
theorem runTexts_cons (convention : Convention) (format : Format) (text : String)
    (rest : List String) :
    runTexts convention format (text :: rest) =
      (runText convention format text).andThen (runTexts convention format rest) := rfl

/-- **A run over two lists** is a run over the first followed by one over the second. -/
theorem runTexts_append (convention : Convention) (format : Format) (first second : List String) :
    runTexts convention format (first ++ second) =
      (runTexts convention format first).andThen (runTexts convention format second) := by
  -- induction on the first list; each text comes before everything that is left of both
  induction first with
  | nil => rfl
  | cons text rest ih =>
      rw [List.cons_append, runTexts_cons, runTexts_cons, ih, Outcome.andThen_assoc]

/-- A text that is no signature is a failure. -/
theorem runText_of_error {error : SignatureError} (format : Format)
    (hparse : Signature.parse text = .error error) :
    runText convention format text = ⟨[], .failure (.signature text error)⟩ := by
  rw [runText, hparse]

/-- A signature whose stub has no layout is a crash. -/
theorem runText_of_fault {signature : Signature} {fault : Fault} (format : Format)
    (hfits : text.utf8ByteSize < Word.bound) (hparse : Signature.parse text = .ok signature)
    (hfault : (convention.stubLayout signature).outcome = .error fault) :
    runText convention format text = ⟨[], .crash fault⟩ := by
  rw [Signature.parse_eq_ok_iff.mp hparse] at hfits
  rw [runText, hparse]
  dsimp only
  rw [(FrameReport.make_eq_error_iff hfits).mpr hfault]

/-- A signature whose stub has a layout is the line of its report. -/
theorem runText_of_layout {signature : Signature} {layout : StubLayout} (format : Format)
    (hfits : text.utf8ByteSize < Word.bound) (hparse : Signature.parse text = .ok signature)
    (hlayout : (convention.stubLayout signature).outcome = .ok layout) :
    ∃ report, FrameReport.make convention signature = .ok report ∧
      runText convention format text = ⟨[report.line format], .success⟩ := by
  rw [Signature.parse_eq_ok_iff.mp hparse] at hfits
  rw [runText, hparse]
  dsimp only
  cases hmake : FrameReport.make convention signature with
  | ok report => exact ⟨report, rfl, rfl⟩
  | error fault =>
      rw [FrameReport.make_eq_error_iff hfits, hlayout] at hmake
      cases hmake

/-- **What a run over one text shows.** The exit code tells whether the text is a signature and
whether its stub has a layout. A text that is no signature is quoted together with its defect; a
crash prints nothing; otherwise there is exactly one line. -/
structure IsTextRun (convention : Convention) (text : String) (seen : Observation) : Prop where
  /-- The run fails exactly when the text is no signature. -/
  exitCode_eq_one_iff : seen.exitCode = 1 ↔ ∃ error, Signature.parse text = .error error
  /-- The run crashes exactly when the stub of the signature has no layout. -/
  exitCode_eq_crash_iff : seen.exitCode = 101 ↔ ∃ signature fault,
    Signature.parse text = .ok signature ∧
      (convention.stubLayout signature).outcome = .error fault
  /-- The run succeeds exactly when the stub of the signature has a layout. -/
  exitCode_eq_zero_iff : seen.exitCode = 0 ↔ ∃ signature layout,
    Signature.parse text = .ok signature ∧
      (convention.stubLayout signature).outcome = .ok layout
  /-- A failure prints nothing and quotes the text with its defect. A line break that is no letter
  is shown as one, and the rest of the sentence is set in behind it. -/
  of_error : ∀ error, Signature.parse text = .error error → seen.output = "" ∧
    seen.complaint = "Error: Invalid shorty '" ++ text ++ "'\n\nCaused by:\n    " ++
      (match error with
        | .empty => "Shorty signature is empty (missing return type)"
        | .unknownLetter character position =>
            "Invalid shorty character '" ++
              (if character = '\n' then "\n    " else String.singleton character) ++
                "' at position " ++ toString position
        | .voidArgument position =>
            "Void is only valid as a return type (argument at position " ++ toString position ++
              ")") ++ "\n"
  /-- A crash prints nothing. -/
  of_crash : seen.exitCode = 101 → seen.output = ""
  /-- A success prints one line. -/
  of_success : seen.exitCode = 0 → ∃ line, seen.output = line ++ "\n" ∧ '\n' ∉ line.toList

/-- A run that printed one line has that line as its output. -/
theorem Outcome.output_singleton (line : String) (ending : Ending) :
    Outcome.output ⟨[line], ending⟩ = line ++ "\n" := by
  simp [output]

/-- **A run over one text shows what it should**, in either form. -/
theorem isTextRun_runText (format : Format) (hfits : text.utf8ByteSize < Word.bound) :
    IsTextRun convention text (runText convention format text).observed := by
  cases hparse : Signature.parse text with
  | error error =>
      rw [runText_of_error format hparse]
      constructor
      case of_error =>
        intro other hother
        rw [hparse] at hother
        cases hother
        cases error with
        | empty => exact ⟨rfl, Failure.report_signature text (by decide)⟩
        | unknownLetter character position =>
            have hsentence := Failure.indent_message_unknownLetter character position
            exact ⟨rfl, Failure.report_signature text hsentence⟩
        | voidArgument position =>
            have hsentence := Failure.indent_message_voidArgument position
            exact ⟨rfl, Failure.report_signature text hsentence⟩
      all_goals simp [hparse, Outcome.observed, Ending.exitCode]
  | ok signature =>
      have hsignature : ∀ error, Signature.parse text ≠ .error error := by
        simp [hparse]
      cases hlayout : (convention.stubLayout signature).outcome with
      | error fault =>
          rw [runText_of_fault format hfits hparse hlayout]
          constructor
          case of_error => exact fun error herror => absurd herror (hsignature error)
          case of_crash => exact fun _ => rfl
          all_goals simp [hparse, hlayout, Outcome.observed, Ending.exitCode]
      | ok layout =>
          obtain ⟨report, -, hrun⟩ := runText_of_layout format hfits hparse hlayout
          rw [hrun]
          constructor
          case of_error => exact fun error herror => absurd herror (hsignature error)
          case of_success =>
            intro _
            exact ⟨report.line format, Outcome.output_singleton _ .success,
              report.newline_notMem_line format⟩
          all_goals simp [hparse, hlayout, Outcome.observed, Ending.exitCode]

/-! ## Any options and any texts -/

namespace Options

/-- **What can be seen of the command for frames** under these options, with every text behind the
argument that ends the options. -/
def frame (options : Options) (texts : List String) : Observation :=
  (run (options.arguments ++ "frame" :: "--" :: texts)).observed

variable {options : Options} {convention : Convention}

/-- With numbers of no convention the texts are not looked at. -/
theorem frame_of_error {error : ConventionError} (hconvention : options.convention? = .error error)
    {texts : List String} (hne : texts ≠ []) :
    options.frame texts = .rejected error := by
  rw [frame, options.run_frame hne, hconvention, ← Outcome.observed_of_convention]

/-- With numbers of a convention the texts are taken one by one. -/
theorem frame_of_ok (hconvention : options.convention? = .ok convention) {texts : List String}
    (hne : texts ≠ []) :
    options.frame texts = (runTexts convention options.format texts).observed := by
  rw [frame, options.run_frame hne, hconvention]

/-- **The command for frames is a fold that stops at the first failure.** With numbers of no
convention it fails in the same way whatever the texts are. Otherwise a run over two lists shows
the run over the first and, if that succeeds, goes on with the run over the second; and a run over
one text shows whether that text is a signature with a layout. Only the last part bounds the text,
by the number of bytes that a word can count. -/
theorem frame_fold (options : Options) :
    (∀ error, options.convention? = .error error → ∀ texts, texts ≠ [] →
      options.frame texts = .rejected error) ∧
    ∀ convention, options.convention? = .ok convention →
      (∀ first second, first ≠ [] → second ≠ [] →
        options.frame (first ++ second) =
          if (options.frame first).exitCode = 0 then
            ⟨(options.frame second).exitCode,
              (options.frame first).output ++ (options.frame second).output,
              (options.frame second).complaint⟩
          else options.frame first) ∧
      ∀ text, text.utf8ByteSize < Word.bound →
        IsTextRun convention text (options.frame [text]) := by
  refine ⟨fun error herror texts hne => frame_of_error herror hne, ?_⟩
  intro convention hconvention
  constructor
  · intro first second hfirst hsecond
    have hboth : first ++ second ≠ [] := List.append_ne_nil_of_left_ne_nil hfirst second
    rw [frame_of_ok hconvention hfirst, frame_of_ok hconvention hsecond,
      frame_of_ok hconvention hboth, runTexts_append, Outcome.observed_andThen]
  · intro text hfits
    have hone : [text] ≠ [] := List.cons_ne_nil text []
    rw [frame_of_ok hconvention hone, runTexts_singleton]
    exact isTextRun_runText options.format hfits

/-- With one register for integers the first text is printed, and the second ends the run before the
third is looked at. With words of no bytes not even the first is. -/
theorem frame_fold_accented :
    let options : Options := ⟨[.number .integerRegisters 1], [["--int-regs=+1"]],
      .cons (.inlineValue .integerRegisters (show numeral? "+1" = some 1 by decide)) .nil,
      rfl, by decide⟩
    let wordless : Options := ⟨[.number .wordSize 0], [["--word-size", "0"]],
      .cons (.nextValue .wordSize (show numeral? "0" = some 0 by decide)) .nil, rfl, by decide⟩
    options.convention? = .ok ⟨8, 1, 8, 16, by decide, ⟨4, rfl⟩, by decide⟩ ∧
      (options.frame ["VI"]).exitCode = 0 ∧
      options.frame ["VI", "é", "V"] =
        ⟨(options.frame ["é", "V"]).exitCode,
          (options.frame ["VI"]).output ++ (options.frame ["é", "V"]).output,
          (options.frame ["é", "V"]).complaint⟩ ∧
      (options.frame ["é"]).exitCode = 1 ∧
      (options.frame ["é"]).complaint = "Error: Invalid shorty 'é'\n\nCaused by:\n    " ++
        "Invalid shorty character 'é' at position 0\n" ∧
      wordless.convention? = .error .zeroWordSize ∧
      wordless.frame ["é"] = .rejected .zeroWordSize := by
  intro options wordless
  have hconvention : options.convention? =
      .ok ⟨8, 1, 8, 16, by decide, ⟨4, rfl⟩, by decide⟩ := by decide
  have hwordless : wordless.convention? = .error .zeroWordSize := by decide
  have hfits : "é".utf8ByteSize < Word.bound := by decide
  have hzero : (options.frame ["VI"]).exitCode = 0 := by decide
  obtain ⟨hfold, htext⟩ := options.frame_fold.2 _ hconvention
  have hsplit := hfold ["VI"] ["é", "V"] (List.cons_ne_nil _ _) (List.cons_ne_nil _ _)
  rw [if_pos hzero] at hsplit
  have hparse : Signature.parse "é" = .error (.unknownLetter 'é' 0) := rfl
  refine ⟨hconvention, hzero, hsplit, ?_, ?_, hwordless, ?_⟩
  · exact (htext "é" hfits).exitCode_eq_one_iff.mpr ⟨_, hparse⟩
  · exact ((htext "é" hfits).of_error _ hparse).2.trans (by decide)
  · exact wordless.frame_fold.1 _ hwordless _ (List.cons_ne_nil _ _)

end Options

end CommandLine

end CallFrame
