import CallFrame.Proofs.CheckedSizes
import CallFrame.Proofs.FrameCommand
import CallFrame.Report.Reader

/-! # The command for argument counts

One command sizes the frames of a signature and crashes when a size does not fit a word. The other
sizes the stack arguments for counts that are given as numbers, and reports an error in that case.
For the counts of a signature both size the same stack arguments.

* **`Failure.report_outArgs`** spells what is shown of counts without a size, and
  **`OutArgsReport.States`** says what a line states of counts with one.
* **`Invocation.run_outArgs_exitCode_ne`** — the command for counts never crashes.
* **`Options.ofArguments?_frame_around`** and **`Options.ofArguments?_outArgs_around`** — both
  commands with options in front of them and behind them.
* **`AgreeOnSize`** — what the runs of both commands have to do with each other.
* **`Options.commands_agree`** — they agree for every signature, and the command for counts goes on
  exactly where only the return address or the alignment is too much. -/

namespace CallFrame

/-! ## Layouts of a tally -/

namespace Convention

variable {convention : Convention} {signature : Signature} {tally : Tally}

/-- The layout for a signature of a known tally is made from its stack arguments. -/
theorem outcome_stubLayout_of_tally (htally : Tally.ofSignature signature = .ok tally) :
    (convention.stubLayout signature).outcome =
      (convention.outArgs tally.floatingPoint tally.integer >>= fun outArgs =>
        StubLayout.make convention outArgs signature.result.isNarrow) := by
  rw [outcome_stubLayout, htally]
  rfl

variable {size : Word} (htally : Tally.ofSignature signature = .ok tally)
  (hsize : convention.outArgs tally.floatingPoint tally.integer = .ok size)
include htally hsize

/-- With the stack arguments sized, the layout is made from their size. -/
theorem outcome_stubLayout_of_outArgs :
    (convention.stubLayout signature).outcome =
      StubLayout.make convention size signature.result.isNarrow := by
  rw [outcome_stubLayout_of_tally htally, hsize]
  rfl

/-- A layout repeats the size of the stack arguments. -/
theorem outArgs_eq_of_stubLayout {layout : StubLayout}
    (hlayout : (convention.stubLayout signature).outcome = .ok layout) : layout.outArgs = size := by
  rw [outcome_stubLayout_of_outArgs htally hsize] at hlayout
  exact (StubLayout.make_eq_ok_iff.mp hlayout).1

/-- With the stack arguments sized, there is a layout unless the return address and the alignment
are too much. -/
theorem stubLayout_fault_iff_of_outArgs :
    (∃ fault, (convention.stubLayout signature).outcome = .error fault) ↔
      Word.bound ≤ convention.stubContents (convention.exactOutArgs tally)
        signature.result.isNarrow + convention.stackAlignment.toNat := by
  rw [outcome_stubLayout_of_outArgs htally hsize, ← convention.outArgs_eq_ok_iff.mp hsize]
  simp only [StubLayout.make_eq_error_iff, exists_eq_left]

end Convention

/-- **What a line states of argument counts**, read back from it: their size, and as JSON the counts
as well. -/
def OutArgsReport.States (report : OutArgsReport) (line : String) : Format → Prop
  | .text => readSize? line = some report.size
  | .json => read? line = some report

/-- A line states the report that it was written for. -/
theorem OutArgsReport.states_line (report : OutArgsReport) (format : Format) :
    report.States (report.line format) format := by
  cases format with
  | text => exact report.readSize?_text
  | json => exact report.read?_json

namespace CommandLine

/-! ## Runs for argument counts -/

/-- **Counts without a size are shown in decimal digits.** -/
theorem Failure.report_outArgs (floatingPoint integer : Word) :
    (outArgs floatingPoint integer ⟨floatingPoint, integer⟩).report =
      "Error: Cannot size outgoing args for --fp " ++ Decimal.text floatingPoint ++ " --int " ++
        Decimal.text integer ++ "\n\nCaused by:\n    Outgoing args for " ++
        Decimal.text floatingPoint ++ " fp + " ++ Decimal.text integer ++
        " non-fp arguments overflow usize\n" := by
  have hdecimal := FrameReport.newline_notMem_decimal
  have hline : '\n' ∉ ("Outgoing args for " ++ Decimal.text floatingPoint ++ " fp + " ++
      Decimal.text integer ++ " non-fp arguments overflow usize").toList := by
    simp only [String.toList_append, List.mem_append, hdecimal]
    decide
  have hreport : (outArgs floatingPoint integer ⟨floatingPoint, integer⟩).report = "Error: " ++
      ("Cannot size outgoing args for --fp " ++ Decimal.text floatingPoint ++ " --int " ++
        Decimal.text integer) ++ "\n\nCaused by:\n    " ++
      indent ("Outgoing args for " ++ Decimal.text floatingPoint ++ " fp + " ++
        Decimal.text integer ++ " non-fp arguments overflow usize") ++ "\n" := rfl
  rw [hreport, indent_of_newline_notMem hline, ← String.toList_inj]
  simp

section

variable {convention : Convention} {floatingPoint integer : Word}

/-- Counts with a size are a line. -/
theorem runOutArgs_of_ok (format : Format) {size : Word}
    (hsize : convention.outArgs? floatingPoint integer = .ok size) :
    runOutArgs convention format floatingPoint integer =
      ⟨[OutArgsReport.line ⟨floatingPoint, integer, size⟩ format], .success⟩ := by
  rw [runOutArgs, OutArgsReport.make, hsize]
  rfl

/-- Counts without a size are a failure. -/
theorem runOutArgs_of_error (format : Format) {error : OutArgsError}
    (hsize : convention.outArgs? floatingPoint integer = .error error) :
    runOutArgs convention format floatingPoint integer =
      ⟨[], .failure (.outArgs floatingPoint integer error)⟩ := by
  rw [runOutArgs, OutArgsReport.make, hsize]
  rfl

/-- A run for argument counts does not crash. -/
theorem runOutArgs_exitCode_ne (format : Format) :
    (runOutArgs convention format floatingPoint integer).observed.exitCode ≠ 101 := by
  cases hsize : convention.outArgs? floatingPoint integer with
  | ok size =>
      rw [runOutArgs_of_ok format hsize]
      simp [Outcome.observed, Ending.exitCode]
  | error error =>
      rw [runOutArgs_of_error format hsize]
      simp [Outcome.observed, Ending.exitCode]

end

/-- **The command for argument counts never crashes**, whatever the options and the counts are. -/
theorem Invocation.run_outArgs_exitCode_ne {invocation : Invocation} {floatingPoint integer : Word}
    (hcommand : invocation.command = .outArgs floatingPoint integer) :
    invocation.run.observed.exitCode ≠ 101 := by
  cases hconvention : invocation.convention? with
  | error error =>
      rw [run_of_error hconvention]
      simp [Outcome.observed, Ending.exitCode]
  | ok convention =>
      rw [run_of_outArgs hconvention hcommand]
      exact runOutArgs_exitCode_ne invocation.format

/-! ## Both commands for a signature -/

/-- **What the runs of both commands have to do with each other**, one for a signature and one for
the counts of its tally. -/
structure AgreeOnSize (convention : Convention) (format : Format) (signature : Signature)
    (tally : Tally) (frame sizes : Observation) : Prop where
  /-- The run for the counts does not crash. -/
  sizes_exitCode_ne : sizes.exitCode ≠ 101
  /-- After a run for the signature that succeeds, the run for the counts does. The line of the one
  states a report on the signature, and that of the other the same size. -/
  of_frame : frame.exitCode = 0 → ∃ (report : FrameReport) (frameLine sizesLine : String),
    frame.output = frameLine ++ "\n" ∧ FrameReport.read? frameLine format = some report ∧
    report.signature = signature ∧ sizes.exitCode = 0 ∧ sizes.output = sizesLine ++ "\n" ∧
    OutArgsReport.States ⟨tally.floatingPoint, tally.integer, report.outArgs⟩ sizesLine format
  /-- When the run for the counts fails, it is because these have no size, and the run for the
  signature crashes and prints nothing. -/
  of_sizes : sizes.exitCode = 1 →
    sizes.complaint = "Error: Cannot size outgoing args for --fp " ++
      Decimal.text tally.floatingPoint ++ " --int " ++ Decimal.text tally.integer ++
      "\n\nCaused by:\n    Outgoing args for " ++ Decimal.text tally.floatingPoint ++ " fp + " ++
      Decimal.text tally.integer ++ " non-fp arguments overflow usize\n" ∧
    frame.exitCode = 101 ∧ frame.output = ""
  /-- Only the run for the signature crashes when the stack arguments fit a word, but not together
  with the return address and the alignment. -/
  crash_iff : frame.exitCode = 101 ∧ sizes.exitCode = 0 ↔
    convention.exactOutArgs tally < Word.bound ∧
      Word.bound ≤ convention.stubContents (convention.exactOutArgs tally)
        signature.result.isNarrow + convention.stackAlignment.toNat

/-- **Runs of both commands agree on the size of the stack arguments.** -/
theorem agreeOnSize_run {convention : Convention} {text : String} {signature : Signature}
    {tally : Tally} (format : Format) (hfits : text.utf8ByteSize < Word.bound)
    (hparse : Signature.parse text = .ok signature)
    (htally : Tally.ofSignature signature = .ok tally) :
    AgreeOnSize convention format signature tally (runText convention format text).observed
      (runOutArgs convention format tally.floatingPoint tally.integer).observed := by
  have hthreshold := convention.exists_outArgs_eq_ok_iff tally
  cases hsize : convention.outArgs tally.floatingPoint tally.integer with
  | error fault =>
      -- no size: the one run reports it, and the other has no layout
      have hchecked := convention.outArgs?_eq_error_iff_outArgs.mpr ⟨⟨fault, hsize⟩, rfl⟩
      have hlayout : (convention.stubLayout signature).outcome = .error fault := by
        rw [Convention.outcome_stubLayout_of_tally htally, hsize]
        rfl
      have hover : ¬ convention.exactOutArgs tally < Word.bound := by
        rw [← hthreshold, hsize]
        simp
      rw [runText_of_fault format hfits hparse hlayout, runOutArgs_of_error format hchecked]
      constructor
      case crash_iff => simp [hover, Outcome.observed, Ending.exitCode]
      case of_sizes => exact fun _ => ⟨Failure.report_outArgs _ _, rfl, rfl⟩
      all_goals simp [Outcome.observed, Ending.exitCode]
  | ok size =>
      have hchecked := convention.outArgs?_eq_ok_iff_outArgs.mpr hsize
      have hbytes := hthreshold.mp ⟨size, hsize⟩
      have hfault := Convention.stubLayout_fault_iff_of_outArgs htally hsize
      rw [runOutArgs_of_ok format hchecked]
      cases hlayout : (convention.stubLayout signature).outcome with
      | error fault =>
          -- a size, but no layout
          have hover := hfault.mp ⟨fault, hlayout⟩
          rw [runText_of_fault format hfits hparse hlayout]
          constructor
          case crash_iff => simp [hbytes, hover, Outcome.observed, Ending.exitCode]
          all_goals simp [Outcome.observed, Ending.exitCode]
      | ok layout =>
          obtain ⟨report, hreport, hrun⟩ := runText_of_layout format hfits hparse hlayout
          have hroom : ¬ Word.bound ≤ convention.stubContents (convention.exactOutArgs tally)
              signature.result.isNarrow + convention.stackAlignment.toNat := by
            rw [← hfault, hlayout]
            simp
          rw [hrun]
          constructor
          case of_frame =>
            intro _
            obtain ⟨parts, direct, hparts, -, rfl⟩ := FrameReport.make_eq_ok_iff.mp hreport
            obtain rfl := Convention.outArgs_eq_of_stubLayout htally hsize hparts
            exact ⟨_, _, _, Outcome.output_singleton _ .success, FrameReport.read?_line _ format,
              rfl, rfl, Outcome.output_singleton _ .success, OutArgsReport.states_line _ format⟩
          case crash_iff => simp [hroom, Outcome.observed, Ending.exitCode]
          all_goals simp [Outcome.observed, Ending.exitCode]

/-! ## Options on both sides -/

/-- The text of a signature is not mistaken for an option. -/
theorem isOperand_text (signature : Signature) : IsOperand signature.text := by
  have hletter : ∀ kind : Kind, some kind.letter ≠ some '-' := by
    intro kind
    cases kind <;> decide
  right
  rw [Signature.toList_text, List.head?_cons]
  exact hletter signature.result

/-- Neither the convention nor the form depends on the counts. -/
theorem Invocation.make_counts (floatingPoint integer : Word) (settings : List Setting)
    (command : Command) :
    make (.number .floatingPoint floatingPoint :: .number .integer integer :: settings) command =
      make settings command := rfl

/-- The counts are no options that may stand anywhere. -/
theorem Setting.areDistinct_counts (floatingPoint integer : Word) {settings : List Setting}
    (hglobal : settings.all isGlobal = true) (hdistinct : areDistinct settings = true) :
    areDistinct (.number .floatingPoint floatingPoint :: .number .integer integer :: settings) =
      true := by
  have hnew : ∀ field : Field, field.isGlobal = false → some field ∉ settings.map field? := by
    intro field hcount hmem
    obtain ⟨given, hgiven, hfield⟩ := List.mem_map.mp hmem
    have hgivenGlobal := List.all_eq_true.mp hglobal given hgiven
    cases given with
    | json => cases hfield
    | number other value =>
        cases hfield
        rw [isGlobal, hcount] at hgivenGlobal
        cases hgivenGlobal
  rw [areDistinct, decide_eq_true_iff] at hdistinct ⊢
  rw [List.map_cons, List.map_cons, List.nodup_cons, List.nodup_cons, List.mem_cons, not_or]
  exact ⟨⟨by simp [field?], hnew .floatingPoint rfl⟩, hnew .integer rfl, hdistinct⟩

namespace Options

variable (before after : Options)

/-- A text between options is a command line; the options behind it count first. -/
theorem ofArguments?_frame_around {text : String} (hoperand : IsOperand text) :
    Invocation.ofArguments? (before.arguments ++ "frame" :: text :: after.arguments) =
      some (Invocation.make (after.settings ++ before.settings) (.frame [text])) := by
  have hspelled : Item.Spelled
      (.operand "frame" :: .operand text :: after.settings.map .setting)
      ("frame" :: text :: after.arguments) :=
    .operand (.inr (by decide)) (.operand hoperand after.spelled_arguments)
  have hsettings := Invocation.filterMap_setting?_setting after.settings
  have htexts := Invocation.filterMap_text?_setting after.settings
  have hdistinct := after.areDistinct
  rw [← hsettings] at hdistinct
  have hcommand : Command.ofName? "frame" after.settings [text] = some (.frame [text]) := by
    rw [Command.ofName?, if_pos rfl, after.areGlobal]
    rfl
  rw [before.ofArguments?_append hspelled hdistinct]
  show (Command.ofName? "frame" ((after.settings.map Item.setting).filterMap Item.setting?)
    (text :: (after.settings.map Item.setting).filterMap Item.text?)).map
      (Invocation.make ((after.settings.map Item.setting).filterMap Item.setting? ++
        before.settings)) = _
  rw [hsettings, htexts, hcommand]
  rfl

/-- Counts between options are a command line; the options behind them count first. -/
theorem ofArguments?_outArgs_around (floatingPoint integer : Word) :
    Invocation.ofArguments? (before.arguments ++
        ((Command.outArgs floatingPoint integer).arguments ++ after.arguments)) =
      some (Invocation.make (after.settings ++ before.settings)
        (.outArgs floatingPoint integer)) := by
  let counts : List Setting := [.number .floatingPoint floatingPoint, .number .integer integer]
  have hspelled : Item.Spelled (.operand "out-args" :: (counts ++ after.settings).map .setting)
      ((Command.outArgs floatingPoint integer).arguments ++ after.arguments) := by
    rw [Command.arguments, List.cons_append, List.append_assoc]
    exact .operand (.inr (by decide)) (.setting (Setting.spelled_arguments _)
      (.setting (Setting.spelled_arguments _) after.spelled_arguments))
  have hsettings := Invocation.filterMap_setting?_setting (counts ++ after.settings)
  have htexts := Invocation.filterMap_text?_setting (counts ++ after.settings)
  have hdistinct := Setting.areDistinct_counts floatingPoint integer after.areGlobal
    after.areDistinct
  rw [before.ofArguments?_append hspelled (by rw [hsettings]; exact hdistinct), hsettings, htexts]
  exact congrArg some (Invocation.make_counts floatingPoint integer _ _)

/-- **What can be seen of the command for frames** with one text between options. -/
def frameAround (text : String) : Observation :=
  (run (before.arguments ++ "frame" :: text :: after.arguments)).observed

/-- **What can be seen of the command for argument counts** between options. -/
def sizesAround (tally : Tally) : Observation :=
  (run (before.arguments ++
    ((Command.outArgs tally.floatingPoint tally.integer).arguments ++ after.arguments))).observed

/-- What both commands are asked for, apart from the text and the counts. -/
def around : Invocation := Invocation.make (after.settings ++ before.settings) (.frame [])

variable {before after} {text : String} {tally : Tally}

/-- The command for frames does what it is asked for. -/
theorem frameAround_eq (hoperand : IsOperand text) :
    frameAround before after text =
      { around before after with command := .frame [text] }.run.observed := by
  rw [frameAround, run, ofArguments?_frame_around before after hoperand]
  rfl

/-- The command for argument counts does what it is asked for. -/
theorem sizesAround_eq :
    sizesAround before after tally =
      { around before after with
        command := .outArgs tally.floatingPoint tally.integer }.run.observed := by
  rw [sizesAround, run, ofArguments?_outArgs_around before after]
  rfl

/-- With numbers of no convention neither the text nor the counts are looked at. -/
theorem around_of_error {error : ConventionError}
    (hconvention : (around before after).convention? = .error error) (hoperand : IsOperand text) :
    frameAround before after text = .rejected error ∧
      sizesAround before after tally = .rejected error := by
  have hsame : ∀ command, { around before after with command := command }.convention? =
      .error error := fun _ => hconvention
  rw [frameAround_eq hoperand, sizesAround_eq]
  exact ⟨Invocation.observed_run_of_error (hsame _), Invocation.observed_run_of_error (hsame _)⟩

/-- With numbers of a convention the one text is taken, and the counts are sized. -/
theorem around_of_ok {convention : Convention}
    (hconvention : (around before after).convention? = .ok convention)
    (hoperand : IsOperand text) :
    frameAround before after text =
        (runText convention (around before after).format text).observed ∧
      sizesAround before after tally =
        (runOutArgs convention (around before after).format tally.floatingPoint
          tally.integer).observed := by
  have hsame : ∀ command, { around before after with command := command }.convention? =
      .ok convention := fun _ => hconvention
  rw [frameAround_eq hoperand, sizesAround_eq, Invocation.run_of_frame (hsame _) rfl,
    Invocation.run_of_outArgs (hsame _) rfl, runTexts_singleton]
  exact ⟨rfl, rfl⟩

/-- **Both commands agree on the size of the stack arguments**, for every signature and any options
in front of the command and behind it. With numbers of no convention both fail in the same way.
Otherwise a size that the command for frames reports is the one that the command for counts
prints; counts without a size are an error of the one and a crash of the other; and where only the
command for frames crashes, the return address or the alignment is too much. The command for counts
never crashes, on no command line at all. -/
theorem commands_agree (before after : Options) {text : String} {signature : Signature}
    (hparse : Signature.parse text = .ok signature) (hfits : text.utf8ByteSize < Word.bound) :
    (∃ tally, Tally.ofSignature signature = .ok tally ∧
      (∀ error, (around before after).convention? = .error error →
        frameAround before after text = .rejected error ∧
          sizesAround before after tally = .rejected error) ∧
      ∀ convention, (around before after).convention? = .ok convention →
        AgreeOnSize convention (around before after).format signature tally
          (frameAround before after text) (sizesAround before after tally)) ∧
    ∀ arguments invocation floatingPoint integer,
      Invocation.ofArguments? arguments = some invocation →
      invocation.command = .outArgs floatingPoint integer →
      (run arguments).observed.exitCode ≠ 101 := by
  have htext := Signature.parse_eq_ok_iff.mp hparse
  have hoperand : IsOperand text := htext ▸ isOperand_text signature
  constructor
  · obtain ⟨tally, -, htally⟩ := Tally.ofText_text (htext ▸ hfits)
    refine ⟨tally, htally, fun error herror => around_of_error herror hoperand, ?_⟩
    intro convention hconvention
    obtain ⟨hframe, hsizes⟩ := around_of_ok hconvention hoperand
    rw [hframe, hsizes]
    exact agreeOnSize_run _ hfits hparse htally
  · intro arguments invocation floatingPoint integer hread hcommand
    rw [run, hread]
    exact Invocation.run_outArgs_exitCode_ne hcommand

/-- A stub for a narrow result has no frame when a word takes half of what a word can count: there
are no stack arguments, but the return address and the alignment do not fit. The options behind the
command make the alignment a whole number of words, and without them there is no convention. -/
theorem commands_agree_half_bound :
    let half : Word := 9223372036854775808
    let before : Options := ⟨[.number .wordSize half], [["--word-size", "9223372036854775808"]],
      .cons (.nextValue .wordSize
        (show numeral? "9223372036854775808" = some half by decide)) .nil, rfl, by decide⟩
    let after : Options := ⟨[.number .stackAlignment half],
      [["--stack-alignment=9223372036854775808"]],
      .cons (.inlineValue .stackAlignment
        (show numeral? "9223372036854775808" = some half by decide)) .nil, rfl, by decide⟩
    let nothing : Options := ⟨[], [], .nil, rfl, by decide⟩
    (sizesAround before after ⟨0, 0⟩).exitCode ≠ 101 ∧
      (frameAround before after "Z").exitCode = 101 ∧
      (sizesAround before after ⟨0, 0⟩).exitCode = 0 ∧
      frameAround before nothing "Z" = .rejected (.wordSizeNotDividing half 16) := by
  intro half before after nothing
  have hparse : Signature.parse "Z" = .ok ⟨.boolean, []⟩ := rfl
  have hfits : "Z".utf8ByteSize < Word.bound := by decide
  have htally : Tally.ofSignature ⟨.boolean, []⟩ = .ok ⟨0, 0⟩ := rfl
  obtain ⟨⟨tally, hcounted, -, hagree⟩, -⟩ := commands_agree before after hparse hfits
  obtain ⟨⟨other, -, hrejected, -⟩, -⟩ := commands_agree before nothing hparse hfits
  rw [htally] at hcounted
  cases hcounted
  have hconvention : (around before after).convention? =
      .ok ⟨8, 8, half, half, by decide, ⟨63, rfl⟩, by decide⟩ := by decide
  have hboth := hagree _ hconvention
  refine ⟨hboth.sizes_exitCode_ne, ?_⟩
  have hcrash := hboth.crash_iff.mpr (by decide)
  exact ⟨hcrash.1, hcrash.2, (hrejected _ (by decide)).1⟩

end Options

end CommandLine

end CallFrame
