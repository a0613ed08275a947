import CallFrame.CommandLine.Invocation

/-! # Outcomes of the command line

Running a command line prints lines and ends in one of four ways. What was printed before a failure
stays.

* **`Outcome`** is what was printed and how it ended; **`Outcome.andThen`** goes on with another
  outcome after a success.
* **`Invocation.run`** checks the convention, then takes the texts of signatures one by one.
* **`run`** is the outcome of a list of arguments. -/

namespace CallFrame.CommandLine

/-- Errors that a run reports. -/
inductive Failure where
  /-- The numbers are those of no convention. -/
  | convention (error : ConventionError)
  /-- A text is no signature. -/
  | signature (text : String) (error : SignatureError)
  /-- The stack arguments for these counts do not fit. -/
  | outArgs (floatingPoint integer : Word) (error : OutArgsError)
  deriving DecidableEq

namespace Failure

/-- What was being done when an error arose. -/
def context : Failure → String
  | convention _ => "Invalid calling convention"
  | signature text _ => "Invalid shorty '" ++ text ++ "'"
  | outArgs floatingPoint integer _ =>
      "Cannot size outgoing args for --fp " ++ Decimal.text floatingPoint ++
        " --int " ++ Decimal.text integer

/-- The sentence of the error itself. -/
def cause : Failure → String
  | convention error => error.message
  | signature _ error => error.message
  | outArgs _ _ error => error.message

/-- A text whose lines after the first are set in by four blanks. -/
def indent (text : String) : String :=
  String.ofList (text.toList.flatMap fun character =>
    if character = '\n' then "\n    ".toList else [character])

/-- Texts in a row are set in one by one. -/
theorem indent_append (left right : String) :
    indent (left ++ right) = indent left ++ indent right := by
  rw [indent, String.toList_append, List.flatMap_append, String.ofList_append]
  rfl

/-- A text of one line is not set in. -/
theorem indent_of_newline_notMem {text : String} (hline : '\n' ∉ text.toList) :
    indent text = text := by
  have hkept : ∀ character ∈ text.toList,
      (if character = '\n' then "\n    ".toList else [character]) = [character] := by
    intro character hmem
    rw [if_neg]
    rintro rfl
    exact hline hmem
  rw [indent, List.flatMap_def, List.map_congr_left hkept, ← List.flatMap_def,
    List.flatMap_singleton', String.ofList_toList]

/-- The report of a failure: the context on a line of its own, then its cause. -/
def report (failure : Failure) : String :=
  "Error: " ++ failure.context ++ "\n\nCaused by:\n    " ++ indent failure.cause ++ "\n"

end Failure

/-- Ways in which a run ends. A misuse does not tell which argument is wrong, nor a crash the place
where its fault arose. -/
inductive Ending where
  /-- Everything was printed. -/
  | success
  /-- An error was reported. -/
  | failure (failure : Failure)
  /-- The arguments are those of no command line. -/
  | misuse
  /-- A computation faulted. -/
  | crash (fault : Fault)
  deriving DecidableEq

/-- The exit code of an ending. -/
def Ending.exitCode : Ending → Nat
  | success => 0
  | failure _ => 1
  | misuse => 2
  | crash _ => 101

/-- What a run printed, line by line, and how it ended. -/
structure Outcome where
  /-- The printed lines, without their line breaks. -/
  lines : List String
  /-- The way in which the run ended. -/
  ending : Ending
  deriving DecidableEq

namespace Outcome

/-- A run that printed nothing more and succeeded. -/
def done : Outcome := ⟨[], .success⟩

/-- A run that goes on with another after a success, and ends otherwise. -/
def andThen (first second : Outcome) : Outcome :=
  match first.ending with
  | .success => ⟨first.lines ++ second.lines, second.ending⟩
  | _ => first

/-- The printed text. Each line ends in a line break. -/
def output (outcome : Outcome) : String := String.join (outcome.lines.map (· ++ "\n"))

/-- The report of the failure in which a run ended, if it did. -/
def report? (outcome : Outcome) : Option String :=
  match outcome.ending with
  | .failure failure => some failure.report
  | _ => none

/-- Nothing follows a run that did nothing. -/
@[simp] theorem done_andThen (second : Outcome) : done.andThen second = second := rfl

/-- Doing nothing afterwards changes nothing. -/
@[simp] theorem andThen_done (first : Outcome) : first.andThen done = first := by
  obtain ⟨lines, ending⟩ := first
  cases ending <;> simp [andThen, done]

/-- Runs in a row are grouped in either way. -/
theorem andThen_assoc (first second third : Outcome) :
    (first.andThen second).andThen third = first.andThen (second.andThen third) := by
  obtain ⟨firstLines, firstEnding⟩ := first
  obtain ⟨secondLines, secondEnding⟩ := second
  cases firstEnding <;> cases secondEnding <;> simp [andThen]

/-- The output of runs in a row is that of the first followed by that of the second. -/
theorem output_andThen {first : Outcome} (hsucceeded : first.ending = .success)
    (second : Outcome) : (first.andThen second).output = first.output ++ second.output := by
  simp [andThen, hsucceeded, output, String.join_append]

end Outcome

/-! ## Runs -/

/-- The outcome for one text that should be a signature. -/
def runText (convention : Convention) (format : Format) (text : String) : Outcome :=
  match Signature.parse text with
  | .error error => ⟨[], .failure (.signature text error)⟩
  | .ok signature =>
      match FrameReport.make convention signature with
      | .error fault => ⟨[], .crash fault⟩
      | .ok report => ⟨[report.line format], .success⟩

/-- The outcome for texts, one after the other, up to the first that does not succeed. -/
def runTexts (convention : Convention) (format : Format) (texts : List String) : Outcome :=
  (texts.map (runText convention format)).foldr Outcome.andThen Outcome.done

/-- The outcome for argument counts. -/
def runOutArgs (convention : Convention) (format : Format) (floatingPoint integer : Word) :
    Outcome :=
  match OutArgsReport.make convention floatingPoint integer with
  | .error error => ⟨[], .failure (.outArgs floatingPoint integer error)⟩
  | .ok report => ⟨[report.line format], .success⟩

/-- The outcome of an invocation. -/
def Invocation.run (invocation : Invocation) : Outcome :=
  match invocation.convention? with
  | .error error => ⟨[], .failure (.convention error)⟩
  | .ok convention =>
      match invocation.command with
      | .frame texts => runTexts convention invocation.format texts
      | .outArgs floatingPoint integer =>
          runOutArgs convention invocation.format floatingPoint integer

/-- The outcome of a list of arguments. -/
def run (arguments : List String) : Outcome :=
  match Invocation.ofArguments? arguments with
  | none => ⟨[], .misuse⟩
  | some invocation => invocation.run

end CallFrame.CommandLine
