import CallFrame.Layout
import CallFrame.Text.Decimal

/-! # Reports

What the command line prints for one signature or for one pair of argument counts, as a line of
text or as a line of JSON.

* **`FrameReport`** and **`OutArgsReport`** hold what a line says.
* **`FrameReport.line`** and **`OutArgsReport.line`** write it in either form. -/

namespace CallFrame

/-- Forms of a line. -/
inductive Format where
  /-- A sentence. -/
  | text
  /-- A compact JSON object with its keys in alphabetical order. -/
  | json
  deriving DecidableEq

/-- The sizes of the frames for a signature. -/
structure FrameReport where
  /-- The signature. -/
  signature : Signature
  /-- The bytes of stack arguments. -/
  outArgs : Word
  /-- The size of the stub's frame. -/
  stub : Word
  /-- The size of the direct call's frame. -/
  direct : Word
  /-- Whether the stub is a tail call. -/
  tailCall : Bool
  deriving DecidableEq

namespace FrameReport

/-- The sizes of the frames under a convention. -/
def make (convention : Convention) (signature : Signature) : Except Fault FrameReport := do
  let layout ← (convention.stubLayout signature).outcome
  let direct ← (convention.directFrame signature.text).outcome
  return ⟨signature, layout.outArgs, layout.size, direct, layout.isTailCall⟩

/-- The words for what a stub does with the return address. -/
def stubKind (tailCall : Bool) : String :=
  if tailCall then "tail call" else "saves return address"

/-- The sentence for a signature. -/
def sentence (report : FrameReport) : String :=
  report.signature.text ++ ": out args " ++ Decimal.text report.outArgs ++
    " bytes, stub frame " ++ Decimal.text report.stub ++
    " bytes (" ++ stubKind report.tailCall ++
    "), direct call frame " ++ Decimal.text report.direct ++ " bytes"

/-- The JSON text of a truth value. -/
def truth (value : Bool) : String := if value then "true" else "false"

/-- The JSON object for a signature, whose letters need no escape. -/
def json (report : FrameReport) : String :=
  "\x7b\"direct_call_frame_size\":" ++ Decimal.text report.direct ++
    ",\"out_args_size\":" ++ Decimal.text report.outArgs ++
    ",\"shorty\":\"" ++ report.signature.text ++
    "\",\"stub_frame_size\":" ++ Decimal.text report.stub ++
    ",\"tail_call\":" ++ truth report.tailCall ++ "\x7d"

/-- The line for a signature. -/
def line (report : FrameReport) : Format → String
  | .text => report.sentence
  | .json => report.json

end FrameReport

/-- The size of the stack arguments for argument counts. -/
structure OutArgsReport where
  /-- The number of floating-point arguments. -/
  floatingPoint : Word
  /-- The number of all other arguments. -/
  integer : Word
  /-- The bytes of stack arguments. -/
  size : Word
  deriving DecidableEq

namespace OutArgsReport

/-- The size of the stack arguments under a convention. -/
def make (convention : Convention) (floatingPoint integer : Word) :
    Except OutArgsError OutArgsReport := do
  let size ← convention.outArgs? floatingPoint integer
  return ⟨floatingPoint, integer, size⟩

/-- The JSON object for argument counts. -/
def json (report : OutArgsReport) : String :=
  "\x7b\"fp\":" ++ Decimal.text report.floatingPoint ++
    ",\"int\":" ++ Decimal.text report.integer ++
    ",\"out_args_size\":" ++ Decimal.text report.size ++ "\x7d"

/-- The line for argument counts; as text it is the bare size. -/
def line (report : OutArgsReport) : Format → String
  | .text => Decimal.text report.size
  | .json => report.json

end OutArgsReport

end CallFrame
