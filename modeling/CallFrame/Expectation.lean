import CallFrame.Layout
import CallFrame.Text.Quoted

/-! # Expected frames

An expectation names the sizes that the frames for a signature should have, and checking it sizes
the frames anew.

* **`readExample`** is the signature of a text that its author believes to be one.
* **`Expectation.check`** sizes the stub's frame, then the direct call's, then reads the signature
  and sizes the stub's frame from it, and stops at the first of these that fails or differs. -/

namespace CallFrame

/-- Sizes that an expectation is about. -/
inductive ExpectedSize where
  /-- The stub's frame, sized from the text. -/
  | stubFrame
  /-- The direct call's frame, sized from the text. -/
  | directFrame
  /-- The stub's frame, sized from the signature. -/
  | stubLayout
  deriving DecidableEq

/-- The title of a size in a report. -/
def ExpectedSize.title : ExpectedSize → String
  | stubFrame => "stub frame size"
  | directFrame => "direct call frame size"
  | stubLayout => "stub layout"

/-- Reasons for which an expectation fails. -/
inductive ExpectationError where
  /-- A size has no value. -/
  | fault (fault : Fault)
  /-- A size differs from the expected one. -/
  | mismatch (size : ExpectedSize) (text : String) (actual expected : Word)
  /-- The text is no signature. -/
  | notSignature (text : String) (error : SignatureError)
  deriving DecidableEq

/-- The report of a failed expectation. -/
def ExpectationError.message : ExpectationError → String
  | .fault cause => cause.message
  | .mismatch size text actual expected =>
      "assertion `left == right` failed: " ++ size.title ++ " for " ++ text ++
        s!"\n  left: {actual}\n right: {expected}"
  | .notSignature text error => "invalid test shorty " ++ Text.quote text ++ ": " ++ error.message

/-- The signature of a text that should be one. -/
def readExample (text : String) : Except ExpectationError Signature :=
  (Signature.parse text).mapError (.notSignature text)

/-- The sizes that the frames for a text should have. -/
structure Expectation where
  /-- The text of the signature. -/
  text : String
  /-- The expected size of the stub's frame. -/
  stub : Word
  /-- The expected size of the direct call's frame. -/
  direct : Word

namespace Expectation

/-- Nothing when a size is the expected one, otherwise the mismatch. -/
def compare (size : ExpectedSize) (text : String) (actual expected : Word) :
    Except ExpectationError Unit :=
  if actual = expected then .ok () else .error (.mismatch size text actual expected)

/-- Nothing when the frames have the expected sizes, otherwise the first reason why not. -/
def check (convention : Convention) (expectation : Expectation) :
    Traced ExpectationError Unit := do
  let text := expectation.text
  let stub ← (convention.stubFrame text).mapError .fault
  Traced.ofExcept (compare .stubFrame text stub expectation.stub)
  let direct ← (convention.directFrame text).mapError .fault
  Traced.ofExcept (compare .directFrame text direct expectation.direct)
  let signature ← Traced.ofExcept (readExample text)
  let layout ← (convention.stubLayout signature).mapError .fault
  Traced.ofExcept (compare .stubLayout text layout.size expectation.stub)

end Expectation

end CallFrame
