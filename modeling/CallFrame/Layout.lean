import CallFrame.OutArgs
import CallFrame.RoundUp
import CallFrame.Tally
import CallFrame.Trace

/-! # Frames of native calls

A stub passes a call on to a native function. It needs a frame when arguments go on the stack or
when the result has to be extended afterwards, and then also keeps its return address there;
otherwise it jumps straight into the function. A direct call goes without a stub and keeps nothing
but the stack arguments.

* **`StubLayout.make`** sizes the frame of a stub from its stack arguments and its result.
* **`Convention.callArgs`**, **`Convention.stubFrame`** and **`Convention.directFrame`** answer for
  a text that nobody has checked, **`Convention.stubLayout`** for a signature. -/

namespace CallFrame

/-- The parts of a stub's frame. -/
structure StubLayout where
  /-- The bytes of stack arguments. -/
  outArgs : Word
  /-- Whether the return address is kept beside the stack arguments. -/
  savesReturnAddress : Bool
  /-- The aligned size of the whole frame. -/
  size : Word
  deriving DecidableEq

namespace StubLayout

/-- A stub without a return address of its own jumps straight into the native function. -/
def isTailCall (layout : StubLayout) : Bool := !layout.savesReturnAddress

/-- The layout for stack arguments of a size and for a result that is narrow or not. The frame
holds the stack arguments and, unless the stub is a tail call, the return address, and is rounded
up to the stack alignment. -/
def make (convention : Convention) (outArgs : Word) (narrow : Bool) : Except Fault StubLayout := do
  let savesReturnAddress := outArgs != 0 || narrow
  let used ← if savesReturnAddress then outArgs.plus convention.wordSize else .ok outArgs
  let size ← roundUp used convention.stackAlignment
  return ⟨outArgs, savesReturnAddress, size⟩

/-- A layout recorded as an event. -/
def event (layout : StubLayout) (signature : String) : Event :=
  .stubFrame signature layout.outArgs layout.savesReturnAddress layout.size

end StubLayout

/-- Whether a text opens with the letter of a narrow kind. -/
def hasNarrowResult (text : String) : Bool :=
  (text.toList.head?.bind Kind.ofLetter?).any Kind.isNarrow

namespace Convention

/-- The layout of a stub, recorded under the text of its signature. -/
def tracedLayout (convention : Convention) (text : String) (outArgs : Word) (narrow : Bool) :
    Traced Fault StubLayout := do
  let layout ← Traced.ofExcept (StubLayout.make convention outArgs narrow)
  Traced.emit (layout.event text)
  return layout

/-! ## Texts that nobody has checked -/

/-- The bytes of stack arguments for a call. -/
def callArgs (convention : Convention) (text : String) : Except Fault Word := do
  let tally ← Tally.ofText text
  convention.outArgs tally.floatingPoint tally.integer

/-- The size of the stub's frame. -/
def stubFrame (convention : Convention) (text : String) : Traced Fault Word := do
  let outArgs ← Traced.ofExcept (convention.callArgs text)
  let layout ← convention.tracedLayout text outArgs (hasNarrowResult text)
  return layout.size

/-- The size of the frame for a direct call: the stack arguments, aligned. -/
def directFrame (convention : Convention) (text : String) : Traced Fault Word := do
  let outArgs ← Traced.ofExcept (convention.callArgs text)
  let size ← Traced.ofExcept (roundUp outArgs convention.stackAlignment)
  Traced.emit (.directFrame text size)
  return size

/-! ## Signatures -/

/-- The layout of the stub's frame. -/
def stubLayout (convention : Convention) (signature : Signature) : Traced Fault StubLayout := do
  let tally ← Traced.ofExcept (Tally.ofSignature signature)
  let outArgs ← Traced.ofExcept (convention.outArgs tally.floatingPoint tally.integer)
  convention.tracedLayout signature.text outArgs signature.result.isNarrow

end Convention

end CallFrame
