import CallFrame.Convention

/-! # Outgoing arguments

Arguments beyond the registers of their file go on the stack, one word each. A free register of
the other file is never used instead.

* **`Convention.outArgs`** is the size of the stack arguments, with a fault when it does not fit.
* **`Convention.outArgs?`** is the same size for counts that come from outside, with an error that
  repeats the counts. -/

namespace CallFrame

/-- Argument counts whose stack arguments do not fit a word. -/
structure OutArgsError where
  /-- The number of floating-point arguments. -/
  floatingPoint : Word
  /-- The number of all other arguments. -/
  integer : Word
  deriving DecidableEq

/-- The sentence shown for counts whose stack arguments do not fit. -/
def OutArgsError.message (error : OutArgsError) : String :=
  let floatingPoint := error.floatingPoint
  let integer := error.integer
  s!"Outgoing args for {floatingPoint} fp + {integer} non-fp arguments overflow usize"

namespace Convention

/-- The bytes of stack arguments for these argument counts. Faults when the number of stack
arguments or the number of bytes does not fit a word. -/
def outArgs (convention : Convention) (floatingPoint integer : Word) : Except Fault Word := do
  let floatingPointSlots := floatingPoint.excess convention.floatingPointRegisters
  let integerSlots := integer.excess convention.integerRegisters
  let slots ← floatingPointSlots.plus integerSlots
  slots.times convention.wordSize

/-- The bytes of stack arguments for argument counts of any size. -/
def outArgs? (convention : Convention) (floatingPoint integer : Word) :
    Except OutArgsError Word :=
  let floatingPointSlots := floatingPoint.excess convention.floatingPointRegisters
  let integerSlots := integer.excess convention.integerRegisters
  match (floatingPointSlots.add? integerSlots).bind (·.mul? convention.wordSize) with
  | some size => .ok size
  | none => .error ⟨floatingPoint, integer⟩

end Convention

end CallFrame
