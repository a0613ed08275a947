import CallFrame.Signature
import CallFrame.Word

/-! # Argument tallies

How many arguments go to each register file is all that the size of a frame needs to know about
the arguments.

* **`Tally.ofSignature`** counts the arguments of a signature by their kinds.
* **`Tally.ofText`** counts the bytes of a text that nobody has checked: after the first character,
  each byte `F` or `D` is one floating-point argument and every other byte one integer argument.
  It is exact on the text of a signature, whose letters take one byte each. -/

namespace CallFrame

/-- Numbers of arguments by register file. -/
structure Tally where
  /-- The number of floating-point arguments. -/
  floatingPoint : Word
  /-- The number of all other arguments. -/
  integer : Word
  deriving DecidableEq

namespace Tally

/-- The tally of no arguments. -/
def zero : Tally := ⟨0, 0⟩

/-- The tally with one more argument of a register file. -/
def add (tally : Tally) : RegisterClass → Except Fault Tally
  | .floatingPoint => do return { tally with floatingPoint := ← tally.floatingPoint.plus 1 }
  | .integer => do return { tally with integer := ← tally.integer.plus 1 }

/-- The number of all arguments. -/
def total (tally : Tally) : Except Fault Word := tally.floatingPoint.plus tally.integer

/-- The tally of a signature's arguments. -/
def ofSignature (signature : Signature) : Except Fault Tally :=
  signature.arguments.foldlM (fun tally kind => tally.add kind.val.registerClass) zero

/-! ## Texts that nobody has checked -/

/-- The bytes of a text after its first byte. There are none when the first character takes more
than one byte, since the second byte then begins no character. -/
def argumentBytes : List Char → List UInt8
  | [] => []
  | first :: rest => if first.utf8Size = 1 then rest.flatMap String.utf8EncodeChar else []

/-- The bytes that count as floating-point arguments. -/
def isFloatingPointByte (byte : UInt8) : Bool :=
  byte == Kind.float.letter.toUInt8 || byte == Kind.double.letter.toUInt8

/-- The tally of a text's bytes after the first. An empty text is a fault. -/
def ofText (text : String) : Except Fault Tally :=
  if text.toList.isEmpty then .error .emptySignature else do
    let bytes := argumentBytes text.toList
    let floatingPoint ← Word.count isFloatingPointByte bytes
    let length ← Word.count (fun _ => true) bytes
    let integer ← length.minus floatingPoint
    return ⟨floatingPoint, integer⟩

end Tally

end CallFrame
