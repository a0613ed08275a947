import CallFrame.Convention
import CallFrame.Signature

/-! # Placement of arguments

Where each argument of a call goes, decided one argument after the other: to the next register of
its file while there is one, and to the next stack slot otherwise, even when the other file has
registers left.

* **`Place`** is a register or a slot; **`Place.span?`** gives the bytes of a slot.
* **`Taken.place`** decides for one argument, **`Convention.places`** for those of a signature, and
  **`Convention.slotCount`** counts the slots that they take. -/

namespace CallFrame

/-- Where an argument is passed. -/
inductive Place where
  /-- A register, by its file and its number. -/
  | register (file : RegisterClass) (number : Nat)
  /-- A stack slot of one word, by its number. -/
  | slot (number : Nat)
  deriving DecidableEq

namespace Place

/-- Whether a place is a stack slot. -/
def isSlot : Place → Bool
  | register _ _ => false
  | slot _ => true

/-- The first byte of a slot and the first byte after it, for words of a size. -/
def span? (wordSize : Nat) : Place → Option (Nat × Nat)
  | register _ _ => none
  | slot number => some (number * wordSize, (number + 1) * wordSize)

/-- A register has no bytes on the stack. -/
@[simp] theorem span?_register (wordSize number : Nat) (file : RegisterClass) :
    (register file number).span? wordSize = none := rfl

/-- A slot has the bytes of one word. -/
@[simp] theorem span?_slot (wordSize number : Nat) :
    (slot number).span? wordSize = some (number * wordSize, (number + 1) * wordSize) := rfl

/-- The places with bytes on the stack are the slots. -/
theorem isSome_span? (wordSize : Nat) (place : Place) :
    (place.span? wordSize).isSome = place.isSlot := by
  cases place <;> rfl

end Place

/-- The registers and slots that earlier arguments have taken. -/
structure Taken where
  /-- The number of floating-point registers taken. -/
  floatingPoint : Nat
  /-- The number of other registers taken. -/
  integer : Nat
  /-- The number of slots taken. -/
  slots : Nat
  deriving DecidableEq

namespace Taken

/-- Nothing has been taken. -/
def nothing : Taken := ⟨0, 0, 0⟩

/-- The place of the next argument, and what is taken with it. -/
def place (convention : Convention) (taken : Taken) : RegisterClass → Place × Taken
  | .floatingPoint =>
      if taken.floatingPoint < convention.floatingPointRegisters.toNat then
        (.register .floatingPoint taken.floatingPoint,
          { taken with floatingPoint := taken.floatingPoint + 1 })
      else (.slot taken.slots, { taken with slots := taken.slots + 1 })
  | .integer =>
      if taken.integer < convention.integerRegisters.toNat then
        (.register .integer taken.integer, { taken with integer := taken.integer + 1 })
      else (.slot taken.slots, { taken with slots := taken.slots + 1 })

/-- The places of arguments, from left to right. -/
def places (convention : Convention) (taken : Taken) : List ArgumentKind → List Place
  | [] => []
  | kind :: rest =>
      let (first, next) := taken.place convention kind.val.registerClass
      first :: next.places convention rest

end Taken

namespace Convention

/-- The places of a signature's arguments, from left to right. -/
def places (convention : Convention) (signature : Signature) : List Place :=
  Taken.nothing.places convention signature.arguments

/-- The number of stack slots that a signature's arguments take. -/
def slotCount (convention : Convention) (signature : Signature) : Nat :=
  (convention.places signature).countP Place.isSlot

end Convention

end CallFrame
