import CallFrame.Word

/-! # Calling conventions

A calling convention says how many arguments of each register file are passed in registers, how
many bytes a word takes, and to how many bytes the stack is aligned.

* **`Convention`** carries the rules that its sizes keep; nothing later has to check them again.
* **`Convention.make`** checks the rules in a fixed order and names the first one broken;
  `make_eq_ok_iff` says which convention it gives otherwise.
* **`Convention.aapcs64`** is the procedure-call standard of 64-bit ARM, the default. -/

namespace CallFrame

/-- Register budgets, word size and stack alignment for calls of native functions. -/
structure Convention where
  /-- How many floating-point arguments are passed in registers. -/
  floatingPointRegisters : Word
  /-- How many other arguments are passed in registers. -/
  integerRegisters : Word
  /-- The number of bytes of a word, and so of a stack argument and of a return address. -/
  wordSize : Word
  /-- The number of bytes that the size of a frame is a multiple of. -/
  stackAlignment : Word
  /-- A word takes at least one byte. -/
  wordSize_ne_zero : wordSize ≠ 0
  /-- The stack alignment is a power of two. -/
  stackAlignment_isPowerOfTwo : stackAlignment.toNat.isPowerOfTwo
  /-- The stack alignment is a whole number of words. -/
  stackAlignment_mod_wordSize : stackAlignment % wordSize = 0
  deriving DecidableEq

/-- Rules that the numbers of a convention can break. -/
inductive ConventionError where
  /-- A word takes no bytes. -/
  | zeroWordSize
  /-- The stack alignment is no power of two. -/
  | alignmentNotPowerOfTwo (stackAlignment : Word)
  /-- The stack alignment is no whole number of words. -/
  | wordSizeNotDividing (wordSize stackAlignment : Word)
  deriving DecidableEq

namespace ConventionError

/-- The rule that is broken, with the numbers that break it. -/
def reason : ConventionError → String
  | zeroWordSize => "word size must be non-zero"
  | alignmentNotPowerOfTwo stackAlignment =>
      s!"stack alignment {stackAlignment} is not a power of two"
  | wordSizeNotDividing wordSize stackAlignment =>
      s!"word size {wordSize} does not divide stack alignment {stackAlignment}"

/-- The sentence shown for a broken rule. -/
def message (error : ConventionError) : String := "Invalid calling convention: " ++ error.reason

end ConventionError

namespace Convention

/-- The convention with these numbers, or the first of its rules that they break. -/
def make (floatingPointRegisters integerRegisters wordSize stackAlignment : Word) :
    Except ConventionError Convention :=
  if hzero : wordSize = 0 then .error .zeroWordSize
  else if hpower : stackAlignment.toNat.isPowerOfTwo then
    if hdivides : stackAlignment % wordSize = 0 then
      .ok ⟨floatingPointRegisters, integerRegisters, wordSize, stackAlignment, hzero, hpower,
        hdivides⟩
    else .error (.wordSizeNotDividing wordSize stackAlignment)
  else .error (.alignmentNotPowerOfTwo stackAlignment)

/-- The procedure-call standard of 64-bit ARM: eight registers of each file, words of eight bytes
and a stack aligned to sixteen. -/
def aapcs64 : Convention where
  floatingPointRegisters := 8
  integerRegisters := 8
  wordSize := 8
  stackAlignment := 16
  wordSize_ne_zero := by decide
  stackAlignment_isPowerOfTwo := ⟨4, rfl⟩
  stackAlignment_mod_wordSize := by decide

instance : Inhabited Convention := ⟨aapcs64⟩

/-- Numbers are accepted as the convention that has them. -/
theorem make_eq_ok_iff {floatingPointRegisters integerRegisters wordSize stackAlignment : Word}
    {convention : Convention} :
    make floatingPointRegisters integerRegisters wordSize stackAlignment = .ok convention ↔
      convention.floatingPointRegisters = floatingPointRegisters ∧
        convention.integerRegisters = integerRegisters ∧ convention.wordSize = wordSize ∧
        convention.stackAlignment = stackAlignment := by
  constructor
  · intro hmade
    unfold make at hmade
    split at hmade
    · cases hmade
    · split at hmade
      · split at hmade
        · cases hmade
          exact ⟨rfl, rfl, rfl, rfl⟩
        · cases hmade
      · cases hmade
  · rintro ⟨rfl, rfl, rfl, rfl⟩
    rw [make, dif_neg convention.wordSize_ne_zero, dif_pos convention.stackAlignment_isPowerOfTwo,
      dif_pos convention.stackAlignment_mod_wordSize]

/-! ## The rules in natural numbers -/

/-- A word takes at least one byte. -/
theorem wordSize_pos (convention : Convention) : 0 < convention.wordSize.toNat :=
  Nat.pos_of_ne_zero (mt Word.toNat_eq_zero_iff.mp convention.wordSize_ne_zero)

/-- The stack alignment is at least one byte. -/
theorem stackAlignment_pos (convention : Convention) : 0 < convention.stackAlignment.toNat :=
  Nat.pos_of_isPowerOfTwo convention.stackAlignment_isPowerOfTwo

/-- The stack alignment is a whole number of words. -/
theorem wordSize_dvd_stackAlignment (convention : Convention) :
    convention.wordSize.toNat ∣ convention.stackAlignment.toNat :=
  Word.mod_eq_zero_iff_dvd.mp convention.stackAlignment_mod_wordSize

end Convention

end CallFrame
