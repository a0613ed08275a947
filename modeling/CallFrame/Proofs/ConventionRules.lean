import CallFrame.Convention
import CallFrame.Text.Decimal
import Mathlib.Data.Nat.Prime.Basic

/-! # The rules of conventions

Three rules are checked one after the other before numbers are accepted as a convention. The first
one that is broken is named, and it keeps the later checks from being made, a remainder by zero
among them. Together the rules say more than they seem to: both sizes are powers of two.

* **`Convention.Rule`** — the three rules in natural numbers; **`Rule.IsFirstBroken`** says which of
  them is to be named, and `Rule.isFirstBroken_cons` finds it rule by rule.
* **`Convention.forall_holds_iff`** — all rules hold exactly for two powers of two in ascending
  order.
* **`Convention.make?`** — the same checks with a remainder that is absent for the divisor zero.
* **`Convention.make_exact`** — which numbers are accepted, as what, and what is said of the
  others. -/

namespace CallFrame

namespace Word

/-- The remainder, absent for the divisor zero. -/
def rem? (left right : Word) : Option Word :=
  if right = 0 then none else some (left % right)

/-- By any other divisor there is a remainder. -/
theorem rem?_of_ne_zero {left right : Word} (hne : right ≠ 0) :
    rem? left right = some (left % right) := if_neg hne

/-- A remainder that is present is the remainder. -/
theorem mod_eq_of_rem?_eq_some {left right rest : Word} (hrest : rem? left right = some rest) :
    left % right = rest := by
  rw [rem?] at hrest
  split at hrest
  · cases hrest
  · exact Option.some.inj hrest

end Word

namespace Convention

/-! ## Three rules -/

/-- **The rules that the two sizes of a convention keep.** -/
inductive Rule where
  /-- A word takes at least one byte. -/
  | wordSizePositive
  /-- The stack alignment is a power of two. -/
  | alignmentPowerOfTwo
  /-- A word divides the stack alignment. -/
  | wordSizeDividing
  deriving DecidableEq

namespace Rule

/-- The rules in the order in which they are named. -/
def all : List Rule := [wordSizePositive, alignmentPowerOfTwo, wordSizeDividing]

/-- What a rule asks of the sizes of a word and of the stack alignment. -/
def Holds (wordSize stackAlignment : Word) : Rule → Prop
  | wordSizePositive => 0 < wordSize.toNat
  | alignmentPowerOfTwo => ∃ exponent, stackAlignment.toNat = 2 ^ exponent
  | wordSizeDividing => wordSize.toNat ∣ stackAlignment.toNat

/-- The error that names a rule. -/
def error (wordSize stackAlignment : Word) : Rule → ConventionError
  | wordSizePositive => .zeroWordSize
  | alignmentPowerOfTwo => .alignmentNotPowerOfTwo stackAlignment
  | wordSizeDividing => .wordSizeNotDividing wordSize stackAlignment

/-- The complaint about a broken rule, with the numbers that break it in decimal digits. -/
def complaint (wordSize stackAlignment : Word) : Rule → String
  | wordSizePositive => "word size must be non-zero"
  | alignmentPowerOfTwo =>
      "stack alignment " ++ Decimal.text stackAlignment ++ " is not a power of two"
  | wordSizeDividing =>
      "word size " ++ Decimal.text wordSize ++ " does not divide stack alignment " ++
        Decimal.text stackAlignment

/-- **A rule that is the first one broken**: every rule before it holds. -/
def IsFirstBroken (wordSize stackAlignment : Word) (rules : List Rule) (rule : Rule) : Prop :=
  ∃ before after, rules = before ++ rule :: after ∧
    (∀ earlier ∈ before, earlier.Holds wordSize stackAlignment) ∧
    ¬rule.Holds wordSize stackAlignment

section

variable {wordSize stackAlignment : Word} {rule first : Rule} {rest : List Rule}

/-- Without rules none is broken. -/
@[simp] theorem not_isFirstBroken_nil : ¬IsFirstBroken wordSize stackAlignment [] rule := by
  simp [IsFirstBroken]

/-- The first of the rules is the first one broken, or else it holds and a later one is. -/
@[simp] theorem isFirstBroken_cons :
    IsFirstBroken wordSize stackAlignment (first :: rest) rule ↔
      ¬first.Holds wordSize stackAlignment ∧ rule = first ∨
        first.Holds wordSize stackAlignment ∧
          IsFirstBroken wordSize stackAlignment rest rule := by
  constructor
  · rintro ⟨before, after, hsplit, hbefore, hbroken⟩
    rcases before with _ | ⟨earlier, others⟩
    · obtain ⟨rfl, -⟩ := List.cons.inj hsplit
      exact Or.inl ⟨hbroken, rfl⟩
    · obtain ⟨rfl, rfl⟩ := List.cons.inj hsplit
      refine Or.inr ⟨hbefore first List.mem_cons_self, others, after, rfl, ?_, hbroken⟩
      exact fun later hmem => hbefore later (List.mem_cons_of_mem first hmem)
  · rintro (⟨hbroken, rfl⟩ | ⟨hholds, before, after, rfl, hbefore, hbroken⟩)
    · exact ⟨[], rest, rfl, by simp, hbroken⟩
    · refine ⟨first :: before, after, rfl, ?_, hbroken⟩
      simpa using ⟨hholds, hbefore⟩

/-- A word takes at least one byte unless its size is zero. -/
@[simp] theorem holds_wordSizePositive :
    wordSizePositive.Holds wordSize stackAlignment ↔ wordSize ≠ 0 := by
  rw [Holds, Nat.pos_iff_ne_zero, Ne, Word.toNat_eq_zero_iff]

/-- The second rule is the test of the stack alignment. -/
@[simp] theorem holds_alignmentPowerOfTwo :
    alignmentPowerOfTwo.Holds wordSize stackAlignment ↔ stackAlignment.toNat.isPowerOfTwo :=
  Iff.rfl

/-- The third rule is that no remainder is left. -/
@[simp] theorem holds_wordSizeDividing :
    wordSizeDividing.Holds wordSize stackAlignment ↔ stackAlignment % wordSize = 0 :=
  Word.mod_eq_zero_iff_dvd.symm

/-- **The error of a rule is shown as its complaint.** -/
theorem message_error (rule : Rule) :
    (rule.error wordSize stackAlignment).message =
      "Invalid calling convention: " ++ rule.complaint wordSize stackAlignment := by
  rcases rule <;> rfl

end

end Rule

section

variable {floatingPointRegisters integerRegisters wordSize stackAlignment : Word}

/-- **The first broken rule is named**, and nothing but a broken rule is. -/
theorem make_eq_error_iff {error : ConventionError} :
    make floatingPointRegisters integerRegisters wordSize stackAlignment = .error error ↔
      ∃ rule : Rule, rule.IsFirstBroken wordSize stackAlignment Rule.all ∧
        error = rule.error wordSize stackAlignment := by
  rw [make, Rule.all]
  by_cases hzero : wordSize = 0
  · simp [hzero, Rule.error, eq_comm]
  · by_cases hpower : stackAlignment.toNat.isPowerOfTwo
    · by_cases hrest : stackAlignment % wordSize = 0
      · simp [hzero, hpower, hrest]
      · simp [hzero, hpower, hrest, Rule.error, eq_comm]
    · simp [hzero, hpower, Rule.error, eq_comm]

/-- **Numbers are accepted exactly when all rules hold.** -/
theorem exists_make_eq_ok_iff :
    (∃ convention, make floatingPointRegisters integerRegisters wordSize stackAlignment =
        .ok convention) ↔
      ∀ rule : Rule, rule.Holds wordSize stackAlignment := by
  constructor
  · rintro ⟨convention, hmake⟩ rule
    obtain ⟨-, -, rfl, rfl⟩ := make_eq_ok_iff.mp hmake
    rcases rule
    · exact convention.wordSize_pos
    · exact convention.stackAlignment_isPowerOfTwo
    · exact convention.wordSize_dvd_stackAlignment
  · intro hholds
    exact ⟨⟨_, _, wordSize, stackAlignment,
      Rule.holds_wordSizePositive.mp (hholds _), hholds .alignmentPowerOfTwo,
      Rule.holds_wordSizeDividing.mp (hholds _)⟩, make_eq_ok_iff.mpr ⟨rfl, rfl, rfl, rfl⟩⟩

/-- **All rules hold exactly for two powers of two in ascending order.** A number that divides a
power of two is one itself, and no word is a power of two from the bound on. -/
theorem forall_holds_iff :
    (∀ rule : Rule, rule.Holds wordSize stackAlignment) ↔
      ∃ smaller larger, smaller ≤ larger ∧ larger ≤ 63 ∧ wordSize.toNat = 2 ^ smaller ∧
        stackAlignment.toNat = 2 ^ larger := by
  constructor
  · intro hholds
    obtain ⟨larger, hlarger⟩ : ∃ larger, stackAlignment.toNat = 2 ^ larger :=
      hholds .alignmentPowerOfTwo
    have hdvd : wordSize.toNat ∣ 2 ^ larger := hlarger ▸ hholds .wordSizeDividing
    obtain ⟨smaller, hle, hsmaller⟩ := (Nat.dvd_prime_pow Nat.prime_two).mp hdvd
    have hbound : 2 ^ larger < 2 ^ 64 := hlarger ▸ Word.toNat_lt_bound stackAlignment
    have hlt : larger < 64 := (Nat.pow_lt_pow_iff_right (by decide)).mp hbound
    exact ⟨smaller, larger, hle, by omega, hsmaller, hlarger⟩
  · rintro ⟨smaller, larger, hle, -, hsmaller, hlarger⟩ rule
    rcases rule
    · show 0 < wordSize.toNat
      rw [hsmaller]
      exact Nat.two_pow_pos smaller
    · exact ⟨larger, hlarger⟩
    · show wordSize.toNat ∣ stackAlignment.toNat
      rw [hsmaller, hlarger]
      exact Nat.pow_dvd_pow 2 hle

end

/-! ## No remainder by zero -/

/-- **The checks of `make` with a remainder that is absent for the divisor zero**: nothing when the
third rule is checked for words of no bytes. -/
def make? (floatingPointRegisters integerRegisters wordSize stackAlignment : Word) :
    Option (Except ConventionError Convention) :=
  if hzero : wordSize = 0 then some (.error .zeroWordSize)
  else if hpower : stackAlignment.toNat.isPowerOfTwo then
    match hremainder : stackAlignment.rem? wordSize with
    | none => none
    | some rest =>
        if hdivides : rest = 0 then
          some (.ok ⟨floatingPointRegisters, integerRegisters, wordSize, stackAlignment, hzero,
            hpower, (Word.mod_eq_of_rem?_eq_some hremainder).trans hdivides⟩)
        else some (.error (.wordSizeNotDividing wordSize stackAlignment))
  else some (.error (.alignmentNotPowerOfTwo stackAlignment))

/-- **No remainder by zero is taken**: the first rule stands in front of the third. -/
theorem make?_eq_some (floatingPointRegisters integerRegisters wordSize stackAlignment : Word) :
    make? floatingPointRegisters integerRegisters wordSize stackAlignment =
      some (make floatingPointRegisters integerRegisters wordSize stackAlignment) := by
  rw [make?, make]
  by_cases hzero : wordSize = 0
  · rw [dif_pos hzero, dif_pos hzero]
  · rw [dif_neg hzero, dif_neg hzero]
    by_cases hpower : stackAlignment.toNat.isPowerOfTwo
    · rw [dif_pos hpower, dif_pos hpower]
      split
      · rename_i habsent
        rw [Word.rem?_of_ne_zero hzero] at habsent
        cases habsent
      · rename_i rest hrest
        have hmod := Word.mod_eq_of_rem?_eq_some hrest
        subst hmod
        split <;> rfl
    · rw [dif_neg hpower, dif_neg hpower]

/-- **Conventions are two powers of two in ascending order, with any registers.** Numbers are
accepted exactly when the size of a word and the stack alignment are powers of two, the first one
no larger than the second, and then as the convention that has these four numbers. Of all other
numbers the first broken rule is named, with the sizes that break it; and a remainder is never
asked of a divisor of zero. -/
theorem make_exact (floatingPointRegisters integerRegisters wordSize stackAlignment : Word) :
    ((∃ convention, make floatingPointRegisters integerRegisters wordSize stackAlignment =
        .ok convention) ↔
      ∃ smaller larger, smaller ≤ larger ∧ larger ≤ 63 ∧ wordSize.toNat = 2 ^ smaller ∧
        stackAlignment.toNat = 2 ^ larger) ∧
    (∀ convention, make floatingPointRegisters integerRegisters wordSize stackAlignment =
        .ok convention ↔
      convention.floatingPointRegisters = floatingPointRegisters ∧
        convention.integerRegisters = integerRegisters ∧ convention.wordSize = wordSize ∧
        convention.stackAlignment = stackAlignment) ∧
    (∀ error, make floatingPointRegisters integerRegisters wordSize stackAlignment =
        .error error ↔
      ∃ rule : Rule, rule.IsFirstBroken wordSize stackAlignment Rule.all ∧
        error = rule.error wordSize stackAlignment ∧
        error.message =
          "Invalid calling convention: " ++ rule.complaint wordSize stackAlignment) ∧
    make? floatingPointRegisters integerRegisters wordSize stackAlignment =
      some (make floatingPointRegisters integerRegisters wordSize stackAlignment) := by
  refine ⟨?_, fun _ => make_eq_ok_iff, fun error => ?_, make?_eq_some _ _ _ _⟩
  · rw [exists_make_eq_ok_iff, forall_holds_iff]
  · rw [make_eq_error_iff]
    constructor
    · rintro ⟨rule, hfirst, rfl⟩
      exact ⟨rule, hfirst, rfl, rule.message_error⟩
    · rintro ⟨rule, hfirst, rfl, -⟩
      exact ⟨rule, hfirst, rfl⟩

/-- Where two rules are broken, the first one is named. -/
example : make 8 8 0 24 = .error .zeroWordSize := rfl

end Convention

end CallFrame
