/-! # Faults

A query stops with a fault when its input breaks a rule that callers promise to keep, or when a
number that it needs does not fit a machine word. A fault is not an error of the user: those have
types of their own, beside the data that they are about.

* **`Fault`** lists the causes.
* **`Fault.message`** is the sentence shown for each cause, which tells the causes apart
  (`Fault.message_inj`).
* **`bind_eq_ok_iff`** and **`bind_eq_error_iff`** take a sequence of computations that can stop
  apart into its two parts; **`map_eq_error_iff`**, **`mapError_eq_ok_iff`** and
  **`mapError_eq_error_iff`** look through a change of its result or of its error. -/

namespace CallFrame

/-- Causes for which a query stops without an answer. -/
inductive Fault where
  /-- A sum does not fit a word. -/
  | sumOverflow
  /-- A difference is below zero. -/
  | differenceOverflow
  /-- A product does not fit a word. -/
  | productOverflow
  /-- A signature text is empty, so that it names no return type. -/
  | emptySignature
  /-- An alignment is zero or has more than one bit set. -/
  | alignmentNotPowerOfTwo
  deriving DecidableEq

/-- The sentence shown for a fault. -/
def Fault.message : Fault → String
  | .sumOverflow => "attempt to add with overflow"
  | .differenceOverflow => "attempt to subtract with overflow"
  | .productOverflow => "attempt to multiply with overflow"
  | .emptySignature => "shorty must include a return type"
  | .alignmentNotPowerOfTwo => "assertion failed: alignment.is_power_of_two()"

/-- Different faults are shown with different sentences. -/
theorem Fault.message_inj (fault other : Fault) :
    fault.message = other.message ↔ fault = other := by
  constructor
  · intro hsame
    cases fault <;> cases other <;> simp_all [message]
  · rintro rfl
    rfl

/-! ## Sequences that can stop -/

section

variable {ε α β : Type} {first : Except ε α} {next : α → Except ε β}

/-- A sequence has a result exactly when its first part has one from which the second part goes on
to that result. -/
theorem bind_eq_ok_iff {result : β} :
    (first >>= next) = .ok result ↔ ∃ middle, first = .ok middle ∧ next middle = .ok result := by
  cases first <;> simp [bind, Except.bind]

/-- A sequence stops exactly when its first part stops or its second part does after the first. -/
theorem bind_eq_error_iff {error : ε} :
    (first >>= next) = .error error ↔
      first = .error error ∨ ∃ middle, first = .ok middle ∧ next middle = .error error := by
  cases first <;> simp [bind, Except.bind]

/-- A computation has a result exactly when it stops with no error. -/
theorem exists_eq_ok_iff : (∃ result, first = .ok result) ↔ ∀ error, first ≠ .error error := by
  cases first <;> simp

/-- A function of the result leaves every error as it is. -/
theorem map_eq_error_iff {change : α → β} {error : ε} :
    change <$> first = .error error ↔ first = .error error := by
  cases first <;> simp [Functor.map, Except.map]

variable {ε' : Type} {change : ε → ε'} {computation : Except ε α}

/-- An error in other words leaves every result as it is. -/
theorem mapError_eq_ok_iff {result : α} :
    computation.mapError change = .ok result ↔ computation = .ok result := by
  cases computation with
  | ok value =>
      show Except.ok value = Except.ok result ↔ _
      rw [Except.ok.injEq, Except.ok.injEq]
  | error cause =>
      show Except.error (change cause) = Except.ok result ↔ _
      simp only [reduceCtorEq]

/-- An error in other words comes from an error. -/
theorem mapError_eq_error_iff {error : ε'} :
    computation.mapError change = .error error ↔
      ∃ cause, computation = .error cause ∧ change cause = error := by
  cases computation with
  | ok value =>
      show Except.ok value = Except.error error ↔ _
      simp only [reduceCtorEq, false_and, exists_false]
  | error cause =>
      show Except.error (change cause) = Except.error error ↔ _
      simp only [Except.error.injEq, exists_eq_left']

end

end CallFrame
