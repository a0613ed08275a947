import CallFrame.Proofs.FrameSize

/-! # Checked sizes of stack arguments

Counts that come from outside are sized by `outArgs?`, which has an error in place of the faults of
`outArgs`. The two are written separately, one over words that may be absent and one over queries
that may stop. This file shows that they are the same computation up to what they do with a number
that does not fit.

* **`Word.plus_of_add?`** and **`Word.times_of_mul?`** — the operations that fault, in terms of the
  partial ones.
* **`Convention.outArgs?_eq_mapError`** — the checked size is the unchecked one, with every fault
  turned into the error that repeats the counts.
* **`Convention.outArgs_agree`** — one threshold for both sizes, and which sum or product is the
  first to cross it. -/

namespace CallFrame

namespace Word

variable {left right : Word}

/-! ## Operations that fault and partial operations -/

/-- A sum that is present is returned. -/
theorem plus_of_add? {sum : Word} (hfound : add? left right = some sum) :
    plus left right = .ok sum := by
  rw [plus, hfound]
  rfl

/-- A sum that is absent is a fault. -/
theorem plus_of_add?_none (habsent : add? left right = none) :
    plus left right = .error .sumOverflow := by
  rw [plus, habsent]
  rfl

/-- A product that is present is returned. -/
theorem times_of_mul? {product : Word} (hfound : mul? left right = some product) :
    times left right = .ok product := by
  rw [times, hfound]
  rfl

/-- A product that is absent is a fault. -/
theorem times_of_mul?_none (habsent : mul? left right = none) :
    times left right = .error .productOverflow := by
  rw [times, habsent]
  rfl

end Word

namespace Convention

variable (convention : Convention) (floatingPoint integer : Word)

/-! ## The checked size -/

/-- **The checked size is the unchecked one with its faults in other words.** Whatever the fault
was, the error repeats the counts as they were given. -/
theorem outArgs?_eq_mapError :
    convention.outArgs? floatingPoint integer =
      (convention.outArgs floatingPoint integer).mapError fun _ => ⟨floatingPoint, integer⟩ := by
  rw [outArgs?, outArgs]
  -- both run through the same two partial operations, so they part ways at the same one
  cases hsum : (floatingPoint.excess convention.floatingPointRegisters).add?
      (integer.excess convention.integerRegisters) with
  | none =>
      rw [Word.plus_of_add?_none hsum]
      rfl
  | some slots =>
      rw [Word.plus_of_add? hsum]
      cases hproduct : slots.mul? convention.wordSize with
      | none =>
          rw [Option.bind_some, hproduct]
          show _ = (slots.times convention.wordSize).mapError _
          rw [Word.times_of_mul?_none hproduct]
          rfl
      | some size =>
          rw [Option.bind_some, hproduct]
          show _ = (slots.times convention.wordSize).mapError _
          rw [Word.times_of_mul? hproduct]
          rfl

variable {floatingPoint integer}

/-- The checked size is returned exactly when the unchecked one is, and is the same word. -/
theorem outArgs?_eq_ok_iff_outArgs {size : Word} :
    convention.outArgs? floatingPoint integer = .ok size ↔
      convention.outArgs floatingPoint integer = .ok size := by
  rw [outArgs?_eq_mapError, mapError_eq_ok_iff]

/-- The checked size is an error exactly when the unchecked one is a fault, and the error repeats
the counts. -/
theorem outArgs?_eq_error_iff_outArgs {error : OutArgsError} :
    convention.outArgs? floatingPoint integer = .error error ↔
      (∃ fault, convention.outArgs floatingPoint integer = .error fault) ∧
        error = ⟨floatingPoint, integer⟩ := by
  rw [outArgs?_eq_mapError, mapError_eq_error_iff]
  constructor
  · rintro ⟨fault, hfault, rfl⟩
    exact ⟨⟨fault, hfault⟩, rfl⟩
  · rintro ⟨⟨fault, hfault⟩, rfl⟩
    exact ⟨fault, hfault, rfl⟩

/-! ## One threshold -/

variable (tally : Tally)

/-- The unchecked size is returned exactly when its bytes fit a word. -/
theorem exists_outArgs_eq_ok_iff :
    (∃ size, convention.outArgs tally.floatingPoint tally.integer = .ok size) ↔
      convention.exactOutArgs tally < Word.bound := by
  constructor
  · rintro ⟨size, hsize⟩
    rw [← convention.outArgs_eq_ok_iff.mp hsize]
    exact Word.toNat_lt_bound size
  · intro hbytes
    obtain ⟨size, hsize⟩ := Word.exists_toNat_eq hbytes
    exact ⟨size, convention.outArgs_eq_ok_iff.mpr hsize⟩

/-- The unchecked size faults exactly when its bytes do not fit a word, whichever operation it is
that stops. -/
theorem exists_outArgs_eq_error_iff :
    (∃ fault, convention.outArgs tally.floatingPoint tally.integer = .error fault) ↔
      Word.bound ≤ convention.exactOutArgs tally := by
  constructor
  · rintro ⟨fault, hfault⟩
    rcases convention.outArgs_eq_error_iff.mp hfault with ⟨-, hslots⟩ | ⟨-, -, hbytes⟩
    · -- too many slots are too many bytes, since a word has at least one byte
      exact Nat.le_trans hslots (convention.spilled_le_exactOutArgs tally)
    · exact hbytes
  · intro hbytes
    rcases Nat.lt_or_ge (convention.spilled tally) Word.bound with hslots | hslots
    · exact ⟨.productOverflow, convention.outArgs_eq_error_iff.mpr (Or.inr ⟨rfl, hslots, hbytes⟩)⟩
    · exact ⟨.sumOverflow, convention.outArgs_eq_error_iff.mpr (Or.inl ⟨rfl, hslots⟩)⟩

/-- **Both sizes of stack arguments agree on all counts.** With the number of slots and their bytes
taken in unbounded arithmetic: both sizes are returned and are the bytes exactly when these fit a
word; otherwise the checked one is the error that repeats the counts, and the unchecked one stops
at the sum if already the slots do not fit, and at the product if only the bytes do not. The
checked size has no other ending, so that it never stops. -/
theorem outArgs_agree (convention : Convention) (floatingPoint integer : Word) :
    ((∃ size : Word, convention.outArgs? floatingPoint integer = .ok size ∧
        convention.outArgs floatingPoint integer = .ok size ∧
        size.toNat = convention.exactOutArgs ⟨floatingPoint, integer⟩) ↔
      convention.exactOutArgs ⟨floatingPoint, integer⟩ < Word.bound) ∧
    (∀ error, convention.outArgs? floatingPoint integer = .error error ↔
      Word.bound ≤ convention.exactOutArgs ⟨floatingPoint, integer⟩ ∧
        error = ⟨floatingPoint, integer⟩) ∧
    ∀ fault, convention.outArgs floatingPoint integer = .error fault ↔
      fault.message = "attempt to add with overflow" ∧
          Word.bound ≤ convention.spilled ⟨floatingPoint, integer⟩ ∨
        fault.message = "attempt to multiply with overflow" ∧
          convention.spilled ⟨floatingPoint, integer⟩ < Word.bound ∧
          Word.bound ≤ convention.exactOutArgs ⟨floatingPoint, integer⟩ := by
  let tally : Tally := ⟨floatingPoint, integer⟩
  refine ⟨⟨?_, ?_⟩, ?_, ?_⟩
  · rintro ⟨size, -, hsize, -⟩
    exact (convention.exists_outArgs_eq_ok_iff tally).mp ⟨size, hsize⟩
  · intro hbytes
    obtain ⟨size, hsize⟩ := (convention.exists_outArgs_eq_ok_iff tally).mpr hbytes
    have hexact : size.toNat = convention.exactOutArgs tally :=
      convention.outArgs_eq_ok_iff.mp hsize
    exact ⟨size, convention.outArgs?_eq_ok_iff_outArgs.mpr hsize, hsize, hexact⟩
  · intro error
    rw [outArgs?_eq_error_iff_outArgs]
    exact and_congr_left' (convention.exists_outArgs_eq_error_iff tally)
  · intro fault
    have hsum : fault.message = "attempt to add with overflow" ↔ fault = .sumOverflow :=
      fault.message_inj .sumOverflow
    have hproduct : fault.message = "attempt to multiply with overflow" ↔
        fault = .productOverflow := fault.message_inj .productOverflow
    rw [hsum, hproduct]
    show convention.outArgs tally.floatingPoint tally.integer = .error fault ↔ _
    rw [outArgs_eq_error_iff]

end Convention

end CallFrame
