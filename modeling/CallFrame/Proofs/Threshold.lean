import CallFrame.Proofs.FrameSize

/-! # Thresholds of the frame queries

The arithmetic behind a query is two differences, a sum, a product, a sum for the return address
and the sum of the alignment, and any of them may be too large for a word. All of these overflows
collapse to one threshold for each query, in natural numbers.

* **`IsExact`** and **`IsExactlyAligned`** — a query that returns its value, or its aligned value,
  below the threshold and faults from the threshold on.
* **`Convention.frameQueries_exact`** — the thresholds of the three queries on every text that stays
  below the bound. -/

namespace CallFrame

/-! ## Exact outcomes -/

/-- **The outcome of an exact query**: the value when it fits a word, and the fault otherwise. -/
def IsExact (outcome : Except Fault Word) (value : Nat) (fault : Fault) : Prop :=
  if value < Word.bound then ∃ size, outcome = .ok size ∧ size.toNat = value
  else outcome = .error fault

/-- **The outcome of an exact query that aligns**: the least multiple of the alignment from the
value on when value and alignment together fit a word, and the fault otherwise. -/
def IsExactlyAligned (outcome : Except Fault Word) (value alignment : Nat) (fault : Fault) : Prop :=
  if value + alignment < Word.bound then
    ∃ size, outcome = .ok size ∧
      IsLeast {multiple : Nat | alignment ∣ multiple ∧ value ≤ multiple} size.toNat
  else outcome = .error fault

/-- A query that aligns is exact when it returns the aligned value exactly below the threshold. -/
theorem isExactlyAligned_of_iff {outcome : Except Fault Word} {value alignment : Nat}
    {fault : Fault} (ha : 0 < alignment)
    (hok : ∀ size, outcome = .ok size ↔
      value + alignment < Word.bound ∧ size.toNat = alignUp value alignment)
    (herror : Word.bound ≤ value + alignment → outcome = .error fault) :
    IsExactlyAligned outcome value alignment fault := by
  rw [IsExactlyAligned]
  split
  · rename_i hfits
    obtain ⟨size, hsize⟩ := exists_toNat_eq_alignUp ha hfits
    refine ⟨size, (hok size).mpr ⟨hfits, hsize⟩, ?_⟩
    rw [hsize]
    exact alignUp_isLeast value ha
  · rename_i hover
    exact herror (Nat.le_of_not_lt hover)

namespace Convention

/-- The fault of a query that aligns: the product overflows first if it does at all. -/
def alignmentFault (convention : Convention) (tally : Tally) : Fault :=
  if convention.exactOutArgs tally < Word.bound then .sumOverflow else .productOverflow

section

variable {convention : Convention} {text : String} {tally : Tally}

/-- Stack arguments whose number fits a word can only overflow in their bytes. -/
theorem callArgs_eq_productOverflow (htally : Tally.ofText text = .ok tally)
    (hspilled : convention.spilled tally < Word.bound)
    (hover : Word.bound ≤ convention.exactOutArgs tally) :
    convention.callArgs text = .error .productOverflow := by
  rw [callArgs_of_ofText htally, outArgs_eq_error_iff]
  exact Or.inr ⟨rfl, hspilled, hover⟩

/-- The stack arguments of a counted text are exact. -/
theorem isExact_callArgs (htally : Tally.ofText text = .ok tally)
    (hspilled : convention.spilled tally < Word.bound) :
    IsExact (convention.callArgs text) (convention.exactOutArgs tally) .productOverflow := by
  rw [IsExact]
  split
  · rename_i hbytes
    obtain ⟨size, hsize⟩ := Word.exists_toNat_eq hbytes
    exact ⟨size, (callArgs_eq_ok_iff htally).mpr hsize, hsize⟩
  · rename_i hover
    exact callArgs_eq_productOverflow htally hspilled (Nat.le_of_not_lt hover)

/-- Above the threshold the stack arguments fault already, or else the alignment does. -/
theorem alignmentFault_of_le (htally : Tally.ofText text = .ok tally)
    (hspilled : convention.spilled tally < Word.bound) {total : Nat} (hover : Word.bound ≤ total) :
    convention.callArgs text = .error (convention.alignmentFault tally) ∨
      convention.alignmentFault tally = .sumOverflow ∧
        convention.exactOutArgs tally < Word.bound ∧ Word.bound ≤ total := by
  rw [alignmentFault]
  split
  · rename_i hbytes
    exact Or.inr ⟨rfl, hbytes, hover⟩
  · rename_i hbytes
    exact Or.inl (callArgs_eq_productOverflow htally hspilled (Nat.le_of_not_lt hbytes))

/-- The stub's frame for a counted text is exact. -/
theorem isExactlyAligned_stubFrame (htally : Tally.ofText text = .ok tally)
    (hspilled : convention.spilled tally < Word.bound) :
    IsExactlyAligned (convention.stubFrame text).outcome (convention.exactStub text tally)
      convention.stackAlignment.toNat (convention.alignmentFault tally) :=
  isExactlyAligned_of_iff convention.stackAlignment_pos
    (fun _ => stubFrame_eq_ok_iff htally)
    fun hover => (stubFrame_eq_error_iff htally).mpr (alignmentFault_of_le htally hspilled hover)

/-- The direct call's frame for a counted text is exact. -/
theorem isExactlyAligned_directFrame (htally : Tally.ofText text = .ok tally)
    (hspilled : convention.spilled tally < Word.bound) :
    IsExactlyAligned (convention.directFrame text).outcome (convention.exactOutArgs tally)
      convention.stackAlignment.toNat (convention.alignmentFault tally) :=
  isExactlyAligned_of_iff convention.stackAlignment_pos
    (fun _ => directFrame_eq_ok_iff htally)
    fun hover => (directFrame_eq_error_iff htally).mpr (alignmentFault_of_le htally hspilled hover)

end

/-- **The thresholds of the three queries.** On every text that is not empty and stays below the
bound, the number of stack arguments always fits a word; the stack arguments are returned exactly
when their bytes fit, and the two frames exactly when their bytes fit with one alignment to
spare. What is returned is the number of unbounded arithmetic: nothing on the way wraps. -/
theorem frameQueries_exact (convention : Convention) {text : String} (hne : text ≠ "")
    (hfits : text.utf8ByteSize < Word.bound) :
    ∃ tally slots, Tally.ofText text = .ok tally ∧
      (tally.floatingPoint.excess convention.floatingPointRegisters).plus
          (tally.integer.excess convention.integerRegisters) = .ok slots ∧
      slots.toNat = convention.spilled tally ∧
      IsExact (convention.callArgs text) (convention.exactOutArgs tally) .productOverflow ∧
      IsExactlyAligned (convention.stubFrame text).outcome
        (convention.stubContents (convention.exactOutArgs tally) (opensNarrow text))
        convention.stackAlignment.toNat (convention.alignmentFault tally) ∧
      IsExactlyAligned (convention.directFrame text).outcome (convention.exactOutArgs tally)
        convention.stackAlignment.toNat (convention.alignmentFault tally) := by
  obtain ⟨tally, htally, -, htotal⟩ := Tally.ofText_eq_ok hne hfits
  -- the arguments are fewer than the bytes, so that their number cannot overflow
  have hlength := Tally.length_argumentBytes_lt hne
  have hspilled : convention.spilled tally < Word.bound := by
    rw [spilled]
    omega
  obtain ⟨slots, hslots⟩ := Word.exists_toNat_eq hspilled
  refine ⟨tally, slots, htally, ?_, hslots, isExact_callArgs htally hspilled, ?_,
    isExactlyAligned_directFrame htally hspilled⟩
  · rw [Word.plus_eq_ok_iff, Word.toNat_excess, Word.toNat_excess]
    exact hslots
  · rw [← hasNarrowResult_eq_opensNarrow]
    exact isExactlyAligned_stubFrame htally hspilled

/-- Ten integer arguments and a truth value take 24 bytes, which are aligned to 16. -/
theorem frameQueries_exact_aapcs64 :
    "ZJJJJJJJJJJ" ≠ "" ∧ "ZJJJJJJJJJJ".utf8ByteSize < Word.bound ∧
      ∃ size, (aapcs64.stubFrame "ZJJJJJJJJJJ").outcome = .ok size ∧
        IsLeast {multiple : Nat | 16 ∣ multiple ∧ 24 ≤ multiple} size.toNat := by
  have hne : "ZJJJJJJJJJJ" ≠ "" := by decide
  have hfits : "ZJJJJJJJJJJ".utf8ByteSize < Word.bound := by decide
  refine ⟨hne, hfits, ?_⟩
  obtain ⟨tally, slots, htally, -, -, -, hstub, -⟩ := frameQueries_exact aapcs64 hne hfits
  have hten : Tally.ofText "ZJJJJJJJJJJ" = .ok ⟨0, 10⟩ := rfl
  rw [hten] at htally
  cases htally
  exact hstub

end Convention

end CallFrame
