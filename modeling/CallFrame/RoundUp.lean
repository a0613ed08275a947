import CallFrame.Word

/-! # Rounding up to an alignment

Frames are sized in multiples of a stack alignment, which is a power of two.

* **`roundUp`** clears the low bits of `value + alignment - 1`. The sum is taken first, so that a
  value close to the bound faults even when its multiple would still fit.
* **`maskedSum`** is that mask in the arithmetic of words, which wraps; where no operation of it does
  (`MaskIsExact`), it is the result.
* **`roundUp_eq_ok`** states the result in arithmetic of natural numbers. -/

namespace CallFrame

/-- Clearing the bits of a word that are below a power of two leaves the multiple of that power. -/
theorem and_not_below_eq {number power : Nat} (hpower : power.isPowerOfTwo)
    (hfits : number < UInt64.size) (hsmall : power < UInt64.size) :
    number &&& (UInt64.size - 1 - (power - 1)) = number / power * power := by
  obtain ⟨exponent, rfl⟩ := id hpower
  have hsize : UInt64.size = 2 ^ 64 := rfl
  have hpos : 0 < 2 ^ exponent := Nat.pos_of_isPowerOfTwo hpower
  have hmask : UInt64.size - 1 - (2 ^ exponent - 1) = 2 ^ 64 - ((2 ^ exponent - 1) + 1) := by
    omega
  apply Nat.eq_of_testBit_eq
  intro i
  rw [hmask, Nat.testBit_and, Nat.testBit_two_pow_sub_succ (by omega), Nat.testBit_two_pow_sub_one,
    Nat.testBit_mul_two_pow]
  by_cases hbelow : i < exponent
  · simp [hbelow, Nat.not_le.mpr hbelow]
  · have habove : exponent ≤ i := Nat.le_of_not_lt hbelow
    rw [Nat.testBit_div_two_pow]
    simp [hbelow, habove, Nat.sub_add_cancel habove]
    intro hbit
    refine Decidable.byContradiction fun hbeyond => ?_
    have htoo : number < 2 ^ i :=
      Nat.lt_of_lt_of_le (hsize ▸ hfits) (Nat.pow_le_pow_right (by decide) (by omega))
    rw [Nat.testBit_lt_two_pow htoo] at hbit
    cases hbit

/-- The least multiple of `alignment` that is not below `value`, for an alignment that is a power
of two. Faults, in this order: the alignment is no power of two; `value + alignment` does not fit
a word. -/
def roundUp (value alignment : Word) : Except Fault Word :=
  if alignment.toNat.isPowerOfTwo then do
    let above ← value.plus alignment
    let last ← above.minus 1
    let lowBits ← alignment.minus 1
    return last &&& ~~~lowBits
  else
    .error .alignmentNotPowerOfTwo

/-! ## The mask -/

/-- One below the sum of a value and an alignment, with the bits below the alignment cleared, in the
arithmetic of words: each operation wraps where its result is no word. -/
def maskedSum (value alignment : Word) : Word := (value + alignment - 1) &&& ~~~(alignment - 1)

/-- A mask of which no operation wraps. -/
structure MaskIsExact (value alignment : Word) : Prop where
  /-- The sum is the exact sum. -/
  sum : (value + alignment).toNat = value.toNat + alignment.toNat
  /-- One can be taken from the sum. -/
  last : (value + alignment - 1).toNat + 1 = value.toNat + alignment.toNat
  /-- One can be taken from the alignment. -/
  lowBits : (alignment - 1).toNat + 1 = alignment.toNat

/-- No operation of the mask wraps when the sum fits and the alignment is not zero. -/
theorem maskIsExact_of_lt {value alignment : Word} (hpos : 0 < alignment.toNat)
    (hfits : value.toNat + alignment.toNat < Word.bound) : MaskIsExact value alignment := by
  have hone : (1 : Word).toNat = 1 := rfl
  have hsum := Word.toNat_add_of_lt hfits
  refine ⟨hsum, ?_, Word.toNat_sub_add_of_le hpos⟩
  rw [← hsum]
  exact Word.toNat_sub_add_of_le (by omega)

/-- Where no operation of the mask wraps, the result is the mask: the three operations that could
fault give the words that the mask is made from. -/
theorem roundUp_eq_maskedSum {value alignment : Word} (hpower : alignment.toNat.isPowerOfTwo)
    (hexact : MaskIsExact value alignment) :
    roundUp value alignment = .ok (maskedSum value alignment) := by
  have habove : value.plus alignment = .ok (value + alignment) :=
    Word.plus_eq_ok_iff.mpr hexact.sum
  have hlast : (value + alignment).minus 1 = .ok (value + alignment - 1) :=
    Word.minus_eq_ok_iff.mpr (hexact.last.trans hexact.sum.symm)
  have hlowBits : alignment.minus 1 = .ok (alignment - 1) :=
    Word.minus_eq_ok_iff.mpr hexact.lowBits
  rw [roundUp, if_pos hpower, bind_eq_ok_iff]
  refine ⟨_, habove, ?_⟩
  rw [bind_eq_ok_iff]
  refine ⟨_, hlast, ?_⟩
  rw [bind_eq_ok_iff]
  exact ⟨_, hlowBits, rfl⟩

/-- A mask of which no operation wraps is the number of whole alignments that
`value + alignment - 1` holds, times the alignment. -/
theorem MaskIsExact.toNat_maskedSum {value alignment : Word}
    (hexact : MaskIsExact value alignment) (hpower : alignment.toNat.isPowerOfTwo) :
    (maskedSum value alignment).toNat =
      (value.toNat + alignment.toNat - 1) / alignment.toNat * alignment.toNat := by
  have hlast := hexact.last
  have hlowBits := hexact.lowBits
  have hfits := Word.toNat_lt_bound (value + alignment - 1)
  rw [maskedSum, UInt64.toNat_and, UInt64.toNat_not, Nat.eq_sub_of_add_eq hlast,
    Nat.eq_sub_of_add_eq hlowBits]
  exact and_not_below_eq hpower (by unfold Word.bound at hfits; omega) alignment.toNat_lt_size

/-! ## Result and faults -/

/-- For a power of two, and as long as the sum fits, the result is the number of whole alignments
that `value + alignment - 1` holds, times the alignment. -/
theorem roundUp_eq_ok {value alignment : Word} (hpower : alignment.toNat.isPowerOfTwo)
    (hfits : value.toNat + alignment.toNat < Word.bound) :
    ∃ rounded, roundUp value alignment = .ok rounded ∧
      rounded.toNat =
        (value.toNat + alignment.toNat - 1) / alignment.toNat * alignment.toNat := by
  have hexact := maskIsExact_of_lt (Nat.pos_of_isPowerOfTwo hpower) hfits
  exact ⟨_, roundUp_eq_maskedSum hpower hexact, hexact.toNat_maskedSum hpower⟩

/-- The alignment is looked at first. -/
theorem roundUp_of_not_isPowerOfTwo {value alignment : Word}
    (hpower : ¬ alignment.toNat.isPowerOfTwo) :
    roundUp value alignment = .error .alignmentNotPowerOfTwo := by
  rw [roundUp, if_neg hpower]

/-- A sum that does not fit is a fault, even if the multiple would fit. -/
theorem roundUp_of_bound_le {value alignment : Word} (hpower : alignment.toNat.isPowerOfTwo)
    (hoverflow : Word.bound ≤ value.toNat + alignment.toNat) :
    roundUp value alignment = .error .sumOverflow := by
  rw [roundUp, if_pos hpower, Word.plus_eq_error_iff.mpr ⟨rfl, hoverflow⟩]
  rfl

end CallFrame
