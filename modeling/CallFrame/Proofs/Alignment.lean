import CallFrame.RoundUp
import Mathlib.Order.Bounds.Defs

/-! # Alignment in natural numbers

`roundUp` works on words and masks bits. This file gives its result a name in natural numbers and
proves the laws of that number, so that nothing about frames has to look at bits again.

* **`alignUp value alignment`** — the least multiple of `alignment` from `value` on
  (`alignUp_isLeast`); `alignUp_eq_iff` pins it down by its divisor and its two bounds.
* **`alignUp_add_word`** — what one more word adds to an aligned number of words;
  **`alignUp_mul_left`** — what a change of the unit does to it.
* **`roundUp_eq_ok_iff`** and **`roundUp_eq_error_iff`** — when rounding a word up has a result,
  and which one. -/

namespace CallFrame

/-! ## The least multiple from a value on -/

/-- **The least multiple of `alignment` that is not below `value`**, in unbounded arithmetic. -/
def alignUp (value alignment : Nat) : Nat := (value + alignment - 1) / alignment * alignment

/-- An aligned value is a multiple of the alignment. -/
theorem dvd_alignUp (value alignment : Nat) : alignment ∣ alignUp value alignment :=
  Nat.dvd_mul_left alignment _

/-- Aligning never makes a value smaller, and adds less than one alignment. -/
theorem alignUp_bounds (value : Nat) {alignment : Nat} (ha : 0 < alignment) :
    value ≤ alignUp value alignment ∧ alignUp value alignment < value + alignment := by
  have hdiv := Nat.div_add_mod (value + alignment - 1) alignment
  have hmod := Nat.mod_lt (value + alignment - 1) ha
  rw [alignUp, Nat.mul_comm]
  constructor <;> omega

/-- **The aligned value is the least multiple of the alignment from the value on.** -/
theorem alignUp_isLeast (value : Nat) {alignment : Nat} (ha : 0 < alignment) :
    IsLeast {multiple : Nat | alignment ∣ multiple ∧ value ≤ multiple}
      (alignUp value alignment) := by
  obtain ⟨hle, hlt⟩ := alignUp_bounds value ha
  refine ⟨⟨dvd_alignUp value alignment, hle⟩, ?_⟩
  rintro multiple ⟨hdvd, hvalue⟩
  exact Nat.le_of_lt_add_of_dvd (by omega) (dvd_alignUp value alignment) hdvd

/-- **A multiple less than one alignment above a value is the aligned value.** -/
theorem alignUp_eq_iff {value alignment multiple : Nat} (ha : 0 < alignment) :
    alignUp value alignment = multiple ↔
      alignment ∣ multiple ∧ value ≤ multiple ∧ multiple < value + alignment := by
  obtain ⟨hle, hlt⟩ := alignUp_bounds value ha
  constructor
  · rintro rfl
    exact ⟨dvd_alignUp value alignment, hle, hlt⟩
  · rintro ⟨hdvd, hfrom, hbelow⟩
    -- two multiples less than one alignment apart, in either direction, are the same
    apply Nat.le_antisymm
    · exact Nat.le_of_lt_add_of_dvd (by omega) (dvd_alignUp value alignment) hdvd
    · exact Nat.le_of_lt_add_of_dvd (by omega) hdvd (dvd_alignUp value alignment)

/-- A multiple of the alignment is aligned already. -/
theorem alignUp_of_dvd {value alignment : Nat} (ha : 0 < alignment) (hdvd : alignment ∣ value) :
    alignUp value alignment = value :=
  (alignUp_eq_iff ha).mpr ⟨hdvd, Nat.le_refl value, by omega⟩

/-- Only nothing at all is aligned to nothing. -/
theorem alignUp_eq_zero_iff {value alignment : Nat} (ha : 0 < alignment) :
    alignUp value alignment = 0 ↔ value = 0 := by
  rw [alignUp_eq_iff ha]
  constructor
  · rintro ⟨-, hle, -⟩
    exact Nat.le_zero.mp hle
  · rintro rfl
    exact ⟨Nat.dvd_zero alignment, Nat.le_refl 0, by omega⟩

/-- Aligning keeps the order of values. -/
theorem alignUp_mono {value other alignment : Nat} (ha : 0 < alignment) (hle : value ≤ other) :
    alignUp value alignment ≤ alignUp other alignment := by
  obtain ⟨hmem, hfrom⟩ := (alignUp_isLeast other ha).1
  exact (alignUp_isLeast value ha).2 ⟨hmem, Nat.le_trans hle hfrom⟩

/-- **Aligning has no unit of its own**: a value and an alignment that are both taken the same number
of times are aligned to that number of times the aligned value. -/
theorem alignUp_mul_left {factor value alignment : Nat} (hfactor : 0 < factor)
    (ha : 0 < alignment) :
    alignUp (factor * value) (factor * alignment) = factor * alignUp value alignment := by
  obtain ⟨hle, hlt⟩ := alignUp_bounds value ha
  rw [alignUp_eq_iff (Nat.mul_pos hfactor ha)]
  refine ⟨Nat.mul_dvd_mul_left factor (dvd_alignUp value alignment),
    Nat.mul_le_mul_left factor hle, ?_⟩
  rw [← Nat.mul_add]
  exact Nat.mul_lt_mul_of_pos_left hlt hfactor

/-- **One more word disappears in the padding, unless there is none.** Where words divide both the
value and the alignment, a value that is not aligned has padding for a whole word. -/
theorem alignUp_add_word {value word alignment : Nat} (hword : 0 < word) (ha : 0 < alignment)
    (hvalue : word ∣ value) (halignment : word ∣ alignment) :
    alignUp (value + word) alignment =
      alignUp value alignment + if alignment ∣ value then alignment else 0 := by
  have hle : word ≤ alignment := Nat.le_of_dvd ha halignment
  by_cases hdvd : alignment ∣ value
  · rw [if_pos hdvd, alignUp_of_dvd ha hdvd, alignUp_eq_iff ha]
    exact ⟨Nat.dvd_add hdvd (Nat.dvd_refl alignment), by omega, by omega⟩
  · obtain ⟨hfrom, hbelow⟩ := alignUp_bounds value ha
    rw [if_neg hdvd, Nat.add_zero, alignUp_eq_iff ha]
    refine ⟨dvd_alignUp value alignment, ?_, by omega⟩
    -- the padding is not empty and a whole number of words, so it has room for one
    have hne : value ≠ alignUp value alignment := fun h => hdvd (h ▸ dvd_alignUp value alignment)
    have hwords : word ∣ alignUp value alignment :=
      Nat.dvd_trans halignment (dvd_alignUp value alignment)
    exact Nat.le_of_lt_add_of_dvd (by omega) (Nat.dvd_add hvalue (Nat.dvd_refl word)) hwords

/-! ## Rounding words up -/

/-- A value that fits a word with one alignment to spare has a word for its aligned value. -/
theorem exists_toNat_eq_alignUp {value alignment : Nat} (ha : 0 < alignment)
    (hfits : value + alignment < Word.bound) :
    ∃ aligned : Word, aligned.toNat = alignUp value alignment := by
  have hbelow := (alignUp_bounds value ha).2
  exact Word.exists_toNat_eq (by omega)

section

variable {value alignment rounded : Word} {fault : Fault}

/-- **Rounding up to a power of two has a result exactly when the sum fits**, and the result is
then the aligned value. -/
theorem roundUp_eq_ok_iff (hpower : alignment.toNat.isPowerOfTwo) :
    roundUp value alignment = .ok rounded ↔
      value.toNat + alignment.toNat < Word.bound ∧
        rounded.toNat = alignUp value.toNat alignment.toNat := by
  by_cases hfits : value.toNat + alignment.toNat < Word.bound
  · obtain ⟨found, hfound, hvalue⟩ := roundUp_eq_ok hpower hfits
    rw [hfound, Except.ok.injEq, ← UInt64.toNat_inj, hvalue]
    simp only [hfits, true_and]
    exact eq_comm
  · rw [roundUp_of_bound_le hpower (Nat.le_of_not_lt hfits)]
    simp [hfits]

/-- Rounding up to a power of two faults exactly when the sum does not fit. -/
theorem roundUp_eq_error_iff (hpower : alignment.toNat.isPowerOfTwo) :
    roundUp value alignment = .error fault ↔
      fault = .sumOverflow ∧ Word.bound ≤ value.toNat + alignment.toNat := by
  by_cases hfits : value.toNat + alignment.toNat < Word.bound
  · obtain ⟨found, hfound, -⟩ := roundUp_eq_ok hpower hfits
    simp [hfound, hfits]
  · rw [roundUp_of_bound_le hpower (Nat.le_of_not_lt hfits)]
    simp [Nat.le_of_not_lt hfits, eq_comm]

end

end CallFrame
