import CallFrame.Proofs.Alignment

/-! # Rounding every word up to every alignment

`roundUp` takes any two words. It checks that the second is a power of two, adds the two up, and
masks the low bits of what is one below the sum. This file says for all words which of these steps
stops it, and what is returned where none does.

* **`RoundingFault`** — what stops `roundUp`.
* **`sumOverflow_and_exists_multiple_iff`** — the one value for each alignment that stops at the sum
  though there is a multiple to round it to.
* **`RoundsTo`** — what is returned: the mask, taken without wrapping, as the least multiple from the
  value on.
* **`roundUp_exact`** — all of this, for every value and every alignment. -/

namespace CallFrame

/-- A power of two that is a word divides the bound. -/
theorem Word.dvd_bound_of_isPowerOfTwo {word : Word} (hpower : word.toNat.isPowerOfTwo) :
    word.toNat ∣ bound := by
  obtain ⟨exponent, hexponent⟩ := hpower
  have hlt : 2 ^ exponent < 2 ^ 64 := hexponent ▸ toNat_lt_bound word
  rw [hexponent]
  exact Nat.pow_dvd_pow 2 (Nat.le_of_lt ((Nat.pow_lt_pow_iff_right (by decide)).mp hlt))

variable {value alignment rounded : Word} {fault : Fault}

/-! ## What stops rounding -/

/-- **What stops rounding up**: an alignment that is no power of two, or else a sum that does not
fit a word. -/
def RoundingFault (value alignment : Word) (fault : Fault) : Prop :=
  fault.message = "assertion failed: alignment.is_power_of_two()" ∧
      ¬alignment.toNat.isPowerOfTwo ∨
    fault.message = "attempt to add with overflow" ∧ alignment.toNat.isPowerOfTwo ∧
      Word.bound ≤ value.toNat + alignment.toNat

/-- **Rounding up follows its rule.** -/
theorem roundUp_eq_error_iff_roundingFault :
    roundUp value alignment = .error fault ↔ RoundingFault value alignment fault := by
  have hcheck : fault.message = "assertion failed: alignment.is_power_of_two()" ↔
      fault = .alignmentNotPowerOfTwo := fault.message_inj .alignmentNotPowerOfTwo
  have hsum : fault.message = "attempt to add with overflow" ↔ fault = .sumOverflow :=
    fault.message_inj .sumOverflow
  rw [RoundingFault, hcheck, hsum]
  by_cases hpower : alignment.toNat.isPowerOfTwo
  · rw [roundUp_eq_error_iff hpower]
    simp only [hpower, not_true_eq_false, and_false, true_and, false_or]
  · rw [roundUp_of_not_isPowerOfTwo hpower, Except.error.injEq]
    simp only [hpower, not_false_eq_true, and_true, false_and, and_false, or_false]
    exact eq_comm

/-- **Rounding up returns for all other words.** -/
theorem exists_roundUp_eq_ok_iff :
    (∃ rounded, roundUp value alignment = .ok rounded) ↔
      alignment.toNat.isPowerOfTwo ∧ value.toNat + alignment.toNat < Word.bound := by
  constructor
  · rintro ⟨rounded, hrounded⟩
    by_cases hpower : alignment.toNat.isPowerOfTwo
    · exact ⟨hpower, ((roundUp_eq_ok_iff hpower).mp hrounded).1⟩
    · rw [roundUp_of_not_isPowerOfTwo hpower] at hrounded
      cases hrounded
  · rintro ⟨hpower, hfits⟩
    have ha := Nat.pos_of_isPowerOfTwo hpower
    exact ⟨_, roundUp_eq_maskedSum hpower (maskIsExact_of_lt ha hfits)⟩

/-- An alignment of zero is none. -/
theorem roundUp_zero (value : Word) : roundUp value 0 = .error .alignmentNotPowerOfTwo :=
  roundUp_of_not_isPowerOfTwo Nat.not_isPowerOfTwo_zero

/-- **One value for each alignment stops at the sum though a multiple from it on is a word**: the
last multiple below the bound. It is its own multiple, but with the alignment it reaches the
bound. -/
theorem sumOverflow_and_exists_multiple_iff (hpower : alignment.toNat.isPowerOfTwo) :
    roundUp value alignment = .error .sumOverflow ∧
        (∃ multiple : Word, alignment.toNat ∣ multiple.toNat ∧ value ≤ multiple) ↔
      value.toNat + alignment.toNat = Word.bound := by
  have ha := Nat.pos_of_isPowerOfTwo hpower
  have hbound := Word.dvd_bound_of_isPowerOfTwo hpower
  rw [roundUp_eq_error_iff hpower]
  constructor
  · rintro ⟨⟨-, hover⟩, multiple, hdvd, hle⟩
    -- the bound is a multiple as well, so there is room for one alignment below it
    have hroom : multiple.toNat + alignment.toNat ≤ Word.bound := by
      have hlt := Word.toNat_lt_bound multiple
      exact Nat.le_of_lt_add_of_dvd (by omega) (Nat.dvd_add hdvd (Nat.dvd_refl _)) hbound
    rw [UInt64.le_iff_toNat_le] at hle
    omega
  · intro hsum
    have hdvd : alignment.toNat ∣ value.toNat :=
      (Nat.dvd_add_iff_left (Nat.dvd_refl _)).mpr (hsum ▸ hbound)
    exact ⟨⟨rfl, Nat.le_of_eq hsum.symm⟩, value, hdvd, UInt64.le_refl value⟩

/-! ## What rounding returns -/

/-- **A value rounded up to an alignment.** -/
structure RoundsTo (value alignment rounded : Word) : Prop where
  /-- It is the masked sum. -/
  eq_maskedSum : rounded = maskedSum value alignment
  /-- The mask was taken without wrapping. -/
  maskIsExact : MaskIsExact value alignment
  /-- It is the least multiple of the alignment from the value on. -/
  isLeast : IsLeast {multiple : Nat | alignment.toNat ∣ multiple ∧ value.toNat ≤ multiple}
    rounded.toNat
  /-- It is not below the value. -/
  le : value ≤ rounded
  /-- It is less than one alignment above the value. -/
  lt : rounded.toNat < value.toNat + alignment.toNat
  /-- The multiples of the alignment stay, and no other value does. -/
  eq_iff_dvd : rounded = value ↔ alignment.toNat ∣ value.toNat

/-- **What is returned is the value, rounded up.** -/
theorem roundsTo_of_roundUp (hrounded : roundUp value alignment = .ok rounded) :
    RoundsTo value alignment rounded := by
  obtain ⟨hpower, hfits⟩ := exists_roundUp_eq_ok_iff.mp ⟨rounded, hrounded⟩
  have ha := Nat.pos_of_isPowerOfTwo hpower
  have hexact := maskIsExact_of_lt ha hfits
  have hvalue := ((roundUp_eq_ok_iff hpower).mp hrounded).2
  obtain ⟨hle, hlt⟩ := alignUp_bounds value.toNat ha
  refine ⟨?_, hexact, hvalue ▸ alignUp_isLeast value.toNat ha, ?_, by omega, ?_⟩
  · rw [roundUp_eq_maskedSum hpower hexact] at hrounded
    exact (Except.ok.inj hrounded).symm
  · rw [UInt64.le_iff_toNat_le, hvalue]
    exact hle
  · rw [← UInt64.toNat_inj, hvalue, alignUp_eq_iff ha]
    constructor
    · rintro ⟨hdvd, -, -⟩
      exact hdvd
    · intro hdvd
      exact ⟨hdvd, Nat.le_refl _, by omega⟩

/-- **Rounding up keeps the order of values**, and returns below every value that it returns for. -/
theorem exists_roundUp_le {other : Word} (hle : value ≤ other)
    (hrounded : roundUp other alignment = .ok rounded) :
    ∃ lower, roundUp value alignment = .ok lower ∧ lower ≤ rounded := by
  obtain ⟨hpower, hfits⟩ := exists_roundUp_eq_ok_iff.mp ⟨rounded, hrounded⟩
  rw [UInt64.le_iff_toNat_le] at hle
  obtain ⟨lower, hlower⟩ := exists_roundUp_eq_ok_iff.mpr
    ⟨hpower, show value.toNat + alignment.toNat < Word.bound by omega⟩
  refine ⟨lower, hlower, ?_⟩
  rw [UInt64.le_iff_toNat_le, ((roundUp_eq_ok_iff hpower).mp hlower).2,
    ((roundUp_eq_ok_iff hpower).mp hrounded).2]
  exact alignUp_mono (Nat.pos_of_isPowerOfTwo hpower) hle

/-- **Rounding up, for every value and every alignment.** It stops exactly at an alignment that is no
power of two, zero among them, or else at a sum that does not fit a word. The sum stops it for the
last multiple below the bound too, which needs no rounding; for every other value that it stops, no
word is a multiple to round to. In all other cases what is returned is the masked sum, of which no
operation wraps. This is the least multiple of the alignment from the value on, less than one
alignment above it, and the value itself exactly when that is a multiple. The order of values is
kept. -/
theorem roundUp_exact (value alignment : Word) :
    (∀ fault, roundUp value alignment = .error fault ↔ RoundingFault value alignment fault) ∧
    roundUp value 0 = .error .alignmentNotPowerOfTwo ∧
    (alignment.toNat.isPowerOfTwo →
      (roundUp value alignment = .error .sumOverflow ∧
          (∃ multiple : Word, alignment.toNat ∣ multiple.toNat ∧ value ≤ multiple) ↔
        value.toNat + alignment.toNat = Word.bound)) ∧
    ((∃ rounded, roundUp value alignment = .ok rounded) ↔
      alignment.toNat.isPowerOfTwo ∧ value.toNat + alignment.toNat < Word.bound) ∧
    (∀ rounded, roundUp value alignment = .ok rounded → RoundsTo value alignment rounded) ∧
    ∀ other rounded, value ≤ other → roundUp other alignment = .ok rounded →
      ∃ lower, roundUp value alignment = .ok lower ∧ lower ≤ rounded :=
  ⟨fun _ => roundUp_eq_error_iff_roundingFault, roundUp_zero value,
    sumOverflow_and_exists_multiple_iff, exists_roundUp_eq_ok_iff,
    fun _ => roundsTo_of_roundUp, fun _ _ => exists_roundUp_le⟩

/-- The last multiple of sixteen below the bound stops at the sum. The value below it is rounded up
to it, and twenty-four to no more than that. -/
theorem roundUp_exact_last_multiple :
    (16 : Word).toNat.isPowerOfTwo ∧
      roundUp 18446744073709551600 16 = .error .sumOverflow ∧
      roundUp 18446744073709551599 16 = .ok 18446744073709551600 ∧
      RoundsTo 18446744073709551599 16 18446744073709551600 ∧
      ∃ lower, roundUp 24 16 = .ok lower ∧ lower ≤ 18446744073709551600 := by
  have hpower : (16 : Word).toNat.isPowerOfTwo := ⟨4, rfl⟩
  obtain ⟨-, -, hlast, -, -, -⟩ := roundUp_exact 18446744073709551600 16
  obtain ⟨-, -, -, hreturns, hrounds, -⟩ := roundUp_exact 18446744073709551599 16
  obtain ⟨-, -, -, -, -, hmono⟩ := roundUp_exact 24 16
  obtain ⟨rounded, hrounded⟩ := hreturns.mpr ⟨hpower, by decide⟩
  have hvalue : rounded = 18446744073709551600 := (hrounds rounded hrounded).eq_maskedSum
  rw [hvalue] at hrounded
  exact ⟨hpower, ((hlast hpower).mpr rfl).1, hrounded, hrounds _ hrounded,
    hmono _ _ (by decide) hrounded⟩

end CallFrame
