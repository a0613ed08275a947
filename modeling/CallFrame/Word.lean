import CallFrame.Fault

/-! # Machine words

Sizes and counts are 64-bit words, and no operation on them wraps: a result that does not fit is
absent (`Word.add?`, `Word.mul?`) or a fault (`Word.plus`, `Word.times`).

* **`Word.ofNat?`** is the word of a natural number below `Word.bound`; the partial operations are
  exact arithmetic on natural numbers followed by it.
* **`Word.excess`** is the difference that stops at zero.
* **`Word.count`** counts list items one by one, with a fault when the count leaves the word. -/

namespace CallFrame

/-- A machine word: a natural number below `Word.bound`. -/
abbrev Word := UInt64

namespace Word

/-- The number of different words, two to the power of 64. -/
def bound : Nat := UInt64.size

/-- Every word is below the bound. -/
theorem toNat_lt_bound (word : Word) : word.toNat < bound := word.toNat_lt_size

/-- Every natural number below the bound is the number of a word. -/
theorem exists_toNat_eq {number : Nat} (hfits : number < bound) :
    ∃ word : Word, word.toNat = number :=
  ⟨UInt64.ofNat number, UInt64.toNat_ofNat_of_lt' hfits⟩

/-- Only the word zero stands for zero. -/
theorem toNat_eq_zero_iff {word : Word} : word.toNat = 0 ↔ word = 0 := by
  rw [← UInt64.toNat_inj]
  rfl

/-- No remainder is left exactly by a divisor, in natural numbers. -/
theorem mod_eq_zero_iff_dvd {left right : Word} :
    left % right = 0 ↔ right.toNat ∣ left.toNat := by
  rw [← toNat_eq_zero_iff, UInt64.toNat_mod, Nat.dvd_iff_mod_eq_zero]

/-- A sum that fits does not wrap. -/
theorem toNat_add_of_lt {left right : Word} (hfits : left.toNat + right.toNat < bound) :
    (left + right).toNat = left.toNat + right.toNat := by
  rw [UInt64.toNat_add]
  exact Nat.mod_eq_of_lt hfits

/-- A difference that is not below zero does not wrap. -/
theorem toNat_sub_add_of_le {left right : Word} (hle : right.toNat ≤ left.toNat) :
    (left - right).toNat + right.toNat = left.toNat := by
  rw [UInt64.toNat_sub_of_le _ _ (UInt64.le_iff_toNat_le.mpr hle)]
  exact Nat.sub_add_cancel hle

/-! ## Exact operations -/

/-- The word of a natural number, absent from `bound` on. -/
def ofNat? (number : Nat) : Option Word :=
  if number < bound then some (UInt64.ofNat number) else none

/-- A number below the bound has a word, and the word stands for that number. -/
theorem ofNat?_eq_some_iff {number : Nat} {word : Word} :
    ofNat? number = some word ↔ word.toNat = number := by
  unfold ofNat?
  constructor
  · intro hfound
    split at hfound
    · rename_i hfits
      cases hfound
      exact UInt64.toNat_ofNat_of_lt' hfits
    · cases hfound
  · rintro rfl
    rw [if_pos (toNat_lt_bound word), UInt64.ofNat_toNat]

/-- A number has no word exactly from the bound on. -/
theorem ofNat?_eq_none_iff {number : Nat} : ofNat? number = none ↔ bound ≤ number := by
  unfold ofNat?
  split <;> simp_all

/-- The sum, absent when it does not fit. -/
def add? (left right : Word) : Option Word := ofNat? (left.toNat + right.toNat)

/-- The product, absent when it does not fit. -/
def mul? (left right : Word) : Option Word := ofNat? (left.toNat * right.toNat)

/-- The difference, absent when it is below zero. -/
def sub? (left right : Word) : Option Word :=
  if right ≤ left then some (left - right) else none

/-- A sum is present exactly as the word of the exact sum. -/
theorem add?_eq_some_iff {left right sum : Word} :
    add? left right = some sum ↔ sum.toNat = left.toNat + right.toNat := ofNat?_eq_some_iff

/-- A sum is absent exactly when the exact sum reaches the bound. -/
theorem add?_eq_none_iff {left right : Word} :
    add? left right = none ↔ bound ≤ left.toNat + right.toNat := ofNat?_eq_none_iff

/-- A product is present exactly as the word of the exact product. -/
theorem mul?_eq_some_iff {left right product : Word} :
    mul? left right = some product ↔ product.toNat = left.toNat * right.toNat :=
  ofNat?_eq_some_iff

/-- A product is absent exactly when the exact product reaches the bound. -/
theorem mul?_eq_none_iff {left right : Word} :
    mul? left right = none ↔ bound ≤ left.toNat * right.toNat := ofNat?_eq_none_iff

/-- The amount by which `left` exceeds `right`, zero when it does not. -/
def excess (left right : Word) : Word :=
  if right ≤ left then left - right else 0

/-- The excess is the difference of natural numbers, which stops at zero. -/
@[simp] theorem toNat_excess (left right : Word) :
    (excess left right).toNat = left.toNat - right.toNat := by
  unfold excess
  split
  · rename_i hle
    exact UInt64.toNat_sub_of_le _ _ hle
  · rename_i hlt
    have hbelow : left.toNat < right.toNat := by
      simpa [UInt64.le_iff_toNat_le] using hlt
    simp
    omega

/-! ## Operations that fault -/

/-- The sum, or a fault when it does not fit. -/
def plus (left right : Word) : Except Fault Word :=
  (add? left right).elim (.error .sumOverflow) .ok

/-- The difference, or a fault when it is below zero. -/
def minus (left right : Word) : Except Fault Word :=
  (sub? left right).elim (.error .differenceOverflow) .ok

/-- The product, or a fault when it does not fit. -/
def times (left right : Word) : Except Fault Word :=
  (mul? left right).elim (.error .productOverflow) .ok

/-- The sum is the exact sum. -/
theorem plus_eq_ok_iff {left right sum : Word} :
    plus left right = .ok sum ↔ sum.toNat = left.toNat + right.toNat := by
  rw [← add?_eq_some_iff, plus]
  cases add? left right <;> simp

/-- The sum faults exactly when the exact sum reaches the bound. -/
theorem plus_eq_error_iff {left right : Word} {fault : Fault} :
    plus left right = .error fault ↔
      fault = .sumOverflow ∧ bound ≤ left.toNat + right.toNat := by
  rw [← add?_eq_none_iff, plus]
  cases add? left right <;> simp [eq_comm]

/-- The product is the exact product. -/
theorem times_eq_ok_iff {left right product : Word} :
    times left right = .ok product ↔ product.toNat = left.toNat * right.toNat := by
  rw [← mul?_eq_some_iff, times]
  cases mul? left right <;> simp

/-- The product faults exactly when the exact product reaches the bound. -/
theorem times_eq_error_iff {left right : Word} {fault : Fault} :
    times left right = .error fault ↔
      fault = .productOverflow ∧ bound ≤ left.toNat * right.toNat := by
  rw [← mul?_eq_none_iff, times]
  cases mul? left right <;> simp [eq_comm]

/-- The difference is the exact difference. -/
theorem minus_eq_ok_iff {left right difference : Word} :
    minus left right = .ok difference ↔ difference.toNat + right.toNat = left.toNat := by
  unfold minus sub?
  have hleft := toNat_lt_bound left
  have hright := toNat_lt_bound right
  split
  · rename_i hle
    have hexact := UInt64.toNat_sub_of_le _ _ hle
    rw [UInt64.le_iff_toNat_le] at hle
    constructor
    · intro hsame
      cases hsame
      rw [hexact]
      omega
    · intro hsum
      simp
      apply UInt64.toNat_inj.mp
      rw [hexact]
      omega
  · rename_i hlt
    rw [UInt64.le_iff_toNat_le] at hlt
    constructor
    · intro hsame
      cases hsame
    · intro hsum
      omega

/-- The number of items that pass a test, counted one by one. -/
def count {α : Type} (test : α → Bool) (items : List α) : Except Fault Word :=
  items.foldlM (fun found item => if test item then plus found 1 else .ok found) 0

/-- The count is the number of items that pass, as long as that number has a word. -/
theorem count_eq_ok {α : Type} {test : α → Bool} {items : List α}
    (hfits : items.countP test < bound) :
    count test items = .ok (UInt64.ofNat (items.countP test)) := by
  suffices hfrom : ∀ (found : Word) (rest : List α), found.toNat + rest.countP test < bound →
      rest.foldlM (fun found item => if test item then plus found 1 else .ok found) found =
        (.ok (UInt64.ofNat (found.toNat + rest.countP test)) : Except Fault Word) by
    simpa [count] using hfrom 0 items (by simpa using hfits)
  intro found rest
  induction rest generalizing found with
  | nil =>
    intro _
    simp [pure, Except.pure]
  | cons first others ih =>
    intro hfits
    rw [List.foldlM_cons]
    by_cases hpasses : test first
    · rw [List.countP_cons_of_pos hpasses] at hfits ⊢
      have hnext : plus found 1 = .ok (UInt64.ofNat (found.toNat + 1)) := by
        rw [plus_eq_ok_iff]
        exact UInt64.toNat_ofNat_of_lt' (by unfold bound at hfits; omega)
      have hvalue : (UInt64.ofNat (found.toNat + 1)).toNat = found.toNat + 1 :=
        UInt64.toNat_ofNat_of_lt' (by unfold bound at hfits; omega)
      rw [if_pos hpasses, hnext]
      change List.foldlM _ (UInt64.ofNat (found.toNat + 1)) others = _
      rw [ih _ (by rw [hvalue]; omega), hvalue]
      congr 2
      omega
    · rw [List.countP_cons_of_neg hpasses] at hfits ⊢
      rw [if_neg hpasses]
      exact ih found hfits

/-- Items that are few enough are counted, and the count is their number. -/
theorem exists_count {α : Type} {test : α → Bool} {items : List α}
    (hfits : items.countP test < bound) :
    ∃ found, count test items = .ok found ∧ found.toNat = items.countP test :=
  ⟨_, count_eq_ok hfits, UInt64.toNat_ofNat_of_lt' hfits⟩

end Word

end CallFrame
