import CallFrame.Word

/-! # Decimal numbers

Numbers are written in decimal digits without leading zeros, and read from one digit or more,
leading zeros among them or not.

* **`Decimal.digits`** and **`Decimal.value?`** go between numbers and digits; `value?_digits` says
  that what is written reads back. -/

namespace CallFrame.Decimal

/-- The decimal digits of a number. -/
def digits (number : Nat) : List Char := Nat.toDigits 10 number

/-- The decimal text of a word. -/
def text (word : Word) : String := String.ofList (digits word.toNat)

/-- The number that one or more decimal digits stand for. -/
def value? (characters : List Char) : Option Nat :=
  if characters.isEmpty || !characters.all Char.isDigit then none
  else some (Nat.ofDigitChars 10 characters 0)

/-- A number has at least one digit. -/
theorem digits_ne_nil (number : Nat) : digits number ≠ [] := by
  intro hempty
  have hvalue := Nat.ofDigitChars_ten_toDigits (n := number)
  rw [show Nat.toDigits 10 number = [] from hempty] at hvalue
  simp at hvalue
  subst hvalue
  exact absurd hempty (by decide)

/-- Every digit of a number is a decimal digit. -/
theorem isDigit_of_mem_digits {number : Nat} {character : Char}
    (hmem : character ∈ digits number) : character.isDigit :=
  Nat.isDigit_of_mem_toDigits (by decide) (by decide) hmem

/-- What is written reads back. -/
@[simp] theorem value?_digits (number : Nat) : value? (digits number) = some number := by
  have hall : (digits number).all Char.isDigit := by
    rw [List.all_eq_true]
    intro character hmem
    exact isDigit_of_mem_digits hmem
  have hnonempty : (digits number).isEmpty = false := by
    rw [List.isEmpty_eq_false_iff]
    exact digits_ne_nil number
  rw [value?, hall, hnonempty]
  simp [digits]

end CallFrame.Decimal
