import CallFrame.Text.Decimal

/-! # Settings of the command line

An option of the command line is spelled `--name`, and all but one take a number.

* **`Field`** lists the options that take a number, with their names and their values when they are
  not given.
* **`numeral?`** reads a number.
* **`Setting`** is an option with its number; a level of the command line gives each option at most
  once (`Setting.areDistinct`). -/

namespace CallFrame.CommandLine

/-- Options that take a number. -/
inductive Field where
  /-- How many floating-point arguments are passed in registers. -/
  | floatingPointRegisters
  /-- How many other arguments are passed in registers. -/
  | integerRegisters
  /-- The bytes of a word. -/
  | wordSize
  /-- The bytes that frames are aligned to. -/
  | stackAlignment
  /-- The number of floating-point arguments to size. -/
  | floatingPoint
  /-- The number of other arguments to size. -/
  | integer
  deriving DecidableEq

namespace Field

/-- Every option that takes a number. -/
def all : List Field :=
  [floatingPointRegisters, integerRegisters, wordSize, stackAlignment, floatingPoint, integer]

/-- The name of an option, without its dashes. -/
def name : Field → String
  | floatingPointRegisters => "fp-regs"
  | integerRegisters => "int-regs"
  | wordSize => "word-size"
  | stackAlignment => "stack-alignment"
  | floatingPoint => "fp"
  | integer => "int"

/-- The option of a name. Names are not abbreviated. -/
def ofName? (name : String) : Option Field := all.find? (·.name == name)

/-- The name of an option is read as that option. -/
@[simp] theorem ofName?_name (field : Field) : ofName? field.name = some field := by
  cases field <;> decide

/-- Only the name of an option is read as that option. -/
theorem ofName?_eq_some_iff {name : String} {field : Field} :
    ofName? name = some field ↔ name = field.name := by
  constructor
  · intro hfound
    have hsame := List.find?_some hfound
    exact (beq_iff_eq.mp hsame).symm
  · rintro rfl
    exact ofName?_name field

/-- Options of the convention, which may stand anywhere; the others belong to one command. -/
def isGlobal : Field → Bool
  | floatingPointRegisters | integerRegisters | wordSize | stackAlignment => true
  | floatingPoint | integer => false

end Field

/-- The word that a text stands for: decimal digits after at most one plus sign. -/
def numeral? (text : String) : Option Word :=
  match text.toList with
  | '+' :: digits => (Decimal.value? digits).bind Word.ofNat?
  | digits => (Decimal.value? digits).bind Word.ofNat?

/-- The decimal text of a word is read as that word. -/
@[simp] theorem numeral?_text (word : Word) : numeral? (Decimal.text word) = some word := by
  unfold numeral? Decimal.text
  rw [String.toList_ofList]
  split
  · rename_i digits hplus
    have hmem : '+' ∈ Decimal.digits word.toNat := by
      rw [hplus]
      exact List.mem_cons_self
    exact absurd (Decimal.isDigit_of_mem_digits hmem) (by decide)
  · rw [Decimal.value?_digits, Option.bind_some]
    exact Word.ofNat?_eq_some_iff.mpr rfl

/-- Options with the numbers that they are given. -/
inductive Setting where
  /-- Lines of JSON are wanted. -/
  | json
  /-- An option is given a number. -/
  | number (field : Field) (value : Word)
  deriving DecidableEq

namespace Setting

/-- The option of a setting, where the one without a number is none of the fields. -/
def field? : Setting → Option Field
  | json => none
  | number field _ => some field

/-- Settings that may stand before the command. -/
def isGlobal : Setting → Bool
  | json => true
  | number field _ => field.isGlobal

/-- Whether no option is given twice. -/
def areDistinct (settings : List Setting) : Bool := decide (settings.map field?).Nodup

/-- The number that the first setting of an option gives it. -/
def numberOf? (settings : List Setting) (field : Field) : Option Word :=
  settings.findSome? fun
    | json => none
    | number other value => if other = field then some value else none

/-- The number of an option, or the number it has when it is not given. -/
def numberOf (settings : List Setting) (field : Field) (standard : Word) : Word :=
  (numberOf? settings field).getD standard

end Setting

end CallFrame.CommandLine
