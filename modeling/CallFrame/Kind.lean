/-! # Kinds of values

Each value that a native function takes or returns is of one of ten kinds, and each kind is written
as one letter.

* **`Kind.letter`** and **`Kind.ofLetter?`** go between kinds and letters; `ofLetter?_eq_some_iff`
  says that each undoes the other.
* **`Kind.registerClass`** is the register file that an argument of the kind is passed in.
* **`Kind.isNarrow`** marks results that have to be extended after the call. -/

namespace CallFrame

/-- Register files that arguments are passed in. -/
inductive RegisterClass where
  /-- The registers for single- and double-precision numbers. -/
  | floatingPoint
  /-- The registers for everything else. -/
  | integer
  deriving DecidableEq

/-- Kinds of values in a signature. -/
inductive Kind where
  /-- No value; only a result can be of this kind. -/
  | void
  /-- A truth value. -/
  | boolean
  /-- A signed 8-bit integer. -/
  | byte
  /-- An unsigned 16-bit code unit. -/
  | char
  /-- A signed 16-bit integer. -/
  | short
  /-- A signed 32-bit integer. -/
  | int
  /-- A signed 64-bit integer. -/
  | long
  /-- A single-precision number. -/
  | float
  /-- A double-precision number. -/
  | double
  /-- A reference to an object. -/
  | reference
  deriving DecidableEq

namespace Kind

/-- Every kind, in the order in which kinds are listed to a reader. -/
def all : List Kind :=
  [void, boolean, byte, char, short, int, long, float, double, reference]

/-- The list of kinds leaves none out. -/
theorem mem_all (kind : Kind) : kind ∈ all := by
  cases kind <;> decide

/-- The name of a kind. -/
def name : Kind → String
  | void => "Void"
  | boolean => "Boolean"
  | byte => "Byte"
  | char => "Char"
  | short => "Short"
  | int => "Int"
  | long => "Long"
  | float => "Float"
  | double => "Double"
  | reference => "Reference"

/-! ## Letters -/

/-- The letter of a kind. -/
def letter : Kind → Char
  | void => 'V'
  | boolean => 'Z'
  | byte => 'B'
  | char => 'C'
  | short => 'S'
  | int => 'I'
  | long => 'J'
  | float => 'F'
  | double => 'D'
  | reference => 'L'

/-- The kind of a letter, if the letter has one. -/
def ofLetter? : Char → Option Kind
  | 'V' => some void
  | 'Z' => some boolean
  | 'B' => some byte
  | 'C' => some char
  | 'S' => some short
  | 'I' => some int
  | 'J' => some long
  | 'F' => some float
  | 'D' => some double
  | 'L' => some reference
  | _ => none

/-- The letter of a kind is read as that kind. -/
@[simp] theorem ofLetter?_letter (kind : Kind) : ofLetter? kind.letter = some kind := by
  cases kind <;> rfl

/-- Only the letter of a kind is read as that kind. -/
theorem ofLetter?_eq_some_iff {character : Char} {kind : Kind} :
    ofLetter? character = some kind ↔ character = kind.letter := by
  constructor
  · intro hread
    unfold ofLetter? at hread
    split at hread <;> cases hread <;> rfl
  · rintro rfl
    exact ofLetter?_letter kind

/-- Every letter of a kind takes one byte. -/
theorem utf8Size_letter (kind : Kind) : kind.letter.utf8Size = 1 := by
  cases kind <;> rfl

/-! ## Classes of kinds -/

/-- The register file that an argument of this kind is passed in. -/
def registerClass : Kind → RegisterClass
  | float | double => .floatingPoint
  | _ => .integer

/-- Results narrower than an `int`, which the caller of a native function has to extend. -/
def isNarrow : Kind → Bool
  | boolean | byte | char | short => true
  | _ => false

/-- The letters of the kinds that a result can have. -/
def resultLetters : String := String.ofList (all.map letter)

/-- The letters of the kinds that an argument can have. -/
def argumentLetters : String := String.ofList ((all.filter (· ≠ void)).map letter)

/-- The letters of the narrow kinds. -/
def narrowLetters : String := String.ofList ((all.filter isNarrow).map letter)

end Kind

end CallFrame
