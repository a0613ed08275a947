import CallFrame.CommandLine.Setting

/-! # Items of the command line

The arguments of a command line are grouped into items: an option takes the argument after it as
its number, unless the number follows an equals sign, and whatever is no option is an operand.

* **`Shape.ofArgument`** tells by its spelling what one argument is.
* **`Item.ofArguments?`** groups the arguments, and gives nothing when an option is unknown or its
  number is missing or no number. After the argument `--` every argument is an operand. -/

namespace CallFrame.CommandLine

/-- What an argument is by its spelling alone. -/
inductive Shape where
  /-- The argument `--`, after which there are only operands. -/
  | terminator
  /-- An operand; the lone dash is one. -/
  | operand
  /-- The option without a number. -/
  | json
  /-- An option with its number after an equals sign. -/
  | inlineValue (field : Field) (value : String)
  /-- An option whose number is the next argument. -/
  | nextValue (field : Field)
  /-- A dash or two followed by no option. -/
  | unknown
  deriving DecidableEq

/-- The shape of an option, from the characters after its dashes. -/
def Shape.ofOption (characters : List Char) : Shape :=
  let name := String.ofList (characters.takeWhile (· != '='))
  match Field.ofName? name, characters.dropWhile (· != '=') with
  | some field, [] => .nextValue field
  | some field, _ :: value => .inlineValue field (String.ofList value)
  | none, [] => if name = "json" then .json else .unknown
  | none, _ :: _ => .unknown

/-- The shape of an argument. -/
def Shape.ofArgument (argument : String) : Shape :=
  match argument.toList with
  | ['-', '-'] => .terminator
  | '-' :: '-' :: characters => ofOption characters
  | '-' :: _ :: _ => .unknown
  | _ => .operand

/-- Texts that are operands wherever they stand: the lone dash, and whatever begins otherwise. -/
def IsOperand (text : String) : Prop := text = "-" ∨ text.toList.head? ≠ some '-'

/-! ## Spellings of each shape -/

namespace Shape

/-- A name ends in front of an equals sign. -/
theorem takeWhile_name (field : Field) (rest : List Char) :
    (field.name.toList ++ '=' :: rest).takeWhile (· != '=') = field.name.toList := by
  cases field <;> simp [Field.name]

/-- A value begins with the equals sign after a name. -/
theorem dropWhile_name (field : Field) (rest : List Char) :
    (field.name.toList ++ '=' :: rest).dropWhile (· != '=') = '=' :: rest := by
  cases field <;> simp [Field.name]

/-- An option without an equals sign is its name and nothing else. -/
theorem ofOption_eq_nextValue_iff {characters : List Char} {field : Field} :
    ofOption characters = .nextValue field ↔ characters = field.name.toList := by
  constructor
  · intro hshape
    have hwhole := List.takeWhile_append_dropWhile (p := (· != '=')) (l := characters)
    dsimp only [ofOption] at hshape
    split at hshape
    · rename_i hfound hnothing
      cases hshape
      rw [hnothing, List.append_nil] at hwhole
      rw [← Field.ofName?_eq_some_iff.mp hfound, String.toList_ofList, hwhole]
    · cases hshape
    · split at hshape <;> cases hshape
    · cases hshape
  · rintro rfl
    cases field <;> decide

/-- An option with an equals sign is its name, the sign and the value. -/
theorem ofOption_eq_inlineValue_iff {characters : List Char} {field : Field} {value : String} :
    ofOption characters = .inlineValue field value ↔
      characters = field.name.toList ++ '=' :: value.toList := by
  constructor
  · intro hshape
    have hwhole := List.takeWhile_append_dropWhile (p := (· != '=')) (l := characters)
    dsimp only [ofOption] at hshape
    split at hshape
    · cases hshape
    · rename_i field' mark rest hfound hequals
      cases hshape
      have hmark : mark = '=' := by
        have hhead := List.head?_dropWhile_not (· != '=') characters
        rw [hequals] at hhead
        simpa using hhead
      rw [hequals, hmark] at hwhole
      rw [← Field.ofName?_eq_some_iff.mp hfound, String.toList_ofList, String.toList_ofList, hwhole]
    · split at hshape <;> cases hshape
    · cases hshape
  · rintro rfl
    dsimp only [ofOption]
    rw [takeWhile_name, dropWhile_name]
    simp

/-- The option without a number is its name and nothing else. -/
theorem ofOption_eq_json_iff {characters : List Char} :
    ofOption characters = .json ↔ characters = "json".toList := by
  constructor
  · intro hshape
    have hwhole := List.takeWhile_append_dropWhile (p := (· != '=')) (l := characters)
    dsimp only [ofOption] at hshape
    split at hshape
    · cases hshape
    · cases hshape
    · rename_i hnothing
      split at hshape
      · rename_i hjson
        rw [hnothing, List.append_nil] at hwhole
        rw [← hjson, String.toList_ofList, hwhole]
      · cases hshape
    · cases hshape
  · rintro rfl
    decide

/-- An option does not end the options. -/
theorem ofOption_ne_terminator (characters : List Char) : ofOption characters ≠ .terminator := by
  dsimp only [ofOption]
  split <;> try split
  all_goals simp

/-- An option is no operand. -/
theorem ofOption_ne_operand (characters : List Char) : ofOption characters ≠ .operand := by
  dsimp only [ofOption]
  split <;> try split
  all_goals simp

/-- Two dashes and something more are an option. -/
theorem ofArgument_eq_ofOption {argument : String} {characters : List Char}
    (hdashes : argument.toList = '-' :: '-' :: characters) (hne : characters ≠ []) :
    ofArgument argument = ofOption characters := by
  rw [ofArgument, hdashes]
  cases characters with
  | nil => exact absurd rfl hne
  | cons first rest => rfl

/-- Only two dashes end the options. -/
theorem ofArgument_eq_terminator_iff {argument : String} :
    ofArgument argument = .terminator ↔ argument = "--" := by
  constructor
  · intro hshape
    unfold ofArgument at hshape
    split at hshape
    · rename_i hdashes
      exact String.toList_inj.mp hdashes
    · exact absurd hshape (ofOption_ne_terminator _)
    · cases hshape
    · cases hshape
  · rintro rfl
    decide

/-- The shape tells operands from everything that begins with a dash. -/
theorem ofArgument_eq_operand_iff {argument : String} :
    ofArgument argument = .operand ↔ IsOperand argument := by
  constructor
  · intro hshape
    unfold ofArgument at hshape
    split at hshape
    · cases hshape
    · exact absurd hshape (ofOption_ne_operand _)
    · cases hshape
    · rename_i _ _ hother
      cases hcharacters : argument.toList with
      | nil => exact .inr (by simp [hcharacters])
      | cons first rest =>
        by_cases hdash : first = '-'
        · subst hdash
          cases rest with
          | nil => exact .inl (String.toList_inj.mp hcharacters)
          | cons second others => exact absurd hcharacters (hother _ _)
        · exact .inr (by simp [hcharacters, hdash])
  · rintro (rfl | hother)
    · decide
    · unfold ofArgument
      split <;> simp_all

/-- A known option begins with two dashes. -/
theorem ofArgument_eq_of_ofOption {argument : String} {shape : Shape}
    (hshape : ofArgument argument = shape) (hterminator : shape ≠ .terminator)
    (hoperand : shape ≠ .operand) (hknown : shape ≠ .unknown) :
    ∃ characters, argument.toList = '-' :: '-' :: characters ∧ ofOption characters = shape := by
  unfold ofArgument at hshape
  split at hshape
  · exact absurd hshape.symm hterminator
  · rename_i characters _ hdashes
    exact ⟨characters, hdashes, hshape⟩
  · exact absurd hshape.symm hknown
  · exact absurd hshape.symm hoperand

/-- The option without a number has one spelling. -/
theorem ofArgument_eq_json_iff {argument : String} :
    ofArgument argument = .json ↔ argument = "--json" := by
  constructor
  · intro hargument
    obtain ⟨characters, hdashes, hshape⟩ :=
      ofArgument_eq_of_ofOption hargument (by simp) (by simp) (by simp)
    rw [ofOption_eq_json_iff] at hshape
    rw [← String.toList_inj, hdashes, hshape]
    rfl
  · rintro rfl
    decide

/-- A name has at least one character. -/
theorem name_ne_nil (field : Field) : field.name.toList ≠ [] := by
  cases field <;> decide

/-- An option whose number follows as an argument has one spelling. -/
theorem ofArgument_eq_nextValue_iff {argument : String} {field : Field} :
    ofArgument argument = .nextValue field ↔ argument = "--" ++ field.name := by
  constructor
  · intro hargument
    obtain ⟨characters, hdashes, hshape⟩ :=
      ofArgument_eq_of_ofOption hargument (by simp) (by simp) (by simp)
    rw [ofOption_eq_nextValue_iff] at hshape
    rw [← String.toList_inj, hdashes, hshape, String.toList_append]
    rfl
  · rintro rfl
    have hdashes : ("--" ++ field.name).toList = '-' :: '-' :: field.name.toList := by
      rw [String.toList_append]
      rfl
    rw [ofArgument_eq_ofOption hdashes (name_ne_nil field), ofOption_eq_nextValue_iff]

/-- An option with its number behind an equals sign has one spelling for each text of the number. -/
theorem ofArgument_eq_inlineValue_iff {argument : String} {field : Field} {value : String} :
    ofArgument argument = .inlineValue field value ↔
      argument = "--" ++ field.name ++ "=" ++ value := by
  have hspelled : ("--" ++ field.name ++ "=" ++ value).toList =
      '-' :: '-' :: (field.name.toList ++ '=' :: value.toList) := by
    simp
  constructor
  · intro hargument
    obtain ⟨characters, hdashes, hshape⟩ :=
      ofArgument_eq_of_ofOption hargument (by simp) (by simp) (by simp)
    rw [ofOption_eq_inlineValue_iff] at hshape
    rw [← String.toList_inj, hdashes, hshape, hspelled]
  · rintro rfl
    rw [ofArgument_eq_ofOption hspelled (by simp), ofOption_eq_inlineValue_iff]

end Shape

/-! ## Groups -/

/-- Groups of arguments that belong together. -/
inductive Item where
  /-- An option with its number. -/
  | setting (setting : Setting)
  /-- An operand. -/
  | operand (text : String)
  /-- An operand after the argument `--`. -/
  | literal (text : String)
  deriving DecidableEq

namespace Item

/-- The setting that an item gives, if it gives one. -/
def setting? : Item → Option Setting
  | setting given => some given
  | operand _ | literal _ => none

/-- The text of an item that is an operand. -/
def text? : Item → Option String
  | setting _ => none
  | operand text | literal text => some text

/-- The items of a list of arguments. -/
def ofArguments? : List String → Option (List Item)
  | [] => some []
  | argument :: rest =>
      match Shape.ofArgument argument with
      | .terminator => some (rest.map literal)
      | .operand => (ofArguments? rest).map (operand argument :: ·)
      | .json => (ofArguments? rest).map (setting .json :: ·)
      | .inlineValue field value => do
          let number ← numeral? value
          let items ← ofArguments? rest
          return setting (.number field number) :: items
      | .nextValue field =>
          match rest with
          | [] => none
          | value :: others => do
              let number ← numeral? value
              let items ← ofArguments? others
              return setting (.number field number) :: items
      | .unknown => none

end Item

end CallFrame.CommandLine
