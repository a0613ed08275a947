import CallFrame.CommandLine.Invocation

/-! # Spellings of the command line

Which arguments spell which settings and items, and one spelling for each invocation.

* **`Setting.Spelled`** and **`Item.Spelled`** are the grammar: options in both spellings of their
  number, operands, and everything after `--`.
* **`Item.ofArguments?_eq_some_iff`** says that grouping the arguments accepts this grammar and
  nothing else.
* **`Invocation.arguments`** writes an invocation with every option in front of the command, once
  each and in plain decimals; `Invocation.ofArguments?_arguments` says that it reads back. -/

namespace CallFrame.CommandLine

/-- Arguments that spell a setting. -/
inductive Setting.Spelled : Setting → List String → Prop where
  /-- The option without a number. -/
  | json : Spelled .json ["--json"]
  /-- An option and its number as two arguments. -/
  | nextValue (field : Field) {numeral : String} {value : Word}
      (hread : numeral? numeral = some value) :
      Spelled (.number field value) ["--" ++ field.name, numeral]
  /-- An option and its number as one argument. -/
  | inlineValue (field : Field) {numeral : String} {value : Word}
      (hread : numeral? numeral = some value) :
      Spelled (.number field value) ["--" ++ field.name ++ "=" ++ numeral]

/-- Arguments that spell a list of items. -/
inductive Item.Spelled : List Item → List String → Prop where
  /-- No arguments spell no items. -/
  | nil : Spelled [] []
  /-- A setting in one of its spellings. -/
  | setting {given : Setting} {spelling : List String} {items : List Item}
      {arguments : List String} (hspelled : given.Spelled spelling)
      (hrest : Spelled items arguments) :
      Spelled (.setting given :: items) (spelling ++ arguments)
  /-- An operand that is not mistaken for an option. -/
  | operand {text : String} {items : List Item} {arguments : List String}
      (hoperand : IsOperand text) (hrest : Spelled items arguments) :
      Spelled (.operand text :: items) (text :: arguments)
  /-- Any texts after the argument that ends the options. -/
  | terminator (texts : List String) : Spelled (texts.map .literal) ("--" :: texts)

namespace Item

/-- A spelled setting in front is grouped as that setting. -/
theorem ofArguments?_spelled {given : Setting} {spelling : List String}
    (hspelled : given.Spelled spelling) (rest : List String) :
    ofArguments? (spelling ++ rest) =
      (ofArguments? rest).map (.setting given :: ·) := by
  cases hspelled with
  | json =>
    rw [List.singleton_append, ofArguments?, Shape.ofArgument_eq_json_iff.mpr rfl]
  | nextValue field hread =>
    rw [List.cons_append, ofArguments?, Shape.ofArgument_eq_nextValue_iff.mpr rfl]
    dsimp only [List.singleton_append]
    rw [hread]
    cases ofArguments? rest <;> rfl
  | inlineValue field hread =>
    rw [List.singleton_append, ofArguments?, Shape.ofArgument_eq_inlineValue_iff.mpr rfl]
    dsimp only [List.singleton_append]
    rw [hread]
    cases ofArguments? rest <;> rfl

/-- What the grammar spells is grouped as it says. -/
theorem ofArguments?_of_spelled {items : List Item} {arguments : List String}
    (hspelled : Spelled items arguments) : ofArguments? arguments = some items := by
  induction hspelled with
  | nil => rfl
  | setting hgiven _ ih => rw [ofArguments?_spelled hgiven, ih, Option.map_some]
  | operand hoperand _ ih =>
    rw [ofArguments?, Shape.ofArgument_eq_operand_iff.mpr hoperand, ih]
    rfl
  | terminator texts =>
    rw [ofArguments?, Shape.ofArgument_eq_terminator_iff.mpr rfl]

/-- Only what the grammar spells is grouped. -/
theorem spelled_of_ofArguments? {items : List Item} {arguments : List String}
    (hgrouped : ofArguments? arguments = some items) : Spelled items arguments := by
  fun_induction ofArguments? arguments generalizing items with
  | case1 => cases hgrouped; exact .nil
  | case2 argument rest hshape =>
    cases hgrouped
    rw [Shape.ofArgument_eq_terminator_iff.mp hshape]
    exact .terminator rest
  | case3 argument rest hshape ih =>
    obtain ⟨others, hfound, rfl⟩ := Option.map_eq_some_iff.mp hgrouped
    exact .operand (Shape.ofArgument_eq_operand_iff.mp hshape) (ih hfound)
  | case4 argument rest hshape ih =>
    obtain ⟨others, hfound, rfl⟩ := Option.map_eq_some_iff.mp hgrouped
    rw [Shape.ofArgument_eq_json_iff.mp hshape]
    exact .setting .json (ih hfound)
  | case5 argument rest field value hshape ih =>
    obtain ⟨number, hread, hgrouped⟩ := Option.bind_eq_some_iff.mp hgrouped
    obtain ⟨others, hfound, hsame⟩ := Option.bind_eq_some_iff.mp hgrouped
    cases hsame
    rw [Shape.ofArgument_eq_inlineValue_iff.mp hshape]
    exact .setting (.inlineValue field hread) (ih hfound)
  | case6 => cases hgrouped
  | case7 argument field hshape value rest ih =>
    obtain ⟨number, hread, hgrouped⟩ := Option.bind_eq_some_iff.mp hgrouped
    obtain ⟨others, hfound, hsame⟩ := Option.bind_eq_some_iff.mp hgrouped
    cases hsame
    rw [Shape.ofArgument_eq_nextValue_iff.mp hshape]
    exact .setting (.nextValue field hread) (ih hfound)
  | case8 => cases hgrouped

/-- Grouping the arguments accepts the grammar and nothing else. -/
theorem ofArguments?_eq_some_iff {items : List Item} {arguments : List String} :
    ofArguments? arguments = some items ↔ Spelled items arguments :=
  ⟨spelled_of_ofArguments?, ofArguments?_of_spelled⟩

end Item

/-! ## Plain spellings -/

/-- The plain spelling of a setting. -/
def Setting.arguments : Setting → List String
  | .json => ["--json"]
  | .number field value => ["--" ++ field.name, Decimal.text value]

/-- The plain spelling of a setting is one of its spellings. -/
theorem Setting.spelled_arguments (setting : Setting) : setting.Spelled setting.arguments := by
  cases setting with
  | json => exact .json
  | number field value => exact .nextValue field (numeral?_text value)

/-- Settings in plain spelling may stand in front of anything. -/
theorem Item.spelled_settings {items : List Item} {arguments : List String}
    (hrest : Item.Spelled items arguments) (settings : List Setting) :
    Item.Spelled (settings.map .setting ++ items)
      (settings.flatMap Setting.arguments ++ arguments) := by
  induction settings with
  | nil => exact hrest
  | cons first others ih =>
    rw [List.map_cons, List.cons_append, List.flatMap_cons, List.append_assoc]
    exact .setting first.spelled_arguments ih

/-- The arguments that name a command; its texts stand after `--`. -/
def Command.arguments : Command → List String
  | .frame texts => "frame" :: "--" :: texts
  | .outArgs floatingPoint integer =>
      "out-args" :: (Setting.number .floatingPoint floatingPoint).arguments ++
        (Setting.number .integer integer).arguments

/-- The items of a command. -/
def Command.items : Command → List Item
  | .frame texts => .operand "frame" :: texts.map .literal
  | .outArgs floatingPoint integer =>
      [.operand "out-args", .setting (.number .floatingPoint floatingPoint),
        .setting (.number .integer integer)]

/-- The arguments of a command spell its items. -/
theorem Command.spelled_arguments (command : Command) :
    Item.Spelled command.items command.arguments := by
  cases command with
  | frame texts => exact .operand (.inr (by decide)) (.terminator texts)
  | outArgs floatingPoint integer =>
    exact .operand (.inr (by decide)) (.setting (Setting.spelled_arguments _)
      (.setting (Setting.spelled_arguments _) .nil))

namespace Invocation

/-- The settings of an invocation, each once. -/
def settings (invocation : Invocation) : List Setting :=
  (if invocation.format = .json then [.json] else []) ++
    [.number .floatingPointRegisters invocation.floatingPointRegisters,
      .number .integerRegisters invocation.integerRegisters,
      .number .wordSize invocation.wordSize,
      .number .stackAlignment invocation.stackAlignment]

/-- The plain spelling of an invocation. -/
def arguments (invocation : Invocation) : List String :=
  invocation.settings.flatMap Setting.arguments ++ invocation.command.arguments

/-- Settings alone give themselves. -/
theorem filterMap_setting?_setting (settings : List Setting) :
    (settings.map Item.setting).filterMap Item.setting? = settings := by
  rw [List.filterMap_map]
  exact List.filterMap_some

/-- Settings alone give no operands. -/
theorem filterMap_text?_setting (settings : List Setting) :
    (settings.map Item.setting).filterMap Item.text? = [] := by
  rw [List.filterMap_map, List.filterMap_eq_nil_iff]
  exact fun _ _ => rfl

/-- The settings in front of the command are told from what follows it. -/
theorem ofItems?_settings (outer : List Setting) (name : String) (rest : List Item) :
    ofItems? (outer.map .setting ++ .operand name :: rest) =
      if outer.all Setting.isGlobal && Setting.areDistinct outer &&
          Setting.areDistinct (rest.filterMap Item.setting?) then
        (Command.ofName? name (rest.filterMap Item.setting?) (rest.filterMap Item.text?)).map
          (make (rest.filterMap Item.setting? ++ outer))
      else none := by
  have hsettings : ∀ item ∈ outer.map Item.setting, item.setting?.isSome = true := by
    intro item hmem
    obtain ⟨given, _, rfl⟩ := List.mem_map.mp hmem
    rfl
  have hname : ¬ (Item.operand name).setting?.isSome = true := by
    intro hsome
    cases hsome
  rw [ofItems?, List.takeWhile_append_of_pos hsettings, List.dropWhile_append_of_pos hsettings,
    List.takeWhile_cons_of_neg (p := fun item : Item => item.setting?.isSome) hname,
    List.dropWhile_cons_of_neg (p := fun item : Item => item.setting?.isSome) hname,
    List.append_nil, filterMap_setting?_setting]

/-- Texts after the argument that ends the options give no settings. -/
theorem filterMap_setting?_literal (texts : List String) :
    (texts.map Item.literal).filterMap Item.setting? = [] := by
  induction texts with
  | nil => rfl
  | cons first others ih =>
    rw [List.map_cons, List.filterMap_cons_none (f := Item.setting?) rfl, ih]

/-- Texts after the argument that ends the options are operands. -/
theorem filterMap_text?_literal (texts : List String) :
    (texts.map Item.literal).filterMap Item.text? = texts := by
  induction texts with
  | nil => rfl
  | cons first others ih => rw [List.map_cons, List.filterMap_cons_some (f := Item.text?) rfl, ih]

/-- The items of an invocation are put together to that invocation. -/
theorem ofItems?_items (invocation : Invocation) (hcomplete : invocation.command ≠ .frame []) :
    ofItems? (invocation.settings.map .setting ++ invocation.command.items) =
      some invocation := by
  obtain ⟨floatingPointRegisters, integerRegisters, wordSize, stackAlignment, format, command⟩ :=
    invocation
  cases command with
  | frame texts =>
    rw [Command.items, ofItems?_settings, filterMap_setting?_literal, filterMap_text?_literal]
    cases texts with
    | nil => exact absurd rfl hcomplete
    | cons => cases format <;> rfl
  | outArgs floatingPoint integer =>
    rw [Command.items, ofItems?_settings]
    cases format <;> rfl

/-- The arguments of an invocation are read as that invocation. A list of no texts is no command. -/
theorem ofArguments?_arguments (invocation : Invocation)
    (hcomplete : invocation.command ≠ .frame []) :
    ofArguments? invocation.arguments = some invocation := by
  have hspelled := Item.spelled_settings invocation.command.spelled_arguments invocation.settings
  rw [ofArguments?, arguments, Item.ofArguments?_of_spelled hspelled,
    Option.bind_some, ofItems?_items invocation hcomplete]

end Invocation

end CallFrame.CommandLine
