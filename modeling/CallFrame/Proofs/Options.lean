import CallFrame.CommandLine.Outcome
import CallFrame.CommandLine.Spelling
import Mathlib.Data.List.Forall2

/-! # Options in front of a command

A command line begins with options of the convention and of the form of the output, each at most
once and each in one of its spellings.

* **`Options`** holds such options together with the arguments that spell them, so that whatever
  follows them is the command.
* **`Options.convention?`** and **`Options.format`** are what the options ask for.
* **`Invocation.ofItems?_eq_some_iff`** — what follows options that are known already, when all of
  it is put together.
* **`Options.ofArguments?_arguments_append`** and **`Options.ofArguments?_append`** — options are
  read before whatever follows them, and before a command whose items are known.
* **`Options.run_frame`** — options, the name of the first command, the argument `--` and at least
  one text are always a command line. -/

namespace CallFrame.CommandLine

/-- **Options in front of a command**, and the arguments that spell them. -/
structure Options where
  /-- The options with their numbers. -/
  settings : List Setting
  /-- The arguments of each option. -/
  spellings : List (List String)
  /-- Each option is spelled in one of its ways, with a number that fits a word. -/
  spelled : List.Forall₂ Setting.Spelled settings spellings
  /-- Each option may stand in front of a command. -/
  areGlobal : settings.all Setting.isGlobal = true
  /-- No option is given twice. -/
  areDistinct : Setting.areDistinct settings = true

/-- **Settings, each in one of its spellings, are grouped one by one**, whatever follows them. -/
theorem Item.ofArguments?_flatten {settings : List Setting} {spellings : List (List String)}
    (hspelled : List.Forall₂ Setting.Spelled settings spellings) (rest : List String) :
    Item.ofArguments? (spellings.flatten ++ rest) =
      (Item.ofArguments? rest).map (settings.map .setting ++ ·) := by
  -- induction on the options; each puts its own item in front of those of the others
  induction hspelled with
  | nil => simp
  | cons hfirst _ ih =>
      rw [List.flatten_cons, List.append_assoc, Item.ofArguments?_spelled hfirst, ih,
        Option.map_map]
      rfl

/-- Settings in front are passed over on the way to the command. -/
theorem Item.dropWhile_settings (front : List Setting) (items : List Item) :
    (front.map Item.setting ++ items).dropWhile (·.setting?.isSome) =
      items.dropWhile (·.setting?.isSome) := by
  apply List.dropWhile_append_of_pos
  intro item hmem
  obtain ⟨given, -, rfl⟩ := List.mem_map.mp hmem
  rfl

/-- **What is put together has a command behind its options.** Settings in front, whether some of
them are known already or not, keep their rules, an operand names the command, and the settings
behind it count before those in front. -/
theorem Invocation.ofItems?_eq_some_iff {front : List Setting} {items : List Item}
    {invocation : Invocation} :
    ofItems? (front.map .setting ++ items) = some invocation ↔
      ∃ back name rest command, items = back.map .setting ++ .operand name :: rest ∧
        (front ++ back).all Setting.isGlobal = true ∧
        Setting.areDistinct (front ++ back) = true ∧
        Setting.areDistinct (rest.filterMap Item.setting?) = true ∧
        Command.ofName? name (rest.filterMap Item.setting?) (rest.filterMap Item.text?) =
          some command ∧
        invocation = make (rest.filterMap Item.setting? ++ (front ++ back)) command := by
  constructor
  · intro hfound
    -- induction on the items; a setting moves over to those in front, until there is an operand
    induction items generalizing front with
    | nil =>
        rw [ofItems?, Item.dropWhile_settings] at hfound
        cases hfound
    | cons item others ih =>
        cases item with
        | setting given =>
            have hmoved : front.map Item.setting ++ .setting given :: others =
                (front ++ [given]).map Item.setting ++ others := by simp
            rw [hmoved] at hfound
            obtain ⟨back, name, rest, command, rfl, hrules⟩ := ih hfound
            rw [List.append_assoc] at hrules
            exact ⟨given :: back, name, rest, command, rfl, hrules⟩
        | operand name =>
            rw [ofItems?_settings] at hfound
            split at hfound
            · rename_i hrules
              simp only [Bool.and_eq_true] at hrules
              obtain ⟨command, hcommand, rfl⟩ := Option.map_eq_some_iff.mp hfound
              refine ⟨[], name, others, command, rfl, ?_⟩
              rw [List.append_nil]
              exact ⟨hrules.1.1, hrules.1.2, hrules.2, hcommand, rfl⟩
            · cases hfound
        | literal text =>
            rw [ofItems?, Item.dropWhile_settings] at hfound
            cases hfound
  · rintro ⟨back, name, rest, command, rfl, hglobal, houter, hinner, hcommand, rfl⟩
    rw [← List.append_assoc, ← List.map_append, ofItems?_settings, hglobal, houter, hinner,
      hcommand]
    rfl

namespace Options

/-- The arguments of all options. -/
def arguments (options : Options) : List String := options.spellings.flatten

/-- The number of an option, or the number that it has in the standard convention. -/
def numberOf (options : Options) (field : Field) (standard : Word) : Word :=
  Setting.numberOf options.settings field standard

/-- The convention that the options ask for. -/
def convention? (options : Options) : Except ConventionError Convention :=
  Convention.make
    (options.numberOf .floatingPointRegisters Convention.aapcs64.floatingPointRegisters)
    (options.numberOf .integerRegisters Convention.aapcs64.integerRegisters)
    (options.numberOf .wordSize Convention.aapcs64.wordSize)
    (options.numberOf .stackAlignment Convention.aapcs64.stackAlignment)

/-- The form of the output that the options ask for. -/
def format (options : Options) : Format := if options.settings.contains .json then .json else .text

variable (options : Options)

/-- Options spell their own settings. -/
theorem spelled_arguments : Item.Spelled (options.settings.map .setting) options.arguments := by
  have hread := Item.ofArguments?_flatten options.spelled []
  rw [List.append_nil] at hread
  rw [← Item.ofArguments?_eq_some_iff, arguments, hread, Item.ofArguments?, Option.map_some,
    List.append_nil]

/-- **Options are read before whatever follows them**, and then put together with it. -/
theorem ofArguments?_arguments_append (rest : List String) :
    Invocation.ofArguments? (options.arguments ++ rest) =
      (Item.ofArguments? rest).bind fun items =>
        Invocation.ofItems? (options.settings.map .setting ++ items) := by
  rw [Invocation.ofArguments?, arguments, Item.ofArguments?_flatten options.spelled,
    Option.bind_map]
  rfl

/-- **Options, a command and its items are put together** as far as the items allow it. -/
theorem ofArguments?_append {name : String} {items : List Item} {rest : List String}
    (hspelled : Item.Spelled (.operand name :: items) rest)
    (hdistinct : Setting.areDistinct (items.filterMap Item.setting?) = true) :
    Invocation.ofArguments? (options.arguments ++ rest) =
      (Command.ofName? name (items.filterMap Item.setting?) (items.filterMap Item.text?)).map
        (Invocation.make (items.filterMap Item.setting? ++ options.settings)) := by
  rw [options.ofArguments?_arguments_append, Item.ofArguments?_of_spelled hspelled,
    Option.bind_some, Invocation.ofItems?_settings, options.areGlobal, options.areDistinct,
    hdistinct]
  rfl

/-- Options and the texts of signatures are a command line as soon as there is a text. -/
theorem ofArguments?_frame {texts : List String} (hne : texts ≠ []) :
    Invocation.ofArguments? (options.arguments ++ "frame" :: "--" :: texts) =
      some (Invocation.make options.settings (.frame texts)) := by
  have hspelled : Item.Spelled (.operand "frame" :: texts.map .literal)
      ("frame" :: "--" :: texts) := Command.spelled_arguments (.frame texts)
  have hsettings := Invocation.filterMap_setting?_literal texts
  have htexts := Invocation.filterMap_text?_literal texts
  have hcommand : Command.ofName? "frame" [] texts = some (.frame texts) := by
    cases texts with
    | nil => exact absurd rfl hne
    | cons first rest => rfl
  rw [options.ofArguments?_append hspelled (by rw [hsettings]; rfl), hsettings, htexts, hcommand]
  rfl

/-- **A run of the first command**: the convention is made first, and then the texts are taken one
by one. -/
theorem run_frame {texts : List String} (hne : texts ≠ []) :
    run (options.arguments ++ "frame" :: "--" :: texts) =
      match options.convention? with
      | .error error => ⟨[], .failure (.convention error)⟩
      | .ok convention => runTexts convention options.format texts := by
  rw [run, options.ofArguments?_frame hne]
  rfl

end Options

end CallFrame.CommandLine
