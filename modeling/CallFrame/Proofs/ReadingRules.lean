import CallFrame.Proofs.Options
import Mathlib.Data.List.Nodup

/-! # Rules of reading

A command line is read one option or text after the other. What follows are the rules for that, for
lines whose command is the one for frames. A reader may keep them in any way, and may do as it likes
with other lines. In particular it may find a wrong option at once or at the end of the line.

* **`Progress`** is what has been read so far, and **`Progress.give`** adds an option to the side of
  the command that is being read.
* **`LineReader`** is any reader of command lines, and **`LineReader.FollowsRules`** are its rules,
  one for each thing that may come next.
* **`LineReader.grouping`** is the reader that groups all arguments before it looks for a command;
  `LineReader.grouping_run` says that command lines are run as it reads them, and
  **`LineReader.grouping_followsRules`** that it keeps the rules. -/

namespace CallFrame.CommandLine

/-! ## What has been read -/

/-- Options that may stand on both sides of the command. -/
abbrev GlobalField := { field : Field // field.isGlobal = true }

/-- Texts that do not begin with a dash. -/
abbrev DashFree := { text : String // text.toList.head? ≠ some '-' }

/-- The number of an option that is not given. -/
def Field.standard : Field → Word
  | floatingPointRegisters | integerRegisters | wordSize => 8
  | stackAlignment => 16
  | floatingPoint | integer => 0

/-- The settings of one side with one more behind them, unless its option is given already. -/
def Setting.add? (settings : List Setting) (given : Setting) : Option (List Setting) :=
  if given.field? ∈ settings.map field? then none else some (settings ++ [given])

/-- **One more option on a side**, which has no settings any more once the number of an option is
none or an option is given twice. -/
def Setting.give? (settings? : Option (List Setting)) (given? : Option Setting) :
    Option (List Setting) :=
  settings?.bind fun settings => given?.bind (add? settings)

/-- **What has been read of a command line.** A side has no settings when one of its options is
wrong. -/
inductive Progress where
  /-- Options, and no command yet. -/
  | before (outer? : Option (List Setting))
  /-- The options in front of the command for frames, then those behind it and the texts. -/
  | behind (outer? inner? : Option (List Setting)) (texts : List String)

namespace Progress

/-- The settings of the side that is being read. -/
def side? : Progress → Option (List Setting)
  | before outer? => outer?
  | behind _ inner? _ => inner?

/-- What has been read, with other settings of the side that is being read. -/
def withSide (settings? : Option (List Setting)) : Progress → Progress
  | before _ => before settings?
  | behind outer? _ texts => behind outer? settings? texts

/-- **One more option** on the side that is being read. -/
def give (given? : Option Setting) (progress : Progress) : Progress :=
  progress.withSide (Setting.give? progress.side? given?)

end Progress

/-- The number of an option from both sides: the one behind the command, or else the one in front
of it, or else the one of an option that is not given. -/
def Setting.numberOfSides (outer inner : List Setting) (field : Field) : Word :=
  ((numberOf? inner field).or (numberOf? outer field)).getD field.standard

/-- **What is asked for by both sides of a command for frames** and its texts. -/
def Invocation.ofSides (outer inner : List Setting) (texts : List String) : Invocation where
  floatingPointRegisters := Setting.numberOfSides outer inner .floatingPointRegisters
  integerRegisters := Setting.numberOfSides outer inner .integerRegisters
  wordSize := Setting.numberOfSides outer inner .wordSize
  stackAlignment := Setting.numberOfSides outer inner .stackAlignment
  format := if .json ∈ inner ∨ .json ∈ outer then .json else .text
  command := .frame texts

/-! ## Readers and their rules -/

/-- **Readers of command lines.** -/
structure LineReader where
  /-- What a reader keeps of the arguments that it has taken. -/
  State : Type
  /-- The state in front of the first argument. -/
  start : State
  /-- What a command line asks for when it goes on with these arguments, if it is no misuse. -/
  answer : State → List String → Option Invocation

namespace LineReader

/-- What a whole command line asks for. -/
def read? (reader : LineReader) (arguments : List String) : Option Invocation :=
  reader.answer reader.start arguments

/-- The outcome of a command line that a reader takes. -/
def run (reader : LineReader) (arguments : List String) : Outcome :=
  match reader.read? arguments with
  | none => ⟨[], .misuse⟩
  | some invocation => invocation.run

section

variable (reader : LineReader) (IsAt : reader.State → Progress → Prop)

/-- **What becomes of the next arguments**: they are taken, and reading goes on behind them. -/
def Continues (state : reader.State) (arguments : List String) (progress : Progress) : Prop :=
  ∃ next, IsAt next progress ∧
    ∀ rest, reader.answer state (arguments ++ rest) = reader.answer next rest

/-- **The rules of reading.** `IsAt` tells what has been read in a state in which the next argument
is an option, the command or a text. It does not hold where an option waits for its number, nor
behind the argument `--`. -/
structure FollowsRules : Prop where
  /-- In front of the first argument nothing has been read. -/
  start : IsAt reader.start (.before (some []))
  /-- The option without a number is one argument. -/
  json : ∀ state progress, IsAt state progress →
    reader.Continues IsAt state ["--json"] (progress.give (some .json))
  /-- Any other option takes the next argument as its number, and that must be one. -/
  nextValue : ∀ state progress (field : GlobalField) (numeral : DashFree), IsAt state progress →
    reader.Continues IsAt state ["--" ++ field.val.name, numeral.val]
      (progress.give ((numeral? numeral.val).map (.number field.val)))
  /-- Its number may also follow an equals sign. -/
  inlineValue : ∀ state progress (field : GlobalField) (numeral : DashFree), IsAt state progress →
    reader.Continues IsAt state ["--" ++ field.val.name ++ "=" ++ numeral.val]
      (progress.give ((numeral? numeral.val).map (.number field.val)))
  /-- The first argument that is no option is the command. -/
  command : ∀ state outer?, IsAt state (.before outer?) →
    reader.Continues IsAt state ["frame"] (.behind outer? (some []) [])
  /-- Behind the command an argument that is no option is a text. -/
  text : ∀ state outer? inner? texts (content : DashFree),
    IsAt state (.behind outer? inner? texts) →
    reader.Continues IsAt state [content.val] (.behind outer? inner? (texts ++ [content.val]))
  /-- At the end of the line both sides are put together, as long as there is a text. A line with a
  wrong option is a misuse. -/
  finish : ∀ state outer? inner? texts, IsAt state (.behind outer? inner? texts) → texts ≠ [] →
    reader.answer state [] =
      outer?.bind fun outer => inner?.map fun inner => .ofSides outer inner texts

end

section

variable {reader : LineReader} {IsAt : reader.State → Progress → Prop} {state : reader.State}

/-- No arguments change nothing. -/
theorem continues_nil {progress : Progress} (hat : IsAt state progress) :
    reader.Continues IsAt state [] progress := ⟨state, hat, fun _ => rfl⟩

/-- **Arguments are taken after those in front of them.** -/
theorem continues_append {first second : List String} {progress last : Progress}
    (hfirst : reader.Continues IsAt state first progress)
    (hsecond : ∀ next, IsAt next progress → reader.Continues IsAt next second last) :
    reader.Continues IsAt state (first ++ second) last := by
  obtain ⟨next, hat, hnext⟩ := hfirst
  obtain ⟨final, hfinal, hanswer⟩ := hsecond next hat
  refine ⟨final, hfinal, fun rest => ?_⟩
  rw [List.append_assoc, hnext, hanswer]

end

end LineReader

/-! ## Grouping as a reader -/

section

variable {settings : List Setting} {given : Setting}

/-- **The settings of one side**: their options may stand on both sides, and none is given twice. -/
structure Setting.AreOneSide (settings : List Setting) : Prop where
  /-- Every option may stand on both sides. -/
  areGlobal : settings.all isGlobal = true
  /-- No option is given twice. -/
  areDistinct : Setting.areDistinct settings = true

/-- One more option, which was not given before, leaves the settings those of one side. -/
theorem Setting.AreOneSide.add (hside : AreOneSide settings) (hglobal : given.isGlobal = true)
    {more : List Setting} (hadd : add? settings given = some more) :
    more = settings ++ [given] ∧ AreOneSide more := by
  rw [add?] at hadd
  split at hadd
  · cases hadd
  · rename_i hnew
    cases hadd
    refine ⟨rfl, ?_, ?_⟩
    · rw [List.all_append, hside.areGlobal, List.all_cons, hglobal]
      rfl
    · have hdistinct := hside.areDistinct
      rw [Setting.areDistinct, decide_eq_true_iff] at hdistinct ⊢
      rw [List.map_append, List.map_singleton]
      simpa using hdistinct.concat hnew

/-- With an option that was given before, an option is given twice whatever follows. -/
theorem Setting.not_areDistinct_of_add? (hadd : add? settings given = none)
    (others : List Setting) : areDistinct (settings ++ given :: others) = false := by
  rw [add?] at hadd
  split at hadd
  · rename_i hold
    rw [areDistinct, decide_eq_false_iff_not, List.map_append, List.map_cons, List.nodup_middle,
      List.nodup_cons, not_and_or]
    exact .inl (not_not_intro (List.mem_append_left _ hold))
  · cases hadd

end

/-- The settings of both sides, those behind the command first, ask for what both sides do. -/
theorem Invocation.make_eq_ofSides (outer inner : List Setting) (texts : List String) :
    make (inner ++ outer) (.frame texts) = ofSides outer inner texts := by
  have hnumber : ∀ field, Setting.numberOf (inner ++ outer) field field.standard =
      Setting.numberOfSides outer inner field := by
    intro field
    rw [Setting.numberOf, Setting.numberOf?, List.findSome?_append]
    rfl
  rw [make, ofSides, Invocation.mk.injEq]
  refine ⟨hnumber _, hnumber _, hnumber _, hnumber _, ?_, rfl⟩
  simp only [List.contains_iff_mem, List.mem_append]

namespace LineReader

/-- What items and the arguments behind them ask for together. Arguments that cannot be grouped have
no items, and nothing is asked for by them. -/
def answerBehind (items? : Option (List Item)) (arguments : List String) : Option Invocation :=
  items?.bind fun items =>
    (Item.ofArguments? arguments).bind fun others => Invocation.ofItems? (items ++ others)

/-- **The reader that groups all arguments** before it looks for a command. It keeps the items that
it has, as long as these may be those of a command line. -/
def grouping : LineReader where
  State := Option (List Item)
  start := some []
  answer := answerBehind

/-- Command lines are read by grouping. -/
theorem grouping_read? (arguments : List String) :
    grouping.read? arguments = Invocation.ofArguments? arguments := rfl

/-- **Command lines are run as the reader that groups them takes them.** -/
theorem grouping_run (arguments : List String) :
    grouping.run arguments = CommandLine.run arguments := by
  cases hread : Invocation.ofArguments? arguments with
  | none => rw [run, CommandLine.run, grouping_read?, hread]
  | some invocation => rw [run, CommandLine.run, grouping_read?, hread]

/-- **Items of what has been read**, and none where an option is wrong. -/
inductive Gathered : Option (List Item) → Progress → Prop where
  /-- In front of the command there are only options. -/
  | before {outer : List Setting} (houter : Setting.AreOneSide outer) :
      Gathered (some (outer.map .setting)) (.before (some outer))
  /-- The command is an operand, and so are the texts, with options in between. -/
  | behind {outer : List Setting} {rest : List Item} (houter : Setting.AreOneSide outer)
      (hinner : Setting.AreOneSide (rest.filterMap Item.setting?)) :
      Gathered (some (outer.map .setting ++ .operand "frame" :: rest))
        (.behind (some outer) (some (rest.filterMap Item.setting?)) (rest.filterMap Item.text?))
  /-- An option in front of the command is wrong. -/
  | wrongBefore : Gathered none (.before none)
  /-- An option on one of the sides is wrong. -/
  | wrongBehind {outer? inner? : Option (List Setting)} (texts : List String)
      (hwrong : outer? = none ∨ inner? = none) : Gathered none (.behind outer? inner? texts)

namespace Gathered

variable {items : List Item} {items? : Option (List Item)} {progress : Progress} {given : Setting}

/-- One more option is one more item. -/
theorem setting (hgathered : Gathered (some items) progress) (hglobal : given.isGlobal = true)
    {more : List Setting} (hgive : Setting.give? progress.side? (some given) = some more) :
    Gathered (some (items ++ [.setting given])) (progress.withSide (some more)) := by
  cases hgathered with
  | before houter =>
      obtain ⟨rfl, hmore⟩ := houter.add hglobal hgive
      rw [← List.map_singleton, ← List.map_append]
      exact .before hmore
  | @behind outer rest houter hinner =>
      obtain ⟨rfl, hmore⟩ := hinner.add hglobal hgive
      have hsettings : rest.filterMap Item.setting? ++ [given] =
          (rest ++ [Item.setting given]).filterMap Item.setting? := by
        rw [List.filterMap_append]
        rfl
      have htexts : rest.filterMap Item.text? =
          (rest ++ [Item.setting given]).filterMap Item.text? := by
        rw [List.filterMap_append]
        exact (List.append_nil _).symm
      rw [Progress.withSide, List.append_assoc, List.cons_append]
      rw [hsettings] at hmore ⊢
      rw [htexts]
      exact .behind houter hmore

/-- A text is one more item. -/
theorem operand {outer? inner? : Option (List Setting)} {texts : List String}
    (hgathered : Gathered (some items) (.behind outer? inner? texts)) (text : String) :
    Gathered (some (items ++ [.operand text])) (.behind outer? inner? (texts ++ [text])) := by
  cases hgathered with
  | @behind _ rest houter hinner =>
      have hsettings : (rest ++ [Item.operand text]).filterMap Item.setting? =
          rest.filterMap Item.setting? := by
        rw [List.filterMap_append]
        exact List.append_nil _
      have htexts : (rest ++ [Item.operand text]).filterMap Item.text? =
          rest.filterMap Item.text? ++ [text] := by
        rw [List.filterMap_append]
        rfl
      rw [List.append_assoc, List.cons_append, ← hsettings, ← htexts]
      rw [← hsettings] at hinner
      exact .behind houter hinner

/-- A wrong option leaves no items. -/
theorem wrong (hgathered : Gathered items? progress) : Gathered none (progress.withSide none) := by
  cases hgathered with
  | before | wrongBefore => exact .wrongBefore
  | behind | wrongBehind => exact .wrongBehind _ (.inr rfl)

/-- An option behind a wrong one does not make it right. -/
theorem give_of_none (hgathered : Gathered none progress) (given? : Option Setting) :
    Gathered none (progress.give given?) := by
  cases hgathered with
  | wrongBefore => exact .wrongBefore
  | wrongBehind texts hwrong =>
      refine .wrongBehind texts (hwrong.imp_right fun hinner => ?_)
      rw [Progress.side?, hinner]
      rfl

/-- An option that is given already makes the items those of no command line. -/
theorem ofItems?_eq_none (hgathered : Gathered (some items) progress)
    (hgive : Setting.give? progress.side? (some given) = none) (others : List Item) :
    Invocation.ofItems? (items ++ .setting given :: others) = none := by
  cases hgathered with
  | @before outer houter =>
      have hadd : Setting.add? outer given = none := hgive
      rw [Option.eq_none_iff_forall_not_mem]
      intro invocation hfound
      rw [← List.singleton_append, ← List.append_assoc, ← List.map_singleton, ← List.map_append]
        at hfound
      obtain ⟨back, -, -, -, -, -, hdistinct, -⟩ := Invocation.ofItems?_eq_some_iff.mp hfound
      rw [List.append_assoc, List.singleton_append, Setting.not_areDistinct_of_add? hadd]
        at hdistinct
      cases hdistinct
  | @behind outer rest houter hinner =>
      have hadd : Setting.add? (rest.filterMap Item.setting?) given = none := hgive
      have hsettings : (rest ++ .setting given :: others).filterMap Item.setting? =
          rest.filterMap Item.setting? ++ given :: others.filterMap Item.setting? := by
        rw [List.filterMap_append, List.filterMap_cons_some (f := Item.setting?) rfl]
      rw [List.append_assoc, List.cons_append, Invocation.ofItems?_settings, hsettings,
        Setting.not_areDistinct_of_add? hadd, Bool.and_false]
      rfl

/-- **The items of a whole command line are put together** when there is a text. -/
theorem ofItems?_eq_ofSides {outer? inner? : Option (List Setting)} {texts : List String}
    (hgathered : Gathered (some items) (.behind outer? inner? texts)) (hne : texts ≠ []) :
    Invocation.ofItems? items =
      outer?.bind fun outer => inner?.map fun inner => .ofSides outer inner texts := by
  cases hgathered with
  | @behind _ rest houter hinner =>
      have hcommand : Command.ofName? "frame" (rest.filterMap Item.setting?)
          (rest.filterMap Item.text?) = some (.frame (rest.filterMap Item.text?)) := by
        have hsome : (rest.filterMap Item.text?).isEmpty = false :=
          List.isEmpty_eq_false_iff.mpr hne
        rw [Command.ofName?, if_pos rfl, hinner.areGlobal, hsome]
        rfl
      rw [Invocation.ofItems?_settings, houter.areGlobal, houter.areDistinct, hinner.areDistinct,
        hcommand, Option.map_some, Invocation.make_eq_ofSides]
      rfl

end Gathered

section

variable {items : List Item} {items? : Option (List Item)} {progress : Progress}

/-- Nothing is made of arguments behind those that have no items. -/
theorem continues_of_none {last : Progress} (hlast : Gathered none last)
    (arguments : List String) : grouping.Continues Gathered none arguments last :=
  ⟨none, hlast, fun _ => rfl⟩

/-- Items with nothing behind them are those of the whole line. -/
theorem answerBehind_nil (items : List Item) :
    answerBehind (some items) [] = Invocation.ofItems? items := by
  have hnone : Item.ofArguments? [] = some [] := by rw [Item.ofArguments?]
  rw [answerBehind, Option.bind_some, hnone, Option.bind_some, List.append_nil]

/-- **What becomes of arguments that are grouped to one item.** -/
theorem answerBehind_append {arguments : List String} {item? : Option Item}
    (harguments : ∀ rest, Item.ofArguments? (arguments ++ rest) =
      item?.bind fun item => (Item.ofArguments? rest).map (item :: ·))
    (items : List Item) (rest : List String) :
    answerBehind (some items) (arguments ++ rest) =
      answerBehind (item?.map fun item => items ++ [item]) rest := by
  rw [answerBehind, answerBehind, harguments, Option.bind_some]
  cases item? with
  | none => rfl
  | some item =>
      rw [Option.bind_some, Option.map_some, Option.bind_some]
      cases Item.ofArguments? rest with
      | none => rfl
      | some others => simp

/-- **An option is read as it is grouped.** -/
theorem continues_setting (hgathered : Gathered items? progress) {given? : Option Setting}
    (hglobal : ∀ given, given? = some given → given.isGlobal = true) {arguments : List String}
    (harguments : ∀ rest, Item.ofArguments? (arguments ++ rest) =
      (given?.map Item.setting).bind fun item => (Item.ofArguments? rest).map (item :: ·)) :
    grouping.Continues Gathered items? arguments (progress.give given?) := by
  cases items? with
  | none => exact continues_of_none (hgathered.give_of_none given?) arguments
  | some items =>
      have hanswer := answerBehind_append harguments items
      rw [Progress.give]
      cases hgive : Setting.give? progress.side? given? with
      | some more =>
          obtain ⟨settings, -, hadd⟩ := Option.bind_eq_some_iff.mp hgive
          obtain ⟨given, rfl, -⟩ := Option.bind_eq_some_iff.mp hadd
          exact ⟨_, hgathered.setting (hglobal given rfl) hgive, fun rest => hanswer rest⟩
      | none =>
          refine ⟨none, hgathered.wrong, fun rest => (hanswer rest).trans ?_⟩
          cases given? with
          | none => rfl
          | some given =>
              -- the items are those of no command line, whatever else is grouped
              rw [Option.map_some, Option.map_some, answerBehind, Option.bind_some]
              simp [hgathered.ofItems?_eq_none hgive, grouping, answerBehind]

/-- An operand is read as one item. -/
theorem continues_operand {text : String} (hoperand : IsOperand text) {next : Progress}
    (hnext : Gathered (some (items ++ [.operand text])) next) :
    grouping.Continues Gathered (some items) [text] next := by
  have harguments : ∀ rest, Item.ofArguments? ([text] ++ rest) =
      (some (Item.operand text)).bind fun item => (Item.ofArguments? rest).map (item :: ·) := by
    intro rest
    rw [List.singleton_append, Item.ofArguments?, Shape.ofArgument_eq_operand_iff.mpr hoperand]
    rfl
  exact ⟨_, hnext, fun rest => answerBehind_append harguments items rest⟩

end

/-- An option takes the argument behind it as its number. -/
theorem ofArguments?_nextValue (field : Field) (numeral : String) (rest : List String) :
    Item.ofArguments? (["--" ++ field.name, numeral] ++ rest) =
      (((numeral? numeral).map (Setting.number field)).map Item.setting).bind fun item =>
        (Item.ofArguments? rest).map (item :: ·) := by
  rw [List.cons_append, Item.ofArguments?, Shape.ofArgument_eq_nextValue_iff.mpr rfl]
  dsimp only [List.singleton_append]
  cases numeral? numeral with
  | none => rfl
  | some value => cases Item.ofArguments? rest <;> rfl

/-- An option takes what follows its equals sign as its number. -/
theorem ofArguments?_inlineValue (field : Field) (numeral : String) (rest : List String) :
    Item.ofArguments? (["--" ++ field.name ++ "=" ++ numeral] ++ rest) =
      (((numeral? numeral).map (Setting.number field)).map Item.setting).bind fun item =>
        (Item.ofArguments? rest).map (item :: ·) := by
  rw [List.singleton_append, Item.ofArguments?, Shape.ofArgument_eq_inlineValue_iff.mpr rfl]
  dsimp only
  cases numeral? numeral with
  | none => rfl
  | some value => cases Item.ofArguments? rest <;> rfl

/-- A number given to an option that may stand on both sides is a setting that may. -/
theorem isGlobal_of_map_number (field : GlobalField) {value? : Option Word} (given : Setting)
    (hgiven : value?.map (Setting.number field.val) = some given) : given.isGlobal = true := by
  obtain ⟨value, -, rfl⟩ := Option.map_eq_some_iff.mp hgiven
  exact field.property

/-- **Grouping keeps the rules of reading.** -/
theorem grouping_followsRules : grouping.FollowsRules Gathered where
  start := @Gathered.before [] ⟨rfl, rfl⟩
  json items? progress hgathered := by
    have hglobal : ∀ given, some Setting.json = some given → given.isGlobal = true := by
      rintro _ ⟨⟩
      rfl
    exact continues_setting hgathered hglobal (Item.ofArguments?_spelled .json)
  nextValue items? progress field numeral hgathered :=
    continues_setting hgathered (isGlobal_of_map_number field)
      (ofArguments?_nextValue field.val numeral.val)
  inlineValue items? progress field numeral hgathered :=
    continues_setting hgathered (isGlobal_of_map_number field)
      (ofArguments?_inlineValue field.val numeral.val)
  command items? outer? hgathered := by
    cases hgathered with
    | before houter => exact continues_operand (.inr (by decide)) (.behind houter ⟨rfl, rfl⟩)
    | wrongBefore => exact continues_of_none (.wrongBehind [] (.inl rfl)) _
  text items? outer? inner? texts content hgathered := by
    cases items? with
    | some items =>
        exact continues_operand (.inr content.property) (hgathered.operand content.val)
    | none =>
        cases hgathered with
        | wrongBehind _ hwrong => exact continues_of_none (.wrongBehind _ hwrong) _
  finish items? outer? inner? texts hgathered hne := by
    cases items? with
    | some items => exact (answerBehind_nil items).trans (hgathered.ofItems?_eq_ofSides hne)
    | none =>
        cases hgathered with
        | wrongBehind _ hwrong =>
            rcases hwrong with rfl | rfl
            · rfl
            · cases outer? <;> rfl

end LineReader

end CallFrame.CommandLine
