import CallFrame.Proofs.FrameCommand
import CallFrame.Proofs.ReadingRules

/-! # Where options stand

Options of the convention and of the form of the output may stand in front of the command, behind it
and between the texts, with their numbers as arguments of their own or behind an equals sign. None
of this matters: what counts is which options are given on which side of the command. That follows
from the rules of reading alone, so it holds for every reader that keeps them.

* **`Occurrence`** is an option as it is written, with the text that should be its number;
  **`Piece`** is an option or the text of a signature.
* **`MixedLine`** is a command line of pieces; **`MixedLine.IsProper`** says that its numbers are
  numbers and that no option is given twice on a side.
* **`MixedLine.plain`** is the line with every option in front, once each and in plain decimals.
* **`LineReader.continues_occurrence`** is the step over one option, and
  **`LineReader.continues_pieces`** the run over all pieces behind the command.
* **`MixedLine.read?_of_isProper`** and **`MixedLine.read?_of_not_isProper`** say what becomes of a
  line.
* **`MixedLine.run_eq_plain`** — a proper line runs as its plain one, and any other is a misuse. -/

namespace CallFrame.CommandLine

/-! ## Numerals -/

/-- **Numerals**: at most one plus sign and then decimal digits, leading zeros among them or not. -/
def IsNumeral (text : String) (value : Nat) : Prop :=
  ∃ digits : List Char, (text.toList = digits ∨ text.toList = '+' :: digits) ∧ digits ≠ [] ∧
    (∀ digit ∈ digits, digit.isDigit = true) ∧ Nat.ofDigitChars 10 digits 0 = value

/-- Digits stand for a number when there is one digit or more and nothing else. -/
theorem value?_eq_some_iff {characters : List Char} {value : Nat} :
    Decimal.value? characters = some value ↔
      characters ≠ [] ∧ (∀ digit ∈ characters, digit.isDigit = true) ∧
        Nat.ofDigitChars 10 characters 0 = value := by
  rw [Decimal.value?]
  by_cases hempty : characters = []
  · simp [hempty]
  by_cases hdigits : ∀ digit ∈ characters, digit.isDigit = true
  · have hall : characters.all Char.isDigit = true := List.all_eq_true.mpr hdigits
    simpa [hempty, hall] using fun _ => hdigits
  · have hall : characters.all Char.isDigit = false := by
      rw [Bool.eq_false_iff, Ne, List.all_eq_true]
      exact hdigits
    simp [hempty, hall, hdigits]

/-- **A text is read as a word when it is a numeral of the word**, so that a number from the bound
on is none. -/
theorem numeral?_eq_some_iff {text : String} {word : Word} :
    numeral? text = some word ↔ IsNumeral text word.toNat := by
  have hread : ∀ digits, (Decimal.value? digits).bind Word.ofNat? = some word ↔
      digits ≠ [] ∧ (∀ digit ∈ digits, digit.isDigit = true) ∧
        Nat.ofDigitChars 10 digits 0 = word.toNat := by
    intro digits
    rw [← value?_eq_some_iff, Option.bind_eq_some_iff]
    simp only [Word.ofNat?_eq_some_iff, exists_eq_right']
  rw [numeral?, IsNumeral]
  split
  · rename_i digits hplus
    rw [hread, hplus]
    constructor
    · intro hdigits
      exact ⟨digits, .inr rfl, hdigits⟩
    · rintro ⟨others, rfl | hsame, hdigits⟩
      · -- the plus sign is no digit
        exact absurd (hdigits.2.1 '+' List.mem_cons_self) (by decide)
      · cases hsame
        exact hdigits
  · rename_i hplus
    rw [hread]
    constructor
    · intro hdigits
      exact ⟨text.toList, .inl rfl, hdigits⟩
    · rintro ⟨others, rfl | hsame, hdigits⟩
      · exact hdigits
      · exact absurd hsame (hplus others)

/-! ## Options as they are written -/

/-- The options that may stand on both sides, in the order in which they are listed. -/
def GlobalField.all : List GlobalField :=
  [⟨.floatingPointRegisters, rfl⟩, ⟨.integerRegisters, rfl⟩, ⟨.wordSize, rfl⟩,
    ⟨.stackAlignment, rfl⟩]

/-- **Options as they are written**, with the text that should be a number. -/
inductive Occurrence where
  /-- The option without a number. -/
  | json
  /-- An option and its number as two arguments. -/
  | nextValue (field : GlobalField) (numeral : DashFree)
  /-- An option and its number as one argument. -/
  | inlineValue (field : GlobalField) (numeral : DashFree)
  deriving DecidableEq

namespace Occurrence

/-- The arguments of an option. -/
def arguments : Occurrence → List String
  | json => ["--json"]
  | nextValue field numeral => ["--" ++ field.val.name, numeral.val]
  | inlineValue field numeral => ["--" ++ field.val.name ++ "=" ++ numeral.val]

/-- The option itself, where the one without a number is none of the fields. -/
def field? : Occurrence → Option Field
  | json => none
  | nextValue field _ | inlineValue field _ => some field.val

/-- The setting that an option gives, if its number is one. -/
def setting? : Occurrence → Option Setting
  | json => some .json
  | nextValue field numeral | inlineValue field numeral =>
      (numeral? numeral.val).map (.number field.val)

/-- The number that an option gives to a field. -/
def valueOf? (field : Field) : Occurrence → Option Word
  | json => none
  | nextValue other numeral | inlineValue other numeral =>
      if other.val = field then numeral? numeral.val else none

end Occurrence

/-- **Pieces of a command line.** -/
inductive Piece where
  /-- The text of a signature, or of something else. -/
  | text (content : DashFree)
  /-- An option. -/
  | option (occurrence : Occurrence)

namespace Piece

/-- The arguments of a piece. -/
def arguments : Piece → List String
  | text content => [content.val]
  | option occurrence => occurrence.arguments

/-- The text of a piece that is no option. -/
def text? : Piece → Option DashFree
  | text content => some content
  | option _ => none

/-- The option of a piece that is one. -/
def option? : Piece → Option Occurrence
  | text _ => none
  | option occurrence => some occurrence

end Piece

/-! ## Settings of options -/

namespace Occurrence

/-- The number of an option is one, if the option takes a number at all. -/
def HasNumber : Occurrence → Prop
  | json => True
  | nextValue _ numeral | inlineValue _ numeral => ∃ word : Word, IsNumeral numeral.val word.toNat

/-- An option gives a setting when its number is one. -/
theorem isSome_setting?_iff {occurrence : Occurrence} :
    occurrence.setting?.isSome = true ↔ occurrence.HasNumber := by
  cases occurrence with
  | json => simp [setting?, HasNumber]
  | nextValue field numeral | inlineValue field numeral =>
      simp [setting?, HasNumber, Option.isSome_iff_exists, numeral?_eq_some_iff]

/-- The setting of an option is one of that option. -/
theorem field?_of_setting? {occurrence : Occurrence} {given : Setting}
    (hgiven : occurrence.setting? = some given) : given.field? = occurrence.field? := by
  cases occurrence with
  | json =>
      cases hgiven
      rfl
  | nextValue field numeral | inlineValue field numeral =>
      obtain ⟨value, -, rfl⟩ := Option.map_eq_some_iff.mp hgiven
      rfl

variable {occurrences : List Occurrence}

/-- An option gives a field the number that its setting does. -/
theorem valueOf?_eq_bind (field : Field) (occurrence : Occurrence) :
    occurrence.valueOf? field =
      occurrence.setting?.bind fun given => Setting.numberOf? [given] field := by
  cases occurrence with
  | json => rfl
  | nextValue other numeral | inlineValue other numeral =>
      rw [valueOf?, setting?]
      cases numeral? numeral.val with
      | none => simp
      | some value => simp [Setting.numberOf?]

/-- **The settings of options give a field the number that the options give it.** -/
theorem numberOf?_filterMap (occurrences : List Occurrence) (field : Field) :
    Setting.numberOf? (occurrences.filterMap setting?) field =
      occurrences.findSome? (valueOf? field) := by
  induction occurrences with
  | nil => rfl
  | cons occurrence rest ih =>
      rw [List.findSome?_cons, valueOf?_eq_bind, ← ih]
      cases hgiven : occurrence.setting? with
      | none => rw [List.filterMap_cons_none hgiven, Option.bind_none]
      | some given =>
          rw [List.filterMap_cons_some hgiven, Option.bind_some, ← List.singleton_append,
            Setting.numberOf?, List.findSome?_append]
          -- the first option counts if it gives the field a number, and else the others do
          show Option.or (Setting.numberOf? [given] field) _ = _
          cases Setting.numberOf? [given] field <;> rfl

/-- Lines of JSON are wanted when the option for them is given. -/
theorem json_mem_filterMap :
    Setting.json ∈ occurrences.filterMap setting? ↔ json ∈ occurrences := by
  rw [List.mem_filterMap]
  constructor
  · rintro ⟨occurrence, hmem, hgiven⟩
    have hfield := field?_of_setting? hgiven
    cases occurrence with
    | json => exact hmem
    | nextValue field numeral | inlineValue field numeral =>
        -- an option with a number is another one
        cases hfield
  · intro hmem
    exact ⟨json, hmem, rfl⟩

/-- The settings of one side with those of more options, one after the other. -/
def addAll? (settings? : Option (List Setting)) (occurrences : List Occurrence) :
    Option (List Setting) :=
  occurrences.foldl (fun settings? occurrence => Setting.give? settings? occurrence.setting?)
    settings?

/-- Options are not added to a side that has no settings any more. -/
theorem addAll?_none (occurrences : List Occurrence) : addAll? none occurrences = none := by
  induction occurrences with
  | nil => rfl
  | cons _ rest ih => exact ih

/-- **Options can be added when their numbers are numbers and none is given twice.** -/
theorem addAll?_eq_some_iff {settings all : List Setting}
    (hdistinct : (settings.map Setting.field?).Nodup) :
    addAll? (some settings) occurrences = some all ↔
      (∀ occurrence ∈ occurrences, occurrence.HasNumber) ∧
        (settings.map Setting.field? ++ occurrences.map field?).Nodup ∧
        settings ++ occurrences.filterMap setting? = all := by
  -- induction on the options; each is compared with those in front of it only
  induction occurrences generalizing settings with
  | nil => simp [addAll?, hdistinct]
  | cons occurrence rest ih =>
      rw [addAll?, List.foldl_cons, ← addAll?, Setting.give?, Option.bind_some,
        List.forall_mem_cons, List.map_cons]
      cases hgiven : occurrence.setting? with
      | none =>
          have hnumber : ¬occurrence.HasNumber := by
            rw [← isSome_setting?_iff, hgiven]
            exact Bool.false_ne_true
          simp [addAll?_none, hnumber]
      | some given =>
          have hnumber : occurrence.HasNumber := by
            rw [← isSome_setting?_iff, hgiven]
            rfl
          have hfield := field?_of_setting? hgiven
          rw [Option.bind_some, Setting.add?, hfield, List.filterMap_cons_some hgiven]
          by_cases hold : occurrence.field? ∈ settings.map Setting.field?
          · have htwice : ¬(settings.map Setting.field? ++
                occurrence.field? :: rest.map field?).Nodup := by
              rw [List.nodup_middle, List.nodup_cons]
              exact fun hnodup => hnodup.1 (List.mem_append_left _ hold)
            simp [addAll?_none, hold, htwice]
          · have hmore : ((settings ++ [given]).map Setting.field?).Nodup := by
              rw [List.map_append, List.map_singleton, hfield]
              simpa using hdistinct.concat hold
            rw [if_neg hold]
            refine (ih hmore).trans ?_
            rw [List.map_append, List.map_singleton, hfield, List.append_assoc, List.append_assoc]
            simp [hnumber]

/-- The options of one side can be added one after the other when their numbers are numbers and
none is given twice. -/
theorem addAll?_nil_eq_some_iff {all : List Setting} :
    addAll? (some []) occurrences = some all ↔
      (∀ occurrence ∈ occurrences, occurrence.HasNumber) ∧ (occurrences.map field?).Nodup ∧
        occurrences.filterMap setting? = all :=
  addAll?_eq_some_iff List.nodup_nil

end Occurrence

/-! ## Reading options and texts -/

namespace LineReader

variable {reader : LineReader} {IsAt : reader.State → Progress → Prop}
  (hrules : reader.FollowsRules IsAt)
include hrules

/-- **An option is read as its setting**, which may be none or given already. -/
theorem continues_occurrence {state : reader.State} {progress : Progress}
    (hat : IsAt state progress) (occurrence : Occurrence) :
    reader.Continues IsAt state occurrence.arguments (progress.give occurrence.setting?) := by
  cases occurrence with
  | json => exact hrules.json state progress hat
  | nextValue field numeral => exact hrules.nextValue state progress field numeral hat
  | inlineValue field numeral => exact hrules.inlineValue state progress field numeral hat

/-- **Options in front of the command are read one by one.** -/
theorem continues_occurrences {state : reader.State} {outer? : Option (List Setting)}
    (hat : IsAt state (.before outer?)) (occurrences : List Occurrence) :
    reader.Continues IsAt state (occurrences.flatMap Occurrence.arguments)
      (.before (Occurrence.addAll? outer? occurrences)) := by
  -- induction on the options; what is behind the first one has one more option in front of it
  induction occurrences generalizing state outer? with
  | nil => exact continues_nil hat
  | cons occurrence rest ih =>
      rw [List.flatMap_cons]
      exact continues_append (continues_occurrence hrules hat occurrence) fun next hnext => ih hnext

/-- **Options and texts behind the command are read one by one.** -/
theorem continues_pieces {state : reader.State} {outer? inner? : Option (List Setting)}
    {texts : List String} (hat : IsAt state (.behind outer? inner? texts)) (pieces : List Piece) :
    reader.Continues IsAt state (pieces.flatMap Piece.arguments)
      (.behind outer? (Occurrence.addAll? inner? (pieces.filterMap Piece.option?))
        (texts ++ (pieces.filterMap Piece.text?).map Subtype.val)) := by
  -- induction on the pieces; a text joins the texts, and an option the options
  induction pieces generalizing state inner? texts with
  | nil =>
      rw [List.filterMap_nil, List.filterMap_nil, List.map_nil, List.append_nil]
      exact continues_nil hat
  | cons piece rest ih =>
      rw [List.flatMap_cons]
      cases piece with
      | text content =>
          rw [List.filterMap_cons_none (f := Piece.option?) rfl,
            List.filterMap_cons_some (f := Piece.text?) (b := content) rfl, List.map_cons,
            ← List.singleton_append, ← List.append_assoc]
          exact continues_append (hrules.text state outer? inner? texts content hat)
            fun next hnext => ih hnext
      | option occurrence =>
          rw [List.filterMap_cons_some (f := Piece.option?) (b := occurrence) rfl,
            List.filterMap_cons_none (f := Piece.text?) rfl]
          exact continues_append (continues_occurrence hrules hat occurrence)
            fun next hnext => ih hnext

end LineReader

/-! ## Lines -/

/-- **Command lines for frames, with options on both sides of the command** and between the texts,
of which there is one or more. -/
structure MixedLine where
  /-- The options in front of the command. -/
  before : List Occurrence
  /-- The options and the texts behind the command. -/
  behind : List Piece
  /-- There is a text. -/
  hasText : behind.filterMap Piece.text? ≠ []

namespace MixedLine

/-- The options behind the command. -/
def options (line : MixedLine) : List Occurrence := line.behind.filterMap Piece.option?

/-- The texts behind the command. -/
def texts (line : MixedLine) : List String :=
  (line.behind.filterMap Piece.text?).map Subtype.val

/-- The arguments of a line. -/
def arguments (line : MixedLine) : List String :=
  line.before.flatMap Occurrence.arguments ++ "frame" :: line.behind.flatMap Piece.arguments

/-- **Lines without misuse**: every number is one, also where another one counts, and no option is
given twice on a side. -/
structure IsProper (line : MixedLine) : Prop where
  /-- Every option that takes a number is given one. -/
  numbers : ∀ occurrence ∈ line.before ++ line.options, occurrence.HasNumber
  /-- No option is given twice in front of the command. -/
  before : (line.before.map Occurrence.field?).Nodup
  /-- No option is given twice behind the command. -/
  behind : (line.options.map Occurrence.field?).Nodup

/-- **The number of an option**: the one behind the command, or else the one in front of it, or else
the one of an option that is not given. -/
def number (line : MixedLine) (field : Field) : Word :=
  ((line.options.findSome? (Occurrence.valueOf? field)).or
    (line.before.findSome? (Occurrence.valueOf? field))).getD field.standard

/-- The form of the output, for which one side is enough. -/
def format (line : MixedLine) : Format :=
  if .json ∈ line.options ∨ .json ∈ line.before then .json else .text

/-- What a line asks for. -/
def invocation (line : MixedLine) : Invocation where
  floatingPointRegisters := line.number .floatingPointRegisters
  integerRegisters := line.number .integerRegisters
  wordSize := line.number .wordSize
  stackAlignment := line.number .stackAlignment
  format := line.format
  command := .frame line.texts

/-! ## Reading a line -/

variable (line : MixedLine)

/-- The settings of both sides of a line ask for its invocation. -/
theorem ofSides_eq_invocation :
    Invocation.ofSides (line.before.filterMap Occurrence.setting?)
      (line.options.filterMap Occurrence.setting?) line.texts = line.invocation := by
  have hnumber : ∀ field, Setting.numberOfSides (line.before.filterMap Occurrence.setting?)
      (line.options.filterMap Occurrence.setting?) field = line.number field := by
    intro field
    rw [Setting.numberOfSides, Occurrence.numberOf?_filterMap, Occurrence.numberOf?_filterMap]
    rfl
  rw [Invocation.ofSides, invocation, Invocation.mk.injEq]
  refine ⟨hnumber _, hnumber _, hnumber _, hnumber _, ?_, rfl⟩
  simp only [format, Occurrence.json_mem_filterMap]

/-- What both sides of a line ask for, if none of its options is wrong. -/
def invocation? : Option Invocation :=
  (Occurrence.addAll? (some []) line.before).bind fun outer =>
    (Occurrence.addAll? (some []) line.options).map fun inner => .ofSides outer inner line.texts

/-- **A proper line asks for its invocation**, and no other line asks for anything. -/
theorem invocation?_eq_some_iff {invocation : Invocation} :
    line.invocation? = some invocation ↔ line.IsProper ∧ line.invocation = invocation := by
  simp only [invocation?, Option.bind_eq_some_iff, Option.map_eq_some_iff,
    Occurrence.addAll?_nil_eq_some_iff, ← line.ofSides_eq_invocation]
  constructor
  · rintro ⟨_, ⟨hnumbers, hbefore, rfl⟩, _, ⟨hnumbersBehind, hbehind, rfl⟩, rfl⟩
    exact ⟨⟨List.forall_mem_append.mpr ⟨hnumbers, hnumbersBehind⟩, hbefore, hbehind⟩, rfl⟩
  · rintro ⟨⟨hnumbers, hbefore, hbehind⟩, rfl⟩
    rw [List.forall_mem_append] at hnumbers
    exact ⟨_, ⟨hnumbers.1, hbefore, rfl⟩, _, ⟨hnumbers.2, hbehind, rfl⟩, rfl⟩

/-- Whether a line is proper can be found out. -/
theorem isProper_iff : line.IsProper ↔ line.invocation?.isSome = true := by
  simp [Option.isSome_iff_exists, invocation?_eq_some_iff]

section

variable {reader : LineReader} {IsAt : reader.State → Progress → Prop}
  (hrules : reader.FollowsRules IsAt)
include hrules

/-- **A line is read side by side**, the options in front of the command first. -/
theorem continues_arguments :
    reader.Continues IsAt reader.start line.arguments
      (.behind (Occurrence.addAll? (some []) line.before)
        (Occurrence.addAll? (some []) line.options) line.texts) := by
  have hbefore := reader.continues_occurrences hrules hrules.start line.before
  refine LineReader.continues_append hbefore fun state hat => ?_
  rw [← List.singleton_append]
  refine LineReader.continues_append (hrules.command state _ hat) fun next hnext => ?_
  exact LineReader.continues_pieces hrules hnext line.behind

/-- **A line is read as what both of its sides ask for.** -/
theorem read?_arguments : reader.read? line.arguments = line.invocation? := by
  obtain ⟨next, hat, hanswer⟩ := line.continues_arguments hrules
  have hend := hanswer []
  rw [List.append_nil] at hend
  have htexts : line.texts ≠ [] := mt List.map_eq_nil_iff.mp line.hasText
  rw [LineReader.read?, hend, hrules.finish next _ _ _ hat htexts, invocation?]

/-- **A proper line is read as what it asks for.** -/
theorem read?_of_isProper (hproper : line.IsProper) :
    reader.read? line.arguments = some line.invocation := by
  rw [line.read?_arguments hrules, line.invocation?_eq_some_iff]
  exact ⟨hproper, rfl⟩

/-- **Any other line is a misuse.** -/
theorem read?_of_not_isProper (hproper : ¬line.IsProper) : reader.read? line.arguments = none := by
  rw [line.read?_arguments hrules, Option.eq_none_iff_forall_ne_some]
  exact fun invocation hsome => hproper (line.invocation?_eq_some_iff.mp hsome).1

end

/-! ## Plain lines -/

/-- **The plain form of a line**: every option in front of the command, once each and in plain
decimals, and then the texts. -/
def plain : List String :=
  (if line.format = .json then ["--json"] else []) ++
    (GlobalField.all.flatMap fun field =>
      ["--" ++ field.val.name, Decimal.text (line.number field.val)]) ++
    "frame" :: line.texts

/-- Decimal digits do not begin with a dash. -/
theorem head?_text_ne (word : Word) : (Decimal.text word).toList.head? ≠ some '-' := by
  rw [Decimal.text, String.toList_ofList]
  intro hhead
  have hdigit := Decimal.isDigit_of_mem_digits (List.mem_of_head? hhead)
  exact absurd hdigit (by decide)

/-- The option for a number of a line, in plain decimals. -/
def plainOccurrence (field : GlobalField) : Occurrence :=
  .nextValue field ⟨Decimal.text (line.number field.val), head?_text_ne _⟩

/-- The plain form of a line as a line itself. -/
def plainLine : MixedLine where
  before := (if line.format = .json then [.json] else []) ++
    GlobalField.all.map line.plainOccurrence
  behind := (line.behind.filterMap Piece.text?).map .text
  hasText := by
    rw [List.filterMap_map]
    show (line.behind.filterMap Piece.text?).filterMap some ≠ []
    rw [List.filterMap_some]
    exact line.hasText

/-- The plain form of a line has no options behind the command. -/
@[simp] theorem options_plainLine : line.plainLine.options = [] := by
  rw [options, plainLine, List.filterMap_map, List.filterMap_eq_nil_iff]
  exact fun _ _ => rfl

/-- The plain form of a line has its texts. -/
@[simp] theorem texts_plainLine : line.plainLine.texts = line.texts := by
  rw [texts, texts, plainLine, List.filterMap_map]
  show ((line.behind.filterMap Piece.text?).filterMap some).map Subtype.val = _
  rw [List.filterMap_some]

/-- The arguments of the plain form. -/
theorem arguments_plainLine : line.plainLine.arguments = line.plain := by
  have htexts : line.plainLine.behind.flatMap Piece.arguments = line.texts := by
    rw [plainLine, List.flatMap_map, texts, List.map_eq_flatMap]
    rfl
  rw [arguments, htexts, plain]
  show ((if line.format = .json then [Occurrence.json] else []) ++ _).flatMap _ ++ _ = _
  rw [List.flatMap_append, List.flatMap_map]
  cases line.format <;> rfl

/-- The number of an option in the plain form is the one it has in the line. -/
theorem valueOf?_plainOccurrence (field : Field) (other : GlobalField) :
    (line.plainOccurrence other).valueOf? field =
      if other.val = field then some (line.number other.val) else none := by
  rw [plainOccurrence, Occurrence.valueOf?, numeral?_text]

/-- **The plain form of a line is proper.** -/
theorem isProper_plainLine : line.plainLine.IsProper := by
  constructor
  case numbers =>
    rw [options_plainLine, List.append_nil, plainLine, List.forall_mem_append]
    constructor
    · intro occurrence hmem
      split at hmem
      · rw [List.mem_singleton.mp hmem]
        trivial
      · cases hmem
    · rw [List.forall_mem_map]
      exact fun field _ => ⟨_, numeral?_eq_some_iff.mp (numeral?_text _)⟩
  case before =>
    have hfields : (GlobalField.all.map line.plainOccurrence).map Occurrence.field? =
        GlobalField.all.map fun field => some field.val := by
      rw [List.map_map]
      rfl
    rw [plainLine, List.map_append, hfields]
    cases line.format <;> decide
  case behind =>
    rw [options_plainLine]
    exact List.nodup_nil

/-- An option that may stand on both sides has the same number in the plain form. -/
theorem number_plainLine (field : GlobalField) :
    line.plainLine.number field.val = line.number field.val := by
  have hjson : (if line.format = .json then [Occurrence.json] else []).findSome?
      (Occurrence.valueOf? field.val) = none := by
    split <;> rfl
  have hgiven : GlobalField.all.findSome? (Occurrence.valueOf? field.val ∘ line.plainOccurrence) =
      some (line.number field.val) := by
    simp only [Function.comp_def, valueOf?_plainOccurrence]
    obtain ⟨field, hglobal⟩ := field
    cases field <;> first | rfl | cases hglobal
  rw [number, options_plainLine, plainLine, List.findSome?_append, List.findSome?_map, hjson,
    hgiven]
  rfl

/-- The form of the output is the same in the plain form. -/
theorem format_plainLine : line.plainLine.format = line.format := by
  have hnew : Occurrence.json ∉ GlobalField.all.map line.plainOccurrence := by
    simp [plainOccurrence]
  rw [format, options_plainLine, plainLine]
  cases line.format <;> simp [-List.mem_map, hnew]

/-- **The plain form asks for what the line does.** -/
theorem invocation_plainLine : line.plainLine.invocation = line.invocation := by
  rw [invocation, invocation, Invocation.mk.injEq]
  exact ⟨line.number_plainLine ⟨.floatingPointRegisters, rfl⟩,
    line.number_plainLine ⟨.integerRegisters, rfl⟩, line.number_plainLine ⟨.wordSize, rfl⟩,
    line.number_plainLine ⟨.stackAlignment, rfl⟩, line.format_plainLine,
    congrArg Command.frame line.texts_plainLine⟩

/-- **It does not matter where the options of a line stand**, nor how their numbers are written. To
every reader that keeps the rules of reading, a proper line is as its plain form: the run has the
same exit code and the same text on both streams, which are those of the convention, the form of the
output and the texts that the line asks for. Any other line is a misuse that shows nothing on the
output stream, even when the number that is none would not have counted. Grouping keeps the rules,
and it is what command lines are run by. Last, a number is read from its numerals and from nothing
else. -/
theorem run_eq_plain (line : MixedLine) :
    (∀ (reader : LineReader) (IsAt : reader.State → Progress → Prop), reader.FollowsRules IsAt →
      (line.IsProper → reader.run line.arguments = reader.run line.plain ∧
        reader.run line.arguments = line.invocation.run) ∧
      (¬line.IsProper → (reader.run line.arguments).observed.exitCode = 2 ∧
        (reader.run line.arguments).observed.output = "")) ∧
    (LineReader.grouping.FollowsRules LineReader.Gathered ∧
      ∀ arguments, LineReader.grouping.run arguments = run arguments) ∧
    ∀ (text : String) (word : Word), numeral? text = some word ↔ IsNumeral text word.toNat := by
  refine ⟨?_, ⟨LineReader.grouping_followsRules, LineReader.grouping_run⟩,
    fun text word => numeral?_eq_some_iff⟩
  intro reader IsAt hrules
  constructor
  · intro hproper
    have hplain := line.plainLine.read?_of_isProper hrules line.isProper_plainLine
    rw [arguments_plainLine, invocation_plainLine] at hplain
    rw [LineReader.run, LineReader.run, line.read?_of_isProper hrules hproper, hplain]
    exact ⟨rfl, rfl⟩
  · intro hproper
    rw [LineReader.run, line.read?_of_not_isProper hrules hproper]
    exact ⟨rfl, rfl⟩

/-- A number behind the command counts, and its plus sign and zeros do not. One that is no number is
a misuse even where another one counts. -/
theorem run_eq_plain_overridden :
    let behind : List Piece := [.text ⟨"VI", by decide⟩,
      .option (.inlineValue ⟨.integerRegisters, rfl⟩ ⟨"+00", by decide⟩), .text ⟨"ZZ", by decide⟩]
    let line : MixedLine :=
      ⟨[.json, .nextValue ⟨.integerRegisters, rfl⟩ ⟨"7", by decide⟩], behind, by decide⟩
    let wrong : MixedLine :=
      ⟨[.nextValue ⟨.integerRegisters, rfl⟩ ⟨"", by decide⟩], behind, by decide⟩
    line.IsProper ∧ ¬wrong.IsProper ∧ LineReader.grouping.FollowsRules LineReader.Gathered ∧
      run ["--json", "--int-regs", "7", "frame", "VI", "--int-regs=+00", "ZZ"] =
        run ["--json", "--fp-regs", "8", "--int-regs", "0", "--word-size", "8",
          "--stack-alignment", "16", "frame", "VI", "ZZ"] ∧
      (run ["--int-regs", "", "frame", "VI", "--int-regs=+00", "ZZ"]).observed.exitCode = 2 := by
  intro behind line wrong
  have hproper : line.IsProper := line.isProper_iff.mpr (by decide)
  have hwrong : ¬wrong.IsProper := mt wrong.isProper_iff.mp (by decide)
  have harguments : line.arguments =
      ["--json", "--int-regs", "7", "frame", "VI", "--int-regs=+00", "ZZ"] := rfl
  have hplain : line.plain = ["--json", "--fp-regs", "8", "--int-regs", "0", "--word-size", "8",
      "--stack-alignment", "16", "frame", "VI", "ZZ"] := by decide
  obtain ⟨hreaders, ⟨hrules, hrun⟩, -⟩ := line.run_eq_plain
  obtain ⟨hwrongReaders, -, -⟩ := wrong.run_eq_plain
  have hsame := ((hreaders _ _ hrules).1 hproper).1
  have hmisuse := ((hwrongReaders _ _ hrules).2 hwrong).1
  rw [hrun, hrun, harguments, hplain] at hsame
  rw [hrun] at hmisuse
  exact ⟨hproper, hwrong, hrules, hsame, hmisuse⟩

end MixedLine

end CallFrame.CommandLine
