import CallFrame.Report

/-! # Reading reports

What a printed line says, read back from either form.

* **`Report.after?`** and **`Report.word?`** take a fixed text and a number off the front.
* **`FrameReport.read?`** and **`OutArgsReport.read?`** read a whole line. The text form of the
  second holds nothing but the size (`OutArgsReport.readSize?`).
* **`FrameReport.read?_line`** and its companions say that a line states what it was written for. -/

namespace CallFrame

namespace Report

/-- What follows an opening text. -/
def after? (opening : String) (characters : List Char) : Option (List Char) :=
  opening.toList.isPrefixOf? characters

/-- The word that the leading digits stand for, and what follows them. -/
def word? (characters : List Char) : Option (Word × List Char) := do
  let number ← Decimal.value? (characters.takeWhile Char.isDigit)
  let word ← Word.ofNat? number
  return (word, characters.dropWhile Char.isDigit)

/-- The signature that the characters before a closing one spell, and what follows them, the
closing character included. -/
def signature? (closing : Char) (characters : List Char) : Option (Signature × List Char) := do
  let signature ← (Signature.parse (String.ofList (characters.takeWhile (· != closing)))).toOption
  return (signature, characters.dropWhile (· != closing))

/-- Which of two texts opens the characters, and what follows it. -/
def choice? (yes no : String) (characters : List Char) : Option (Bool × List Char) :=
  ((after? yes characters).map (true, ·)) <|> ((after? no characters).map (false, ·))

/-- A value read with nothing left over. -/
def complete? {α : Type} (value : α) (characters : List Char) : Option α :=
  if characters.isEmpty then some value else none

/-! ## What each step takes off the front -/

/-- A fixed text is taken off the front of a text that begins with it. -/
theorem after?_append (opening : String) (rest : List Char) :
    after? opening (opening.toList ++ rest) = some rest := by
  unfold after?
  induction opening.toList with
  | nil => cases rest <;> rfl
  | cons first others ih =>
    exact (if_pos (beq_self_eq_true first)).trans ih

/-- Nothing follows a fixed text that stands alone. -/
theorem after?_self (opening : String) : after? opening opening.toList = some [] := by
  have htaken := after?_append opening []
  rwa [List.append_nil] at htaken

/-- A number is taken off the front as long as no digit follows it. -/
theorem word?_append (word : Word) {rest : List Char}
    (hends : ∀ character ∈ rest.head?, character.isDigit = false) :
    word? (Decimal.digits word.toNat ++ rest) = some (word, rest) := by
  have hdigits : ∀ character ∈ Decimal.digits word.toNat, character.isDigit = true :=
    fun _ hmem => Decimal.isDigit_of_mem_digits hmem
  have htaken : rest.takeWhile Char.isDigit = [] := by
    cases rest with
    | nil => rfl
    | cons first others => exact List.takeWhile_cons_of_neg (by simp [hends first rfl])
  have hdropped : rest.dropWhile Char.isDigit = rest := by
    cases rest with
    | nil => rfl
    | cons first others => exact List.dropWhile_cons_of_neg (by simp [hends first rfl])
  rw [word?, List.takeWhile_append_of_pos hdigits, List.dropWhile_append_of_pos hdigits, htaken,
    hdropped, List.append_nil, Decimal.value?_digits]
  simp [Word.ofNat?_eq_some_iff.mpr (rfl : word.toNat = word.toNat)]

/-- A signature is taken off the front when the closing character follows and is no letter of a
kind. -/
theorem signature?_append (signature : Signature) {closing : Char} {rest : List Char}
    (hletter : ∀ kind : Kind, kind.letter ≠ closing) (hclosed : rest.head? = some closing) :
    signature? closing (signature.text.toList ++ rest) = some (signature, rest) := by
  have hletters : ∀ character ∈ signature.text.toList, (character != closing) = true := by
    intro character hmem
    rw [Signature.toList_text, List.mem_cons, List.mem_map] at hmem
    rcases hmem with rfl | ⟨kind, _, rfl⟩
    · simpa using hletter signature.result
    · simpa using hletter kind.val
  obtain ⟨others, rfl⟩ : ∃ others, rest = closing :: others := by
    cases rest with
    | nil => cases hclosed
    | cons first others => exact ⟨others, by rw [Option.some.inj hclosed]⟩
  rw [signature?, List.takeWhile_append_of_pos hletters, List.dropWhile_append_of_pos hletters]
  simp [Except.toOption]

/-- The first of two texts is taken off the front. -/
theorem choice?_yes (yes no : String) (rest : List Char) :
    choice? yes no (yes.toList ++ rest) = some (true, rest) := by
  rw [choice?, after?_append]
  rfl

/-- The second of two texts is taken off the front unless the first stands there. -/
theorem choice?_no {yes no : String} {rest : List Char}
    (hdifferent : after? yes (no.toList ++ rest) = none) :
    choice? yes no (no.toList ++ rest) = some (false, rest) := by
  rw [choice?, hdifferent, after?_append]
  rfl

end Report

namespace FrameReport

open Report

/-- The report that a sentence states. -/
def readSentence? (characters : List Char) : Option FrameReport := do
  let (signature, rest) ← signature? ':' characters
  let rest ← after? ": out args " rest
  let (outArgs, rest) ← word? rest
  let rest ← after? " bytes, stub frame " rest
  let (stub, rest) ← word? rest
  let rest ← after? " bytes (" rest
  let (tailCall, rest) ← choice? (stubKind true) (stubKind false) rest
  let rest ← after? "), direct call frame " rest
  let (direct, rest) ← word? rest
  let rest ← after? " bytes" rest
  complete? ⟨signature, outArgs, stub, direct, tailCall⟩ rest

/-- The report that a JSON object states. -/
def readJson? (characters : List Char) : Option FrameReport := do
  let rest ← after? "\x7b\"direct_call_frame_size\":" characters
  let (direct, rest) ← word? rest
  let rest ← after? ",\"out_args_size\":" rest
  let (outArgs, rest) ← word? rest
  let rest ← after? ",\"shorty\":\"" rest
  let (signature, rest) ← signature? '"' rest
  let rest ← after? "\",\"stub_frame_size\":" rest
  let (stub, rest) ← word? rest
  let rest ← after? ",\"tail_call\":" rest
  let (tailCall, rest) ← choice? (truth true) (truth false) rest
  let rest ← after? "\x7d" rest
  complete? ⟨signature, outArgs, stub, direct, tailCall⟩ rest

/-- The report that a line in either form states. -/
def read? (line : String) : Format → Option FrameReport
  | .text => readSentence? line.toList
  | .json => readJson? line.toList

/-! ## Reading undoes writing -/

/-- A colon is no letter of a kind. -/
theorem letter_ne_colon (kind : Kind) : kind.letter ≠ ':' := by
  cases kind <;> decide

/-- A quote is no letter of a kind. -/
theorem letter_ne_quote (kind : Kind) : kind.letter ≠ '"' := by
  cases kind <;> decide

/-- A sentence states the report that it was written for. -/
theorem readSentence?_sentence (report : FrameReport) :
    readSentence? report.sentence.toList = some report := by
  obtain ⟨signature, outArgs, stub, direct, tailCall⟩ := report
  have hkind : ∀ rest, choice? (stubKind true) (stubKind false)
      ((stubKind tailCall).toList ++ rest) = some (tailCall, rest) := by
    intro rest
    cases tailCall with
    | true => exact choice?_yes _ _ rest
    | false => exact choice?_no rfl
  simp only [sentence, String.toList_append, List.append_assoc, Decimal.text, String.toList_ofList]
  rw [readSentence?, signature?_append signature letter_ne_colon rfl]
  simp only [Option.bind_eq_bind, Option.bind_some, after?_append]
  rw [word?_append outArgs (by rintro _ ⟨⟩; rfl)]
  simp only [Option.bind_some, after?_append]
  rw [word?_append stub (by rintro _ ⟨⟩; rfl)]
  simp only [Option.bind_some, after?_append, hkind]
  rw [word?_append direct (by rintro _ ⟨⟩; rfl)]
  simp only [Option.bind_some]
  rfl

/-- A JSON object states the report that it was written for. -/
theorem readJson?_json (report : FrameReport) : readJson? report.json.toList = some report := by
  obtain ⟨signature, outArgs, stub, direct, tailCall⟩ := report
  have hkind : ∀ rest, choice? (truth true) (truth false)
      ((truth tailCall).toList ++ rest) = some (tailCall, rest) := by
    intro rest
    cases tailCall with
    | true => exact choice?_yes _ _ rest
    | false => exact choice?_no rfl
  unfold json readJson?
  simp only [String.toList_append, List.append_assoc, Decimal.text, String.toList_ofList]
  simp only [Option.bind_eq_bind, Option.bind_some, after?_append]
  rw [word?_append direct (by rintro _ ⟨⟩; rfl)]
  simp only [Option.bind_some, after?_append]
  rw [word?_append outArgs (by rintro _ ⟨⟩; rfl)]
  simp only [Option.bind_some, after?_append]
  rw [signature?_append signature letter_ne_quote rfl]
  simp only [Option.bind_some, after?_append]
  rw [word?_append stub (by rintro _ ⟨⟩; rfl)]
  simp only [Option.bind_some, after?_append, hkind, after?_self]
  rfl

/-- A line states the report that it was written for. -/
theorem read?_line (report : FrameReport) (format : Format) :
    read? (report.line format) format = some report := by
  cases format with
  | text => exact readSentence?_sentence report
  | json => exact readJson?_json report

end FrameReport

namespace OutArgsReport

open Report

/-- The size that a line of text states. -/
def readSize? (line : String) : Option Word := do
  let (size, rest) ← word? line.toList
  complete? size rest

/-- The report that a JSON object states. -/
def read? (line : String) : Option OutArgsReport := do
  let rest ← after? "\x7b\"fp\":" line.toList
  let (floatingPoint, rest) ← word? rest
  let rest ← after? ",\"int\":" rest
  let (integer, rest) ← word? rest
  let rest ← after? ",\"out_args_size\":" rest
  let (size, rest) ← word? rest
  let rest ← after? "\x7d" rest
  complete? ⟨floatingPoint, integer, size⟩ rest

/-- A line of text states the size that it was written for. -/
theorem readSize?_text (report : OutArgsReport) :
    readSize? (report.line .text) = some report.size := by
  have hread : word? (Decimal.digits report.size.toNat ++ []) = some (report.size, []) :=
    word?_append report.size (by rintro _ ⟨⟩)
  rw [List.append_nil] at hread
  rw [readSize?, line, Decimal.text, String.toList_ofList, hread]
  rfl

/-- A line of JSON states the report that it was written for. -/
theorem read?_json (report : OutArgsReport) : read? (report.line .json) = some report := by
  obtain ⟨floatingPoint, integer, size⟩ := report
  unfold line json read?
  simp only [String.toList_append, List.append_assoc, Decimal.text, String.toList_ofList]
  simp only [Option.bind_eq_bind, Option.bind_some, after?_append]
  rw [word?_append floatingPoint (by rintro _ ⟨⟩; rfl)]
  simp only [Option.bind_some, after?_append]
  rw [word?_append integer (by rintro _ ⟨⟩; rfl)]
  simp only [Option.bind_some, after?_append]
  rw [word?_append size (by rintro _ ⟨⟩; rfl)]
  rfl

end OutArgsReport

end CallFrame
