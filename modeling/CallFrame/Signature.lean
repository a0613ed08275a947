import CallFrame.Kind

/-! # Signatures

A signature is the kind of a result followed by the kinds of the arguments, and is written as one
letter each. `void` stands for "no result" and is no kind of an argument.

* **`Signature`** holds no more than that, so that a signature in hand is a valid one.
* **`Signature.parse`** reads a text and names the leftmost defect of a text that is no signature;
  **`Signature.text`** writes it.
* **`spell`** and **`spellMix`** write texts from kinds or from an argument mix without asking
  whether the text is a signature. -/

namespace CallFrame

/-- A kind that an argument can have. -/
abbrev ArgumentKind := { kind : Kind // kind ≠ .void }

/-- The kinds of the result and of the arguments of a function. -/
structure Signature where
  /-- The kind of the result. -/
  result : Kind
  /-- The kinds of the arguments, from left to right. -/
  arguments : List ArgumentKind
  deriving DecidableEq

/-! ## Writing -/

/-- The letter of a result followed by the letters of arguments, `void` among them or not. -/
def spell (result : Kind) (arguments : List Kind) : String :=
  String.ofList (result.letter :: arguments.map Kind.letter)

/-- A text for an argument mix: the character of the result, then `doubles` letters `D`, then
`ints` letters `I`. -/
def spellMix (result : Char) (doubles ints : Nat) : String :=
  String.ofList (result ::
    (List.replicate doubles Kind.double.letter ++ List.replicate ints Kind.int.letter))

namespace Signature

/-- The kinds of the arguments, without the promise that none is `void`. -/
def argumentKinds (signature : Signature) : List Kind := signature.arguments.map (·.val)

/-- The text of a signature. -/
def text (signature : Signature) : String := spell signature.result signature.argumentKinds

end Signature

/-! ## Reading -/

/-- Defects of a text that is no signature. -/
inductive SignatureError where
  /-- The text is empty. -/
  | empty
  /-- The character at this position is no letter of a kind. -/
  | unknownLetter (character : Char) (position : Nat)
  /-- The letter of `void` stands at this position, which is an argument's. -/
  | voidArgument (position : Nat)
  deriving DecidableEq

/-- The sentence shown for a defect. Positions count characters from zero. -/
def SignatureError.message : SignatureError → String
  | .empty => "Shorty signature is empty (missing return type)"
  | .unknownLetter character position =>
      "Invalid shorty character '" ++ character.toString ++ s!"' at position {position}"
  | .voidArgument position =>
      s!"Void is only valid as a return type (argument at position {position})"

namespace Signature

/-- The kind of a result whose letter opens a text. -/
def readResult (character : Char) : Except SignatureError Kind :=
  match Kind.ofLetter? character with
  | none => .error (.unknownLetter character 0)
  | some kind => .ok kind

/-- The kind of an argument whose letter stands at a position. -/
def readArgument (character : Char) (position : Nat) : Except SignatureError ArgumentKind :=
  match Kind.ofLetter? character with
  | none => .error (.unknownLetter character position)
  | some kind =>
      if hvoid : kind = .void then .error (.voidArgument position) else .ok ⟨kind, hvoid⟩

/-- The kinds of arguments whose letters stand from a position on, or the leftmost defect. -/
def readArguments (characters : List Char) (start : Nat) :
    Except SignatureError (List ArgumentKind) :=
  (characters.zipIdx start).mapM fun (character, position) => readArgument character position

/-- The signature that a text spells, or the leftmost defect of the text. -/
def parse (text : String) : Except SignatureError Signature :=
  match text.toList with
  | [] => .error .empty
  | first :: rest => do
      let result ← readResult first
      let arguments ← readArguments rest 1
      return ⟨result, arguments⟩

/-! ## Reading undoes writing -/

/-- A character is read as the result's kind whose letter it is. -/
theorem readResult_eq_ok_iff {character : Char} {kind : Kind} :
    readResult character = .ok kind ↔ character = kind.letter := by
  rw [← Kind.ofLetter?_eq_some_iff, readResult]
  cases Kind.ofLetter? character <;> simp

/-- A character is read as the argument's kind whose letter it is, at any position. -/
theorem readArgument_eq_ok_iff {character : Char} {position : Nat} {kind : ArgumentKind} :
    readArgument character position = .ok kind ↔ character = kind.val.letter := by
  rw [← Kind.ofLetter?_eq_some_iff, readArgument]
  cases Kind.ofLetter? character with
  | none => simp
  | some found =>
    by_cases hvoid : found = .void
    · have hne : found ≠ kind.val := fun hsame => kind.property (hsame ▸ hvoid)
      simp [hvoid, hvoid ▸ hne]
    · simp [hvoid, Subtype.ext_iff]

/-- Arguments are read from left to right. -/
theorem readArguments_cons (first : Char) (rest : List Char) (start : Nat) :
    readArguments (first :: rest) start = (do
      let kind ← readArgument first start
      let kinds ← readArguments rest (start + 1)
      return kind :: kinds) := by
  rw [readArguments, List.zipIdx_cons, List.mapM_cons]
  rfl

/-- Characters are read as the kinds of arguments whose letters they are. -/
theorem readArguments_eq_ok_iff {characters : List Char} {start : Nat}
    {kinds : List ArgumentKind} :
    readArguments characters start = .ok kinds ↔
      characters = kinds.map fun kind => kind.val.letter := by
  induction characters generalizing start kinds with
  | nil => cases kinds <;> simp [readArguments, pure, Except.pure]
  | cons first rest ih =>
    rw [readArguments_cons]
    constructor
    · intro hread
      cases hfirst : readArgument first start with
      | error error =>
        rw [hfirst] at hread
        cases hread
      | ok kind =>
        cases hrest : readArguments rest (start + 1) with
        | error error =>
          rw [hfirst, hrest] at hread
          cases hread
        | ok others =>
          rw [hfirst, hrest] at hread
          cases hread
          rw [List.map_cons, ← readArgument_eq_ok_iff.mp hfirst, ← ih.mp hrest]
    · intro hletters
      cases kinds with
      | nil => cases hletters
      | cons kind others =>
        rw [List.map_cons, List.cons.injEq] at hletters
        rw [readArgument_eq_ok_iff.mpr hletters.1, ih.mpr hletters.2]
        rfl

/-- The characters of a signature's text. -/
theorem toList_text (signature : Signature) :
    signature.text.toList =
      signature.result.letter :: signature.arguments.map fun kind => kind.val.letter := by
  rw [text, spell, argumentKinds, String.toList_ofList, List.map_map]
  rfl

/-- A text is read as the signature whose text it is. -/
theorem parse_eq_ok_iff {text : String} {signature : Signature} :
    parse text = .ok signature ↔ text = signature.text := by
  rw [← String.toList_inj, toList_text, parse]
  cases text.toList with
  | nil => simp
  | cons first rest =>
    dsimp only
    constructor
    · intro hread
      cases hfirst : readResult first with
      | error error =>
        rw [hfirst] at hread
        cases hread
      | ok kind =>
        cases hrest : readArguments rest 1 with
        | error error =>
          rw [hfirst, hrest] at hread
          cases hread
        | ok others =>
          rw [hfirst, hrest] at hread
          cases hread
          rw [readResult_eq_ok_iff.mp hfirst, readArguments_eq_ok_iff.mp hrest]
    · intro hletters
      rw [List.cons.injEq] at hletters
      rw [readResult_eq_ok_iff.mpr hletters.1, readArguments_eq_ok_iff.mpr hletters.2]
      rfl

/-- The text of a signature is read as that signature. -/
@[simp] theorem parse_text (signature : Signature) : parse signature.text = .ok signature :=
  parse_eq_ok_iff.mpr rfl

end Signature

end CallFrame
