import CallFrame.Fault
import CallFrame.Signature
import Mathlib.Order.Bounds.Defs

/-! # The grammar of signature texts

Reading a text either gives the signature that the text spells or names its leftmost defect. Here
both are said about the characters alone, without kinds: a text is one letter of a result followed
by letters of arguments, and a defect is a character that cannot stand where it stands.

* **`IsSpelling`** — the texts of the grammar; **`defects`** — the positions of characters that no
  text of the grammar has there, **`misfits`** those of characters that are no letters of arguments.
* **`isLeast_zero_iff`** and **`isLeast_succ_iff`** — the least member of a set of positions, one
  position at a time, which is how a text is read.
* **`Signature.readArguments_eq_error_iff`** and **`Signature.parse_eq_error_iff`** — reading stops
  at the least defect.
* **`Signature.parse_exact`** — which texts are read, what each error says about a text, and how
  both change when a text is continued. -/

namespace CallFrame

/-! ## Letters -/

/-- The letters that a text can open with. -/
def resultAlphabet : List Char := ['V', 'Z', 'B', 'C', 'S', 'I', 'J', 'F', 'D', 'L']

/-- The letters that can follow. -/
def argumentAlphabet : List Char := ['Z', 'B', 'C', 'S', 'I', 'J', 'F', 'D', 'L']

/-- The letters of results are the letters of arguments and one more. -/
theorem mem_resultAlphabet_iff {character : Char} :
    character ∈ resultAlphabet ↔ character = 'V' ∨ character ∈ argumentAlphabet :=
  List.mem_cons

/-- The letter for no result is no letter of an argument. -/
theorem void_notMem_argumentAlphabet : 'V' ∉ argumentAlphabet := by
  decide

/-- The letters of results are those of the kinds, in the order of the kinds. -/
theorem resultAlphabet_eq_map : resultAlphabet = Kind.all.map Kind.letter := rfl

/-- Each kind has one of the letters of results. -/
theorem Kind.letter_mem_resultAlphabet (kind : Kind) : kind.letter ∈ resultAlphabet := by
  rw [resultAlphabet_eq_map]
  exact List.mem_map_of_mem kind.mem_all

/-- A character has a kind exactly when it is one of the letters of results. -/
theorem Kind.ofLetter?_eq_none_iff {character : Char} :
    Kind.ofLetter? character = none ↔ character ∉ resultAlphabet := by
  constructor
  · intro hnone hmem
    rw [resultAlphabet_eq_map] at hmem
    obtain ⟨kind, -, rfl⟩ := List.mem_map.mp hmem
    rw [Kind.ofLetter?_letter] at hnone
    cases hnone
  · intro hnotMem
    cases hread : Kind.ofLetter? character with
    | none => rfl
    | some kind =>
        rw [Kind.ofLetter?_eq_some_iff.mp hread] at hnotMem
        exact absurd kind.letter_mem_resultAlphabet hnotMem

/-- Each kind of an argument has one of the letters of arguments. -/
theorem Kind.letter_mem_argumentAlphabet {kind : Kind} (hkind : kind ≠ .void) :
    kind.letter ∈ argumentAlphabet := by
  cases kind with
  | void => exact absurd rfl hkind
  | _ => decide

/-! ## Least positions, one position at a time -/

/-- Position zero is the least of a set as soon as it is in the set. -/
theorem isLeast_zero_iff {positions : Set Nat} : IsLeast positions 0 ↔ 0 ∈ positions := by
  constructor
  · intro hleast
    exact hleast.1
  · intro hmem
    exact ⟨hmem, fun _ _ => Nat.zero_le _⟩

/-- A later position is the least of a set when zero is not in the set and the position before it
is the least of the set moved by one. -/
theorem isLeast_succ_iff {positions : Set Nat} {position : Nat} :
    IsLeast positions (position + 1) ↔
      0 ∉ positions ∧ IsLeast {earlier | earlier + 1 ∈ positions} position := by
  constructor
  · rintro ⟨hmem, hlower⟩
    refine ⟨fun hzero => ?_, hmem, fun other hother => ?_⟩
    · exact absurd (hlower hzero) (Nat.not_succ_le_zero position)
    · exact Nat.le_of_succ_le_succ (hlower hother)
  · rintro ⟨hzero, hmem, hlower⟩
    refine ⟨hmem, fun other hother => ?_⟩
    cases other with
    | zero => exact absurd hother hzero
    | succ earlier => exact Nat.succ_le_succ (hlower hother)

/-! ## Characters that are no letters of arguments -/

/-- **The positions of characters that are no letters of arguments.** -/
def misfits (characters : List Char) : Set Nat :=
  {position | ∃ character, characters[position]? = some character ∧
    character ∉ argumentAlphabet}

section

variable {first : Char} {rest : List Char} {position : Nat}

/-- Without characters there is no position. -/
theorem notMem_misfits_nil : position ∉ misfits [] := by
  rintro ⟨character, hfound, -⟩
  cases hfound

/-- The first character stands at position zero. -/
theorem zero_mem_misfits_cons : 0 ∈ misfits (first :: rest) ↔ first ∉ argumentAlphabet := by
  constructor
  · rintro ⟨character, hfound, hnot⟩
    cases hfound
    exact hnot
  · intro hnot
    exact ⟨first, rfl, hnot⟩

/-- The least misfit behind a letter of an argument is the least one of what follows. -/
theorem isLeast_misfits_cons_succ :
    IsLeast (misfits (first :: rest)) (position + 1) ↔
      first ∈ argumentAlphabet ∧ IsLeast (misfits rest) position := by
  rw [isLeast_succ_iff, zero_mem_misfits_cons, Decidable.not_not]
  rfl

/-- **Letters of arguments in front move the least misfit by their number.** -/
theorem isLeast_misfits_append {before after : List Char}
    (hbefore : ∀ character ∈ before, character ∈ argumentAlphabet) :
    IsLeast (misfits (before ++ after)) position ↔
      ∃ index, position = before.length + index ∧ IsLeast (misfits after) index := by
  -- induction on the letters in front; each of them uses up one position
  induction before generalizing position with
  | nil => simp
  | cons letter others ih =>
      have hletter := hbefore letter List.mem_cons_self
      have hothers : ∀ character ∈ others, character ∈ argumentAlphabet :=
        fun character hmem => hbefore character (List.mem_cons_of_mem letter hmem)
      rw [List.cons_append]
      cases position with
      | zero =>
          rw [isLeast_zero_iff, zero_mem_misfits_cons, List.length_cons]
          constructor
          · intro hnot
            exact absurd hletter hnot
          · rintro ⟨index, hzero, -⟩
            omega
      | succ earlier =>
          rw [isLeast_misfits_cons_succ, ih hothers, List.length_cons]
          simp only [hletter, true_and]
          constructor
          · rintro ⟨index, rfl, hleast⟩
            exact ⟨index, by omega, hleast⟩
          · rintro ⟨index, hsame, hleast⟩
            exact ⟨index, by omega, hleast⟩

end

/-! ## Texts -/

/-- **The texts of the grammar**: one letter of a result, then letters of arguments. -/
def IsSpelling (text : String) : Prop :=
  ∃ first rest, text.toList = first :: rest ∧ first ∈ resultAlphabet ∧
    ∀ character ∈ rest, character ∈ argumentAlphabet

/-- **A character that cannot stand at a position**: one outside of the letters, or the letter for
no result behind the first position. -/
def IsDefect (position : Nat) (character : Char) : Prop :=
  character ∉ resultAlphabet ∨ character = 'V' ∧ 0 < position

/-- **The positions of the defects of a text**, counted in characters. -/
def defects (text : String) : Set Nat :=
  {position | ∃ character, text.toList[position]? = some character ∧ IsDefect position character}

/-- At the first position a defect is a character outside of the letters. -/
theorem isDefect_zero_iff {character : Char} :
    IsDefect 0 character ↔ character ∉ resultAlphabet := by
  simp [IsDefect]

/-- Behind the first position a defect is a character that is no letter of an argument. -/
theorem isDefect_succ_iff {position : Nat} {character : Char} :
    IsDefect (position + 1) character ↔ character ∉ argumentAlphabet := by
  have hvoid := void_notMem_argumentAlphabet
  by_cases hsame : character = 'V'
  · -- the one letter that has a kind and cannot stand here
    subst hsame
    simp [IsDefect, hvoid]
  · simp [IsDefect, mem_resultAlphabet_iff, hsame]

section

variable {text : String} {first : Char} {rest : List Char}

/-- A continued text has the same first character. -/
theorem toList_append_of_cons (hlist : text.toList = first :: rest) (more : String) :
    (text ++ more).toList = first :: (rest ++ more.toList) := by
  rw [String.toList_append, hlist, List.cons_append]

/-- A text has a defect at position zero when its first character is none of the letters. -/
theorem isLeast_defects_zero_iff (hlist : text.toList = first :: rest) :
    IsLeast (defects text) 0 ↔ first ∉ resultAlphabet := by
  rw [isLeast_zero_iff]
  constructor
  · rintro ⟨character, hfound, hdefect⟩
    rw [hlist] at hfound
    cases hfound
    exact isDefect_zero_iff.mp hdefect
  · intro hnot
    refine ⟨first, ?_, isDefect_zero_iff.mpr hnot⟩
    rw [hlist]
    rfl

/-- Behind the first character the least defect is the least misfit. -/
theorem isLeast_defects_succ_iff (hlist : text.toList = first :: rest) {position : Nat} :
    IsLeast (defects text) (position + 1) ↔
      first ∈ resultAlphabet ∧ IsLeast (misfits rest) position := by
  have hmoved : {earlier | earlier + 1 ∈ defects text} = misfits rest := by
    ext earlier
    show (∃ character, text.toList[earlier + 1]? = some character ∧ _) ↔
      ∃ character, rest[earlier]? = some character ∧ _
    simp only [hlist, List.getElem?_cons_succ, isDefect_succ_iff]
  rw [isLeast_succ_iff, hmoved, ← isLeast_zero_iff, isLeast_defects_zero_iff hlist,
    Decidable.not_not]

/-- Texts of the grammar have no defects. -/
theorem notMem_defects_of_isSpelling (hspelling : IsSpelling text) {position : Nat} :
    position ∉ defects text := by
  obtain ⟨first, rest, hlist, hfirst, hrest⟩ := hspelling
  rintro ⟨character, hfound, hdefect⟩
  rw [hlist] at hfound
  cases position with
  | zero =>
      cases hfound
      exact isDefect_zero_iff.mp hdefect hfirst
  | succ earlier =>
      rw [List.getElem?_cons_succ] at hfound
      exact isDefect_succ_iff.mp hdefect (hrest character (List.mem_of_getElem? hfound))

/-- Texts of the grammar are continued by letters of arguments. -/
theorem isSpelling_append_iff {rest : String} (hspelling : IsSpelling text) :
    IsSpelling (text ++ rest) ↔ ∀ character ∈ rest.toList, character ∈ argumentAlphabet := by
  obtain ⟨first, others, hlist, hfirst, hothers⟩ := hspelling
  have hwhole := toList_append_of_cons hlist rest
  constructor
  · rintro ⟨first', others', hlist', -, hall⟩ character hmem
    rw [hwhole, List.cons.injEq] at hlist'
    exact hall character (hlist'.2 ▸ List.mem_append_right others hmem)
  · intro hrest
    refine ⟨first, others ++ rest.toList, hwhole, hfirst, fun character hmem => ?_⟩
    rcases List.mem_append.mp hmem with hleft | hright
    · exact hothers character hleft
    · exact hrest character hright

/-- **Behind a text of the grammar the least defect is the least misfit of the continuation**, moved
by the length of the text. -/
theorem isLeast_defects_append_iff {rest : String} (hspelling : IsSpelling text)
    {position : Nat} :
    IsLeast (defects (text ++ rest)) position ↔
      ∃ index, position = text.length + index ∧ IsLeast (misfits rest.toList) index := by
  obtain ⟨first, others, hlist, hfirst, hothers⟩ := hspelling
  have hwhole := toList_append_of_cons hlist rest
  have hlength : text.length = others.length + 1 := by
    rw [← String.length_toList, hlist, List.length_cons]
  cases position with
  | zero =>
      rw [isLeast_defects_zero_iff hwhole]
      constructor
      · intro hnot
        exact absurd hfirst hnot
      · rintro ⟨index, hzero, -⟩
        omega
  | succ earlier =>
      rw [isLeast_defects_succ_iff hwhole, isLeast_misfits_append hothers]
      constructor
      · rintro ⟨-, index, rfl, hleast⟩
        exact ⟨index, by omega, hleast⟩
      · rintro ⟨index, hsame, hleast⟩
        exact ⟨hfirst, index, by omega, hleast⟩

end

/-! ## Reading stops at the least defect -/

/-- **The error that names a character at a position.** -/
def SignatureError.ofDefect (position : Nat) (character : Char) : SignatureError :=
  if character = 'V' then .voidArgument position else .unknownLetter character position

/-- The position that an error names, if it names one. -/
def SignatureError.position? : SignatureError → Option Nat
  | .empty => none
  | .unknownLetter _ position | .voidArgument position => some position

/-- The error of a defect names its position. -/
@[simp] theorem SignatureError.position?_ofDefect (position : Nat) (character : Char) :
    (ofDefect position character).position? = some position := by
  rw [ofDefect]
  split <;> rfl

namespace Signature

/-- A character is refused as a result's letter when it is none. -/
theorem readResult_eq_error_iff {character : Char} {error : SignatureError} :
    readResult character = .error error ↔
      character ∉ resultAlphabet ∧ error = .ofDefect 0 character := by
  rw [← Kind.ofLetter?_eq_none_iff, readResult]
  cases hread : Kind.ofLetter? character with
  | some kind => simp
  | none =>
      have hnotMem := Kind.ofLetter?_eq_none_iff.mp hread
      have hne : character ≠ 'V' := by
        rintro rfl
        exact hnotMem (by decide)
      rw [SignatureError.ofDefect, if_neg hne]
      simp [eq_comm]

/-- A character is refused as an argument's letter when it is none. -/
theorem readArgument_eq_error_iff {character : Char} {position : Nat} {error : SignatureError} :
    readArgument character position = .error error ↔
      character ∉ argumentAlphabet ∧ error = .ofDefect position character := by
  rw [readArgument]
  cases hread : Kind.ofLetter? character with
  | none =>
      have hnotMem := Kind.ofLetter?_eq_none_iff.mp hread
      rw [mem_resultAlphabet_iff, not_or] at hnotMem
      rw [SignatureError.ofDefect, if_neg hnotMem.1]
      simp [hnotMem.2, eq_comm]
  | some kind =>
      rw [Kind.ofLetter?_eq_some_iff] at hread
      subst hread
      by_cases hvoid : kind = .void
      · subst hvoid
        have hnotMem : Kind.void.letter ∉ argumentAlphabet := void_notMem_argumentAlphabet
        have herror : SignatureError.ofDefect position Kind.void.letter =
            .voidArgument position := if_pos rfl
        simp [hnotMem, herror, eq_comm]
      · have hmem := Kind.letter_mem_argumentAlphabet hvoid
        simp [hvoid, hmem]

/-- A character is read as a result's letter when it is one. -/
theorem exists_readResult_eq_ok_iff {character : Char} :
    (∃ kind, readResult character = .ok kind) ↔ character ∈ resultAlphabet := by
  simp [exists_eq_ok_iff, readResult_eq_error_iff]

/-- A character is read as an argument's letter when it is one. -/
theorem exists_readArgument_eq_ok_iff {character : Char} {position : Nat} :
    (∃ kind, readArgument character position = .ok kind) ↔ character ∈ argumentAlphabet := by
  simp [exists_eq_ok_iff, readArgument_eq_error_iff]

/-- **The arguments are refused at the least misfit.** -/
theorem readArguments_eq_error_iff {characters : List Char} {start : Nat}
    {error : SignatureError} :
    readArguments characters start = .error error ↔
      ∃ index character, IsLeast (misfits characters) index ∧
        characters[index]? = some character ∧ error = .ofDefect (start + index) character := by
  -- induction on the characters; the first one is refused, or the rest is read one position later
  induction characters generalizing start with
  | nil =>
      constructor
      · intro hread
        cases hread
      · rintro ⟨index, character, hleast, -⟩
        exact absurd hleast.1 notMem_misfits_nil
  | cons first rest ih =>
      simp only [readArguments_cons, bind_eq_error_iff, readArgument_eq_error_iff, pure,
        Except.pure, reduceCtorEq, and_false, exists_false, or_false]
      have hmoved : ∀ index, start + 1 + index = start + (index + 1) := fun index => by omega
      constructor
      · rintro (⟨hnot, rfl⟩ | ⟨kind, hkind, hrest⟩)
        · exact ⟨0, first, isLeast_zero_iff.mpr (zero_mem_misfits_cons.mpr hnot), rfl, rfl⟩
        · obtain ⟨index, character, hleast, hfound, rfl⟩ := ih.mp hrest
          have hfirst := exists_readArgument_eq_ok_iff.mp ⟨kind, hkind⟩
          have hnext := isLeast_misfits_cons_succ.mpr ⟨hfirst, hleast⟩
          exact ⟨index + 1, character, hnext, hfound, hmoved index ▸ rfl⟩
      · rintro ⟨index, character, hleast, hfound, rfl⟩
        cases index with
        | zero =>
            cases hfound
            exact Or.inl ⟨zero_mem_misfits_cons.mp hleast.1, rfl⟩
        | succ earlier =>
            obtain ⟨hfirst, hrest⟩ := isLeast_misfits_cons_succ.mp hleast
            obtain ⟨kind, hkind⟩ := exists_readArgument_eq_ok_iff.mpr hfirst
            exact Or.inr
              ⟨kind, hkind, ih.mpr ⟨earlier, character, hrest, hfound, hmoved earlier ▸ rfl⟩⟩

/-- **A text is refused when it is empty, or at its least defect.** -/
theorem parse_eq_error_iff {text : String} {error : SignatureError} :
    parse text = .error error ↔
      text = "" ∧ error = .empty ∨
        ∃ position character, IsLeast (defects text) position ∧
          text.toList[position]? = some character ∧ error = .ofDefect position character := by
  rw [parse]
  cases hlist : text.toList with
  | nil =>
      have hempty : text = "" := String.toList_eq_nil_iff.mp hlist
      simp [hempty, eq_comm]
  | cons first rest =>
      have hne : text ≠ "" := by
        rintro rfl
        cases hlist
      simp only [hne, false_and, false_or, bind_eq_error_iff, readResult_eq_error_iff,
        readArguments_eq_error_iff, pure, Except.pure, reduceCtorEq, and_false, exists_false,
        or_false]
      constructor
      · rintro (⟨hnot, rfl⟩ | ⟨kind, hkind, index, character, hleast, hfound, rfl⟩)
        · exact ⟨0, first, (isLeast_defects_zero_iff hlist).mpr hnot, rfl, rfl⟩
        · have hfirst := exists_readResult_eq_ok_iff.mp ⟨kind, hkind⟩
          have hnext := (isLeast_defects_succ_iff hlist).mpr ⟨hfirst, hleast⟩
          exact ⟨index + 1, character, hnext, hfound, Nat.add_comm 1 index ▸ rfl⟩
      · rintro ⟨position, character, hleast, hfound, rfl⟩
        cases position with
        | zero =>
            cases hfound
            exact Or.inl ⟨(isLeast_defects_zero_iff hlist).mp hleast, rfl⟩
        | succ index =>
            obtain ⟨hfirst, hrest⟩ := (isLeast_defects_succ_iff hlist).mp hleast
            obtain ⟨kind, hkind⟩ := exists_readResult_eq_ok_iff.mpr hfirst
            exact Or.inr ⟨kind, hkind, index, character, hrest, hfound,
              Nat.add_comm 1 index ▸ rfl⟩

/-! ## Texts, errors and continuations -/

/-- The text of a signature belongs to the grammar. -/
theorem isSpelling_text (signature : Signature) : IsSpelling signature.text := by
  refine ⟨_, _, signature.toList_text, signature.result.letter_mem_resultAlphabet, ?_⟩
  intro character hmem
  obtain ⟨kind, -, rfl⟩ := List.mem_map.mp hmem
  exact Kind.letter_mem_argumentAlphabet kind.property

variable {text : String}

/-- **The texts that are read are those of the grammar.** -/
theorem exists_parse_eq_ok_iff : (∃ signature, parse text = .ok signature) ↔ IsSpelling text := by
  constructor
  · rintro ⟨signature, hparse⟩
    rw [parse_eq_ok_iff.mp hparse]
    exact signature.isSpelling_text
  · intro hspelling
    rw [exists_eq_ok_iff]
    intro error herror
    rcases parse_eq_error_iff.mp herror with ⟨rfl, -⟩ | ⟨position, character, hleast, -⟩
    · obtain ⟨first, rest, hlist, -⟩ := hspelling
      cases hlist
    · exact notMem_defects_of_isSpelling hspelling hleast.1

/-- The error without a position is that of the empty text. -/
theorem parse_eq_error_empty_iff : parse text = .error .empty ↔ text = "" := by
  rw [parse_eq_error_iff]
  constructor
  · rintro (⟨hempty, -⟩ | ⟨position, character, -, -, herror⟩)
    · exact hempty
    · -- the error of a defect has a position
      have hposition := congrArg SignatureError.position? herror
      rw [SignatureError.position?_ofDefect] at hposition
      cases hposition
  · intro hempty
    exact Or.inl ⟨hempty, rfl⟩

/-- **An unknown letter is the least defect**, and is outside of all letters. -/
theorem parse_eq_error_unknownLetter_iff {character : Char} {position : Nat} :
    parse text = .error (.unknownLetter character position) ↔
      IsLeast (defects text) position ∧ text.toList[position]? = some character ∧
        character ∉ resultAlphabet := by
  rw [parse_eq_error_iff]
  constructor
  · rintro (⟨-, herror⟩ | ⟨index, found, hleast, hfound, herror⟩)
    · cases herror
    · rw [SignatureError.ofDefect] at herror
      split at herror
      · cases herror
      · rename_i hne
        cases herror
        -- what is not the letter for no result can only be a defect by being no letter
        obtain ⟨other, hother, hdefect⟩ := hleast.1
        rw [hfound, Option.some.injEq] at hother
        subst hother
        exact ⟨hleast, hfound, hdefect.resolve_right fun hvoid => hne hvoid.1⟩
  · rintro ⟨hleast, hfound, hnotMem⟩
    have hne : character ≠ 'V' := fun hvoid => hnotMem (mem_resultAlphabet_iff.mpr (Or.inl hvoid))
    exact Or.inr ⟨position, character, hleast, hfound, (if_neg hne).symm⟩

/-- **A refused letter for no result is the least defect.** -/
theorem parse_eq_error_voidArgument_iff {position : Nat} :
    parse text = .error (.voidArgument position) ↔
      IsLeast (defects text) position ∧ text.toList[position]? = some 'V' := by
  rw [parse_eq_error_iff]
  constructor
  · rintro (⟨-, herror⟩ | ⟨index, found, hleast, hfound, herror⟩)
    · cases herror
    · rw [SignatureError.ofDefect] at herror
      split at herror
      · rename_i hvoid
        cases herror
        exact ⟨hleast, hvoid ▸ hfound⟩
      · cases herror
  · rintro ⟨hleast, hfound⟩
    exact Or.inr ⟨position, 'V', hleast, hfound, rfl⟩

/-- **Behind a text of the grammar, reading stops at the least misfit of the continuation.** -/
theorem exists_parse_append_eq_error_iff {rest : String} (hspelling : IsSpelling text)
    {position : Nat} :
    (∃ error, parse (text ++ rest) = .error error ∧ error.position? = some position) ↔
      ∃ index, position = text.length + index ∧ IsLeast (misfits rest.toList) index := by
  rw [← isLeast_defects_append_iff hspelling]
  constructor
  · rintro ⟨error, herror, hposition⟩
    rcases parse_eq_error_iff.mp herror with ⟨-, rfl⟩ | ⟨found, character, hleast, -, rfl⟩
    · cases hposition
    · rw [SignatureError.position?_ofDefect, Option.some.injEq] at hposition
      exact hposition ▸ hleast
  · intro hleast
    obtain ⟨character, hfound, -⟩ := hleast.1
    exact ⟨.ofDefect position character,
      parse_eq_error_iff.mpr (Or.inr ⟨position, character, hleast, hfound, rfl⟩),
      SignatureError.position?_ofDefect position character⟩

/-- **Reading accepts the grammar and names the leftmost defect.** A text is read, as the signature
whose text it is, exactly when it belongs to the grammar. Each of the three errors arises for its
own reason and for no other: the empty text; a least defect outside of all letters, which is named
with its position; a least defect that is the letter for no result. Every text that is neither
empty nor of the grammar has a least defect. Behind a text that is read, letters of arguments and
nothing else can follow, and the first other character is the one that is named, at its position
in the whole. -/
theorem parse_exact (text : String) :
    ((∃ signature, parse text = .ok signature ∧ signature.text = text) ↔ IsSpelling text) ∧
    (parse text = .error .empty ↔ text = "") ∧
    (∀ character position, parse text = .error (.unknownLetter character position) ↔
      IsLeast (defects text) position ∧ text.toList[position]? = some character ∧
        character ∉ resultAlphabet) ∧
    (∀ position, parse text = .error (.voidArgument position) ↔
      IsLeast (defects text) position ∧ text.toList[position]? = some 'V') ∧
    (text = "" ∨ IsSpelling text ∨ ∃ position, IsLeast (defects text) position) ∧
    ∀ signature rest, parse text = .ok signature →
      ((∃ longer, parse (text ++ rest) = .ok longer) ↔
        ∀ character ∈ rest.toList, character ∈ argumentAlphabet) ∧
      ∀ position,
        (∃ error, parse (text ++ rest) = .error error ∧ error.position? = some position) ↔
          ∃ index, position = text.length + index ∧ IsLeast (misfits rest.toList) index := by
  refine ⟨?_, parse_eq_error_empty_iff, fun _ _ => parse_eq_error_unknownLetter_iff,
    fun _ => parse_eq_error_voidArgument_iff, ?_, ?_⟩
  · rw [← exists_parse_eq_ok_iff]
    constructor
    · rintro ⟨signature, hparse, -⟩
      exact ⟨signature, hparse⟩
    · rintro ⟨signature, hparse⟩
      exact ⟨signature, hparse, (parse_eq_ok_iff.mp hparse).symm⟩
  · cases hparse : parse text with
    | ok signature => exact Or.inr (Or.inl (exists_parse_eq_ok_iff.mp ⟨signature, hparse⟩))
    | error error =>
        rcases parse_eq_error_iff.mp hparse with ⟨hempty, -⟩ | ⟨position, character, hleast, -⟩
        · exact Or.inl hempty
        · exact Or.inr (Or.inr ⟨position, hleast⟩)
  · intro signature rest hparse
    have hspelling := exists_parse_eq_ok_iff.mp ⟨signature, hparse⟩
    constructor
    · rw [exists_parse_eq_ok_iff, isSpelling_append_iff hspelling]
    · intro position
      exact exists_parse_append_eq_error_iff hspelling

/-- Behind a text of two letters, an accented character in the second place is named at position
three, whatever comes after it. -/
theorem parse_exact_accented :
    parse "VF" = .ok ⟨.void, [⟨.float, by decide⟩]⟩ ∧
      ∃ error, parse ("VF" ++ "IéV") = .error error ∧ error.position? = some 3 := by
  have hparse : parse "VF" = .ok ⟨.void, [⟨.float, by decide⟩]⟩ := rfl
  have hleast : IsLeast (misfits "IéV".toList) 1 := by
    show IsLeast (misfits ['I', 'é', 'V']) 1
    rw [isLeast_misfits_cons_succ, isLeast_zero_iff, zero_mem_misfits_cons]
    decide
  obtain ⟨-, -, -, -, -, hlonger⟩ := parse_exact "VF"
  exact ⟨hparse, ((hlonger _ "IéV" hparse).2 3).mpr ⟨1, rfl, hleast⟩⟩

end Signature

end CallFrame
