import CallFrame.Proofs.Faults

/-! # Tallies of bytes and of characters

A text that nobody has checked is counted byte by byte, while its reader thinks of it in characters.
The two agree on letters, which take one byte each. This file says what is counted in any other
text, and where the two ways of counting part.

* **`Tally.bytesFromSecond`** — the bytes of a text from its second byte on, unless this one is
  inside of a character; `argumentBytes_eq_bytesFromSecond` says that these are the bytes counted.
* **`Tally.countP_utf8EncodeChar`** — no byte of a character of several bytes is taken for a letter.
* **`Tally.CountsCharacters`** — the tally by characters; `countsCharacters_iff` compares it with
  the tally by bytes.
* **`Tally.ofText_exact`** — what is counted in every text, and the texts on which bytes and
  characters give the same tally. -/

namespace CallFrame

/-! ## Characters of one byte and of several -/

/-- A character takes one byte exactly when it is one of the first 128. -/
theorem utf8Size_eq_one_iff {character : Char} :
    character.utf8Size = 1 ↔ character.toNat < 128 := by
  rw [Char.utf8Size_eq_one_iff, UInt32.le_iff_toNat_le]
  exact Nat.lt_succ_iff.symm

/-- **Every byte of a character of several bytes has its highest bit set.** -/
theorem le_toNat_of_mem_utf8EncodeChar {character : Char} {byte : UInt8}
    (hlong : character.utf8Size ≠ 1) (hmem : byte ∈ String.utf8EncodeChar character) :
    128 ≤ byte.toNat := by
  -- each byte is six bits or fewer with a mark above them, and every mark has the highest bit
  have hmarked : ∀ bits mark : UInt8, 128 ≤ mark.toNat → 128 ≤ (bits ||| mark).toNat := by
    intro bits mark hmark
    rw [UInt8.toNat_or]
    exact Nat.le_trans hmark Nat.right_le_or
  rcases character.utf8Size_eq with hone | htwo | hthree | hfour
  · exact absurd hone hlong
  · rw [String.utf8EncodeChar_eq_cons_cons htwo] at hmem
    simp only [List.mem_cons, List.not_mem_nil, or_false] at hmem
    rcases hmem with rfl | rfl <;> exact hmarked _ _ (by decide)
  · rw [String.utf8EncodeChar_eq_cons_cons_cons hthree] at hmem
    simp only [List.mem_cons, List.not_mem_nil, or_false] at hmem
    rcases hmem with rfl | rfl | rfl <;> exact hmarked _ _ (by decide)
  · rw [String.utf8EncodeChar_eq_cons_cons_cons_cons hfour] at hmem
    simp only [List.mem_cons, List.not_mem_nil, or_false] at hmem
    rcases hmem with rfl | rfl | rfl | rfl <;> exact hmarked _ _ (by decide)

/-- There are no fewer bytes than characters. -/
theorem length_le_length_flatMap_utf8EncodeChar (characters : List Char) :
    characters.length ≤ (characters.flatMap String.utf8EncodeChar).length := by
  induction characters with
  | nil => simp
  | cons first rest ih =>
      have hpos := first.utf8Size_pos
      rw [List.flatMap_cons, List.length_append, String.length_utf8EncodeChar, List.length_cons]
      omega

/-- **There are as many bytes as characters exactly when every character takes one byte.** -/
theorem length_flatMap_utf8EncodeChar_eq_iff {characters : List Char} :
    (characters.flatMap String.utf8EncodeChar).length = characters.length ↔
      ∀ character ∈ characters, character.toNat < 128 := by
  induction characters with
  | nil => simp
  | cons first rest ih =>
      have hpos := first.utf8Size_pos
      have hle := length_le_length_flatMap_utf8EncodeChar rest
      rw [List.flatMap_cons, List.length_append, String.length_utf8EncodeChar, List.length_cons,
        List.forall_mem_cons, ← utf8Size_eq_one_iff, ← ih]
      -- neither part has fewer bytes than characters, so neither can make up for the other
      omega

namespace Tally

variable {text : String} {first : Char} {rest : List Char}

/-! ## The bytes that are counted -/

/-- **The bytes of a text from its second byte on**, or none when the second byte is inside of a
character. -/
def bytesFromSecond (text : String) : List UInt8 :=
  if String.Pos.Raw.isValid text ⟨1⟩ then text.toByteArray.data.toList.drop 1 else []

/-- The second byte is inside of a character exactly when the first character takes several. -/
theorem isValid_second_iff (hlist : text.toList = first :: rest) :
    String.Pos.Raw.isValid text ⟨1⟩ = true ↔ first.utf8Size = 1 := by
  have hpos := first.utf8Size_pos
  rw [String.Pos.Raw.isValid_eq_true_iff, String.Pos.Raw.isValid_iff_exists_take_toList, hlist]
  constructor
  · rintro ⟨number, hsize⟩
    rcases number with _ | number
    · simp at hsize
    · rw [List.take_succ_cons, utf8ByteSize_eq_length, String.toList_ofList, List.flatMap_cons,
        List.length_append, String.length_utf8EncodeChar] at hsize
      dsimp only at hsize
      omega
  · intro hone
    exact ⟨1, by simp [hone]⟩

/-- **The bytes that are counted are those from the second one on.** -/
theorem argumentBytes_eq_bytesFromSecond (hlist : text.toList = first :: rest) :
    argumentBytes text.toList = bytesFromSecond text := by
  have hbytes : text.toByteArray.data.toList = text.toList.flatMap String.utf8EncodeChar := by
    obtain ⟨characters, rfl⟩ := text.exists_eq_ofList
    rw [String.toByteArray_ofList, List.utf8Encode, List.data_toByteArray, String.toList_ofList,
      List.toList_toArray]
  rw [bytesFromSecond, hbytes, hlist, argumentBytes]
  by_cases hone : first.utf8Size = 1
  · rw [if_pos hone, if_pos ((isValid_second_iff hlist).mpr hone), List.flatMap_cons,
      String.utf8EncodeChar_eq_singleton hone, List.singleton_append, List.drop_succ_cons,
      List.drop_zero]
  · rw [if_neg hone, if_neg (mt (isValid_second_iff hlist).mp hone)]

/-! ## Letters among the bytes -/

/-- The letters that count as floating-point arguments. -/
def floatingPointLetters : List Char := ['F', 'D']

/-- The letters by their code points. -/
theorem mem_floatingPointLetters_iff {character : Char} :
    character ∈ floatingPointLetters ↔ character.toNat = 70 ∨ character.toNat = 68 := by
  simp only [floatingPointLetters, List.mem_cons, List.not_mem_nil, or_false, ← Char.toNat_inj]
  rfl

/-- The bytes that count as floating-point arguments by their numbers, which are those of the
letters. -/
theorem isFloatingPointByte_iff {byte : UInt8} :
    isFloatingPointByte byte = true ↔ byte.toNat = 70 ∨ byte.toNat = 68 := by
  simp only [isFloatingPointByte, Bool.or_eq_true, beq_iff_eq, ← UInt8.toNat_inj]
  rfl

/-- **A character counts as a floating-point argument exactly when it is one of the letters**, and
then it counts once. -/
theorem countP_utf8EncodeChar (character : Char) :
    (String.utf8EncodeChar character).countP isFloatingPointByte =
      if character ∈ floatingPointLetters then 1 else 0 := by
  simp only [mem_floatingPointLetters_iff]
  by_cases hone : character.utf8Size = 1
  · -- the only byte is the code point
    have hlt := utf8Size_eq_one_iff.mp hone
    have hbyte : character.val.toUInt8.toNat = character.toNat :=
      Nat.mod_eq_of_lt (Nat.lt_trans hlt (by decide))
    rw [String.utf8EncodeChar_eq_singleton hone, List.countP_singleton]
    simp only [isFloatingPointByte_iff, hbyte]
  · -- the code point is too large for a letter, and so is every byte
    have hlarge : ¬character.toNat < 128 := mt utf8Size_eq_one_iff.mpr hone
    rw [if_neg (by omega), List.countP_eq_zero]
    intro byte hmem hletter
    have hhigh := le_toNat_of_mem_utf8EncodeChar hone hmem
    rcases isFloatingPointByte_iff.mp hletter with heq | heq <;> omega

/-- **The bytes of characters hold as many floating-point arguments as the characters hold
letters.** -/
theorem countP_flatMap_utf8EncodeChar (characters : List Char) :
    (characters.flatMap String.utf8EncodeChar).countP isFloatingPointByte =
      characters.countP (· ∈ floatingPointLetters) := by
  induction characters with
  | nil => rfl
  | cons first rest ih =>
      rw [List.flatMap_cons, List.countP_append, countP_utf8EncodeChar, ih, List.countP_cons]
      simp [Nat.add_comm]

/-! ## Both tallies -/

/-- **A tally by characters**: a letter `F` or `D` is one floating-point argument, and every other
character is one integer argument. -/
def CountsCharacters (tally : Tally) (characters : List Char) : Prop :=
  tally.floatingPoint.toNat = characters.countP (· ∈ floatingPointLetters) ∧
    tally.integer.toNat = characters.countP (· ∉ floatingPointLetters)

/-- Every character is counted once. -/
theorem countP_letters_add (characters : List Char) :
    characters.countP (· ∈ floatingPointLetters) + characters.countP (· ∉ floatingPointLetters) =
      characters.length := by
  rw [List.length_eq_countP_add_countP (· ∈ floatingPointLetters)]
  simp

variable {tally : Tally}

/-- **Behind a first character of one byte** the letters are counted among the characters, and
everything together by its bytes. -/
theorem ofText_of_utf8Size_eq_one (hlist : text.toList = first :: rest)
    (hfits : text.utf8ByteSize < Word.bound) (hone : first.utf8Size = 1)
    (htally : ofText text = .ok tally) :
    tally.floatingPoint.toNat = rest.countP (· ∈ floatingPointLetters) ∧
      tally.floatingPoint.toNat + tally.integer.toNat =
        (rest.flatMap String.utf8EncodeChar).length := by
  obtain ⟨-, hfp, hint⟩ := (ofText_eq_ok_iff hfits).mp htally
  have hadd := floatingPointBytes_add text
  have hbytes : argumentBytes text.toList = rest.flatMap String.utf8EncodeChar := by
    rw [hlist, argumentBytes, if_pos hone]
  rw [hbytes] at hadd
  refine ⟨?_, by omega⟩
  rw [hfp, floatingPointBytes, hbytes, countP_flatMap_utf8EncodeChar]

/-- **Behind a first character of several bytes nothing is counted.** -/
theorem ofText_of_utf8Size_ne_one (hlist : text.toList = first :: rest)
    (hfits : text.utf8ByteSize < Word.bound) (hlong : first.utf8Size ≠ 1)
    (htally : ofText text = .ok tally) : tally = zero := by
  obtain ⟨-, hfp, hint⟩ := (ofText_eq_ok_iff hfits).mp htally
  have hbytes : argumentBytes text.toList = [] := by
    rw [hlist, argumentBytes, if_neg hlong]
  rw [toNat_inj, hfp, hint, floatingPointBytes, integerBytes, hbytes]
  exact ⟨rfl, rfl⟩

/-- Nothing at all counts no characters but none. -/
theorem countsCharacters_zero_iff {characters : List Char} :
    zero.CountsCharacters characters ↔ characters = [] := by
  have hadd := countP_letters_add characters
  rw [← List.length_eq_zero_iff]
  constructor
  · rintro ⟨hfp, hint⟩
    change 0 = _ at hfp hint
    omega
  · intro hempty
    rw [List.length_eq_zero_iff] at hempty
    subst hempty
    exact ⟨rfl, rfl⟩

/-- **Bytes and characters give the same tally** exactly when all characters take one byte, or when
there is nothing to count behind the first one. -/
theorem countsCharacters_iff (hlist : text.toList = first :: rest)
    (hfits : text.utf8ByteSize < Word.bound) (htally : ofText text = .ok tally) :
    tally.CountsCharacters rest ↔
      (∀ character ∈ text.toList, character.toNat < 128) ∨ rest = [] := by
  rw [hlist, List.forall_mem_cons, ← utf8Size_eq_one_iff]
  by_cases hone : first.utf8Size = 1
  · obtain ⟨hfp, hsum⟩ := ofText_of_utf8Size_eq_one hlist hfits hone htally
    have hadd := countP_letters_add rest
    -- the letters agree, so the tallies do when there are as many bytes as characters
    have hsame : tally.CountsCharacters rest ↔
        (rest.flatMap String.utf8EncodeChar).length = rest.length := by
      rw [CountsCharacters]
      omega
    rw [hsame, length_flatMap_utf8EncodeChar_eq_iff]
    constructor
    · exact fun hall => Or.inl ⟨hone, hall⟩
    · rintro (⟨-, hall⟩ | rfl)
      · exact hall
      · simp
  · rw [ofText_of_utf8Size_ne_one hlist hfits hone htally, countsCharacters_zero_iff]
    simp [hone]

/-- **What is counted in a text.** In every text that is not empty, the bytes from the second one
on are counted, unless the second byte is inside of the first character. Behind a first character
of one byte, the floating-point count is the number of letters `F` and `D`, and both counts
together are the number of bytes; behind a first character of several bytes, both counts are zero.
This is the tally by characters exactly when all characters of the text are among the first 128, or
when there is only one. -/
theorem ofText_exact (hlist : text.toList = first :: rest)
    (hfits : text.utf8ByteSize < Word.bound) :
    ∃ tally total, ofText text = .ok tally ∧ tally.total = .ok total ∧
      argumentBytes text.toList = bytesFromSecond text ∧
      (first.utf8Size = 1 →
        tally.floatingPoint.toNat = rest.countP (· ∈ ['F', 'D']) ∧
          total.toNat = (String.ofList rest).utf8ByteSize) ∧
      (1 < first.utf8Size → tally.floatingPoint = 0 ∧ tally.integer = 0) ∧
      (tally.CountsCharacters rest ↔
        (∀ character ∈ text.toList, character.toNat < 128) ∨ rest = []) := by
  have hne : text ≠ "" := by
    rintro rfl
    cases hlist
  obtain ⟨tally, htally, -, hsum⟩ := ofText_eq_ok hne hfits
  have hlt := length_argumentBytes_lt hne
  obtain ⟨total, htotal⟩ := Word.exists_toNat_eq
    (show tally.floatingPoint.toNat + tally.integer.toNat < Word.bound by omega)
  refine ⟨tally, total, htally, Word.plus_eq_ok_iff.mpr htotal,
    argumentBytes_eq_bytesFromSecond hlist, fun hone => ?_, fun hlong => ?_,
    countsCharacters_iff hlist hfits htally⟩
  · obtain ⟨hfp, hbytes⟩ := ofText_of_utf8Size_eq_one hlist hfits hone htally
    refine ⟨hfp, ?_⟩
    rw [htotal, hbytes, utf8ByteSize_eq_length, String.toList_ofList]
  · rw [ofText_of_utf8Size_ne_one hlist hfits (by omega) htally]
    exact ⟨rfl, rfl⟩

/-- An accented letter behind another letter counts twice, once for each of its bytes. -/
theorem ofText_exact_accented :
    "VéF".toList = ['V', 'é', 'F'] ∧ "VéF".utf8ByteSize < Word.bound ∧
      ∃ tally total, ofText "VéF" = .ok tally ∧ tally.total = .ok total ∧
        tally.floatingPoint.toNat = 1 ∧ total.toNat = 3 ∧ ¬tally.CountsCharacters ['é', 'F'] := by
  have hlist : "VéF".toList = ['V', 'é', 'F'] := rfl
  have hfits : "VéF".utf8ByteSize < Word.bound := by decide
  obtain ⟨tally, total, htally, htotal, -, hone, -, hcounts⟩ := ofText_exact hlist hfits
  obtain ⟨hfp, hbytes⟩ := hone rfl
  refine ⟨hlist, hfits, tally, total, htally, htotal, hfp, hbytes, ?_⟩
  rw [hcounts, hlist]
  rintro (hascii | hnone)
  · have haccented : 'é'.toNat < 128 := hascii 'é' (by simp)
    exact absurd haccented (by decide)
  · cases hnone

end Tally

end CallFrame
