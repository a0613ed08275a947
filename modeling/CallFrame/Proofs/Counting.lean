import CallFrame.Tally

/-! # Exact tallies

Both ways of counting arguments are exact: no count leaves its word, and each is the number that
it stands for.

* **`Tally.ofText_eq_ok`** — a text that is not empty and stays below the bound is counted byte by
  byte, and its two counts add up to the number of bytes counted.
* **`Tally.ofSignature_eq_ok_iff`** — a signature's tally holds the number of arguments of each
  register file, `Tally.countOf`.
* **`Tally.ofText_text`** — the two agree on the text of a signature. -/

namespace CallFrame

/-- A text takes the bytes of its characters. -/
theorem utf8ByteSize_eq_length (text : String) :
    text.utf8ByteSize = (text.toList.flatMap String.utf8EncodeChar).length := by
  obtain ⟨characters, rfl⟩ := text.exists_eq_ofList
  rw [String.toList_ofList, ← String.size_toByteArray, String.toByteArray_ofList, List.utf8Encode,
    List.size_toByteArray]

namespace Tally

/-! ## Texts that nobody has checked -/

/-- The bytes that are counted leave out at least one byte, which is the first character's. -/
theorem length_argumentBytes_lt {text : String} (hne : text ≠ "") :
    (argumentBytes text.toList).length < text.utf8ByteSize := by
  rw [utf8ByteSize_eq_length]
  cases hlist : text.toList with
  | nil => exact absurd (String.toList_eq_nil_iff.mp hlist) hne
  | cons first rest =>
      have hpos := first.utf8Size_pos
      rw [List.flatMap_cons, List.length_append, String.length_utf8EncodeChar, argumentBytes]
      split
      · omega
      · -- behind a first character of several bytes nothing is counted at all
        rw [List.length_nil]
        omega

/-- **A text below the bound is counted exactly.** The floating-point count is the number of bytes
that pass the test, and both counts together are all bytes after the first. -/
theorem ofText_eq_ok {text : String} (hne : text ≠ "") (hfits : text.utf8ByteSize < Word.bound) :
    ∃ tally, ofText text = .ok tally ∧
      tally.floatingPoint.toNat = (argumentBytes text.toList).countP isFloatingPointByte ∧
      tally.floatingPoint.toNat + tally.integer.toNat = (argumentBytes text.toList).length := by
  have hlength := length_argumentBytes_lt hne
  have hlist : text.toList.isEmpty = false := by
    simpa [String.toList_eq_nil_iff] using hne
  rw [ofText, if_neg (by simp [hlist])]
  generalize argumentBytes text.toList = bytes at hlength ⊢
  have hle : bytes.countP isFloatingPointByte ≤ bytes.length := List.countP_le_length
  have hall : bytes.countP (fun _ => true) = bytes.length := by rw [List.countP_true]
  -- both counts fit a word, and so does what is left for the integer arguments
  obtain ⟨fp, hfp, hfpValue⟩ :=
    Word.exists_count (show bytes.countP isFloatingPointByte < Word.bound by omega)
  obtain ⟨length, hlen, hlenValue⟩ :=
    Word.exists_count (show bytes.countP (fun _ => true) < Word.bound by omega)
  obtain ⟨int, hintValue⟩ := Word.exists_toNat_eq
    (show bytes.length - bytes.countP isFloatingPointByte < Word.bound by omega)
  have hint : Word.minus length fp = .ok int := Word.minus_eq_ok_iff.mpr (by omega)
  refine ⟨⟨fp, int⟩, ?_, hfpValue, by dsimp only; omega⟩
  simp only [bind_eq_ok_iff]
  exact ⟨fp, hfp, length, hlen, int, hint, rfl⟩

/-! ## Signatures -/

/-- The number of arguments that are passed in registers of a file. -/
def countOf (file : RegisterClass) (arguments : List ArgumentKind) : Nat :=
  arguments.countP fun kind => kind.val.registerClass = file

/-- Without arguments nothing is counted. -/
@[simp] theorem countOf_nil (file : RegisterClass) : countOf file [] = 0 := rfl

/-- The first argument counts for its own file. -/
@[simp] theorem countOf_cons (file : RegisterClass) (kind : ArgumentKind)
    (rest : List ArgumentKind) :
    countOf file (kind :: rest) =
      countOf file rest + if kind.val.registerClass = file then 1 else 0 := by
  simp [countOf, List.countP_cons]

/-- The arguments of two lists are counted one list after the other. -/
theorem countOf_append (file : RegisterClass) (arguments others : List ArgumentKind) :
    countOf file (arguments ++ others) = countOf file arguments + countOf file others :=
  List.countP_append

/-- Every argument counts for one of the two files. -/
theorem countOf_add (arguments : List ArgumentKind) :
    countOf .floatingPoint arguments + countOf .integer arguments = arguments.length := by
  induction arguments with
  | nil => rfl
  | cons kind rest ih =>
      rw [countOf_cons, countOf_cons, List.length_cons, ← ih]
      cases kind.val.registerClass
      · rw [if_pos rfl, if_neg (by decide)]
        omega
      · rw [if_neg (by decide), if_pos rfl]
        omega

/-- Two tallies with equal numbers are the same. -/
theorem toNat_inj {tally other : Tally} :
    tally = other ↔ tally.floatingPoint.toNat = other.floatingPoint.toNat ∧
      tally.integer.toNat = other.integer.toNat := by
  cases tally
  cases other
  simp [UInt64.toNat_inj]

/-- One more argument raises the count of its own file by one and leaves the other. -/
theorem add_eq_ok_iff {tally next : Tally} {file : RegisterClass} :
    tally.add file = .ok next ↔
      next.floatingPoint.toNat =
          tally.floatingPoint.toNat + (if file = .floatingPoint then 1 else 0) ∧
        next.integer.toNat = tally.integer.toNat + (if file = .integer then 1 else 0) := by
  cases file
  · simp only [add, bind_eq_ok_iff, Word.plus_eq_ok_iff, pure, Except.pure, Except.ok.injEq]
    constructor
    · rintro ⟨sum, hsum, rfl⟩
      exact ⟨hsum, rfl⟩
    · rintro ⟨hsum, hsame⟩
      refine ⟨next.floatingPoint, hsum, ?_⟩
      rw [toNat_inj]
      exact ⟨rfl, hsame.symm⟩
  · simp only [add, bind_eq_ok_iff, Word.plus_eq_ok_iff, pure, Except.pure, Except.ok.injEq]
    constructor
    · rintro ⟨sum, hsum, rfl⟩
      exact ⟨rfl, hsum⟩
    · rintro ⟨hsame, hsum⟩
      refine ⟨next.integer, hsum, ?_⟩
      rw [toNat_inj]
      exact ⟨hsame.symm, rfl⟩

/-- **Counting from a tally on adds the number of arguments of each file to it.** -/
theorem foldlM_add_eq_ok_iff {arguments : List ArgumentKind} {start tally : Tally} :
    arguments.foldlM (fun current kind => current.add kind.val.registerClass) start = .ok tally ↔
      tally.floatingPoint.toNat = start.floatingPoint.toNat + countOf .floatingPoint arguments ∧
        tally.integer.toNat = start.integer.toNat + countOf .integer arguments := by
  -- induction on the arguments; the tally counted so far is the accumulator and so is generalized
  induction arguments generalizing start with
  | nil =>
      rw [List.foldlM_nil, show (pure start : Except Fault Tally) = .ok start from rfl,
        Except.ok.injEq, toNat_inj]
      simp [eq_comm]
  | cons kind rest ih =>
      rw [List.foldlM_cons, bind_eq_ok_iff, countOf_cons, countOf_cons]
      constructor
      · -- what the first argument adds and what the rest adds, put together
        rintro ⟨next, hadd, hrest⟩
        obtain ⟨hfp, hint⟩ := add_eq_ok_iff.mp hadd
        obtain ⟨hfp', hint'⟩ := ih.mp hrest
        constructor <;> omega
      · rintro ⟨hfp, hint⟩
        -- the next tally is below the last one, whose numbers fit a word
        have hfpBound := Word.toNat_lt_bound tally.floatingPoint
        have hintBound := Word.toNat_lt_bound tally.integer
        obtain ⟨fp, hfpNext⟩ := Word.exists_toNat_eq (show start.floatingPoint.toNat +
          (if kind.val.registerClass = .floatingPoint then 1 else 0) < Word.bound by omega)
        obtain ⟨int, hintNext⟩ := Word.exists_toNat_eq (show start.integer.toNat +
          (if kind.val.registerClass = .integer then 1 else 0) < Word.bound by omega)
        refine ⟨⟨fp, int⟩, add_eq_ok_iff.mpr ⟨hfpNext, hintNext⟩, ih.mpr ?_⟩
        constructor <;> dsimp only <;> omega

/-- **A signature's tally is its number of arguments of each file.** There is no tally exactly when
one of the numbers does not fit a word. -/
theorem ofSignature_eq_ok_iff {signature : Signature} {tally : Tally} :
    ofSignature signature = .ok tally ↔
      tally.floatingPoint.toNat = countOf .floatingPoint signature.arguments ∧
        tally.integer.toNat = countOf .integer signature.arguments := by
  rw [ofSignature, foldlM_add_eq_ok_iff]
  simp [zero]

/-! ## The text of a signature -/

/-- The byte of a kind's letter counts as a floating-point argument exactly when the kind is passed
in a floating-point register. -/
theorem isFloatingPointByte_letter (kind : Kind) :
    isFloatingPointByte kind.letter.toUInt8 = decide (kind.registerClass = .floatingPoint) := by
  cases kind <;> rfl

/-- Letters of kinds take one byte each, so their bytes are themselves. -/
theorem flatMap_letter (arguments : List ArgumentKind) :
    (arguments.map fun kind => kind.val.letter).flatMap String.utf8EncodeChar =
      arguments.map fun kind => kind.val.letter.toUInt8 := by
  induction arguments with
  | nil => rfl
  | cons kind rest ih =>
      rw [List.map_cons, List.flatMap_cons, ih,
        String.utf8EncodeChar_eq_singleton (Kind.utf8Size_letter kind.val)]
      rfl

/-- The bytes that are counted in the text of a signature are the letters of its arguments. -/
theorem argumentBytes_text (signature : Signature) :
    argumentBytes signature.text.toList =
      signature.arguments.map fun kind => kind.val.letter.toUInt8 := by
  rw [Signature.toList_text, argumentBytes, if_pos (Kind.utf8Size_letter _), flatMap_letter]

/-- The byte test picks out the arguments of the floating-point file. -/
theorem countP_argumentBytes_text (signature : Signature) :
    (argumentBytes signature.text.toList).countP isFloatingPointByte =
      countOf .floatingPoint signature.arguments := by
  rw [argumentBytes_text, List.countP_map, countOf]
  congr 1
  funext kind
  exact isFloatingPointByte_letter kind.val

/-- The text of a signature takes one byte for the result and one for each argument. -/
theorem utf8ByteSize_text (signature : Signature) :
    signature.text.utf8ByteSize = signature.arguments.length + 1 := by
  rw [utf8ByteSize_eq_length, Signature.toList_text, List.flatMap_cons, flatMap_letter,
    List.length_append, String.length_utf8EncodeChar, Kind.utf8Size_letter, List.length_map]
  omega

/-- A signature has a text of at least one letter. -/
theorem text_ne_empty (signature : Signature) : signature.text ≠ "" := by
  intro hempty
  have hsize := utf8ByteSize_text signature
  rw [hempty, String.utf8ByteSize_empty] at hsize
  omega

/-- **Both ways of counting agree on the text of a signature.** -/
theorem ofText_text {signature : Signature} (hfits : signature.text.utf8ByteSize < Word.bound) :
    ∃ tally, ofText signature.text = .ok tally ∧ ofSignature signature = .ok tally := by
  obtain ⟨tally, htext, hfp, htotal⟩ := ofText_eq_ok (text_ne_empty signature) hfits
  refine ⟨tally, htext, ?_⟩
  rw [countP_argumentBytes_text] at hfp
  rw [argumentBytes_text, List.length_map] at htotal
  -- the integer arguments are then the rest on both sides
  have hadd := countOf_add signature.arguments
  exact ofSignature_eq_ok_iff.mpr ⟨hfp, by omega⟩

end Tally

end CallFrame
