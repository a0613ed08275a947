import CallFrame.Layout
import CallFrame.Proofs.Alignment
import CallFrame.Proofs.Counting

/-! # Exact frame sizes

Every size is first written as a natural number, without any bound, and then compared with what the
operations on words return. Each operation either returns its exact number or faults, so nothing
ever wraps.

* **`Convention.exactOutArgs`** and **`Convention.stubContents`** — the bytes of stack arguments and
  the bytes that a stub keeps, before alignment.
* **`StubLayout.make_eq_ok_iff`** — when a stub has a layout, and which one.
* **`callArgs_eq_ok_iff`**, **`stubFrame_eq_ok_iff`**, **`directFrame_eq_ok_iff`** — when the
  queries on a counted text return, and what; the `..._eq_error_iff` lemmas name the fault.
* **`stubLayout_eq_ok_iff`** — the same for the layout of a signature. -/

namespace CallFrame

namespace Convention

/-! ## Sizes in natural numbers -/

/-- The number of arguments that find no register left in their file. -/
def spilled (convention : Convention) (tally : Tally) : Nat :=
  (tally.floatingPoint.toNat - convention.floatingPointRegisters.toNat) +
    (tally.integer.toNat - convention.integerRegisters.toNat)

/-- The bytes of stack arguments: one word for each argument without a register. -/
def exactOutArgs (convention : Convention) (tally : Tally) : Nat :=
  convention.spilled tally * convention.wordSize.toNat

/-- The bytes that a stub keeps: its stack arguments and, unless it is a tail call, a word for the
return address. -/
def stubContents (convention : Convention) (outArgs : Nat) (narrow : Bool) : Nat :=
  outArgs + if outArgs ≠ 0 ∨ narrow = true then convention.wordSize.toNat else 0

/-- No word is smaller than one byte, so the stack arguments are no more than their bytes. -/
theorem spilled_le_exactOutArgs (convention : Convention) (tally : Tally) :
    convention.spilled tally ≤ convention.exactOutArgs tally :=
  Nat.le_mul_of_pos_right _ convention.wordSize_pos

/-- A stub keeps at least its stack arguments. -/
theorem le_stubContents (convention : Convention) (outArgs : Nat) (narrow : Bool) :
    outArgs ≤ convention.stubContents outArgs narrow :=
  Nat.le_add_right outArgs _

/-! ## Stack arguments -/

/-- **The stack arguments have a size exactly when it fits a word.** The number of stack arguments
needs no bound of its own, since it is below the number of bytes. -/
theorem outArgs_eq_ok_iff (convention : Convention) {tally : Tally} {size : Word} :
    convention.outArgs tally.floatingPoint tally.integer = .ok size ↔
      size.toNat = convention.exactOutArgs tally := by
  simp only [outArgs, bind_eq_ok_iff, Word.plus_eq_ok_iff, Word.times_eq_ok_iff, Word.toNat_excess]
  constructor
  · rintro ⟨slots, hslots, hsize⟩
    rw [hsize, hslots]
    rfl
  · intro hsize
    -- the bytes fit a word, so their words do, and the sum cannot have faulted before the product
    have hle := convention.spilled_le_exactOutArgs tally
    have hbound := Word.toNat_lt_bound size
    obtain ⟨slots, hslots⟩ :=
      Word.exists_toNat_eq (show convention.spilled tally < Word.bound by omega)
    refine ⟨slots, hslots, ?_⟩
    rw [hslots]
    exact hsize

/-- The stack arguments have no size when their number, or else their bytes, do not fit a word. -/
theorem outArgs_eq_error_iff (convention : Convention) {tally : Tally} {fault : Fault} :
    convention.outArgs tally.floatingPoint tally.integer = .error fault ↔
      fault = .sumOverflow ∧ Word.bound ≤ convention.spilled tally ∨
        fault = .productOverflow ∧ convention.spilled tally < Word.bound ∧
          Word.bound ≤ convention.exactOutArgs tally := by
  simp only [outArgs, bind_eq_error_iff, Word.plus_eq_error_iff, Word.plus_eq_ok_iff,
    Word.times_eq_error_iff, Word.toNat_excess]
  constructor
  · rintro (hsum | ⟨slots, hslots, hfault, hbytes⟩)
    · exact Or.inl hsum
    · -- the sum was returned, so it is exact and below the bound
      have hbound := Word.toNat_lt_bound slots
      rw [hslots] at hbound hbytes
      exact Or.inr ⟨hfault, hbound, hbytes⟩
  · rintro (hsum | ⟨hfault, hfits, hbytes⟩)
    · exact Or.inl hsum
    · obtain ⟨slots, hslots⟩ := Word.exists_toNat_eq hfits
      refine Or.inr ⟨slots, hslots, hfault, ?_⟩
      rw [hslots]
      exact hbytes

end Convention

/-! ## Stub layouts -/

namespace StubLayout

variable {convention : Convention} {outArgs : Word} {narrow : Bool}

/-- The return address is kept when there are stack arguments or the result is narrow. -/
theorem savesReturnAddress_iff :
    (outArgs != 0 || narrow) = true ↔ outArgs.toNat ≠ 0 ∨ narrow = true := by
  rw [Ne, Word.toNat_eq_zero_iff]
  simp

/-- The bytes that a stub keeps, as a word. -/
def used (convention : Convention) (outArgs : Word) (narrow : Bool) : Except Fault Word :=
  if outArgs != 0 || narrow then outArgs.plus convention.wordSize else .ok outArgs

/-- The bytes that a stub keeps are the exact ones, provided that these fit a word. -/
theorem used_eq_ok_iff {size : Word} :
    used convention outArgs narrow = .ok size ↔
      size.toNat = convention.stubContents outArgs.toNat narrow := by
  rw [used, Convention.stubContents]
  by_cases hsaves : (outArgs != 0 || narrow) = true
  · rw [if_pos hsaves, if_pos (savesReturnAddress_iff.mp hsaves), Word.plus_eq_ok_iff]
  · -- a tail call adds nothing, and nothing can fault
    rw [if_neg hsaves, if_neg (mt savesReturnAddress_iff.mpr hsaves), Except.ok.injEq,
      Nat.add_zero, ← UInt64.toNat_inj]
    exact eq_comm

/-- The bytes that a stub keeps do not fit exactly when they reach the bound. -/
theorem used_eq_error_iff {fault : Fault} :
    used convention outArgs narrow = .error fault ↔
      fault = .sumOverflow ∧ Word.bound ≤ convention.stubContents outArgs.toNat narrow := by
  rw [used, Convention.stubContents]
  by_cases hsaves : (outArgs != 0 || narrow) = true
  · rw [if_pos hsaves, if_pos (savesReturnAddress_iff.mp hsaves), Word.plus_eq_error_iff]
  · have hbound := Word.toNat_lt_bound outArgs
    rw [if_neg hsaves, if_neg (mt savesReturnAddress_iff.mpr hsaves)]
    simp [hbound]

/-- A layout is made in two steps: the bytes are added up, then they are aligned. -/
theorem make_eq_bind :
    make convention outArgs narrow =
      (used convention outArgs narrow >>= fun size =>
        roundUp size convention.stackAlignment >>= fun aligned =>
          .ok ⟨outArgs, outArgs != 0 || narrow, aligned⟩) := by
  -- the conditional inside the sequence was compiled to a jump; both branches join the same way
  unfold make used
  dsimp only
  split <;> rfl

/-- **A stub has a layout exactly when the bytes that it keeps fit a word with one alignment to
spare.** The layout repeats the stack arguments and says whether the return address is kept. -/
theorem make_eq_ok_iff {layout : StubLayout} :
    make convention outArgs narrow = .ok layout ↔
      layout.outArgs = outArgs ∧ layout.savesReturnAddress = (outArgs != 0 || narrow) ∧
        convention.stubContents outArgs.toNat narrow + convention.stackAlignment.toNat <
          Word.bound ∧
        layout.size.toNat = alignUp (convention.stubContents outArgs.toNat narrow)
          convention.stackAlignment.toNat := by
  simp only [make_eq_bind, bind_eq_ok_iff, used_eq_ok_iff,
    roundUp_eq_ok_iff convention.stackAlignment_isPowerOfTwo, Except.ok.injEq]
  constructor
  · rintro ⟨used, hused, size, ⟨hfits, hsize⟩, rfl⟩
    rw [hused] at hfits hsize
    exact ⟨rfl, rfl, hfits, hsize⟩
  · rintro ⟨hout, hsaves, hfits, hsize⟩
    -- room for one alignment more means that the bytes themselves were added up
    obtain ⟨used, hused⟩ := Word.exists_toNat_eq (Nat.lt_of_le_of_lt (Nat.le_add_right _ _) hfits)
    refine ⟨used, hused, layout.size, ?_, ?_⟩
    · rw [hused]
      exact ⟨hfits, hsize⟩
    · rw [← hsaves, ← hout]

/-- A stub without a layout has too many bytes to add up or to align. -/
theorem make_eq_error_iff {fault : Fault} :
    make convention outArgs narrow = .error fault ↔
      fault = .sumOverflow ∧ Word.bound ≤
        convention.stubContents outArgs.toNat narrow + convention.stackAlignment.toNat := by
  simp only [make_eq_bind, bind_eq_error_iff, used_eq_error_iff, used_eq_ok_iff,
    roundUp_eq_error_iff convention.stackAlignment_isPowerOfTwo, reduceCtorEq, and_false,
    exists_false, or_false]
  constructor
  · rintro (⟨hfault, hover⟩ | ⟨size, hsize, hfault, hover⟩)
    · -- adding up overflows already, and then aligning would as well
      exact ⟨hfault, by omega⟩
    · rw [hsize] at hover
      exact ⟨hfault, hover⟩
  · rintro ⟨hfault, hover⟩
    by_cases hfits : convention.stubContents outArgs.toNat narrow < Word.bound
    · obtain ⟨size, hsize⟩ := Word.exists_toNat_eq hfits
      refine Or.inr ⟨size, hsize, hfault, ?_⟩
      rw [hsize]
      exact hover
    · exact Or.inl ⟨hfault, Nat.le_of_not_lt hfits⟩

/-- The size of a layout is its exact bytes, aligned. -/
theorem size_eq_ok_iff {size : Word} :
    (make convention outArgs narrow >>= fun layout => .ok layout.size) = .ok size ↔
      convention.stubContents outArgs.toNat narrow + convention.stackAlignment.toNat < Word.bound ∧
        size.toNat = alignUp (convention.stubContents outArgs.toNat narrow)
          convention.stackAlignment.toNat := by
  simp only [bind_eq_ok_iff, make_eq_ok_iff, Except.ok.injEq]
  constructor
  · rintro ⟨layout, ⟨-, -, hfits, hsize⟩, rfl⟩
    exact ⟨hfits, hsize⟩
  · rintro ⟨hfits, hsize⟩
    exact ⟨⟨outArgs, outArgs != 0 || narrow, size⟩, ⟨rfl, rfl, hfits, hsize⟩, rfl⟩

/-- A layout without a size is one that cannot be made. -/
theorem size_eq_error_iff {fault : Fault} :
    (make convention outArgs narrow >>= fun layout => .ok layout.size) = .error fault ↔
      fault = .sumOverflow ∧ Word.bound ≤
        convention.stubContents outArgs.toNat narrow + convention.stackAlignment.toNat := by
  simp [bind_eq_error_iff, make_eq_error_iff]

end StubLayout

/-! ## Narrow results -/

/-- Whether a text opens with one of the letters `Z`, `B`, `C` and `S`. -/
def opensNarrow (text : String) : Bool :=
  text.toList.head?.any fun letter => letter ∈ ['Z', 'B', 'C', 'S']

/-- The narrow results are those written with one of four letters. -/
theorem hasNarrowResult_eq_opensNarrow (text : String) :
    hasNarrowResult text = opensNarrow text := by
  rw [hasNarrowResult, opensNarrow]
  cases text.toList.head? with
  | none => rfl
  | some letter =>
      show (Kind.ofLetter? letter).any Kind.isNarrow = _
      -- one case for each letter, and one for a character that is no letter of a kind
      unfold Kind.ofLetter?
      split <;> simp_all [Kind.isNarrow]

/-! ## Queries on a counted text -/

namespace Convention

variable {convention : Convention} {text : String} {tally : Tally}

/-- Recording a layout leaves its outcome as it is. -/
theorem outcome_tracedLayout {outArgs : Word} {narrow : Bool} :
    (convention.tracedLayout text outArgs narrow).outcome =
      StubLayout.make convention outArgs narrow := by
  rw [tracedLayout]
  simp only [Traced.outcome_bind, Traced.outcome_ofExcept, Traced.outcome_emit]
  cases StubLayout.make convention outArgs narrow <;> rfl

/-- The stack arguments of a counted text are those of its tally. -/
theorem callArgs_of_ofText (htally : Tally.ofText text = .ok tally) :
    convention.callArgs text = convention.outArgs tally.floatingPoint tally.integer := by
  rw [callArgs, htally]
  rfl

/-- **The stack arguments of a counted text have a size exactly when it fits a word.** -/
theorem callArgs_eq_ok_iff (htally : Tally.ofText text = .ok tally) {size : Word} :
    convention.callArgs text = .ok size ↔ size.toNat = convention.exactOutArgs tally := by
  rw [callArgs_of_ofText htally, outArgs_eq_ok_iff]

/-- The size of a stub's frame is that of the layout for the stack arguments. -/
theorem outcome_stubFrame :
    (convention.stubFrame text).outcome =
      (convention.callArgs text >>= fun outArgs =>
        StubLayout.make convention outArgs (hasNarrowResult text) >>= fun layout =>
          .ok layout.size) := by
  rw [stubFrame]
  simp only [Traced.outcome_bind, Traced.outcome_ofExcept, outcome_tracedLayout,
    Traced.outcome_pure]

/-- The size of a direct call's frame is that of its stack arguments, aligned. -/
theorem outcome_directFrame :
    (convention.directFrame text).outcome =
      (convention.callArgs text >>= fun outArgs =>
        roundUp outArgs convention.stackAlignment) := by
  rw [directFrame]
  simp only [Traced.outcome_bind, Traced.outcome_ofExcept, Traced.outcome_emit,
    Traced.outcome_pure]
  exact bind_congr fun outArgs => bind_pure _

section

variable (value : Nat → Nat) {next : Word → Except Fault Word} {alignment : Nat}

/-- A query that aligns some `value` of the stack arguments returns exactly when that value of the
exact stack arguments fits a word with one alignment to spare. -/
theorem callArgs_bind_eq_ok_iff (htally : Tally.ofText text = .ok tally)
    (hle : ∀ number, number ≤ value number)
    (hnext : ∀ outArgs size, next outArgs = .ok size ↔
      value outArgs.toNat + alignment < Word.bound ∧
        size.toNat = alignUp (value outArgs.toNat) alignment) {size : Word} :
    (convention.callArgs text >>= next) = .ok size ↔
      value (convention.exactOutArgs tally) + alignment < Word.bound ∧
        size.toNat = alignUp (value (convention.exactOutArgs tally)) alignment := by
  simp only [bind_eq_ok_iff, callArgs_eq_ok_iff htally, hnext]
  constructor
  · rintro ⟨outArgs, hout, hsize⟩
    rw [← hout]
    exact hsize
  · rintro ⟨hfits, hsize⟩
    -- the aligned value covers the stack arguments, so these fit too
    have hbelow := hle (convention.exactOutArgs tally)
    obtain ⟨outArgs, hout⟩ :=
      Word.exists_toNat_eq (show convention.exactOutArgs tally < Word.bound by omega)
    refine ⟨outArgs, hout, ?_⟩
    rw [hout]
    exact ⟨hfits, hsize⟩

/-- Such a query faults as the stack arguments do, or because the value cannot be aligned. -/
theorem callArgs_bind_eq_error_iff (htally : Tally.ofText text = .ok tally)
    (hnext : ∀ outArgs fault, next outArgs = .error fault ↔
      fault = .sumOverflow ∧ Word.bound ≤ value outArgs.toNat + alignment) {fault : Fault} :
    (convention.callArgs text >>= next) = .error fault ↔
      convention.callArgs text = .error fault ∨
        fault = .sumOverflow ∧ convention.exactOutArgs tally < Word.bound ∧
          Word.bound ≤ value (convention.exactOutArgs tally) + alignment := by
  simp only [bind_eq_error_iff, callArgs_eq_ok_iff htally, hnext]
  refine or_congr_right ⟨?_, ?_⟩
  · rintro ⟨outArgs, hout, hfault, hover⟩
    rw [← hout]
    exact ⟨hfault, Word.toNat_lt_bound outArgs, hover⟩
  · rintro ⟨hfault, hfits, hover⟩
    obtain ⟨outArgs, hout⟩ := Word.exists_toNat_eq hfits
    refine ⟨outArgs, hout, hfault, ?_⟩
    rw [hout]
    exact hover

end

/-- The exact bytes that the stub for a counted text keeps. -/
def exactStub (convention : Convention) (text : String) (tally : Tally) : Nat :=
  convention.stubContents (convention.exactOutArgs tally) (hasNarrowResult text)

/-- **The stub's frame for a counted text.** -/
theorem stubFrame_eq_ok_iff (htally : Tally.ofText text = .ok tally) {size : Word} :
    (convention.stubFrame text).outcome = .ok size ↔
      convention.exactStub text tally + convention.stackAlignment.toNat < Word.bound ∧
        size.toNat =
          alignUp (convention.exactStub text tally) convention.stackAlignment.toNat := by
  rw [outcome_stubFrame]
  exact callArgs_bind_eq_ok_iff
    (fun number => convention.stubContents number (hasNarrowResult text)) htally
    (fun _ => convention.le_stubContents _ _) fun _ _ => StubLayout.size_eq_ok_iff

/-- The direct call's frame for a counted text. -/
theorem directFrame_eq_ok_iff (htally : Tally.ofText text = .ok tally) {size : Word} :
    (convention.directFrame text).outcome = .ok size ↔
      convention.exactOutArgs tally + convention.stackAlignment.toNat < Word.bound ∧
        size.toNat =
          alignUp (convention.exactOutArgs tally) convention.stackAlignment.toNat := by
  rw [outcome_directFrame]
  exact callArgs_bind_eq_ok_iff (fun number => number) htally (fun _ => Nat.le_refl _)
    fun _ _ => roundUp_eq_ok_iff convention.stackAlignment_isPowerOfTwo

/-- The stub's frame faults with its stack arguments, or because its bytes cannot be aligned. -/
theorem stubFrame_eq_error_iff (htally : Tally.ofText text = .ok tally) {fault : Fault} :
    (convention.stubFrame text).outcome = .error fault ↔
      convention.callArgs text = .error fault ∨
        fault = .sumOverflow ∧ convention.exactOutArgs tally < Word.bound ∧
          Word.bound ≤
            convention.exactStub text tally + convention.stackAlignment.toNat := by
  rw [outcome_stubFrame]
  exact callArgs_bind_eq_error_iff
    (fun number => convention.stubContents number (hasNarrowResult text)) htally
    fun _ _ => StubLayout.size_eq_error_iff

/-- The direct call's frame faults with its stack arguments, or because these cannot be aligned. -/
theorem directFrame_eq_error_iff (htally : Tally.ofText text = .ok tally) {fault : Fault} :
    (convention.directFrame text).outcome = .error fault ↔
      convention.callArgs text = .error fault ∨
        fault = .sumOverflow ∧ convention.exactOutArgs tally < Word.bound ∧
          Word.bound ≤
            convention.exactOutArgs tally + convention.stackAlignment.toNat := by
  rw [outcome_directFrame]
  exact callArgs_bind_eq_error_iff (fun number => number) htally
    fun _ _ => roundUp_eq_error_iff convention.stackAlignment_isPowerOfTwo

/-! ## Layouts of signatures -/

/-- The layout for a signature is made from its tally. -/
theorem outcome_stubLayout {signature : Signature} :
    (convention.stubLayout signature).outcome =
      (Tally.ofSignature signature >>= fun tally =>
        convention.outArgs tally.floatingPoint tally.integer >>= fun outArgs =>
          StubLayout.make convention outArgs signature.result.isNarrow) := by
  rw [stubLayout]
  simp only [Traced.outcome_bind, Traced.outcome_ofExcept, outcome_tracedLayout]

/-- **The layout for a signature** holds the exact stack arguments of its tally, and its size is
that of the bytes kept, aligned. -/
theorem stubLayout_eq_ok_iff {signature : Signature} {layout : StubLayout} :
    (convention.stubLayout signature).outcome = .ok layout ↔
      ∃ tally, Tally.ofSignature signature = .ok tally ∧
        layout.outArgs.toNat = convention.exactOutArgs tally ∧
        layout.savesReturnAddress = (layout.outArgs != 0 || signature.result.isNarrow) ∧
        convention.stubContents layout.outArgs.toNat signature.result.isNarrow +
          convention.stackAlignment.toNat < Word.bound ∧
        layout.size.toNat = alignUp
          (convention.stubContents layout.outArgs.toNat signature.result.isNarrow)
          convention.stackAlignment.toNat := by
  simp only [outcome_stubLayout, bind_eq_ok_iff, outArgs_eq_ok_iff, StubLayout.make_eq_ok_iff]
  constructor
  · rintro ⟨tally, htally, outArgs, hout, rfl, hlayout⟩
    exact ⟨tally, htally, hout, hlayout⟩
  · rintro ⟨tally, htally, hout, hlayout⟩
    exact ⟨tally, htally, layout.outArgs, hout, rfl, hlayout⟩

end Convention

end CallFrame
