import CallFrame.Proofs.ReturnedSizes

/-! # Larger words

Two conventions with the same registers can differ in their unit alone: the words and the stack
alignment of one are those of the other, taken the same number of times. No query has a unit of its
own, so all sizes then differ by that number as well, as long as the larger ones fit a word.

* **`Convention.Magnifies`** — such a convention; `exactOutArgs_eq` and `exactStub_eq` are the sizes
  in natural numbers.
* **`ReturnsMultiple`** — a query that returns a number of times what another one does.
* **`Magnifies.returnsMultiple_callArgs`** and its companions for the two frames — each query that
  returns for the larger words returns for the smaller ones, with the sizes in proportion.
* **`StubLayout.IsMultiple`** — layouts in proportion, which keep a return address alike.
* **`Convention.sizes_magnified`** — where the stub of the larger words has a frame, everything has
  a size for both, and all sizes are in proportion. -/

namespace CallFrame

/-- **Two queries that both return, the first one a number of times what the second one does.** -/
def ReturnsMultiple (factor : Nat) (outcome other : Except Fault Word) : Prop :=
  ∃ multiple size : Word, outcome = .ok multiple ∧ other = .ok size ∧
    multiple.toNat = factor * size.toNat

/-- **A layout with a number of times the bytes of another one**, which keeps a return address
exactly where the other one does. -/
structure StubLayout.IsMultiple (factor : Nat) (multiple layout : StubLayout) : Prop where
  /-- The stack arguments are in proportion. -/
  outArgs : multiple.outArgs.toNat = factor * layout.outArgs.toNat
  /-- The return address is kept in both, or in neither. -/
  savesReturnAddress : multiple.savesReturnAddress = layout.savesReturnAddress
  /-- The frames are in proportion. -/
  size : multiple.size.toNat = factor * layout.size.toNat

namespace Convention

/-- **A convention in a larger unit**: its registers are those of another one, and its words and its
stack alignment are the other one's, taken the same number of times. -/
structure Magnifies (factor : Nat) (larger convention : Convention) : Prop where
  /-- There are as many floating-point registers. -/
  floatingPoint : larger.floatingPointRegisters = convention.floatingPointRegisters
  /-- There are as many registers for everything else. -/
  integer : larger.integerRegisters = convention.integerRegisters
  /-- The words are in proportion. -/
  wordSize : larger.wordSize.toNat = factor * convention.wordSize.toNat
  /-- The stack alignments are in proportion. -/
  stackAlignment : larger.stackAlignment.toNat = factor * convention.stackAlignment.toNat

namespace Magnifies

variable {larger convention : Convention} {factor : Nat} {text : String} {size : Word}

/-- The unit is taken at least once, since the larger words have at least one byte. -/
theorem factor_pos (hlarger : Magnifies factor larger convention) : 0 < factor := by
  have hword := larger.wordSize_pos
  rw [hlarger.wordSize] at hword
  exact Nat.pos_of_mul_pos_right hword

/-! ## Sizes in natural numbers -/

/-- As many arguments find no register, and each of them takes a larger word. -/
theorem exactOutArgs_eq (hlarger : Magnifies factor larger convention) (tally : Tally) :
    larger.exactOutArgs tally = factor * convention.exactOutArgs tally := by
  rw [exactOutArgs, exactOutArgs, spilled, spilled, hlarger.floatingPoint, hlarger.integer,
    hlarger.wordSize, Nat.mul_left_comm]

/-- Bytes in the larger unit are none exactly when they are none in the smaller one. -/
theorem mul_ne_zero_iff (hlarger : Magnifies factor larger convention) (number : Nat) :
    factor * number ≠ 0 ↔ number ≠ 0 := by
  rw [Ne, Nat.mul_eq_zero, or_iff_right (Nat.pos_iff_ne_zero.mp hlarger.factor_pos)]

/-- The return address takes a larger word, and is kept for the same reasons. -/
theorem stubContents_eq (hlarger : Magnifies factor larger convention) (outArgs : Nat)
    (narrow : Bool) :
    larger.stubContents (factor * outArgs) narrow =
      factor * convention.stubContents outArgs narrow := by
  rw [stubContents, stubContents, Nat.mul_add]
  by_cases hsaves : outArgs ≠ 0 ∨ narrow = true
  · have hlargerSaves := hsaves.imp_left (hlarger.mul_ne_zero_iff outArgs).mpr
    rw [if_pos hsaves, if_pos hlargerSaves, hlarger.wordSize]
  · have hlargerTail := mt (Or.imp_left (hlarger.mul_ne_zero_iff outArgs).mp) hsaves
    rw [if_neg hsaves, if_neg hlargerTail, Nat.mul_zero]

/-- A stub keeps its bytes in proportion. -/
theorem exactStub_eq (hlarger : Magnifies factor larger convention) (text : String)
    (tally : Tally) :
    larger.exactStub text tally = factor * convention.exactStub text tally := by
  rw [exactStub, exactStub, hlarger.exactOutArgs_eq, hlarger.stubContents_eq]

/-! ## Queries -/

/-- **Aligned values in proportion are returned in proportion.** The larger value reaches the bound
first, so the smaller one is returned where the larger one is. -/
theorem returnsMultiple_of_aligned (hlarger : Magnifies factor larger convention)
    {outcome other : Except Fault Word} {value : Nat}
    (houtcome : ∀ size, outcome = .ok size ↔
      factor * value + larger.stackAlignment.toNat < Word.bound ∧
        size.toNat = alignUp (factor * value) larger.stackAlignment.toNat)
    (hother : ∀ size, other = .ok size ↔
      value + convention.stackAlignment.toNat < Word.bound ∧
        size.toNat = alignUp value convention.stackAlignment.toNat)
    (hreturned : outcome = .ok size) : ReturnsMultiple factor outcome other := by
  have ha := convention.stackAlignment_pos
  obtain ⟨hfits, hsize⟩ := (houtcome size).mp hreturned
  rw [hlarger.stackAlignment, ← Nat.mul_add] at hfits
  rw [hlarger.stackAlignment, alignUp_mul_left hlarger.factor_pos ha] at hsize
  have hroom : value + convention.stackAlignment.toNat < Word.bound :=
    Nat.lt_of_le_of_lt (Nat.le_mul_of_pos_left _ hlarger.factor_pos) hfits
  obtain ⟨smaller, hsmaller⟩ := exists_toNat_eq_alignUp ha hroom
  refine ⟨size, smaller, hreturned, (hother smaller).mpr ⟨hroom, hsmaller⟩, ?_⟩
  rw [hsize, hsmaller]

/-- **The stack arguments are in proportion.** -/
theorem returnsMultiple_callArgs (hlarger : Magnifies factor larger convention)
    (hargs : larger.callArgs text = .ok size) :
    ReturnsMultiple factor (larger.callArgs text) (convention.callArgs text) := by
  obtain ⟨tally, hcounted⟩ := exists_tally_of_callArgs hargs
  have hsize := (callArgs_eq_ok_iff hcounted).mp hargs
  rw [hlarger.exactOutArgs_eq] at hsize
  have hle : convention.exactOutArgs tally ≤ size.toNat :=
    hsize ▸ Nat.le_mul_of_pos_left _ hlarger.factor_pos
  obtain ⟨smaller, hsmaller⟩ :=
    Word.exists_toNat_eq (Nat.lt_of_le_of_lt hle (Word.toNat_lt_bound size))
  refine ⟨size, smaller, hargs, (callArgs_eq_ok_iff hcounted).mpr hsmaller, ?_⟩
  rw [hsize, hsmaller]

/-- **The frames of the stub are in proportion.** -/
theorem returnsMultiple_stubFrame (hlarger : Magnifies factor larger convention)
    (hstub : (larger.stubFrame text).outcome = .ok size) :
    ReturnsMultiple factor (larger.stubFrame text).outcome
      (convention.stubFrame text).outcome := by
  obtain ⟨tally, hcounted⟩ := exists_tally_of_stubFrame hstub
  refine hlarger.returnsMultiple_of_aligned (fun _ => ?_)
    (fun _ => stubFrame_eq_ok_iff hcounted) hstub
  rw [stubFrame_eq_ok_iff hcounted, hlarger.exactStub_eq]

/-- **The frames of the direct call are in proportion.** -/
theorem returnsMultiple_directFrame (hlarger : Magnifies factor larger convention)
    (hdirect : (larger.directFrame text).outcome = .ok size) :
    ReturnsMultiple factor (larger.directFrame text).outcome
      (convention.directFrame text).outcome := by
  obtain ⟨tally, hcounted⟩ := exists_tally_of_directFrame hdirect
  refine hlarger.returnsMultiple_of_aligned (fun _ => ?_)
    (fun _ => directFrame_eq_ok_iff hcounted) hdirect
  rw [directFrame_eq_ok_iff hcounted, hlarger.exactOutArgs_eq]

/-! ## Layouts -/

/-- **The layouts of a signature are in proportion**, where it has one for both. -/
theorem isMultiple_of_stubLayout (hlarger : Magnifies factor larger convention)
    {signature : Signature} {multiple layout : StubLayout}
    (hmultiple : (larger.stubLayout signature).outcome = .ok multiple)
    (hlayout : (convention.stubLayout signature).outcome = .ok layout) :
    multiple.IsMultiple factor layout := by
  obtain ⟨tally, htally, hout, hsaves, -, hsize⟩ := stubLayout_eq_ok_iff.mp hmultiple
  obtain ⟨counted, hcounted, hout', hsaves', -, hsize'⟩ := stubLayout_eq_ok_iff.mp hlayout
  -- the arguments are counted without looking at the convention
  obtain rfl : tally = counted := Except.ok.inj (htally.symm.trans hcounted)
  rw [hlarger.exactOutArgs_eq, ← hout'] at hout
  refine ⟨hout, ?_, ?_⟩
  · rw [hsaves, hsaves', Bool.eq_iff_iff, StubLayout.savesReturnAddress_iff,
      StubLayout.savesReturnAddress_iff, hout, hlarger.mul_ne_zero_iff]
  · rw [hsize, hsize', hout, hlarger.stubContents_eq, hlarger.stackAlignment,
      alignUp_mul_left hlarger.factor_pos convention.stackAlignment_pos]

end Magnifies

/-- **Sizes are in proportion to the unit of a convention.** When two conventions have the same
registers, and the words and the stack alignment of one are those of the other taken the same number
of times, then every text whose stub has a frame for the larger words is sized by every query for
both; each size for the larger words is the one for the smaller words taken that number of times;
and a text that is read as a signature has a layout for both, with the return address kept in both
or in neither. -/
theorem sizes_magnified {larger convention : Convention} {factor : Nat}
    (hlarger : Magnifies factor larger convention) {text : String} {size : Word}
    (hstub : (larger.stubFrame text).outcome = .ok size) :
    ReturnsMultiple factor (larger.stubFrame text).outcome (convention.stubFrame text).outcome ∧
    ReturnsMultiple factor (larger.callArgs text) (convention.callArgs text) ∧
    ReturnsMultiple factor (larger.directFrame text).outcome
      (convention.directFrame text).outcome ∧
    ∀ signature, Signature.parse text = .ok signature →
      ∃ multiple layout, (larger.stubLayout signature).outcome = .ok multiple ∧
        (convention.stubLayout signature).outcome = .ok layout ∧
        multiple.IsMultiple factor layout := by
  -- for the larger words the other two queries return because the stub's does
  obtain ⟨outArgs, hargs⟩ := exists_callArgs_of_stubFrame hstub
  obtain ⟨direct, hdirect⟩ := exists_directFrame_of_stubFrame hstub
  have hstubs := hlarger.returnsMultiple_stubFrame hstub
  refine ⟨hstubs, hlarger.returnsMultiple_callArgs hargs,
    hlarger.returnsMultiple_directFrame hdirect, ?_⟩
  intro signature hparse
  obtain ⟨-, smaller, -, hsmaller, -⟩ := hstubs
  obtain ⟨multiple, hmultiple, -⟩ := exists_layout_of_stubFrame hparse hstub
  obtain ⟨layout, hlayout, -⟩ := exists_layout_of_stubFrame hparse hsmaller
  exact ⟨multiple, layout, hmultiple, hlayout, hlarger.isMultiple_of_stubLayout hmultiple hlayout⟩

/-- With words of an eighth of the bound and eight registers of each file, ten integer arguments and
a narrow result still have frames: as many times those of the standard convention as the words are
larger. -/
theorem sizes_magnified_eighth_bound :
    let larger : Convention := ⟨8, 8, 2305843009213693952, 4611686018427387904, by decide,
      ⟨62, by decide⟩, by decide⟩
    let signature : Signature := ⟨.boolean, List.replicate 10 ⟨.long, by decide⟩⟩
    Magnifies 288230376151711744 larger aapcs64 ∧
      (larger.stubFrame "ZJJJJJJJJJJ").outcome = .ok 9223372036854775808 ∧
      (aapcs64.directFrame "ZJJJJJJJJJJ").outcome = .ok 16 ∧
      (larger.directFrame "ZJJJJJJJJJJ").outcome = .ok 4611686018427387904 ∧
      Signature.parse "ZJJJJJJJJJJ" = .ok signature ∧
      ∃ multiple layout, (larger.stubLayout signature).outcome = .ok multiple ∧
        (aapcs64.stubLayout signature).outcome = .ok layout ∧
        multiple.IsMultiple 288230376151711744 layout := by
  intro larger signature
  have hlarger : Magnifies 288230376151711744 larger aapcs64 :=
    ⟨rfl, rfl, by decide, by decide⟩
  have htally : Tally.ofText "ZJJJJJJJJJJ" = .ok ⟨0, 10⟩ := rfl
  have hstub : (larger.stubFrame "ZJJJJJJJJJJ").outcome = .ok 9223372036854775808 :=
    (stubFrame_eq_ok_iff htally).mpr ⟨by decide, by decide⟩
  have hdirect : (aapcs64.directFrame "ZJJJJJJJJJJ").outcome = .ok 16 :=
    (directFrame_eq_ok_iff htally).mpr ⟨by decide, by decide⟩
  have hparse : Signature.parse "ZJJJJJJJJJJ" = .ok signature := rfl
  obtain ⟨-, -, hdirects, hlayouts⟩ := sizes_magnified hlarger hstub
  obtain ⟨multiple, size, hmultiple, hsize, hproportion⟩ := hdirects
  obtain rfl : 16 = size := Except.ok.inj (hdirect.symm.trans hsize)
  have hvalue : multiple = 4611686018427387904 := UInt64.toNat_inj.mp hproportion
  rw [hvalue] at hmultiple
  exact ⟨hlarger, hstub, hdirect, hmultiple, hparse, hlayouts signature hparse⟩

end Convention

end CallFrame
