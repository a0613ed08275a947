import CallFrame.Proofs.FrameSize

/-! # Stub frames and direct-call frames

A stub keeps the stack arguments of a direct call and at most one word more. Since a convention's
words divide its stack alignment, that word mostly disappears in the padding of the direct call's
frame.

* **`Convention.alignUp_exactStub`** — the aligned bytes of a stub, in terms of those of a direct
  call.
* **`Convention.stubFrame_eq_directFrame_add`** — a stub's frame is the direct call's frame, or
  larger by exactly one alignment. -/

namespace CallFrame

namespace Convention

variable {convention : Convention} {text : String} {tally : Tally}

/-- Stack arguments are a whole number of words. -/
theorem wordSize_dvd_exactOutArgs (convention : Convention) (tally : Tally) :
    convention.wordSize.toNat ∣ convention.exactOutArgs tally :=
  Nat.dvd_mul_left _ _

/-- **The aligned bytes of a stub** exceed those of a direct call by one alignment if a return
address is kept and the stack arguments leave no padding, and by nothing otherwise. -/
theorem alignUp_exactStub (convention : Convention) (text : String) (tally : Tally) :
    alignUp (convention.exactStub text tally) convention.stackAlignment.toNat =
      alignUp (convention.exactOutArgs tally) convention.stackAlignment.toNat +
        if (convention.exactOutArgs tally ≠ 0 ∨ opensNarrow text = true) ∧
            convention.stackAlignment.toNat ∣ convention.exactOutArgs tally
        then convention.stackAlignment.toNat else 0 := by
  rw [exactStub, stubContents, hasNarrowResult_eq_opensNarrow]
  by_cases hsaves : convention.exactOutArgs tally ≠ 0 ∨ opensNarrow text = true
  · rw [if_pos hsaves, alignUp_add_word convention.wordSize_pos convention.stackAlignment_pos
      (convention.wordSize_dvd_exactOutArgs tally) convention.wordSize_dvd_stackAlignment]
    simp only [hsaves, true_and]
  · -- a tail call keeps the same bytes as a direct call
    rw [if_neg hsaves, if_neg fun h => hsaves h.1]
    rfl

/-- A text whose stack arguments have a size is counted. -/
theorem exists_tally_of_callArgs {outArgs : Word} (hargs : convention.callArgs text = .ok outArgs) :
    ∃ tally, Tally.ofText text = .ok tally := by
  rw [callArgs, bind_eq_ok_iff] at hargs
  obtain ⟨tally, htally, -⟩ := hargs
  exact ⟨tally, htally⟩

/-- A text whose stub has a frame has a size for its stack arguments. -/
theorem exists_callArgs_of_stubFrame {stub : Word}
    (hstub : (convention.stubFrame text).outcome = .ok stub) :
    ∃ outArgs, convention.callArgs text = .ok outArgs := by
  rw [outcome_stubFrame, bind_eq_ok_iff] at hstub
  obtain ⟨outArgs, hargs, -⟩ := hstub
  exact ⟨outArgs, hargs⟩

/-- A text whose stub has a frame is counted. -/
theorem exists_tally_of_stubFrame {stub : Word}
    (hstub : (convention.stubFrame text).outcome = .ok stub) :
    ∃ tally, Tally.ofText text = .ok tally := by
  obtain ⟨outArgs, hargs⟩ := exists_callArgs_of_stubFrame hstub
  exact exists_tally_of_callArgs hargs

/-- A text whose direct call has a frame is counted. -/
theorem exists_tally_of_directFrame {direct : Word}
    (hdirect : (convention.directFrame text).outcome = .ok direct) :
    ∃ tally, Tally.ofText text = .ok tally := by
  rw [outcome_directFrame, bind_eq_ok_iff] at hdirect
  obtain ⟨outArgs, hargs, -⟩ := hdirect
  exact exists_tally_of_callArgs hargs

/-- **Stub frames against direct-call frames.** Whenever the stub's frame has a size, so has the
direct call's. The stub's is larger by exactly one alignment if the return address is kept and the
stack arguments are a multiple of the alignment; in every other case the two are equal. -/
theorem stubFrame_eq_directFrame_add (convention : Convention) {text : String} {stub : Word}
    (hstub : (convention.stubFrame text).outcome = .ok stub) :
    ∃ outArgs direct, convention.callArgs text = .ok outArgs ∧
      (convention.directFrame text).outcome = .ok direct ∧
      stub.toNat = direct.toNat +
        (if (outArgs ≠ 0 ∨ opensNarrow text = true) ∧
            convention.stackAlignment.toNat ∣ outArgs.toNat
          then convention.stackAlignment.toNat else 0) ∧
      direct ≤ stub ∧ stub.toNat ≤ direct.toNat + convention.stackAlignment.toNat := by
  obtain ⟨tally, htally⟩ := exists_tally_of_stubFrame hstub
  obtain ⟨hfits, hsize⟩ := (stubFrame_eq_ok_iff htally).mp hstub
  -- the direct call needs no more bytes than the stub, so its overflow comes later
  have hle : convention.exactOutArgs tally ≤ convention.exactStub text tally :=
    convention.le_stubContents _ _
  have hbelow := (alignUp_bounds (convention.exactOutArgs tally) convention.stackAlignment_pos).2
  -- both of its numbers are words, below the bound that the stub has kept
  obtain ⟨outArgs, hout⟩ :=
    Word.exists_toNat_eq (show convention.exactOutArgs tally < Word.bound by omega)
  obtain ⟨direct, hdirect⟩ := Word.exists_toNat_eq (show alignUp (convention.exactOutArgs tally)
    convention.stackAlignment.toNat < Word.bound by omega)
  have hsum : stub.toNat = direct.toNat +
      (if (outArgs ≠ 0 ∨ opensNarrow text = true) ∧
          convention.stackAlignment.toNat ∣ outArgs.toNat
        then convention.stackAlignment.toNat else 0) := by
    have hzero : outArgs ≠ 0 ↔ convention.exactOutArgs tally ≠ 0 := by
      rw [← hout, Ne, Ne, Word.toNat_eq_zero_iff]
    rw [hsize, alignUp_exactStub, hdirect, hout]
    simp only [hzero]
  refine ⟨outArgs, direct, (callArgs_eq_ok_iff htally).mpr hout,
    (directFrame_eq_ok_iff htally).mpr ⟨by omega, hdirect⟩, hsum, ?_, ?_⟩
  · rw [UInt64.le_iff_toNat_le, hsum]
    exact Nat.le_add_right _ _
  · rw [hsum]
    split <;> omega

/-- Ten integer arguments take two words, which leave no padding: the return address costs one
alignment of its own. -/
theorem stubFrame_eq_directFrame_add_aapcs64 :
    (aapcs64.stubFrame "VIIIIIIIIII").outcome = .ok 32 ∧
      ∃ direct : Word, (aapcs64.directFrame "VIIIIIIIIII").outcome = .ok direct ∧
        (32 : Word).toNat = direct.toNat + 16 := by
  have htally : Tally.ofText "VIIIIIIIIII" = .ok ⟨0, 10⟩ := rfl
  have hstub : (aapcs64.stubFrame "VIIIIIIIIII").outcome = .ok 32 :=
    (stubFrame_eq_ok_iff htally).mpr ⟨by decide, by decide⟩
  obtain ⟨outArgs, direct, hout, hdirect, hsum, -, -⟩ :=
    stubFrame_eq_directFrame_add aapcs64 hstub
  have htwo : outArgs = 16 := UInt64.toNat_inj.mp ((callArgs_eq_ok_iff htally).mp hout)
  rw [htwo] at hsum
  exact ⟨hstub, direct, hdirect, hsum⟩

end Convention

end CallFrame
