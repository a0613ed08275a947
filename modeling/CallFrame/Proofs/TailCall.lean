import CallFrame.Proofs.Agreement
import Mathlib.Tactic.TFAE

/-! # Tail calls

A stub that keeps nothing builds no frame and jumps straight into the native function. That it
keeps nothing can be told in four ways: from the layout's own word, from the size of the frame,
from the size for the text, and from the signature before anything is sized.

* **`Convention.NeedsNoFrame`** — the last of the four: every argument has a register, and the
  result is not narrow.
* **`Convention.needsNoFrame_iff`** — a stub keeps nothing exactly then.
* **`Convention.stubLayout_of_needsNoFrame`** — such a stub always has a layout.
* **`Convention.tailCall_tfae`** — the four are the same under every convention. -/

namespace CallFrame

/-- Four kinds are narrow. -/
theorem Kind.isNarrow_iff {kind : Kind} :
    kind.isNarrow = true ↔ kind ∈ [Kind.boolean, Kind.byte, Kind.char, Kind.short] := by
  cases kind <;> decide

namespace Convention

/-- **Signatures whose stubs need no frame**: no register file has more arguments than registers,
and the result is none of the four narrow kinds. -/
def NeedsNoFrame (convention : Convention) (tally : Tally) (result : Kind) : Prop :=
  tally.floatingPoint ≤ convention.floatingPointRegisters ∧
    tally.integer ≤ convention.integerRegisters ∧
    result ∉ [Kind.boolean, Kind.byte, Kind.char, Kind.short]

variable {convention : Convention} {tally : Tally} {signature : Signature} {layout : StubLayout}

/-! ## Nothing to keep -/

/-- There are no stack arguments exactly when no file has more arguments than registers, since a
stack argument takes at least one byte. -/
theorem exactOutArgs_eq_zero_iff (convention : Convention) (tally : Tally) :
    convention.exactOutArgs tally = 0 ↔
      tally.floatingPoint ≤ convention.floatingPointRegisters ∧
        tally.integer ≤ convention.integerRegisters := by
  have hword : convention.wordSize.toNat ≠ 0 := Nat.pos_iff_ne_zero.mp convention.wordSize_pos
  rw [exactOutArgs, Nat.mul_eq_zero, or_iff_left hword, spilled, Nat.add_eq_zero_iff,
    Nat.sub_eq_zero_iff_le, Nat.sub_eq_zero_iff_le, UInt64.le_iff_toNat_le,
    UInt64.le_iff_toNat_le]

/-- A stub keeps nothing exactly when it has no stack arguments and no narrow result. -/
theorem stubContents_eq_zero_iff (convention : Convention) (outArgs : Nat) (narrow : Bool) :
    convention.stubContents outArgs narrow = 0 ↔ outArgs = 0 ∧ narrow = false := by
  have hword := convention.wordSize_pos
  rw [stubContents]
  cases narrow with
  | true =>
      -- the return address takes a word, whatever the stack arguments are
      rw [if_pos (Or.inr rfl)]
      simp only [Bool.true_eq_false, and_false, iff_false]
      omega
  | false =>
      by_cases hzero : outArgs = 0
      · simp [hzero]
      · simp [hzero]

/-- **A stub needs no frame exactly when it keeps nothing.** -/
theorem needsNoFrame_iff {result : Kind} :
    convention.NeedsNoFrame tally result ↔
      convention.exactOutArgs tally = 0 ∧ result.isNarrow = false := by
  rw [NeedsNoFrame, exactOutArgs_eq_zero_iff, ← Kind.isNarrow_iff, Bool.not_eq_true, and_assoc]

/-! ## Layouts -/

/-- The layout holds the stack arguments of the signature's tally. -/
theorem toNat_outArgs_of_stubLayout (htally : Tally.ofSignature signature = .ok tally)
    (hlayout : (convention.stubLayout signature).outcome = .ok layout) :
    layout.outArgs.toNat = convention.exactOutArgs tally := by
  obtain ⟨counted, hcounted, hout, -⟩ := stubLayout_eq_ok_iff.mp hlayout
  rw [htally] at hcounted
  cases hcounted
  exact hout

/-- **A layout is that of a tail call exactly when the stub needs no frame.** -/
theorem isTailCall_iff_needsNoFrame (htally : Tally.ofSignature signature = .ok tally)
    (hlayout : (convention.stubLayout signature).outcome = .ok layout) :
    layout.isTailCall = true ↔ convention.NeedsNoFrame tally signature.result := by
  obtain ⟨-, -, -, hsaves, -⟩ := stubLayout_eq_ok_iff.mp hlayout
  rw [needsNoFrame_iff, ← toNat_outArgs_of_stubLayout htally hlayout, Word.toNat_eq_zero_iff,
    StubLayout.isTailCall, hsaves]
  simp

/-- **A frame takes no bytes exactly when the stub needs none.** Aligning never makes something out
of nothing, nor nothing out of something. -/
theorem size_eq_zero_iff_needsNoFrame (htally : Tally.ofSignature signature = .ok tally)
    (hlayout : (convention.stubLayout signature).outcome = .ok layout) :
    layout.size = 0 ↔ convention.NeedsNoFrame tally signature.result := by
  obtain ⟨-, -, -, -, -, hsize⟩ := stubLayout_eq_ok_iff.mp hlayout
  rw [← Word.toNat_eq_zero_iff, hsize, alignUp_eq_zero_iff convention.stackAlignment_pos,
    stubContents_eq_zero_iff, needsNoFrame_iff, toNat_outArgs_of_stubLayout htally hlayout]

/-- **A stub that needs no frame has a layout**, under every convention. Nothing is added to the
alignment, which is a word itself, so the sum before aligning fits. -/
theorem stubLayout_of_needsNoFrame (htally : Tally.ofSignature signature = .ok tally)
    (hneeds : convention.NeedsNoFrame tally signature.result) :
    (convention.stubLayout signature).outcome = .ok ⟨0, false, 0⟩ := by
  obtain ⟨hout, hnarrow⟩ := needsNoFrame_iff.mp hneeds
  have hkept : convention.stubContents (0 : Word).toNat signature.result.isNarrow = 0 :=
    (convention.stubContents_eq_zero_iff _ _).mpr ⟨rfl, hnarrow⟩
  rw [stubLayout_eq_ok_iff]
  refine ⟨tally, htally, hout.symm, ?_, ?_, ?_⟩
  · rw [hnarrow]
    rfl
  · rw [hkept, Nat.zero_add]
    exact Word.toNat_lt_bound _
  · rw [hkept]
    exact ((alignUp_eq_zero_iff convention.stackAlignment_pos).mpr rfl).symm

/-- **A frame of no bytes is a tail call, and nothing else is.** Under every convention and for
every text that is read as a signature, the layout of the stub, once it has one, is that of a tail
call exactly when its size is zero, exactly when the size for the text is zero, and exactly when
every argument has a register and the result is not narrow. In this last case the stub has its
layout and its size, whatever the convention. -/
theorem tailCall_tfae (convention : Convention) {text : String} {signature : Signature}
    (hparse : Signature.parse text = .ok signature) (hfits : text.utf8ByteSize < Word.bound) :
    ∃ tally, Tally.ofSignature signature = .ok tally ∧
      (∀ layout, (convention.stubLayout signature).outcome = .ok layout →
        List.TFAE [layout.isTailCall = true, layout.size = 0,
          (convention.stubFrame text).outcome = .ok 0,
          convention.NeedsNoFrame tally signature.result]) ∧
      (convention.NeedsNoFrame tally signature.result →
        (convention.stubLayout signature).outcome = .ok ⟨0, false, 0⟩ ∧
          (convention.stubFrame text).outcome = .ok 0) := by
  obtain rfl := Signature.parse_eq_ok_iff.mp hparse
  obtain ⟨tally, -, htally⟩ := Tally.ofText_text hfits
  -- the size for the text is the size of the layout, when there is one
  have htext : ∀ layout, (convention.stubLayout signature).outcome = .ok layout →
      (convention.stubFrame signature.text).outcome = .ok layout.size := by
    intro layout hlayout
    rw [convention.stubFrame_text hfits, Traced.outcome_map, hlayout]
    rfl
  refine ⟨tally, htally, fun layout hlayout => ?_, fun hneeds => ?_⟩
  · tfae_have 1 ↔ 4 := isTailCall_iff_needsNoFrame htally hlayout
    tfae_have 2 ↔ 4 := size_eq_zero_iff_needsNoFrame htally hlayout
    tfae_have 2 ↔ 3 := by rw [htext layout hlayout, Except.ok.injEq]
    tfae_finish
  · have hlayout := stubLayout_of_needsNoFrame htally hneeds
    exact ⟨hlayout, htext _ hlayout⟩

/-- With words and frames of half the bound and one register of each file, two arguments need no
frame and are sized without a fault. -/
theorem tailCall_tfae_half_bound :
    let convention : Convention := ⟨1, 1, 9223372036854775808, 9223372036854775808, by decide,
      ⟨63, by decide⟩, by decide⟩
    let signature : Signature := ⟨.void, [⟨.float, by decide⟩, ⟨.int, by decide⟩]⟩
    Signature.parse "VFI" = .ok signature ∧ "VFI".utf8ByteSize < Word.bound ∧
      (convention.stubLayout signature).outcome = .ok ⟨0, false, 0⟩ ∧
      ((⟨0, false, 0⟩ : StubLayout).isTailCall = true ↔
        (convention.stubFrame "VFI").outcome = .ok 0) := by
  intro convention signature
  have hparse : Signature.parse "VFI" = .ok signature := rfl
  have hfits : "VFI".utf8ByteSize < Word.bound := by decide
  obtain ⟨tally, htally, htfae, hlayout⟩ := tailCall_tfae convention hparse hfits
  have hcounted : Tally.ofSignature signature = .ok ⟨1, 1⟩ := rfl
  rw [hcounted] at htally
  cases htally
  have hneeds : convention.NeedsNoFrame ⟨1, 1⟩ signature.result :=
    ⟨by decide, by decide, by decide⟩
  have hreturns := (hlayout hneeds).1
  exact ⟨hparse, hfits, hreturns, (htfae _ hreturns).out 0 2⟩

end Convention

end CallFrame
