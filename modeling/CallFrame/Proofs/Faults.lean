import CallFrame.Proofs.Agreement

/-! # Faults of the frame queries

A query runs through a dozen operations that can stop: a text may be empty, counts may leave their
word, a difference may be negative, a sum or a product too large, an alignment no power of two. Most
of these never happen. This file says which ones do, and exactly when, for every convention and
every text that stays below the bound.

* **`Tally.ofText_eq_ok_iff`** and **`Tally.ofText_eq_error_iff`** — counting a text stops only when
  the text is empty.
* **`Convention.neededBytes`** — the exact bytes of the stack arguments of a text.
* **`CountFault`**, **`Convention.SizeFault`** and **`Convention.FrameFault`** — the rules: what can
  stop a count, the size of the stack arguments, and the size of a frame. Each has one cause more
  than the one before it.
* **`Convention.queries_fault_iff`** — every query follows its rule, and the other operations never
  stop. -/

namespace CallFrame

namespace Tally

/-! ## Counting a text -/

/-- The number of bytes of a text that count as floating-point arguments. -/
def floatingPointBytes (text : String) : Nat :=
  (argumentBytes text.toList).countP isFloatingPointByte

/-- The number of bytes of a text that count as other arguments. -/
def integerBytes (text : String) : Nat :=
  (argumentBytes text.toList).countP fun byte => !isFloatingPointByte byte

variable {text : String} {tally : Tally}

/-- Every byte that is counted counts for one of the two files. -/
theorem floatingPointBytes_add (text : String) :
    floatingPointBytes text + integerBytes text = (argumentBytes text.toList).length := by
  have hsplit := List.length_eq_countP_add_countP isFloatingPointByte
    (l := argumentBytes text.toList)
  simp only [floatingPointBytes, integerBytes, hsplit, Bool.not_eq_true, Bool.decide_eq_false]

/-- An empty text is not counted. -/
theorem ofText_empty : ofText "" = .error .emptySignature := rfl

/-- **A text that is not empty has a tally, and the tally holds its two numbers of bytes.** -/
theorem ofText_eq_ok_iff (hfits : text.utf8ByteSize < Word.bound) :
    ofText text = .ok tally ↔ text ≠ "" ∧
      tally.floatingPoint.toNat = floatingPointBytes text ∧
      tally.integer.toNat = integerBytes text := by
  by_cases hempty : text = ""
  · rw [hempty, ofText_empty]
    simp
  · obtain ⟨found, hfound, hfp, htotal⟩ := ofText_eq_ok hempty hfits
    have hadd := floatingPointBytes_add text
    rw [← floatingPointBytes] at hfp
    rw [hfound, Except.ok.injEq, toNat_inj]
    constructor
    · rintro ⟨hsameFp, hsameInt⟩
      exact ⟨hempty, by omega, by omega⟩
    · rintro ⟨-, hsameFp, hsameInt⟩
      exact ⟨by omega, by omega⟩

/-- **Counting stops only for an empty text.** Neither a count nor the difference of two counts can
leave its word. -/
theorem ofText_eq_error_iff (hfits : text.utf8ByteSize < Word.bound) {fault : Fault} :
    ofText text = .error fault ↔ fault = .emptySignature ∧ text = "" := by
  by_cases hempty : text = ""
  · rw [hempty, ofText_empty]
    simp [eq_comm]
  · obtain ⟨found, hfound, -⟩ := ofText_eq_ok hempty hfits
    simp [hfound, hempty]

/-- The bytes that are counted are fewer than the bytes of the text. -/
theorem floatingPointBytes_add_lt (hne : text ≠ "") :
    floatingPointBytes text + integerBytes text < text.utf8ByteSize := by
  rw [floatingPointBytes_add]
  exact length_argumentBytes_lt hne

end Tally

namespace Convention

/-! ## Sizes of a text in natural numbers -/

/-- The exact bytes of the stack arguments of a text: one word for each counted byte that finds no
register left in its file. -/
def neededBytes (convention : Convention) (text : String) : Nat :=
  ((Tally.floatingPointBytes text - convention.floatingPointRegisters.toNat) +
      (Tally.integerBytes text - convention.integerRegisters.toNat)) *
    convention.wordSize.toNat

variable {convention : Convention} {text : String} {tally : Tally}

/-- The exact stack arguments of a tally are those of the text that it was counted from. -/
theorem exactOutArgs_of_ofText (hfits : text.utf8ByteSize < Word.bound)
    (htally : Tally.ofText text = .ok tally) :
    convention.exactOutArgs tally = convention.neededBytes text := by
  obtain ⟨-, hfp, hint⟩ := (Tally.ofText_eq_ok_iff hfits).mp htally
  rw [exactOutArgs, spilled, hfp, hint, neededBytes]

/-- The two counts of a text stay below the bound even together. -/
theorem tally_lt_bound (hfits : text.utf8ByteSize < Word.bound)
    (htally : Tally.ofText text = .ok tally) :
    tally.floatingPoint.toNat + tally.integer.toNat < Word.bound := by
  obtain ⟨hne, hfp, hint⟩ := (Tally.ofText_eq_ok_iff hfits).mp htally
  have hlt := Tally.floatingPointBytes_add_lt hne
  omega

/-- The number of stack arguments of a text fits a word. -/
theorem spilled_lt_bound (hfits : text.utf8ByteSize < Word.bound)
    (htally : Tally.ofText text = .ok tally) : convention.spilled tally < Word.bound := by
  have hlt := tally_lt_bound hfits htally
  rw [spilled]
  omega

/-! ## The rules -/

end Convention

/-- **What stops a count of a text**: there is no result's letter to leave out. -/
def CountFault (text : String) (fault : Fault) : Prop :=
  fault.message = "shorty must include a return type" ∧ text = ""

/-- Counting a text follows its rule. -/
theorem Tally.ofText_eq_error_iff_countFault {text : String} {fault : Fault}
    (hfits : text.utf8ByteSize < Word.bound) :
    ofText text = .error fault ↔ CountFault text fault := by
  rw [ofText_eq_error_iff hfits]
  exact and_congr_left' (fault.message_inj .emptySignature).symm

namespace Convention

/-- **What stops the size of the stack arguments of a text**: the count, or bytes that do not fit a
word. -/
def SizeFault (convention : Convention) (text : String) (fault : Fault) : Prop :=
  CountFault text fault ∨
    fault.message = "attempt to multiply with overflow" ∧ text ≠ "" ∧
      Word.bound ≤ convention.neededBytes text

/-- **What stops the size of a frame for a text**: the stack arguments, or contents that do not fit
a word with one alignment to spare. -/
def FrameFault (convention : Convention) (text : String) (contents : Nat) (fault : Fault) : Prop :=
  convention.SizeFault text fault ∨
    fault.message = "attempt to add with overflow" ∧ text ≠ "" ∧
      convention.neededBytes text < Word.bound ∧
      Word.bound ≤ contents + convention.stackAlignment.toNat

variable {convention : Convention} {text : String} {tally : Tally} {fault : Fault}

/-- **The size of the stack arguments follows its rule.** Their number never overflows, so the
product is the only operation that can. -/
theorem callArgs_eq_error_iff (hfits : text.utf8ByteSize < Word.bound) :
    convention.callArgs text = .error fault ↔ convention.SizeFault text fault := by
  have hproduct : fault.message = "attempt to multiply with overflow" ↔
      fault = .productOverflow := fault.message_inj .productOverflow
  rw [callArgs, bind_eq_error_iff, Tally.ofText_eq_error_iff_countFault hfits, SizeFault, hproduct]
  refine or_congr_right ⟨?_, ?_⟩
  · rintro ⟨tally, htally, hfault⟩
    have hne := ((Tally.ofText_eq_ok_iff hfits).mp htally).1
    have hslots : convention.spilled tally < Word.bound := spilled_lt_bound hfits htally
    rw [outArgs_eq_error_iff, exactOutArgs_of_ofText hfits htally] at hfault
    rcases hfault with ⟨-, hover⟩ | ⟨hfault, -, hbytes⟩
    · -- there are no more stack arguments than bytes in the text
      omega
    · exact ⟨hfault, hne, hbytes⟩
  · rintro ⟨hfault, hne, hbytes⟩
    obtain ⟨tally, htally, -⟩ := Tally.ofText_eq_ok hne hfits
    refine ⟨tally, htally, ?_⟩
    rw [outArgs_eq_error_iff, exactOutArgs_of_ofText hfits htally]
    exact Or.inr ⟨hfault, spilled_lt_bound hfits htally, hbytes⟩

/-- **A query that aligns follows the rule of frames** as soon as it does so on every text that is
counted: an empty text stops it before it comes to its contents. -/
theorem callArgs_bind_eq_error_iff_frameFault {next : Word → Except Fault Word} {contents : Nat}
    (hfits : text.utf8ByteSize < Word.bound)
    (hcounted : ∀ tally, Tally.ofText text = .ok tally →
      ((convention.callArgs text >>= next) = .error fault ↔
        convention.callArgs text = .error fault ∨
          fault = .sumOverflow ∧ convention.neededBytes text < Word.bound ∧
            Word.bound ≤ contents + convention.stackAlignment.toNat)) :
    (convention.callArgs text >>= next) = .error fault ↔
      convention.FrameFault text contents fault := by
  have hsum : fault.message = "attempt to add with overflow" ↔ fault = .sumOverflow :=
    fault.message_inj .sumOverflow
  rw [FrameFault, hsum, ← callArgs_eq_error_iff hfits]
  by_cases hempty : text = ""
  · -- nothing is sized, and both further causes ask for a text that is not empty
    subst hempty
    simp [callArgs, Tally.ofText_empty, bind, Except.bind]
  · obtain ⟨tally, htally, -⟩ := Tally.ofText_eq_ok hempty hfits
    rw [hcounted tally htally]
    simp only [ne_eq, hempty, not_false_eq_true, true_and]

/-- **The stub's frame follows the rule of frames** for all that the stub keeps. -/
theorem stubFrame_eq_error_iff_frameFault (hfits : text.utf8ByteSize < Word.bound) :
    (convention.stubFrame text).outcome = .error fault ↔
      convention.FrameFault text
        (convention.stubContents (convention.neededBytes text) (opensNarrow text)) fault := by
  rw [outcome_stubFrame]
  refine callArgs_bind_eq_error_iff_frameFault hfits fun tally htally => ?_
  rw [← outcome_stubFrame, stubFrame_eq_error_iff htally, exactStub,
    exactOutArgs_of_ofText hfits htally, hasNarrowResult_eq_opensNarrow]

/-- **The direct call's frame follows the rule of frames** for the stack arguments alone. -/
theorem directFrame_eq_error_iff_frameFault (hfits : text.utf8ByteSize < Word.bound) :
    (convention.directFrame text).outcome = .error fault ↔
      convention.FrameFault text (convention.neededBytes text) fault := by
  rw [outcome_directFrame]
  refine callArgs_bind_eq_error_iff_frameFault hfits fun tally htally => ?_
  rw [← outcome_directFrame, directFrame_eq_error_iff htally,
    exactOutArgs_of_ofText hfits htally]

/-- What stops a frame stops it with larger contents as well. -/
theorem FrameFault.mono {contents more : Nat} (hle : contents ≤ more)
    (hfault : convention.FrameFault text contents fault) :
    convention.FrameFault text more fault := by
  rcases hfault with hsize | ⟨hsum, hne, hbytes, hover⟩
  · exact Or.inl hsize
  · exact Or.inr ⟨hsum, hne, hbytes, by omega⟩

/-- **A direct call never stops where the stub goes on**, since it has no more to keep. -/
theorem stubFrame_eq_error_of_directFrame (hfits : text.utf8ByteSize < Word.bound)
    (hdirect : (convention.directFrame text).outcome = .error fault) :
    (convention.stubFrame text).outcome = .error fault := by
  rw [directFrame_eq_error_iff_frameFault hfits] at hdirect
  rw [stubFrame_eq_error_iff_frameFault hfits]
  exact hdirect.mono (convention.le_stubContents _ _)

/-- The layout for a signature stops as the stub's frame for its text does. -/
theorem stubLayout_eq_error_iff_stubFrame {signature : Signature}
    (hfits : signature.text.utf8ByteSize < Word.bound) :
    (convention.stubLayout signature).outcome = .error fault ↔
      (convention.stubFrame signature.text).outcome = .error fault := by
  rw [stubFrame_text convention hfits, Traced.outcome_map, map_eq_error_iff]

/-! ## Operations that never stop -/

/-- The check of the alignment never fails for the alignment of a convention. -/
theorem roundUp_ne_alignmentNotPowerOfTwo (convention : Convention) (value : Word) :
    roundUp value convention.stackAlignment ≠ .error .alignmentNotPowerOfTwo := by
  intro hfault
  rw [roundUp_eq_error_iff convention.stackAlignment_isPowerOfTwo] at hfault
  cases hfault.1

/-- **The counts of a text can be added up**, all of them as well as those without a register. -/
theorem exists_sums (convention : Convention)
    (hlt : tally.floatingPoint.toNat + tally.integer.toNat < Word.bound) :
    (∃ slots, (tally.floatingPoint.excess convention.floatingPointRegisters).plus
        (tally.integer.excess convention.integerRegisters) = .ok slots) ∧
      ∃ total, tally.total = .ok total := by
  obtain ⟨total, htotal⟩ := Word.exists_toNat_eq hlt
  obtain ⟨slots, hslots⟩ :=
    Word.exists_toNat_eq (show convention.spilled tally < Word.bound by rw [spilled]; omega)
  refine ⟨⟨slots, ?_⟩, ⟨total, Word.plus_eq_ok_iff.mpr htotal⟩⟩
  rw [Word.plus_eq_ok_iff, Word.toNat_excess, Word.toNat_excess, hslots, spilled]

/-- **The faults of all queries on a text.** Counting, sizing the stack arguments and sizing a frame
stop exactly as their rules say, where a stub keeps the return address beside the stack arguments
and a direct call does not; the layout for a signature follows the rule of the stub. In
particular the check of the alignment always passes, the arguments of a signature are always
counted, and the counts of a text or a signature can always be added up. -/
theorem queries_fault_iff (convention : Convention) {text : String}
    (hfits : text.utf8ByteSize < Word.bound) :
    (∀ fault, Tally.ofText text = .error fault ↔ CountFault text fault) ∧
    (∀ fault, convention.callArgs text = .error fault ↔ convention.SizeFault text fault) ∧
    (∀ fault, (convention.stubFrame text).outcome = .error fault ↔
      convention.FrameFault text
        (convention.stubContents (convention.neededBytes text) (opensNarrow text)) fault) ∧
    (∀ fault, (convention.directFrame text).outcome = .error fault ↔
      convention.FrameFault text (convention.neededBytes text) fault) ∧
    (∀ value, roundUp value convention.stackAlignment ≠ .error .alignmentNotPowerOfTwo) ∧
    (∀ tally, Tally.ofText text = .ok tally →
      (∃ slots, (tally.floatingPoint.excess convention.floatingPointRegisters).plus
          (tally.integer.excess convention.integerRegisters) = .ok slots) ∧
        ∃ total, tally.total = .ok total) ∧
    ∀ signature, Signature.parse text = .ok signature →
      (∀ fault, (convention.stubLayout signature).outcome = .error fault ↔
        convention.FrameFault text
          (convention.stubContents (convention.neededBytes text) (opensNarrow text)) fault) ∧
      ∃ tally, Tally.ofSignature signature = .ok tally ∧ Tally.ofText text = .ok tally := by
  refine ⟨fun _ => Tally.ofText_eq_error_iff_countFault hfits, fun _ => callArgs_eq_error_iff hfits,
    fun _ => stubFrame_eq_error_iff_frameFault hfits,
    fun _ => directFrame_eq_error_iff_frameFault hfits,
    convention.roundUp_ne_alignmentNotPowerOfTwo,
    fun tally htally => convention.exists_sums (tally_lt_bound hfits htally), ?_⟩
  intro signature hparse
  obtain rfl := Signature.parse_eq_ok_iff.mp hparse
  constructor
  · intro fault
    rw [stubLayout_eq_error_iff_stubFrame hfits]
    exact stubFrame_eq_error_iff_frameFault hfits
  · obtain ⟨tally, htext, hsignature⟩ := Tally.ofText_text hfits
    exact ⟨tally, hsignature, htext⟩

/-- With words of half the bound and no registers, one argument fits but the return address beside
it does not, and two arguments do not fit at all. -/
theorem queries_fault_iff_half_bound :
    let convention : Convention := ⟨0, 0, 9223372036854775808, 9223372036854775808, by decide,
      ⟨63, by decide⟩, by decide⟩
    let signature : Signature := ⟨.void, [⟨.int, by decide⟩]⟩
    "VI".utf8ByteSize < Word.bound ∧ Signature.parse "VI" = .ok signature ∧
      (convention.stubLayout signature).outcome = .error .sumOverflow ∧
      "VII".utf8ByteSize < Word.bound ∧
      (convention.stubFrame "VII").outcome = .error .productOverflow := by
  intro convention signature
  have hone : "VI".utf8ByteSize < Word.bound := by decide
  have htwo : "VII".utf8ByteSize < Word.bound := by decide
  have hparse : Signature.parse "VI" = .ok signature := rfl
  obtain ⟨-, -, -, -, -, -, hlayouts⟩ := queries_fault_iff convention hone
  obtain ⟨-, -, hstub, -⟩ := queries_fault_iff convention htwo
  refine ⟨hone, hparse, ((hlayouts signature hparse).1 _).mpr ?_, htwo, (hstub _).mpr ?_⟩
  · exact Or.inr ⟨rfl, by decide, by decide, by decide⟩
  · exact Or.inl (Or.inr ⟨rfl, by decide, by decide⟩)

end Convention

end CallFrame
