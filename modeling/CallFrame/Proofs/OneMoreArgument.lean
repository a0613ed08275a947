import CallFrame.Proofs.Grammar
import CallFrame.Proofs.Placement
import CallFrame.Proofs.ReturnedSizes
import CallFrame.Proofs.TailCall

/-! # One argument more, one register more

How the sizes of a call change when an argument is put into its signature, wherever that is, and
when its convention gets more registers.

* **`Convention.slotCount_insert`** — an argument takes a slot unless its file has a register left.
* **`Convention.alignUp_stubContents_add_word`** — what one word more does to a stub's frame:
  nothing or one alignment, and two alignments where a stub that kept nothing now keeps two words
  and each of them is an alignment.
* **`Convention.Sized`** — the sizes of a text that all three queries return, and
  **`Convention.OneMore`** how those of a longer text compare with them.
* **`Convention.Widens`** — conventions with no fewer registers.
* **`Convention.argument_monotone`** — both, for every convention and every text. -/

namespace CallFrame

/-! ## Aligned words -/

/-- Two words fill one alignment, or two when a word is a whole alignment. -/
theorem alignUp_two_words {word alignment : Nat} (hword : 0 < word) (ha : 0 < alignment)
    (hdvd : word ∣ alignment) :
    alignUp (2 * word) alignment = if word = alignment then 2 * alignment else alignment := by
  by_cases hsame : word = alignment
  · rw [if_pos hsame, hsame]
    exact alignUp_of_dvd ha (Nat.dvd_mul_left alignment 2)
  · -- a word below the alignment leaves room in it for another one
    have hle : word ≤ alignment := Nat.le_of_dvd ha hdvd
    have htwo : 2 * word ≤ alignment :=
      Nat.le_of_lt_add_of_dvd (by omega) (Nat.dvd_mul_left word 2) hdvd
    rw [if_neg hsame, alignUp_eq_iff ha]
    exact ⟨Nat.dvd_refl alignment, htwo, by omega⟩

/-- A word to which an amount may have been added is the same or larger by the amount. -/
theorem Word.eq_or_toNat_eq_add {word grown : Word} {amount : Nat} {added : Prop} [Decidable added]
    (hgrown : grown.toNat = word.toNat + if added then amount else 0) :
    grown = word ∨ grown.toNat = word.toNat + amount := by
  by_cases hadded : added
  · rw [if_pos hadded] at hgrown
    exact Or.inr hgrown
  · rw [if_neg hadded] at hgrown
    exact Or.inl (UInt64.toNat_inj.mp hgrown)

namespace Convention

variable (convention : Convention)

/-! ## Slots -/

/-- **One argument more takes a slot exactly when its file has no register left for it**, wherever
it stands among the others. -/
theorem slotCount_insert (result : Kind) (before after : List ArgumentKind) (kind : ArgumentKind) :
    convention.slotCount ⟨result, before ++ kind :: after⟩ =
      convention.slotCount ⟨result, before ++ after⟩ +
        if Tally.countOf kind.val.registerClass (before ++ after) <
            convention.registers kind.val.registerClass then 0 else 1 := by
  rw [slotCount_eq_spilled, slotCount_eq_spilled, Taken.spilled, Taken.spilled]
  simp only [Tally.countOf_append, Tally.countOf_cons, Taken.registers, Taken.nothing, Nat.sub_zero]
  -- only the file of the argument has one argument more
  cases kind.val.registerClass
  · simp only [if_true, reduceCtorEq, if_false]
    split <;> omega
  · simp only [if_true, reduceCtorEq, if_false]
    split <;> omega

/-! ## Bytes of a stub -/

/-- A stub keeps no fewer bytes when it has more stack arguments. -/
theorem stubContents_mono {fewer more : Nat} (hle : fewer ≤ more) (narrow : Bool) :
    convention.stubContents fewer narrow ≤ convention.stubContents more narrow := by
  rw [stubContents, stubContents]
  by_cases hsaves : fewer ≠ 0 ∨ narrow = true
  · have hkept : more ≠ 0 ∨ narrow = true := hsaves.imp_left (by omega)
    rw [if_pos hsaves, if_pos hkept]
    exact Nat.add_le_add_right hle _
  · rw [if_neg hsaves]
    exact Nat.le_trans hle (Nat.le_add_right more _)

/-- **One word more in a stub's frame.** Where a return address is kept already, the word is all
that is added; where nothing was kept, the return address comes with it. -/
theorem stubContents_add_word (outArgs : Nat) (narrow : Bool) :
    convention.stubContents (outArgs + convention.wordSize.toNat) narrow =
      if convention.stubContents outArgs narrow = 0 then 2 * convention.wordSize.toNat
      else convention.stubContents outArgs narrow + convention.wordSize.toNat := by
  have hword := convention.wordSize_pos
  rw [stubContents, if_pos (Or.inl (by omega)), stubContents]
  by_cases hsaves : outArgs ≠ 0 ∨ narrow = true
  · rw [if_pos hsaves, if_neg (by omega)]
  · have hzero : outArgs = 0 := Decidable.byContradiction fun hne => hsaves (Or.inl hne)
    rw [if_neg hsaves, hzero, if_pos rfl]
    omega

/-- A stub keeps a whole number of words. -/
theorem wordSize_dvd_stubContents {outArgs : Nat} (hdvd : convention.wordSize.toNat ∣ outArgs)
    (narrow : Bool) : convention.wordSize.toNat ∣ convention.stubContents outArgs narrow := by
  rw [stubContents]
  apply Nat.dvd_add hdvd
  split
  · exact Nat.dvd_refl _
  · exact Nat.dvd_zero _

/-- **One word more in the aligned frame of a stub** adds nothing or one alignment. It adds two
where nothing was kept and a word is a whole alignment. -/
theorem alignUp_stubContents_add_word {outArgs : Nat} (hdvd : convention.wordSize.toNat ∣ outArgs)
    (narrow : Bool) :
    alignUp (convention.stubContents (outArgs + convention.wordSize.toNat) narrow)
        convention.stackAlignment.toNat =
      alignUp (convention.stubContents outArgs narrow) convention.stackAlignment.toNat +
        if convention.stubContents outArgs narrow = 0 then
          if convention.wordSize = convention.stackAlignment
          then 2 * convention.stackAlignment.toNat else convention.stackAlignment.toNat
        else if convention.stackAlignment.toNat ∣ convention.stubContents outArgs narrow
          then convention.stackAlignment.toNat else 0 := by
  have ha := convention.stackAlignment_pos
  rw [stubContents_add_word]
  by_cases hnothing : convention.stubContents outArgs narrow = 0
  · -- two words at once: the law for one word more does not apply
    rw [if_pos hnothing, if_pos hnothing, hnothing, (alignUp_eq_zero_iff ha).mpr rfl, Nat.zero_add,
      alignUp_two_words convention.wordSize_pos ha convention.wordSize_dvd_stackAlignment]
    simp only [UInt64.toNat_inj]
  · rw [if_neg hnothing, if_neg hnothing]
    exact alignUp_add_word convention.wordSize_pos ha
      (convention.wordSize_dvd_stubContents hdvd narrow) convention.wordSize_dvd_stackAlignment

/-! ## Sizes of a signature -/

/-- The bytes of a signature's stack arguments. -/
def argumentBytes (signature : Signature) : Nat :=
  convention.slotCount signature * convention.wordSize.toNat

/-- One argument more takes one word more unless its file has a register left. -/
theorem argumentBytes_insert (result : Kind) (before after : List ArgumentKind)
    (kind : ArgumentKind) :
    convention.argumentBytes ⟨result, before ++ kind :: after⟩ =
      convention.argumentBytes ⟨result, before ++ after⟩ +
        if Tally.countOf kind.val.registerClass (before ++ after) <
          convention.registers kind.val.registerClass then 0 else convention.wordSize.toNat := by
  rw [argumentBytes, argumentBytes, slotCount_insert, Nat.add_mul]
  split
  · rw [Nat.zero_mul]
  · rw [Nat.one_mul]

/-- The bytes that the stub of a signature keeps. -/
def keptBytes (signature : Signature) : Nat :=
  convention.stubContents (convention.argumentBytes signature) signature.result.isNarrow

/-- The sizes of a signature that was counted are those of its slots. -/
theorem exactStub_eq_keptBytes {signature : Signature} {tally : Tally}
    (hcounted : Tally.ofText signature.text = .ok tally) :
    convention.exactOutArgs tally = convention.argumentBytes signature ∧
      convention.exactStub signature.text tally = convention.keptBytes signature := by
  obtain ⟨hsignature, -⟩ := Tally.ofSignature_of_ofText hcounted
  have hbytes : convention.exactOutArgs tally = convention.argumentBytes signature := by
    rw [exactOutArgs, argumentBytes, slotCount_of_ofSignature convention hsignature]
  refine ⟨hbytes, ?_⟩
  rw [exactStub, keptBytes, hbytes, hasNarrowResult_text]

/-- **A text that is sized by every query**, with the layout of its stub and the frame of its direct
call. -/
structure Sized (text : String) (layout : StubLayout) (direct : Word) : Prop where
  /-- The stack arguments are those of the layout. -/
  callArgs : convention.callArgs text = .ok layout.outArgs
  /-- The stub's frame is that of the layout. -/
  stubFrame : (convention.stubFrame text).outcome = .ok layout.size
  /-- The direct call has its frame. -/
  directFrame : (convention.directFrame text).outcome = .ok direct
  /-- The text is read as a signature, and the layout is made for it. -/
  stubLayout : ∃ signature, Signature.parse text = .ok signature ∧
    (convention.stubLayout signature).outcome = .ok layout

variable {convention} {signature longer : Signature} {layout : StubLayout} {direct size : Word}

/-- **Where the stub's frame has a size, every query has one.** -/
theorem exists_sized_of_stubFrame
    (hstub : (convention.stubFrame signature.text).outcome = .ok size) :
    ∃ layout direct, convention.Sized signature.text layout direct := by
  obtain ⟨direct, hdirect⟩ := exists_directFrame_of_stubFrame hstub
  obtain ⟨layout, hlayout, rfl, hargs, -⟩ :=
    exists_layout_of_stubFrame (Signature.parse_text signature) hstub
  exact ⟨layout, direct, hargs, hstub, hdirect, signature, Signature.parse_text signature, hlayout⟩

/-- **The numbers of a text that is sized.** -/
theorem Sized.exact (hsized : convention.Sized signature.text layout direct) :
    layout.outArgs.toNat = convention.argumentBytes signature ∧
      convention.keptBytes signature + convention.stackAlignment.toNat < Word.bound ∧
      layout.size.toNat =
        alignUp (convention.keptBytes signature) convention.stackAlignment.toNat ∧
      direct.toNat =
        alignUp (convention.argumentBytes signature) convention.stackAlignment.toNat ∧
      (layout.isTailCall = true ↔ convention.keptBytes signature = 0) := by
  obtain ⟨tally, hcounted⟩ := exists_tally_of_stubFrame hsized.stubFrame
  obtain ⟨hbytes, hkept⟩ := convention.exactStub_eq_keptBytes hcounted
  obtain ⟨hfits, hsize⟩ := (stubFrame_eq_ok_iff hcounted).mp hsized.stubFrame
  obtain ⟨-, hdirect⟩ := (directFrame_eq_ok_iff hcounted).mp hsized.directFrame
  have hout := (callArgs_eq_ok_iff hcounted).mp hsized.callArgs
  rw [hbytes] at hout hdirect
  rw [hkept] at hfits hsize
  refine ⟨hout, hfits, hsize, hdirect, ?_⟩
  -- the layout is that of this signature, since its text is read as no other one
  obtain ⟨other, hparse, hlayout⟩ := hsized.stubLayout
  rw [Signature.parse_text, Except.ok.injEq] at hparse
  obtain rfl : signature = other := hparse
  obtain ⟨hsignature, -⟩ := Tally.ofSignature_of_ofText hcounted
  rw [isTailCall_iff_needsNoFrame hsignature hlayout, needsNoFrame_iff, hbytes, keptBytes,
    stubContents_eq_zero_iff]

/-- **A signature with fewer arguments and no more bytes in its stub is sized as well.** -/
theorem exists_stubFrame_of_le (hlength : signature.arguments.length < longer.arguments.length)
    (hkept : convention.keptBytes signature ≤ convention.keptBytes longer)
    (hstub : (convention.stubFrame longer.text).outcome = .ok size) :
    ∃ shorter, (convention.stubFrame signature.text).outcome = .ok shorter := by
  obtain ⟨more, hmore⟩ := exists_tally_of_stubFrame hstub
  obtain ⟨hfits, -⟩ := (stubFrame_eq_ok_iff hmore).mp hstub
  rw [(convention.exactStub_eq_keptBytes hmore).2] at hfits
  -- the arguments of the longer text were counted, so that those of the other one can be as well
  have hbound := (Tally.ofSignature_of_ofText hmore).2
  have hbytes := Tally.utf8ByteSize_text signature
  have htext : signature.text.utf8ByteSize < Word.bound := by omega
  obtain ⟨tally, hcounted, -⟩ := Tally.ofText_text htext
  have hroom : convention.keptBytes signature + convention.stackAlignment.toNat < Word.bound := by
    omega
  obtain ⟨shorter, hshorter⟩ := exists_toNat_eq_alignUp convention.stackAlignment_pos hroom
  refine ⟨shorter, (stubFrame_eq_ok_iff hcounted).mpr ?_⟩
  rw [(convention.exactStub_eq_keptBytes hcounted).2]
  exact ⟨hroom, hshorter⟩

/-! ## One argument more -/

/-- **What one argument more does to the sizes**, where `others` counts the arguments of its file
that were there before. -/
structure OneMore (convention : Convention) (kind : ArgumentKind) (others : Nat)
    (layout longer : StubLayout) (direct longerDirect : Word) : Prop where
  /-- It takes a word unless its file has a register left. -/
  outArgs : longer.outArgs.toNat = layout.outArgs.toNat +
    if others < convention.registers kind.val.registerClass then 0 else convention.wordSize.toNat
  /-- The direct call's frame grows by nothing or by one alignment. -/
  directFrame : longerDirect = direct ∨
    longerDirect.toNat = direct.toNat + convention.stackAlignment.toNat
  /-- The stub's frame grows by two alignments when a tail call is lost and a word is a whole
  alignment. -/
  lostTailCall : layout.isTailCall = true → longer.isTailCall = false →
    convention.wordSize = convention.stackAlignment →
      longer.size.toNat = layout.size.toNat + 2 * convention.stackAlignment.toNat
  /-- In every other case the stub's frame grows by nothing or by one alignment. -/
  stubFrame : ¬(layout.isTailCall = true ∧ longer.isTailCall = false ∧
      convention.wordSize = convention.stackAlignment) →
    longer.size = layout.size ∨
      longer.size.toNat = layout.size.toNat + convention.stackAlignment.toNat
  /-- A tail call was one before. -/
  isTailCall : longer.isTailCall = true → layout.isTailCall = true

section

variable {others : Nat} {kind : ArgumentKind} {longerLayout : StubLayout} {longerDirect : Word}

/-- An argument in a register changes no size. -/
theorem oneMore_of_lt (hfewer : convention.Sized signature.text layout direct)
    (hmore : convention.Sized longer.text longerLayout longerDirect)
    (hresult : longer.result = signature.result)
    (hbytes : convention.argumentBytes longer = convention.argumentBytes signature)
    (hlt : others < convention.registers kind.val.registerClass) :
    convention.OneMore kind others layout longerLayout direct longerDirect := by
  have hkept : convention.keptBytes longer = convention.keptBytes signature := by
    rw [keptBytes, keptBytes, hbytes, hresult]
  obtain ⟨hout, -, hsize, hdirect, htail⟩ := hfewer.exact
  obtain ⟨hout', -, hsize', hdirect', htail'⟩ := hmore.exact
  rw [hkept] at hsize' htail'
  rw [hbytes] at hout' hdirect'
  refine ⟨?_, Or.inl ?_, ?_, fun _ => Or.inl ?_, fun h => htail.mpr (htail'.mp h)⟩
  · rw [hout', hout, if_pos hlt, Nat.add_zero]
  · rw [← UInt64.toNat_inj, hdirect', hdirect]
  · intro hcall hlost
    rw [htail'.mpr (htail.mp hcall)] at hlost
    cases hlost
  · rw [← UInt64.toNat_inj, hsize', hsize]

/-- An argument in a slot changes the sizes by one word and what aligning makes of it. -/
theorem oneMore_of_le (hfewer : convention.Sized signature.text layout direct)
    (hmore : convention.Sized longer.text longerLayout longerDirect)
    (hresult : longer.result = signature.result)
    (hbytes : convention.argumentBytes longer =
      convention.argumentBytes signature + convention.wordSize.toNat)
    (hle : convention.registers kind.val.registerClass ≤ others) :
    convention.OneMore kind others layout longerLayout direct longerDirect := by
  have hword := convention.wordSize_pos
  have hdvd : convention.wordSize.toNat ∣ convention.argumentBytes signature :=
    Nat.dvd_mul_left _ _
  have hkept : convention.keptBytes longer = convention.stubContents
      (convention.argumentBytes signature + convention.wordSize.toNat)
      signature.result.isNarrow := by
    rw [keptBytes, hbytes, hresult]
  -- the longer stub has a stack argument, so it is no tail call
  have hne : convention.keptBytes longer ≠ 0 := by
    rw [hkept, Ne, stubContents_eq_zero_iff]
    omega
  have hgrown := convention.alignUp_stubContents_add_word hdvd signature.result.isNarrow
  rw [← hkept, ← keptBytes] at hgrown
  obtain ⟨hout, -, hsize, hdirect, htail⟩ := hfewer.exact
  obtain ⟨hout', -, hsize', hdirect', htail'⟩ := hmore.exact
  rw [hgrown, ← hsize] at hsize'
  rw [hbytes, alignUp_add_word hword convention.stackAlignment_pos hdvd
    convention.wordSize_dvd_stackAlignment, ← hdirect] at hdirect'
  refine ⟨?_, ?_, ?_, ?_, fun h => absurd (htail'.mp h) hne⟩
  · rw [hout', hout, hbytes, if_neg (Nat.not_lt.mpr hle)]
  · exact Word.eq_or_toNat_eq_add hdirect'
  · intro hcall hlost hsame
    rw [if_pos (htail.mp hcall), if_pos hsame] at hsize'
    exact hsize'
  · intro hordinary
    by_cases hnothing : convention.keptBytes signature = 0
    · -- a tail call is lost, so that a word is less than an alignment
      have hlost : longerLayout.isTailCall = false :=
        Bool.eq_false_iff.mpr fun h => hne (htail'.mp h)
      have hdiffers : convention.wordSize ≠ convention.stackAlignment := fun hsame =>
        hordinary ⟨htail.mpr hnothing, hlost, hsame⟩
      rw [if_pos hnothing, if_neg hdiffers] at hsize'
      exact Or.inr hsize'
    · rw [if_neg hnothing] at hsize'
      exact Word.eq_or_toNat_eq_add hsize'

end

/-- **One argument more, in any place**: when the stub of the longer signature has a frame, both
signatures are sized by every query. -/
theorem oneMore_of_stubFrame {result : Kind} {before after : List ArgumentKind}
    {kind : ArgumentKind}
    (hstub : (convention.stubFrame
      (⟨result, before ++ kind :: after⟩ : Signature).text).outcome = .ok size) :
    ∃ layout longer direct longerDirect,
      convention.Sized (⟨result, before ++ after⟩ : Signature).text layout direct ∧
      convention.Sized (⟨result, before ++ kind :: after⟩ : Signature).text longer longerDirect ∧
      convention.OneMore kind (Tally.countOf kind.val.registerClass (before ++ after)) layout
        longer direct longerDirect := by
  have hbytes := convention.argumentBytes_insert result before after kind
  have hkept : convention.keptBytes ⟨result, before ++ after⟩ ≤
      convention.keptBytes ⟨result, before ++ kind :: after⟩ := by
    apply stubContents_mono
    rw [hbytes]
    exact Nat.le_add_right _ _
  have hlength : (before ++ after).length < (before ++ kind :: after).length := by
    simp
  -- the longer signature is sized by assumption, the other one because it needs no more
  obtain ⟨longer, longerDirect, hmore⟩ := exists_sized_of_stubFrame hstub
  obtain ⟨shorter, hshorter⟩ := exists_stubFrame_of_le hlength hkept hstub
  obtain ⟨layout, direct, hfewer⟩ := exists_sized_of_stubFrame hshorter
  refine ⟨layout, longer, direct, longerDirect, hfewer, hmore, ?_⟩
  rcases Nat.lt_or_ge (Tally.countOf kind.val.registerClass (before ++ after))
    (convention.registers kind.val.registerClass) with hlt | hle
  · rw [if_pos hlt, Nat.add_zero] at hbytes
    exact oneMore_of_lt hfewer hmore rfl hbytes hlt
  · rw [if_neg (Nat.not_lt.mpr hle)] at hbytes
    exact oneMore_of_le hfewer hmore rfl hbytes hle

end Convention

/-! ## Insertion into a text -/

namespace Signature

/-- **A letter of an argument put into the text of a signature**, anywhere behind the letter of the
result, puts its kind between two of the arguments. -/
theorem exists_insert {left right : String} {letter : Char} {signature : Signature}
    (hleft : left ≠ "") (hparse : parse (left ++ right) = .ok signature)
    (hletter : letter ∈ argumentAlphabet) :
    ∃ (kind : ArgumentKind) (before after : List ArgumentKind), kind.val.letter = letter ∧
      signature.arguments = before ++ after ∧
      left.push letter ++ right =
        (⟨signature.result, before ++ kind :: after⟩ : Signature).text := by
  have hread : ∃ kind, readArgument letter 1 = .ok kind :=
    exists_readArgument_eq_ok_iff.mpr hletter
  obtain ⟨kind, hkind⟩ := hread
  obtain rfl := readArgument_eq_ok_iff.mp hkind
  have htext := congrArg String.toList (parse_eq_ok_iff.mp hparse)
  rw [String.toList_append, toList_text] at htext
  cases hlist : left.toList with
  | nil => exact absurd (String.toList_eq_nil_iff.mp hlist) hleft
  | cons first rest =>
      rw [hlist, List.cons_append, List.cons.injEq] at htext
      obtain ⟨hfirst, hrest⟩ := htext
      -- the letters on the two sides are those of two parts of the arguments
      obtain ⟨before, after, hsplit, hbefore, hafter⟩ := List.map_eq_append_iff.mp hrest.symm
      refine ⟨kind, before, after, rfl, hsplit, String.toList_inj.mp ?_⟩
      rw [String.toList_append, String.toList_push, hlist, toList_text, List.map_append,
        List.map_cons, hbefore, hafter, hfirst]
      simp

end Signature

namespace Convention

/-! ## More registers -/

/-- **A convention with no fewer registers of each file**, and with the same sizes. -/
structure Widens (wider convention : Convention) : Prop where
  /-- There are no fewer floating-point registers. -/
  floatingPoint : convention.floatingPointRegisters ≤ wider.floatingPointRegisters
  /-- There are no fewer registers for everything else. -/
  integer : convention.integerRegisters ≤ wider.integerRegisters
  /-- A word takes the same bytes. -/
  wordSize : wider.wordSize = convention.wordSize
  /-- The stack is aligned in the same way. -/
  stackAlignment : wider.stackAlignment = convention.stackAlignment

/-- **A query that returns no more than another one**, and returns wherever the other one does. -/
def NoLarger (outcome other : Except Fault Word) : Prop :=
  ∀ size, other = .ok size → ∃ smaller, outcome = .ok smaller ∧ smaller ≤ size

/-- Aligned values are returned in their order. -/
theorem noLarger_of_aligned {outcome other : Except Fault Word} {value less alignment : Nat}
    (ha : 0 < alignment) (hle : less ≤ value)
    (hother : ∀ size, other = .ok size ↔
      value + alignment < Word.bound ∧ size.toNat = alignUp value alignment)
    (houtcome : ∀ size, outcome = .ok size ↔
      less + alignment < Word.bound ∧ size.toNat = alignUp less alignment) :
    NoLarger outcome other := by
  intro size hreturned
  obtain ⟨hfits, hsize⟩ := (hother size).mp hreturned
  have hroom : less + alignment < Word.bound := by omega
  obtain ⟨smaller, hsmaller⟩ := exists_toNat_eq_alignUp ha hroom
  refine ⟨smaller, (houtcome smaller).mpr ⟨hroom, hsmaller⟩, ?_⟩
  rw [UInt64.le_iff_toNat_le, hsmaller, hsize]
  exact alignUp_mono ha hle

namespace Widens

variable {wider convention : Convention} {text : String}

/-- With more registers there are no more bytes of stack arguments. -/
theorem exactOutArgs_le (hwider : wider.Widens convention) (tally : Tally) :
    wider.exactOutArgs tally ≤ convention.exactOutArgs tally := by
  have hfp := UInt64.le_iff_toNat_le.mp hwider.floatingPoint
  have hint := UInt64.le_iff_toNat_le.mp hwider.integer
  rw [exactOutArgs, exactOutArgs, hwider.wordSize, spilled, spilled]
  exact Nat.mul_le_mul_right _ (by omega)

/-- With more registers a stub keeps no more bytes. -/
theorem exactStub_le (hwider : wider.Widens convention) (text : String) (tally : Tally) :
    wider.exactStub text tally ≤ convention.exactStub text tally := by
  have hsame : ∀ outArgs narrow,
      wider.stubContents outArgs narrow = convention.stubContents outArgs narrow := by
    intro outArgs narrow
    rw [stubContents, stubContents, hwider.wordSize]
  rw [exactStub, hsame]
  exact convention.stubContents_mono (hwider.exactOutArgs_le tally) _

/-- **More registers never make the stack arguments larger**, nor leave them without a size. -/
theorem noLarger_callArgs (hwider : wider.Widens convention) (text : String) :
    NoLarger (wider.callArgs text) (convention.callArgs text) := by
  intro size hargs
  obtain ⟨tally, hcounted⟩ := exists_tally_of_callArgs hargs
  have hsize := (callArgs_eq_ok_iff hcounted).mp hargs
  have hle := hwider.exactOutArgs_le tally
  have hbound := Word.toNat_lt_bound size
  obtain ⟨smaller, hsmaller⟩ :=
    Word.exists_toNat_eq (show wider.exactOutArgs tally < Word.bound by omega)
  refine ⟨smaller, (callArgs_eq_ok_iff hcounted).mpr hsmaller, ?_⟩
  rw [UInt64.le_iff_toNat_le]
  omega

/-- **More registers never make the stub's frame larger**, nor leave it without a size. -/
theorem noLarger_stubFrame (hwider : wider.Widens convention) (text : String) :
    NoLarger (wider.stubFrame text).outcome (convention.stubFrame text).outcome := by
  intro size hstub
  obtain ⟨tally, hcounted⟩ := exists_tally_of_stubFrame hstub
  refine noLarger_of_aligned convention.stackAlignment_pos (hwider.exactStub_le text tally)
    (fun _ => stubFrame_eq_ok_iff hcounted) (fun _ => ?_) size hstub
  rw [stubFrame_eq_ok_iff hcounted, hwider.stackAlignment]

/-- **More registers never make the direct call's frame larger**, nor leave it without a size. -/
theorem noLarger_directFrame (hwider : wider.Widens convention) (text : String) :
    NoLarger (wider.directFrame text).outcome (convention.directFrame text).outcome := by
  intro size hdirect
  obtain ⟨tally, hcounted⟩ := exists_tally_of_directFrame hdirect
  refine noLarger_of_aligned convention.stackAlignment_pos (hwider.exactOutArgs_le tally)
    (fun _ => directFrame_eq_ok_iff hcounted) (fun _ => ?_) size hdirect
  rw [directFrame_eq_ok_iff hcounted, hwider.stackAlignment]

end Widens

/-- **The sizes of a call follow its arguments and the registers.** Under every convention, when a
letter of an argument is put into the text of a signature, anywhere behind the letter of the result,
and the stub of the longer text has a frame, then every query returns on both texts. The argument
takes a word unless its file has a register left for it; the direct call's frame grows by nothing or
by one alignment, and so does the stub's, except that it grows by two when it is no tail call any
more and a word is a whole alignment; and a tail call was one before. With more registers of either
file no query on any text returns more, and none that returned stops. -/
theorem argument_monotone (convention : Convention) :
    (∀ (left right : String) (letter : Char) (signature : Signature) (size : Word), left ≠ "" →
      Signature.parse (left ++ right) = .ok signature → letter ∈ argumentAlphabet →
      (convention.stubFrame (left.push letter ++ right)).outcome = .ok size →
      ∃ (kind : ArgumentKind) (layout longer : StubLayout) (direct longerDirect : Word),
        kind.val.letter = letter ∧ convention.Sized (left ++ right) layout direct ∧
        convention.Sized (left.push letter ++ right) longer longerDirect ∧
        convention.OneMore kind (Tally.countOf kind.val.registerClass signature.arguments) layout
          longer direct longerDirect) ∧
    ∀ wider : Convention, wider.Widens convention → ∀ text : String,
      NoLarger (wider.callArgs text) (convention.callArgs text) ∧
      NoLarger (wider.stubFrame text).outcome (convention.stubFrame text).outcome ∧
      NoLarger (wider.directFrame text).outcome (convention.directFrame text).outcome := by
  refine ⟨?_, ?_⟩
  · intro left right letter signature size hleft hparse hletter hstub
    obtain ⟨kind, before, after, hkind, hsplit, hlonger⟩ :=
      Signature.exists_insert hleft hparse hletter
    have hshorter : left ++ right = (⟨signature.result, before ++ after⟩ : Signature).text := by
      rw [← hsplit]
      exact Signature.parse_eq_ok_iff.mp hparse
    rw [hlonger] at hstub
    obtain ⟨layout, longer, direct, longerDirect, hfewer, hmore, hgrowth⟩ :=
      oneMore_of_stubFrame hstub
    rw [hshorter, hlonger, hsplit]
    exact ⟨kind, layout, longer, direct, longerDirect, hkind, hfewer, hmore, hgrowth⟩
  · intro wider hwider text
    exact ⟨hwider.noLarger_callArgs text, hwider.noLarger_stubFrame text,
      hwider.noLarger_directFrame text⟩

/-- One integer register holds the only argument of `VI`, whose stub is a tail call. A second
argument costs the tail call, and where a word is a whole alignment the frame grows by two of them.
One register more would keep it empty. -/
theorem argument_monotone_lost_tail_call :
    let convention : Convention := ⟨0, 1, 8, 8, by decide, ⟨3, rfl⟩, by decide⟩
    let wider : Convention := ⟨0, 2, 8, 8, by decide, ⟨3, rfl⟩, by decide⟩
    (convention.stubFrame ("V".push 'J' ++ "I")).outcome = .ok 16 ∧
    (∃ (kind : ArgumentKind) (layout longer : StubLayout) (direct longerDirect : Word),
      convention.OneMore kind (Tally.countOf kind.val.registerClass [⟨.int, by decide⟩]) layout
        longer direct longerDirect ∧
      longer.size.toNat = layout.size.toNat + 2 * 8) ∧
    ∃ smaller : Word, (wider.stubFrame ("V".push 'J' ++ "I")).outcome = .ok smaller ∧
      smaller ≤ 16 := by
  intro convention wider
  have hparse : Signature.parse ("V" ++ "I") = .ok ⟨.void, [⟨.int, by decide⟩]⟩ := rfl
  have hshort : Tally.ofText ("V" ++ "I") = .ok ⟨0, 1⟩ := rfl
  have hlong : Tally.ofText ("V".push 'J' ++ "I") = .ok ⟨0, 2⟩ := rfl
  have hstub : (convention.stubFrame ("V".push 'J' ++ "I")).outcome = .ok 16 :=
    (stubFrame_eq_ok_iff hlong).mpr ⟨by decide, by decide⟩
  obtain ⟨hinsert, hwider⟩ := argument_monotone convention
  obtain ⟨kind, layout, longer, direct, longerDirect, -, hfewer, hmore, hgrowth⟩ :=
    hinsert "V" "I" 'J' _ 16 (by decide) hparse (by decide) hstub
  obtain ⟨-, hstubWider, -⟩ := hwider wider ⟨by decide, by decide, rfl, rfl⟩ ("V".push 'J' ++ "I")
  have hnothing : (convention.stubFrame ("V" ++ "I")).outcome = .ok 0 :=
    (stubFrame_eq_ok_iff hshort).mpr ⟨by decide, by decide⟩
  have hzero : layout.size = 0 := Except.ok.inj (hfewer.stubFrame.symm.trans hnothing)
  have hsixteen : longer.size = 16 := Except.ok.inj (hmore.stubFrame.symm.trans hstub)
  refine ⟨hstub, ⟨kind, layout, longer, direct, longerDirect, hgrowth, ?_⟩, hstubWider 16 hstub⟩
  rw [hzero, hsixteen]
  rfl

end Convention

end CallFrame
