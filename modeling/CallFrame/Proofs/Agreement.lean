import CallFrame.Proofs.FrameSize

/-! # Texts and signatures agree

A frame can be sized from a text that nobody has checked or from a signature that was read from it.
The first way looks at bytes, the second at kinds of arguments. On the text of a signature they are
one computation.

* **`Convention.stubFrame_text`** — as traced computations, the query on the text is the query on
  the signature followed by taking the size.
* **`Convention.textQueries_agree`** — tallies, sizes, faults and events agree on every text that
  is read as a signature. -/

namespace CallFrame

/-- The text of a signature opens with the letter of its result. -/
theorem hasNarrowResult_text (signature : Signature) :
    hasNarrowResult signature.text = signature.result.isNarrow := by
  rw [hasNarrowResult, Signature.toList_text, List.head?_cons]
  simp

/-- The tally of a signature adds up to the number of its arguments. -/
theorem Tally.total_ofSignature {signature : Signature} {tally : Tally}
    (htally : Tally.ofSignature signature = .ok tally)
    (hfits : signature.arguments.length < Word.bound) :
    ∃ total, tally.total = .ok total ∧ total.toNat = signature.arguments.length := by
  obtain ⟨hfp, hint⟩ := Tally.ofSignature_eq_ok_iff.mp htally
  have hadd := Tally.countOf_add signature.arguments
  obtain ⟨total, htotal⟩ := Word.exists_toNat_eq hfits
  refine ⟨total, ?_, htotal⟩
  rw [Tally.total, Word.plus_eq_ok_iff]
  omega

namespace Convention

variable (convention : Convention) {signature : Signature}

/-- With one tally for both, the query on a signature's text is the query on the signature, cut down
to the size. -/
theorem stubFrame_of_tally {tally : Tally} (htext : Tally.ofText signature.text = .ok tally)
    (hsignature : Tally.ofSignature signature = .ok tally) :
    convention.stubFrame signature.text = StubLayout.size <$> convention.stubLayout signature := by
  rw [stubFrame, stubLayout, callArgs, htext, hsignature, hasNarrowResult_text]
  -- what is left of both is the same sequence, grouped in two ways
  show _ = StubLayout.size <$> (pure tally >>= _)
  rw [pure_bind, map_bind]
  rfl

/-- **The query on a signature's text is the query on the signature, cut down to the size.** Outcome
and events are the same, faults included. -/
theorem stubFrame_text (hfits : signature.text.utf8ByteSize < Word.bound) :
    convention.stubFrame signature.text = StubLayout.size <$> convention.stubLayout signature := by
  obtain ⟨tally, htext, hsignature⟩ := Tally.ofText_text hfits
  exact convention.stubFrame_of_tally htext hsignature

/-- The layout for a signature holds the stack arguments of its text. -/
theorem callArgs_text (hfits : signature.text.utf8ByteSize < Word.bound) {layout : StubLayout}
    (hlayout : (convention.stubLayout signature).outcome = .ok layout) :
    convention.callArgs signature.text = .ok layout.outArgs := by
  obtain ⟨tally, htext, hsignature⟩ := Tally.ofText_text hfits
  -- the layout was made from the signature's tally, which is that of the text
  obtain ⟨counted, hcounted, hout, -⟩ := stubLayout_eq_ok_iff.mp hlayout
  rw [hsignature] at hcounted
  cases hcounted
  exact (callArgs_eq_ok_iff htext).mpr hout

/-- **Queries on a checked text agree with those on its signature.** Both tallies are the same and
add up to the number of arguments, which is one less than the number of bytes; the two queries for
the stub both return, with equal sizes, or stop with the same fault; and they leave the same
events. -/
theorem textQueries_agree {text : String} (hparse : Signature.parse text = .ok signature)
    (hfits : text.utf8ByteSize < Word.bound) :
    (∃ tally total, Tally.ofSignature signature = .ok tally ∧ Tally.ofText text = .ok tally ∧
      tally.total = .ok total ∧ total.toNat + 1 = text.utf8ByteSize ∧
      total.toNat = signature.argumentKinds.length) ∧
    ((∃ layout, (convention.stubLayout signature).outcome = .ok layout ∧
        (convention.stubFrame text).outcome = .ok layout.size ∧
        convention.callArgs text = .ok layout.outArgs) ∨
      ∃ fault, (convention.stubLayout signature).outcome = .error fault ∧
        (convention.stubFrame text).outcome = .error fault) ∧
    (convention.stubLayout signature).events = (convention.stubFrame text).events := by
  -- the text is the one that the signature is written as
  obtain rfl := Signature.parse_eq_ok_iff.mp hparse
  have hframe := convention.stubFrame_text hfits
  refine ⟨?_, ?_, ?_⟩
  · obtain ⟨tally, htext, hsignature⟩ := Tally.ofText_text hfits
    have hsize := Tally.utf8ByteSize_text signature
    obtain ⟨total, htotal, hvalue⟩ := Tally.total_ofSignature hsignature (by omega)
    refine ⟨tally, total, hsignature, htext, htotal, by omega, ?_⟩
    rw [hvalue, Signature.argumentKinds, List.length_map]
  · -- both outcomes come from the one layout, and so does its fault
    rw [hframe, Traced.outcome_map]
    cases houtcome : (convention.stubLayout signature).outcome with
    | ok layout => exact Or.inl ⟨layout, rfl, rfl, convention.callArgs_text hfits houtcome⟩
    | error fault => exact Or.inr ⟨fault, rfl, rfl⟩
  · rw [hframe, Traced.events_map]

/-- A signature with arguments of both files, under the standard convention. -/
theorem textQueries_agree_aapcs64 :
    Signature.parse "ZFJ" = .ok ⟨.boolean, [⟨.float, by decide⟩, ⟨.long, by decide⟩]⟩ ∧
      "ZFJ".utf8ByteSize < Word.bound ∧
      ∃ tally total, Tally.ofText "ZFJ" = .ok tally ∧ tally.total = .ok total ∧
        total.toNat + 1 = "ZFJ".utf8ByteSize := by
  have hparse : Signature.parse "ZFJ" =
      .ok ⟨.boolean, [⟨.float, by decide⟩, ⟨.long, by decide⟩]⟩ := rfl
  have hfits : "ZFJ".utf8ByteSize < Word.bound := by decide
  obtain ⟨⟨tally, total, -, htally, htotal, hsize, -⟩, -⟩ := textQueries_agree aapcs64 hparse hfits
  exact ⟨hparse, hfits, tally, total, htally, htotal, hsize⟩

end Convention

end CallFrame
