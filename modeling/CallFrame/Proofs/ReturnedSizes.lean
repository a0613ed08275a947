import CallFrame.Proofs.DirectCall
import CallFrame.Proofs.Agreement

/-! # What a returned size says

A size that was returned was counted on the way, so the text that it was returned for is short
enough for every other count. What follows asks for no bound on the text: one query that returned
is enough for the others.

* **`Word.toNat_of_count`** — a count that was returned is the number of items that pass.
* **`Tally.ofSignature_of_ofText`** — a text of a signature that was counted is counted as the
  signature.
* **`Convention.exists_directFrame_of_stubFrame`** and **`Convention.exists_layout_of_stubFrame`** —
  where the stub's frame of a text has a size, the direct call has one, and so has the layout for
  the signature. -/

namespace CallFrame

/-! ## Counts -/

/-- **A count that was returned is exact**, whatever the number of items is. -/
theorem Word.toNat_of_count {α : Type} {test : α → Bool} {items : List α} {found : Word}
    (hcount : Word.count test items = .ok found) : found.toNat = items.countP test := by
  suffices hfrom : ∀ (start : Word) (rest : List α),
      rest.foldlM (fun found item => if test item then Word.plus found 1 else .ok found) start =
        (.ok found : Except Fault Word) → found.toNat = start.toNat + rest.countP test by
    simpa using hfrom 0 items hcount
  intro start rest
  -- induction on the items that are left; the number counted so far is generalized
  induction rest generalizing start with
  | nil =>
      intro hdone
      cases hdone
      simp
  | cons first others ih =>
      intro hcounted
      rw [List.foldlM_cons, bind_eq_ok_iff] at hcounted
      obtain ⟨next, hnext, hothers⟩ := hcounted
      rw [ih next hothers]
      by_cases hpasses : test first
      · rw [if_pos hpasses, Word.plus_eq_ok_iff] at hnext
        rw [List.countP_cons_of_pos hpasses, hnext, show (1 : Word).toNat = 1 from rfl]
        omega
      · rw [if_neg hpasses, Except.ok.injEq] at hnext
        rw [List.countP_cons_of_neg hpasses, hnext]

namespace Tally

variable {signature : Signature} {tally : Tally}

/-- **The text of a signature that was counted is counted as the signature**, and a word can count
all of its arguments. -/
theorem ofSignature_of_ofText (htext : ofText signature.text = .ok tally) :
    ofSignature signature = .ok tally ∧ signature.arguments.length < Word.bound := by
  have hlist : signature.text.toList.isEmpty = false := by
    simp [Signature.toList_text]
  rw [ofText, if_neg (by simp [hlist])] at htext
  simp only [bind_eq_ok_iff] at htext
  obtain ⟨floatingPoint, hfp, length, hlength, integer, hint, hsame⟩ := htext
  cases hsame
  have hfpValue := Word.toNat_of_count hfp
  have hlengthValue := Word.toNat_of_count hlength
  rw [countP_argumentBytes_text] at hfpValue
  rw [List.countP_true, argumentBytes_text, List.length_map] at hlengthValue
  rw [Word.minus_eq_ok_iff] at hint
  have hadd := countOf_add signature.arguments
  have hbound := Word.toNat_lt_bound length
  refine ⟨ofSignature_eq_ok_iff.mpr ⟨hfpValue, ?_⟩, by omega⟩
  dsimp only
  omega

end Tally

/-! ## Sizes -/

namespace Convention

variable {convention : Convention} {text : String} {signature : Signature} {size : Word}

/-- **A direct call has a frame where the stub has one**, since it keeps no more than the stub. -/
theorem exists_directFrame_of_stubFrame
    (hstub : (convention.stubFrame text).outcome = .ok size) :
    ∃ direct, (convention.directFrame text).outcome = .ok direct := by
  obtain ⟨tally, htally⟩ := exists_tally_of_stubFrame hstub
  obtain ⟨hfits, -⟩ := (stubFrame_eq_ok_iff htally).mp hstub
  have hle : convention.exactOutArgs tally ≤ convention.exactStub text tally :=
    convention.le_stubContents _ _
  have hroom : convention.exactOutArgs tally + convention.stackAlignment.toNat < Word.bound := by
    omega
  obtain ⟨direct, hdirect⟩ := exists_toNat_eq_alignUp convention.stackAlignment_pos hroom
  exact ⟨direct, (directFrame_eq_ok_iff htally).mpr ⟨hroom, hdirect⟩⟩

/-- **A signature has a layout where its text has a stub's frame.** The layout has that size and
repeats the stack arguments of the text, and both leave the same events. -/
theorem exists_layout_of_stubFrame (hparse : Signature.parse text = .ok signature)
    (hstub : (convention.stubFrame text).outcome = .ok size) :
    ∃ layout, (convention.stubLayout signature).outcome = .ok layout ∧ layout.size = size ∧
      convention.callArgs text = .ok layout.outArgs ∧
      (convention.stubLayout signature).events = (convention.stubFrame text).events := by
  obtain rfl := Signature.parse_eq_ok_iff.mp hparse
  obtain ⟨tally, htext⟩ := exists_tally_of_stubFrame hstub
  obtain ⟨hsignature, -⟩ := Tally.ofSignature_of_ofText htext
  have hframe := convention.stubFrame_of_tally htext hsignature
  rw [hframe, Traced.outcome_map] at hstub
  cases hlayout : (convention.stubLayout signature).outcome with
  | error fault =>
      rw [hlayout] at hstub
      cases hstub
  | ok layout =>
      rw [hlayout] at hstub
      cases hstub
      obtain ⟨counted, hcounted, hout, -⟩ := stubLayout_eq_ok_iff.mp hlayout
      obtain rfl : tally = counted := Except.ok.inj (hsignature.symm.trans hcounted)
      refine ⟨layout, rfl, rfl, (callArgs_eq_ok_iff htext).mpr hout, ?_⟩
      rw [hframe, Traced.events_map]

end Convention

end CallFrame
