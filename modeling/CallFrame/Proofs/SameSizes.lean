import CallFrame.Proofs.Agreement
import CallFrame.Proofs.CharacterTally
import Mathlib.Data.List.Forall2

/-! # What sizes depend on

The sizes of a call depend on its signature only through the number of arguments of each register
file and on whether the result is narrow. So arguments can be put in another order or exchanged for
others of their file, and every signature has the sizes of one that is written from its two numbers
alone.

* **`Rearranged`** — arguments in another order, or exchanged for others of their file.
* **`Signature.Alike`** — signatures with the same tally and with results that are both narrow or
  both not; `alike_of_rearranged` finds them among rearranged arguments.
* **`Signature.ofMix`** — the signature that `spellMix` writes; `Tally.ofText_spellMix` counts what
  is written, behind any character of one byte.
* **`Convention.SameSizes`** — texts that no query on sizes tells apart.
* **`Convention.sameSizes_of_alike`** — signatures that are alike have the same sizes under every
  convention, and each is like the signature written from its numbers. -/

namespace CallFrame

/-! ## Rearranged arguments -/

/-- **Arguments rearranged**: put in another order, or exchanged one by one for arguments of the same
file, or both, any number of times. -/
inductive Rearranged : List ArgumentKind → List ArgumentKind → Prop where
  /-- The same arguments stand in another order. -/
  | permuted {arguments others : List ArgumentKind} (horder : arguments.Perm others) :
      Rearranged arguments others
  /-- Each argument has given place to one of its file, or stayed. -/
  | exchanged {arguments others : List ArgumentKind}
      (hfiles : List.Forall₂ (fun kind other : ArgumentKind =>
        kind.val.registerClass = other.val.registerClass) arguments others) :
      Rearranged arguments others
  /-- What was rearranged is rearranged again. -/
  | trans {arguments between others : List ArgumentKind} (hfirst : Rearranged arguments between)
      (hsecond : Rearranged between others) : Rearranged arguments others

namespace Tally

variable {arguments others : List ArgumentKind}

/-- Exchanged arguments are of the same files, one after the other. -/
theorem countOf_exchanged
    (hfiles : List.Forall₂ (fun kind other : ArgumentKind =>
      kind.val.registerClass = other.val.registerClass) arguments others)
    (file : RegisterClass) : countOf file arguments = countOf file others := by
  induction hfiles with
  | nil => rfl
  | cons hfirst _ ih => rw [countOf_cons, countOf_cons, hfirst, ih]

/-- **Rearranging leaves the number of arguments of each file as it is.** -/
theorem countOf_rearranged (hrearranged : Rearranged arguments others) (file : RegisterClass) :
    countOf file arguments = countOf file others := by
  induction hrearranged with
  | permuted horder => exact horder.countP_eq _
  | exchanged hfiles => exact countOf_exchanged hfiles file
  | trans _ _ hfirst hsecond => exact hfirst.trans hsecond

end Tally

/-! ## Signatures that are alike -/

namespace Signature

/-- **Signatures that are alike**: with the same tally, and with results that are both narrow or
both not. -/
structure Alike (signature other : Signature) : Prop where
  /-- There are as many arguments of each file. -/
  tally : Tally.ofSignature signature = Tally.ofSignature other
  /-- Both results have to be extended, or neither. -/
  narrow : signature.result.isNarrow = other.result.isNarrow

variable {signature other : Signature} {tally : Tally}

/-- A signature with as many arguments of each file has the same tally. -/
theorem ofSignature_eq_ok_of_countOf
    (hcounts : ∀ file, Tally.countOf file signature.arguments = Tally.countOf file other.arguments)
    (htally : Tally.ofSignature signature = .ok tally) : Tally.ofSignature other = .ok tally := by
  rw [Tally.ofSignature_eq_ok_iff] at htally ⊢
  rwa [← hcounts, ← hcounts]

/-- **Rearranged arguments and a result that is narrow or not as before make a signature alike.** -/
theorem alike_of_rearranged (htally : Tally.ofSignature signature = .ok tally)
    (hrearranged : Rearranged signature.arguments other.arguments)
    (hnarrow : signature.result.isNarrow = other.result.isNarrow) : signature.Alike other where
  tally := htally.trans
    (ofSignature_eq_ok_of_countOf (Tally.countOf_rearranged hrearranged) htally).symm
  narrow := hnarrow

/-- Signatures that are alike are written with as many letters. -/
theorem Alike.length_eq (halike : signature.Alike other)
    (htally : Tally.ofSignature signature = .ok tally) :
    signature.arguments.length = other.arguments.length := by
  obtain ⟨hfp, hint⟩ := Tally.ofSignature_eq_ok_iff.mp htally
  obtain ⟨hfp', hint'⟩ := Tally.ofSignature_eq_ok_iff.mp (halike.tally ▸ htally)
  rw [← Tally.countOf_add, ← Tally.countOf_add other.arguments]
  omega

/-! ## Signatures written from two numbers -/

/-- The signature of a result, of arguments of kind `double` and then of arguments of kind `int`. -/
def ofMix (result : Kind) (doubles ints : Nat) : Signature :=
  ⟨result, List.replicate doubles ⟨.double, by decide⟩ ++ List.replicate ints ⟨.int, by decide⟩⟩

/-- It is written as `spellMix` writes it. -/
theorem text_ofMix (result : Kind) (doubles ints : Nat) :
    (ofMix result doubles ints).text = spellMix result.letter doubles ints := by
  rw [← String.toList_inj, toList_text, ofMix, spellMix, String.toList_ofList]
  simp

/-- It has as many arguments of each file as it was made from. -/
theorem countOf_ofMix (result : Kind) (doubles ints : Nat) :
    Tally.countOf .floatingPoint (ofMix result doubles ints).arguments = doubles ∧
      Tally.countOf .integer (ofMix result doubles ints).arguments = ints := by
  simp [ofMix, Tally.countOf, List.countP_append, List.countP_replicate, Kind.registerClass]

/-- **The signature written from the numbers of another one is like that one.** -/
theorem alike_ofMix (htally : Tally.ofSignature signature = .ok tally) :
    signature.Alike
      (ofMix signature.result tally.floatingPoint.toNat tally.integer.toNat) where
  tally := by
    rw [htally, eq_comm, Tally.ofSignature_eq_ok_iff]
    obtain ⟨hfp, hint⟩ := countOf_ofMix signature.result tally.floatingPoint.toNat
      tally.integer.toNat
    exact ⟨hfp.symm, hint.symm⟩
  narrow := rfl

end Signature

namespace Tally

/-- **A text written from two numbers is counted as those numbers**, behind any character of one
byte, be it the letter of a result or not. -/
theorem ofText_spellMix {character : Char} {doubles ints : Word} (hone : character.utf8Size = 1)
    (hfits : 1 + doubles.toNat + ints.toNat < Word.bound) :
    ofText (spellMix character doubles.toNat ints.toNat) = .ok ⟨doubles, ints⟩ := by
  have hlist : (spellMix character doubles.toNat ints.toNat).toList = character ::
      (List.replicate doubles.toNat 'D' ++ List.replicate ints.toNat 'I') :=
    String.toList_ofList
  -- the letters behind the first character take one byte each
  have hletters : ∀ letter ∈ List.replicate doubles.toNat 'D' ++ List.replicate ints.toNat 'I',
      letter.toNat < 128 := by
    intro letter hmem
    rcases List.mem_append.mp hmem with hdouble | hint
    · rw [List.eq_of_mem_replicate hdouble]
      decide
    · rw [List.eq_of_mem_replicate hint]
      decide
  have hbytes := length_flatMap_utf8EncodeChar_eq_iff.mpr hletters
  rw [List.length_append, List.length_replicate, List.length_replicate] at hbytes
  have hsize : (spellMix character doubles.toNat ints.toNat).utf8ByteSize < Word.bound := by
    rw [utf8ByteSize_eq_length, hlist, List.flatMap_cons, List.length_append,
      String.length_utf8EncodeChar, hone, hbytes]
    omega
  have hne : spellMix character doubles.toNat ints.toNat ≠ "" := by
    intro hempty
    rw [hempty] at hlist
    cases hlist
  obtain ⟨tally, htally, -⟩ := ofText_eq_ok hne hsize
  obtain ⟨hfp, hsum⟩ := ofText_of_utf8Size_eq_one hlist hsize hone htally
  rw [List.countP_append, List.countP_replicate, List.countP_replicate, if_pos (by decide),
    if_neg (by decide)] at hfp
  rw [htally, Except.ok.injEq, toNat_inj]
  rw [hbytes] at hsum
  dsimp only
  constructor <;> omega

end Tally

namespace Convention

/-! ## Sizes -/

/-- **Texts that no query on sizes tells apart**: each query returns the same size for both, or
stops with the same fault. -/
structure SameSizes (convention : Convention) (text other : String) : Prop where
  /-- The stack arguments have the same size. -/
  callArgs : convention.callArgs text = convention.callArgs other
  /-- The stub has the same frame. -/
  stubFrame : (convention.stubFrame text).outcome = (convention.stubFrame other).outcome
  /-- The direct call has the same frame. -/
  directFrame : (convention.directFrame text).outcome = (convention.directFrame other).outcome
  /-- The signatures of the texts have the same layout. -/
  stubLayout : ∀ signature otherSignature, Signature.parse text = .ok signature →
    Signature.parse other = .ok otherSignature →
    (convention.stubLayout signature).outcome = (convention.stubLayout otherSignature).outcome

variable (convention : Convention)

/-- **The queries on a text look at nothing but its tally and the narrowness of its result.** -/
theorem outcomes_eq_of_ofText {text other : String} (htally : Tally.ofText text = Tally.ofText other)
    (hnarrow : hasNarrowResult text = hasNarrowResult other) :
    convention.callArgs text = convention.callArgs other ∧
      (convention.stubFrame text).outcome = (convention.stubFrame other).outcome ∧
      (convention.directFrame text).outcome = (convention.directFrame other).outcome := by
  have hargs : convention.callArgs text = convention.callArgs other := by
    rw [callArgs, callArgs, htally]
  refine ⟨hargs, ?_, ?_⟩
  · rw [outcome_stubFrame, outcome_stubFrame, hargs, hnarrow]
  · rw [outcome_directFrame, outcome_directFrame, hargs]

/-- **The layout of a signature looks at nothing but its tally and the narrowness of its result.** -/
theorem outcome_stubLayout_eq_of_alike {signature other : Signature}
    (halike : signature.Alike other) :
    (convention.stubLayout signature).outcome = (convention.stubLayout other).outcome := by
  rw [outcome_stubLayout, outcome_stubLayout, halike.tally, halike.narrow]

/-- **Signatures that are alike have the same sizes.** -/
theorem sameSizes_text {signature other : Signature} (halike : signature.Alike other)
    (hfits : signature.text.utf8ByteSize < Word.bound) :
    convention.SameSizes signature.text other.text := by
  obtain ⟨tally, htext, hsignature⟩ := Tally.ofText_text hfits
  -- the other text is as long as this one, so that it is counted as well
  have hlength := halike.length_eq hsignature
  have hsize := Tally.utf8ByteSize_text signature
  have hsize' := Tally.utf8ByteSize_text other
  obtain ⟨tally', htext', hsignature'⟩ :=
    Tally.ofText_text (show other.text.utf8ByteSize < Word.bound by omega)
  have hsame : tally = tally' := by
    rw [halike.tally, hsignature', Except.ok.injEq] at hsignature
    exact hsignature.symm
  obtain ⟨hargs, hstub, hdirect⟩ := convention.outcomes_eq_of_ofText
    (show Tally.ofText signature.text = Tally.ofText other.text by rw [htext, htext', hsame])
    (by rw [hasNarrowResult_text, hasNarrowResult_text, halike.narrow])
  refine ⟨hargs, hstub, hdirect, fun found found' hparse hparse' => ?_⟩
  rw [Signature.parse_text, Except.ok.injEq] at hparse hparse'
  subst hparse hparse'
  exact convention.outcome_stubLayout_eq_of_alike halike

/-- **Sizes depend on two numbers and on the narrowness of the result.** Under every convention,
texts of signatures that are alike are told apart by no query: each returns the same size for both
or stops with the same fault. Signatures are alike when their arguments are rearranged and their
results are both narrow or both not. Every signature has the sizes of the text that is written from
its result's letter and its two numbers, and that text is always read. What is written from two
numbers is counted as these numbers, behind every character of one byte. -/
theorem sameSizes_of_alike (convention : Convention) {text : String} {signature : Signature}
    (hparse : Signature.parse text = .ok signature) (hfits : text.utf8ByteSize < Word.bound) :
    (∀ otherText other, Signature.parse otherText = .ok other → signature.Alike other →
      convention.SameSizes text otherText) ∧
    (∀ other : Signature, Rearranged signature.arguments other.arguments →
      signature.result.isNarrow = other.result.isNarrow → signature.Alike other) ∧
    (∃ tally canonical, Tally.ofSignature signature = .ok tally ∧
      Signature.parse (spellMix signature.result.letter tally.floatingPoint.toNat
        tally.integer.toNat) = .ok canonical ∧
      convention.SameSizes text (spellMix signature.result.letter tally.floatingPoint.toNat
        tally.integer.toNat)) ∧
    ∀ (character : Char) (doubles ints : Word), character.utf8Size = 1 →
      1 + doubles.toNat + ints.toNat < Word.bound →
      Tally.ofText (spellMix character doubles.toNat ints.toNat) = .ok ⟨doubles, ints⟩ := by
  obtain rfl := Signature.parse_eq_ok_iff.mp hparse
  obtain ⟨tally, -, htally⟩ := Tally.ofText_text hfits
  refine ⟨?_, fun _ => Signature.alike_of_rearranged htally, ?_,
    fun _ _ _ => Tally.ofText_spellMix⟩
  · intro otherText other hother halike
    rw [Signature.parse_eq_ok_iff.mp hother]
    exact convention.sameSizes_text halike hfits
  · have hmix := Signature.text_ofMix signature.result tally.floatingPoint.toNat
      tally.integer.toNat
    refine ⟨tally, _, htally, Signature.parse_eq_ok_iff.mpr hmix.symm, ?_⟩
    rw [← hmix]
    exact convention.sameSizes_text (Signature.alike_ofMix htally) hfits

/-- `ZFJLD` and `BDDII` differ in the order and in the kinds of their arguments and in their
results, but not in their sizes; and nine letters are counted behind a mark that is no letter. -/
theorem sameSizes_of_alike_rearranged :
    let signature : Signature := ⟨.boolean, [⟨.float, by decide⟩, ⟨.long, by decide⟩,
      ⟨.reference, by decide⟩, ⟨.double, by decide⟩]⟩
    let other : Signature := ⟨.byte, [⟨.double, by decide⟩, ⟨.double, by decide⟩,
      ⟨.int, by decide⟩, ⟨.int, by decide⟩]⟩
    Signature.parse "ZFJLD" = .ok signature ∧ "ZFJLD".utf8ByteSize < Word.bound ∧
      Signature.parse "BDDII" = .ok other ∧ signature.Alike other ∧
      aapcs64.SameSizes "ZFJLD" "BDDII" ∧
      Tally.ofText (spellMix '?' 4 5) = .ok ⟨4, 5⟩ := by
  intro signature other
  have hparse : Signature.parse "ZFJLD" = .ok signature := rfl
  have hother : Signature.parse "BDDII" = .ok other := rfl
  have hfits : "ZFJLD".utf8ByteSize < Word.bound := by decide
  obtain ⟨hsame, halike, -, hmix⟩ := sameSizes_of_alike aapcs64 hparse hfits
  have hrearranged : Rearranged signature.arguments other.arguments := by
    have horder : signature.arguments.Perm [⟨.float, by decide⟩, ⟨.double, by decide⟩,
        ⟨.long, by decide⟩, ⟨.reference, by decide⟩] := by decide
    refine (Rearranged.permuted horder).trans (.exchanged ?_)
    exact .cons rfl (.cons rfl (.cons rfl (.cons rfl .nil)))
  have hboth := halike other hrearranged rfl
  exact ⟨hparse, hfits, hother, hboth, hsame _ _ hother hboth,
    hmix '?' 4 5 rfl (by decide)⟩

end Convention

end CallFrame
