import CallFrame.Proofs.Counting
import CallFrame.Proofs.Grammar
import Mathlib.Data.List.Basic

/-! # Writing signatures and reading them back

A result and a list of arguments are written letter by letter, whether they make a signature or
not. What was written is read back as the same kinds, unless `void` is among the arguments; and what
was read is written again as the same text.

* **`kindsIn`** — the kinds of the letters of a text, where other characters are passed over; it
  undoes `spell` on all kinds (`kindsIn_spell`), so that different kinds have different texts
  (`spell_inj`).
* **`Signature.parse_spell_eq_ok_iff`** — what is written is read as the signature of its kinds.
* **`Signature.parse_spell_of_mem`** — with `void` among the arguments, the first one is named.
* **`Tally.ofSignature_eq_ok_iff_countP`** — the tally of a signature, as numbers of kinds.
* **`Signature.spell_parse_inverse`** — writing and reading undo each other. -/

namespace CallFrame

/-! ## Letters one by one -/

/-- **The kinds of the letters of a text**, from left to right. A character that is no letter of a
kind is passed over. -/
def kindsIn (text : String) : List Kind := text.toList.filterMap Kind.ofLetter?

section

variable {result other : Kind} {arguments others : List Kind}

/-- The characters of what is written. -/
theorem toList_spell (result : Kind) (arguments : List Kind) :
    (spell result arguments).toList = result.letter :: arguments.map Kind.letter :=
  String.toList_ofList

/-- **Each letter that is written is that of its kind**, so that none is passed over. -/
@[simp] theorem kindsIn_spell (result : Kind) (arguments : List Kind) :
    kindsIn (spell result arguments) = result :: arguments := by
  have hletters : Kind.ofLetter? ∘ Kind.letter = some := funext Kind.ofLetter?_letter
  rw [kindsIn, toList_spell, ← List.map_cons (f := Kind.letter), List.filterMap_map, hletters,
    List.filterMap_some]

/-- Different kinds are written differently. -/
theorem spell_inj :
    spell result arguments = spell other others ↔ result = other ∧ arguments = others := by
  constructor
  · intro hsame
    have hkinds := congrArg kindsIn hsame
    rwa [kindsIn_spell, kindsIn_spell, List.cons.injEq] at hkinds
  · rintro ⟨rfl, rfl⟩
    rfl

/-- **The first misfit among the letters of kinds is the first `void`.** -/
theorem isLeast_misfits_letters (hmem : Kind.void ∈ arguments) :
    IsLeast (misfits (arguments.map Kind.letter)) (arguments.idxOf .void) := by
  -- induction on the kinds; each kind in front of the first `void` moves it by one position
  induction arguments with
  | nil => cases hmem
  | cons kind rest ih =>
      rw [List.map_cons]
      by_cases hvoid : kind = .void
      · subst hvoid
        rw [List.idxOf_cons_self, isLeast_zero_iff, zero_mem_misfits_cons]
        exact void_notMem_argumentAlphabet
      · have hrest : Kind.void ∈ rest := List.mem_of_ne_of_mem (Ne.symm hvoid) hmem
        rw [List.idxOf_cons_ne rest hvoid, isLeast_misfits_cons_succ]
        exact ⟨Kind.letter_mem_argumentAlphabet hvoid, ih hrest⟩

end

/-! ## Signatures of written kinds -/

namespace Signature

variable {result : Kind} {arguments : List Kind} {signature : Signature}

/-- No argument of a signature is `void`. -/
theorem void_notMem_argumentKinds (signature : Signature) :
    Kind.void ∉ signature.argumentKinds := by
  intro hmem
  obtain ⟨kind, -, hvoid⟩ := List.mem_map.mp hmem
  exact kind.property hvoid

/-- Kinds are those of a signature's arguments exactly when `void` is not among them. -/
theorem exists_argumentKinds_eq_iff (result : Kind) (arguments : List Kind) :
    (∃ signature : Signature, signature.result = result ∧ signature.argumentKinds = arguments) ↔
      Kind.void ∉ arguments := by
  constructor
  · rintro ⟨signature, -, rfl⟩
    exact signature.void_notMem_argumentKinds
  · intro hvoid
    have hkinds : ∀ kind ∈ arguments, kind ≠ .void := by
      rintro kind hmem rfl
      exact hvoid hmem
    exact ⟨⟨result, arguments.attachWith (· ≠ .void) hkinds⟩, rfl,
      List.attachWith_map_subtype_val hkinds⟩

/-- **What is written is read as the signature of its kinds**, and as no other. -/
theorem parse_spell_eq_ok_iff :
    parse (spell result arguments) = .ok signature ↔
      signature.result = result ∧ signature.argumentKinds = arguments := by
  rw [parse_eq_ok_iff, text, spell_inj, eq_comm (a := result), eq_comm (a := arguments)]

/-- **Without `void` among the arguments what is written is read**, and only then. -/
theorem exists_parse_spell_eq_ok_iff :
    (∃ signature, parse (spell result arguments) = .ok signature) ↔ Kind.void ∉ arguments := by
  simp only [parse_spell_eq_ok_iff]
  exact exists_argumentKinds_eq_iff result arguments

/-- **The first `void` among the arguments is named**, one position behind its own index. -/
theorem parse_spell_of_mem (hmem : Kind.void ∈ arguments) :
    parse (spell result arguments) = .error (.voidArgument (1 + arguments.idxOf .void)) := by
  have hlist := toList_spell result arguments
  have hindex : arguments[arguments.idxOf .void]? = some .void := List.getElem?_idxOf hmem
  rw [parse_eq_error_voidArgument_iff, Nat.add_comm, isLeast_defects_succ_iff hlist, hlist,
    List.getElem?_cons_succ, List.getElem?_map, hindex]
  exact ⟨⟨result.letter_mem_resultAlphabet, isLeast_misfits_letters hmem⟩, rfl⟩

/-- A text that is read is written again, and each of its letters is that of its kind. -/
theorem spell_of_parse {text : String} (hparse : parse text = .ok signature) :
    spell signature.result signature.argumentKinds = text ∧
      kindsIn text = signature.result :: signature.argumentKinds := by
  obtain rfl := parse_eq_ok_iff.mp hparse
  exact ⟨rfl, kindsIn_spell _ _⟩

end Signature

/-! ## Tallies of written kinds -/

/-- Two kinds are passed in floating-point registers. -/
theorem Kind.registerClass_eq_floatingPoint_iff {kind : Kind} :
    kind.registerClass = .floatingPoint ↔ kind ∈ [Kind.float, Kind.double] := by
  cases kind <;> decide

/-- All other kinds are passed in integer registers. -/
theorem Kind.registerClass_eq_integer_iff {kind : Kind} :
    kind.registerClass = .integer ↔ kind ∉ [Kind.float, Kind.double] := by
  cases kind <;> decide

namespace Tally

variable {signature : Signature}

/-- **The tally of a signature holds the number of arguments of two kinds and that of all
others.** -/
theorem ofSignature_eq_ok_iff_countP {tally : Tally} :
    ofSignature signature = .ok tally ↔
      tally.floatingPoint.toNat = signature.argumentKinds.countP (· ∈ [Kind.float, Kind.double]) ∧
        tally.integer.toNat = signature.argumentKinds.countP (· ∉ [Kind.float, Kind.double]) := by
  simp only [ofSignature_eq_ok_iff, countOf, Signature.argumentKinds, List.countP_map,
    Kind.registerClass_eq_floatingPoint_iff, Kind.registerClass_eq_integer_iff]
  rfl

/-- Arguments that are fewer than the bound have a tally. -/
theorem exists_ofSignature (hfits : signature.arguments.length < Word.bound) :
    ∃ tally, ofSignature signature = .ok tally := by
  have hadd := countOf_add signature.arguments
  obtain ⟨floatingPoint, hfp⟩ := Word.exists_toNat_eq
    (show countOf .floatingPoint signature.arguments < Word.bound by omega)
  obtain ⟨integer, hint⟩ := Word.exists_toNat_eq
    (show countOf .integer signature.arguments < Word.bound by omega)
  exact ⟨⟨floatingPoint, integer⟩, ofSignature_eq_ok_iff.mpr ⟨hfp, hint⟩⟩

end Tally

/-! ## Both directions -/

namespace Signature

/-- **Writing and reading undo each other.** For every result and every list of arguments, what is
written is read exactly when `void` is not among the arguments. What is read then has that result
and those arguments in their order, and its tally holds the number of arguments of kind `float` or
`double` and that of all others; there is such a tally as long as a word can count the arguments.
With `void` among the arguments the first one is named, at its position in the text. In the other
direction, every text that is read is written again from its kinds, and these are the kinds of its
letters with none passed over. -/
theorem spell_parse_inverse (result : Kind) (arguments : List Kind) :
    ((∃ signature, parse (spell result arguments) = .ok signature) ↔ Kind.void ∉ arguments) ∧
    (∀ signature, parse (spell result arguments) = .ok signature →
      signature.result = result ∧ signature.argumentKinds = arguments ∧
      (∀ tally, Tally.ofSignature signature = .ok tally ↔
        tally.floatingPoint.toNat = arguments.countP (· ∈ [Kind.float, Kind.double]) ∧
          tally.integer.toNat = arguments.countP (· ∉ [Kind.float, Kind.double])) ∧
      (arguments.length < Word.bound → ∃ tally, Tally.ofSignature signature = .ok tally)) ∧
    (Kind.void ∈ arguments →
      parse (spell result arguments) = .error (.voidArgument (1 + arguments.idxOf .void))) ∧
    ∀ text signature, parse text = .ok signature →
      spell signature.result signature.argumentKinds = text ∧
        kindsIn text = signature.result :: signature.argumentKinds := by
  refine ⟨exists_parse_spell_eq_ok_iff, ?_, parse_spell_of_mem,
    fun _ _ hparse => spell_of_parse hparse⟩
  intro signature hparse
  obtain ⟨hresult, harguments⟩ := parse_spell_eq_ok_iff.mp hparse
  have hlength : signature.arguments.length = arguments.length := by
    rw [← harguments, argumentKinds, List.length_map]
  refine ⟨hresult, harguments, fun tally => ?_, fun hfits => ?_⟩
  · rw [Tally.ofSignature_eq_ok_iff_countP, harguments]
  · exact Tally.exists_ofSignature (hlength ▸ hfits)

/-- Of two arguments `void`, the first one is named, at position two; without them the arguments are
read back, one of each register file. -/
theorem spell_parse_inverse_boolean :
    parse (spell .boolean [.float, .void, .long, .void]) = .error (.voidArgument 2) ∧
      ∃ signature, parse (spell .boolean [.float, .long]) = .ok signature ∧
        signature.argumentKinds = [.float, .long] ∧
        Tally.ofSignature signature = .ok ⟨1, 1⟩ := by
  obtain ⟨-, -, hvoid, -⟩ := spell_parse_inverse .boolean [.float, .void, .long, .void]
  obtain ⟨hexists, hread, -⟩ := spell_parse_inverse .boolean [.float, .long]
  obtain ⟨signature, hparse⟩ := hexists.mpr (by decide)
  obtain ⟨-, harguments, htally, -⟩ := hread signature hparse
  exact ⟨hvoid (by decide), signature, hparse, harguments, (htally ⟨1, 1⟩).mpr (by decide)⟩

end Signature

end CallFrame
