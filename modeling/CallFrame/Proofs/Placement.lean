import CallFrame.Placement
import CallFrame.Proofs.FrameSize

/-! # Stack arguments are the slots of the placement

The size of the stack arguments is computed from two totals, without looking at any argument. This
file walks the arguments one after the other and shows that the walk hands out exactly the slots
that the size has room for.

* **`Taken.place_of_lt`** and **`Taken.place_of_le`** — one step of the walk: a register while the
  file has one left, the next slot otherwise.
* **`Taken.spilled`** — the number of slots still to be handed out; a step keeps it
  (`spilled_cons_of_lt`) or uses up one of it (`spilled_cons_of_le`).
* **`Taken.filterMap_span?_places`** — the slots of a whole walk, from any start.
* **`Convention.outArgs_eq_slots`** — the stack arguments of a layout are its slots. -/

namespace CallFrame

/-- The number of registers of a file. -/
def Convention.registers (convention : Convention) : RegisterClass → Nat
  | .floatingPoint => convention.floatingPointRegisters.toNat
  | .integer => convention.integerRegisters.toNat

namespace Taken

/-! ## One step -/

/-- The number of registers of a file that are taken. -/
def registers (taken : Taken) : RegisterClass → Nat
  | .floatingPoint => taken.floatingPoint
  | .integer => taken.integer

/-- What is taken after one more register of a file. -/
def occupy (taken : Taken) : RegisterClass → Taken
  | .floatingPoint => { taken with floatingPoint := taken.floatingPoint + 1 }
  | .integer => { taken with integer := taken.integer + 1 }

/-- A register takes no slot. -/
@[simp] theorem slots_occupy (taken : Taken) (file : RegisterClass) :
    (taken.occupy file).slots = taken.slots := by
  cases file <;> rfl

variable {convention : Convention} {taken : Taken} {file : RegisterClass}

/-- **While its file has a register left, an argument is placed in the next one.** -/
theorem place_of_lt (hlt : taken.registers file < convention.registers file) :
    taken.place convention file = (.register file (taken.registers file), taken.occupy file) := by
  cases file
  · exact if_pos hlt
  · exact if_pos hlt

/-- **When its file has no register left, an argument is placed in the next slot**, whatever the
other file has. -/
theorem place_of_le (hle : convention.registers file ≤ taken.registers file) :
    taken.place convention file =
      (.slot taken.slots, { taken with slots := taken.slots + 1 }) := by
  cases file
  · exact if_neg (Nat.not_lt.mpr hle)
  · exact if_neg (Nat.not_lt.mpr hle)

/-! ## Slots still to be handed out -/

/-- The number of arguments that will find no register left in their file. -/
def spilled (convention : Convention) (taken : Taken) (arguments : List ArgumentKind) : Nat :=
  (Tally.countOf .floatingPoint arguments -
      (convention.registers .floatingPoint - taken.registers .floatingPoint)) +
    (Tally.countOf .integer arguments -
      (convention.registers .integer - taken.registers .integer))

/-- The slots that are taken do not matter for the number of those to come. -/
theorem spilled_slots (slots : Nat) (arguments : List ArgumentKind) :
    spilled convention { taken with slots } arguments = spilled convention taken arguments := rfl

/-- An argument in a register leaves the number of slots to come as it is. -/
theorem spilled_cons_of_lt {kind : ArgumentKind} {rest : List ArgumentKind}
    (hlt : taken.registers kind.val.registerClass <
      convention.registers kind.val.registerClass) :
    spilled convention taken (kind :: rest) =
      spilled convention (taken.occupy kind.val.registerClass) rest := by
  rw [spilled, spilled, Tally.countOf_cons, Tally.countOf_cons]
  -- its own file has one argument and one free register less, the other file is left alone
  cases hfile : kind.val.registerClass
  · rw [hfile] at hlt
    simp only [if_true, reduceCtorEq, if_false, occupy, registers] at hlt ⊢
    omega
  · rw [hfile] at hlt
    simp only [if_true, reduceCtorEq, if_false, occupy, registers] at hlt ⊢
    omega

/-- An argument without a register takes one of the slots to come. -/
theorem spilled_cons_of_le {kind : ArgumentKind} {rest : List ArgumentKind}
    (hle : convention.registers kind.val.registerClass ≤
      taken.registers kind.val.registerClass) :
    spilled convention taken (kind :: rest) = spilled convention taken rest + 1 := by
  rw [spilled, spilled, Tally.countOf_cons, Tally.countOf_cons]
  -- its own file has no free register, so that every argument of that file counts
  cases hfile : kind.val.registerClass
  · rw [hfile] at hle
    simp only [if_true, reduceCtorEq, if_false]
    omega
  · rw [hfile] at hle
    simp only [if_true, reduceCtorEq, if_false]
    omega

/-! ## The whole walk -/

/-- **The slots of a walk, from any start.** From left to right they are the next ones that are
free, one after the other, as many as there are arguments without a register. -/
theorem filterMap_span?_places (convention : Convention) (wordSize : Nat) (taken : Taken)
    (arguments : List ArgumentKind) :
    (taken.places convention arguments).filterMap (Place.span? wordSize) =
      (List.range' taken.slots (taken.spilled convention arguments)).map
        fun slot => (slot * wordSize, (slot + 1) * wordSize) := by
  -- induction on the arguments; what is taken changes with every argument, so it is generalized
  induction arguments generalizing taken with
  | nil => simp [places, spilled]
  | cons kind rest ih =>
      rw [places]
      rcases Nat.lt_or_ge (taken.registers kind.val.registerClass)
        (convention.registers kind.val.registerClass) with hlt | hle
      · -- a register has no span, and the walk goes on with the same slots
        rw [place_of_lt hlt, spilled_cons_of_lt hlt]
        dsimp only
        rw [List.filterMap_cons_none (Place.span?_register _ _ _), ih, slots_occupy]
      · -- the next slot comes first, and the walk goes on behind it
        rw [place_of_le hle, spilled_cons_of_le hle]
        dsimp only
        rw [List.filterMap_cons_some (Place.span?_slot _ _), ih, spilled_slots, List.range'_succ,
          List.map_cons]

end Taken

namespace Convention

/-! ## Layouts -/

variable (convention : Convention) {signature : Signature}

/-- The slots of a signature are those of a walk from the start. -/
theorem slotCount_eq_spilled (signature : Signature) :
    convention.slotCount signature = Taken.nothing.spilled convention signature.arguments := by
  -- only slots have a span, so their number is the length of the list of spans
  have hspans := congrArg List.length
    (Taken.filterMap_span?_places convention 0 Taken.nothing signature.arguments)
  simp only [List.length_filterMap_eq_countP, Place.isSome_span?, List.length_map,
    List.length_range'] at hspans
  exact hspans

/-- The slots of a signature are numbered from zero on. -/
theorem filterMap_span?_places (wordSize : Nat) (signature : Signature) :
    (convention.places signature).filterMap (Place.span? wordSize) =
      (List.range (convention.slotCount signature)).map
        fun slot => (slot * wordSize, (slot + 1) * wordSize) := by
  rw [slotCount_eq_spilled, places, Taken.filterMap_span?_places, List.range_eq_range']
  rfl

/-- **A signature takes one slot for each argument of its tally without a register.** -/
theorem slotCount_of_ofSignature {tally : Tally}
    (htally : Tally.ofSignature signature = .ok tally) :
    convention.slotCount signature = convention.spilled tally := by
  obtain ⟨hfp, hint⟩ := Tally.ofSignature_eq_ok_iff.mp htally
  rw [slotCount_eq_spilled, spilled, hfp, hint]
  rfl

/-- **The stack arguments of a layout are the slots of its placement.** Walking the arguments from
left to right hands out slots one after the other, each of one word and all within the stack
arguments, which end with the last slot; a return address that is kept has a word behind them
within the frame. -/
theorem outArgs_eq_slots {layout : StubLayout}
    (hlayout : (convention.stubLayout signature).outcome = .ok layout) :
    layout.outArgs.toNat = convention.slotCount signature * convention.wordSize.toNat ∧
      (convention.places signature).filterMap (Place.span? convention.wordSize.toNat) =
        (List.range (convention.slotCount signature)).map (fun slot =>
          (slot * convention.wordSize.toNat, (slot + 1) * convention.wordSize.toNat)) ∧
      (∀ slot < convention.slotCount signature,
        (slot + 1) * convention.wordSize.toNat ≤ layout.outArgs.toNat) ∧
      (layout.savesReturnAddress = true →
        layout.outArgs.toNat + convention.wordSize.toNat ≤ layout.size.toNat) := by
  obtain ⟨tally, htally, hout, hsaves, -, hsize⟩ := stubLayout_eq_ok_iff.mp hlayout
  have hslots : layout.outArgs.toNat =
      convention.slotCount signature * convention.wordSize.toNat := by
    rw [hout, slotCount_of_ofSignature convention htally, exactOutArgs]
  refine ⟨hslots, convention.filterMap_span?_places _ signature, ?_, ?_⟩
  · -- slots below the count end within the stack arguments
    intro slot hslot
    rw [hslots]
    exact Nat.mul_le_mul_right _ hslot
  · intro hkept
    -- the bytes kept are the stack arguments and one word, and aligning adds to them
    have hcontents : convention.stubContents layout.outArgs.toNat signature.result.isNarrow =
        layout.outArgs.toNat + convention.wordSize.toNat := by
      rw [hsaves, StubLayout.savesReturnAddress_iff] at hkept
      rw [stubContents, if_pos hkept]
    rw [hcontents] at hsize
    rw [hsize]
    exact (alignUp_bounds _ convention.stackAlignment_pos).1

/-- A call with one floating-point register and none for integers: the second and the third argument
take a slot each, and the return address comes behind them. -/
theorem outArgs_eq_slots_one_register :
    let convention : Convention := ⟨1, 0, 8, 16, by decide, ⟨4, rfl⟩, by decide⟩
    let signature : Signature :=
      ⟨.boolean, [⟨.double, by decide⟩, ⟨.float, by decide⟩, ⟨.long, by decide⟩]⟩
    (convention.stubLayout signature).outcome = .ok ⟨16, true, 32⟩ ∧
      (convention.places signature).filterMap (Place.span? 8) = [(0, 8), (8, 16)] := by
  intro convention signature
  have hlayout : (convention.stubLayout signature).outcome = .ok ⟨16, true, 32⟩ :=
    stubLayout_eq_ok_iff.mpr ⟨⟨2, 1⟩, rfl, by decide, by decide, by decide, by decide⟩
  exact ⟨hlayout, (outArgs_eq_slots convention hlayout).2.1⟩

end Convention

end CallFrame
