import CallFrame.Proofs.EventLog

/-! # Expected frames, step by step

A check of expected sizes asks for the stub's frame, for the direct call's, for the signature and
for the stub's layout, and ends with the first of these that fails. Each of them can be taken on its
own, and then the last one has nothing to add: a layout has the size that its text was found to
have.

* **`Expectation.Step`** — the four steps; **`Step.failure?`** is how a step fails on its own.
* **`Expectation.verdict`** — the first failure of a list of steps; `verdict_append_of_redundant`
  drops a step that never fails behind the others.
* **`Expectation.Step.failure?_stubLayout`** — the layout does not fail once the stub has the
  expected frame.
* **`Expectation.check_exact`** — when a check passes, and with what it fails otherwise. -/

namespace CallFrame

namespace Expectation

/-! ## Steps on their own -/

/-- **The failure of a query for a size**: its fault, or the size that it returned in the place of
the expected one. -/
def queryFailure? (size : ExpectedSize) (text : String) (expected : Word) :
    Except Fault Word → Option ExpectationError
  | .error fault => some (.fault fault)
  | .ok actual => if actual = expected then none else some (.mismatch size text actual expected)

section

variable {size : ExpectedSize} {text : String} {actual expected : Word} {queried : Except Fault Word}

/-- A fault is a failure. -/
@[simp] theorem queryFailure?_error (fault : Fault) :
    queryFailure? size text expected (.error fault) = some (.fault fault) := rfl

/-- The expected size is no failure. -/
@[simp] theorem queryFailure?_expected :
    queryFailure? size text expected (.ok expected) = none := if_pos rfl

/-- Another size is a failure. -/
theorem queryFailure?_of_ne (hdiffers : actual ≠ expected) :
    queryFailure? size text expected (.ok actual) = some (.mismatch size text actual expected) :=
  if_neg hdiffers

/-- **Only the expected size is no failure.** -/
@[simp] theorem queryFailure?_eq_none_iff :
    queryFailure? size text expected queried = none ↔ queried = .ok expected := by
  rcases queried with fault | actual
  · simp
  · by_cases hsame : actual = expected
    · simp [hsame]
    · simp [queryFailure?_of_ne hsame, hsame]

end

/-- **The steps of a check.** -/
inductive Step where
  /-- The stub's frame is sized from the text. -/
  | stubFrame
  /-- The direct call's frame is sized from the text. -/
  | directFrame
  /-- The text is read as a signature. -/
  | reading
  /-- The stub's frame is sized from the signature. -/
  | stubLayout
  deriving DecidableEq

variable (convention : Convention) (expectation : Expectation)

namespace Step

/-- The steps that can end a check. -/
def decisive : List Step := [stubFrame, directFrame, reading]

/-- All steps, in their order. -/
def all : List Step := decisive ++ [stubLayout]

/-- There is no other step. -/
theorem mem_all (step : Step) : step ∈ all := by
  rcases step <;> simp [all, decisive]

/-- **The failure of a step on its own**, whatever the other steps come to. No layout is asked for
when the text is no signature. -/
def failure? : Step → Option ExpectationError
  | stubFrame =>
      queryFailure? .stubFrame expectation.text expectation.stub
        (convention.stubFrame expectation.text).outcome
  | directFrame =>
      queryFailure? .directFrame expectation.text expectation.direct
        (convention.directFrame expectation.text).outcome
  | reading =>
      match Signature.parse expectation.text with
      | .error error => some (.notSignature expectation.text error)
      | .ok _ => none
  | stubLayout =>
      match Signature.parse expectation.text with
      | .error _ => none
      | .ok signature =>
          queryFailure? .stubLayout expectation.text expectation.stub
            ((convention.stubLayout signature).outcome.map StubLayout.size)

variable {convention expectation}

/-- The first step passes when the stub has the expected frame. -/
theorem failure?_stubFrame_eq_none_iff :
    stubFrame.failure? convention expectation = none ↔
      (convention.stubFrame expectation.text).outcome = .ok expectation.stub :=
  queryFailure?_eq_none_iff

/-- The second step passes when the direct call has the expected frame. -/
theorem failure?_directFrame_eq_none_iff :
    directFrame.failure? convention expectation = none ↔
      (convention.directFrame expectation.text).outcome = .ok expectation.direct :=
  queryFailure?_eq_none_iff

/-- Reading passes for texts of signatures. -/
theorem failure?_reading_eq_none_iff :
    reading.failure? convention expectation = none ↔
      ∃ signature, Signature.parse expectation.text = .ok signature := by
  rw [failure?]
  cases Signature.parse expectation.text <;> simp

/-- **A layout never fails behind the stub's frame**: it is made, and has the size of its text. -/
theorem failure?_stubLayout (hstub : stubFrame.failure? convention expectation = none) :
    stubLayout.failure? convention expectation = none := by
  rw [failure?_stubFrame_eq_none_iff] at hstub
  rw [failure?]
  cases hparse : Signature.parse expectation.text with
  | error error => rfl
  | ok signature =>
      obtain ⟨layout, hlayout, hsize, -⟩ := Convention.exists_layout_of_stubFrame hparse hstub
      rw [queryFailure?_eq_none_iff, hlayout, ← hsize]
      rfl

/-- **All steps pass for signatures with the two expected frames**, the layout among them. -/
theorem forall_failure?_eq_none_iff :
    (∀ step : Step, step.failure? convention expectation = none) ↔
      (∃ signature, Signature.parse expectation.text = .ok signature) ∧
        (convention.stubFrame expectation.text).outcome = .ok expectation.stub ∧
        (convention.directFrame expectation.text).outcome = .ok expectation.direct := by
  rw [← failure?_stubFrame_eq_none_iff, ← failure?_directFrame_eq_none_iff]
  constructor
  · intro hpass
    exact ⟨failure?_reading_eq_none_iff.mp (hpass _), hpass _, hpass _⟩
  · rintro ⟨hread, hstub, hdirect⟩ step
    rcases step
    · exact hstub
    · exact hdirect
    · exact failure?_reading_eq_none_iff.mpr hread
    · exact failure?_stubLayout hstub

end Step

/-! ## The first failure -/

/-- **The verdict of steps**: the failure of the first one that fails. -/
def verdict (steps : List Step) : Except ExpectationError Unit :=
  match steps.findSome? (Step.failure? convention expectation) with
  | none => .ok ()
  | some error => .error error

variable {convention expectation} {step : Step} {steps : List Step}

/-- Without steps nothing fails. -/
@[simp] theorem verdict_nil : verdict convention expectation [] = .ok () := rfl

/-- A first step that fails decides. -/
theorem verdict_cons_of_some {error : ExpectationError}
    (hfails : step.failure? convention expectation = some error) :
    verdict convention expectation (step :: steps) = .error error := by
  simp [verdict, hfails]

/-- A first step that does not fail leaves the verdict to the others. -/
theorem verdict_cons_of_none (hpasses : step.failure? convention expectation = none) :
    verdict convention expectation (step :: steps) = verdict convention expectation steps := by
  simp [verdict, hpasses]

/-- Steps pass when none of them fails. -/
theorem verdict_eq_ok_iff :
    verdict convention expectation steps = .ok () ↔
      ∀ step ∈ steps, step.failure? convention expectation = none := by
  rw [← List.findSome?_eq_none_iff, verdict]
  cases steps.findSome? (Step.failure? convention expectation) <;> simp

/-- **A step that never fails behind the others can be dropped.** -/
theorem verdict_append_of_redundant
    (hredundant : (∀ earlier ∈ steps, earlier.failure? convention expectation = none) →
      step.failure? convention expectation = none) :
    verdict convention expectation (steps ++ [step]) = verdict convention expectation steps := by
  rw [verdict, verdict, List.findSome?_append]
  cases hfirst : steps.findSome? (Step.failure? convention expectation) with
  | some error => rfl
  | none =>
      rw [List.findSome?_eq_none_iff] at hfirst
      simp [hredundant hfirst]

/-- **The layout is redundant**: the other steps come to the same verdict without it. -/
theorem verdict_all :
    verdict convention expectation Step.all = verdict convention expectation Step.decisive := by
  apply verdict_append_of_redundant
  intro hpass
  exact Step.failure?_stubLayout (hpass .stubFrame (by simp [Step.decisive]))

/-! ## Checks -/

variable {outcome : Except ExpectationError Unit} {events : List Event}

/-- **A check ends with the verdict of its steps**, in whichever way it ends. -/
theorem Ends.outcome_eq_verdict (hends : Ends convention expectation outcome events) :
    outcome = verdict convention expectation Step.decisive := by
  symm
  rw [Step.decisive]
  cases hends with
  | fault hstub =>
      apply verdict_cons_of_some
      rw [Step.failure?, hstub, queryFailure?_error]
  | stubDiffers hstub hdiffers =>
      apply verdict_cons_of_some
      rw [Step.failure?, hstub, queryFailure?_of_ne hdiffers]
  | directDiffers hstub hdirect hdiffers =>
      rw [verdict_cons_of_none (Step.failure?_stubFrame_eq_none_iff.mpr hstub)]
      apply verdict_cons_of_some
      rw [Step.failure?, hdirect, queryFailure?_of_ne hdiffers]
  | notSignature hstub hdirect hunread =>
      rw [verdict_cons_of_none (Step.failure?_stubFrame_eq_none_iff.mpr hstub),
        verdict_cons_of_none (Step.failure?_directFrame_eq_none_iff.mpr hdirect)]
      apply verdict_cons_of_some
      rw [Step.failure?, hunread]
  | passed hstub hdirect hread =>
      rw [verdict_cons_of_none (Step.failure?_stubFrame_eq_none_iff.mpr hstub),
        verdict_cons_of_none (Step.failure?_directFrame_eq_none_iff.mpr hdirect),
        verdict_cons_of_none (Step.failure?_reading_eq_none_iff.mpr ⟨_, hread⟩), verdict_nil]

/-- Only the first query faults. -/
theorem Ends.eq_fault_iff (hends : Ends convention expectation outcome events) (fault : Fault) :
    outcome = .error (.fault fault) ↔
      (convention.stubFrame expectation.text).outcome = .error fault := by
  rcases hends with hstub | hstub | hstub | hstub | hstub <;> simp [hstub]

/-- No check ends with the size of a layout. -/
theorem Ends.ne_layout (hends : Ends convention expectation outcome events) (text : String)
    (actual expected : Word) : outcome ≠ .error (.mismatch .stubLayout text actual expected) := by
  rcases hends with _ | _ | _ | _ | _ <;> simp

/-- **Checks are sound and complete, and their last step is redundant.** A check passes exactly for
texts of signatures whose two frames have the expected sizes. Otherwise it ends with the first step
that fails: the stub's frame, the direct call's frame, or the signature. It never ends with the
layout, nor with a fault of another query than the first one, since a stub's frame of some size
comes with a direct call's frame and, for a signature, with a layout of that size. -/
theorem check_exact (convention : Convention) (expectation : Expectation) :
    ((expectation.check convention).outcome = .ok () ↔
      (∃ signature, Signature.parse expectation.text = .ok signature) ∧
        (convention.stubFrame expectation.text).outcome = .ok expectation.stub ∧
        (convention.directFrame expectation.text).outcome = .ok expectation.direct) ∧
    (expectation.check convention).outcome = verdict convention expectation Step.all ∧
    verdict convention expectation Step.all = verdict convention expectation Step.decisive ∧
    (∀ fault, (expectation.check convention).outcome = .error (.fault fault) ↔
      (convention.stubFrame expectation.text).outcome = .error fault) ∧
    (∀ text actual expected, (expectation.check convention).outcome ≠
      .error (.mismatch .stubLayout text actual expected)) ∧
    ∀ size, (convention.stubFrame expectation.text).outcome = .ok size →
      (∃ direct, (convention.directFrame expectation.text).outcome = .ok direct) ∧
      ∀ signature, Signature.parse expectation.text = .ok signature →
        ∃ layout, (convention.stubLayout signature).outcome = .ok layout ∧
          layout.size = size := by
  have hends := ends_check convention expectation
  have hverdict := hends.outcome_eq_verdict
  refine ⟨?_, hverdict.trans verdict_all.symm, verdict_all, hends.eq_fault_iff, hends.ne_layout, ?_⟩
  · rw [hverdict, ← verdict_all, verdict_eq_ok_iff, ← Step.forall_failure?_eq_none_iff]
    simp [Step.mem_all]
  · intro size hstub
    refine ⟨Convention.exists_directFrame_of_stubFrame hstub, fun signature hparse => ?_⟩
    obtain ⟨layout, hlayout, hsize, -⟩ := Convention.exists_layout_of_stubFrame hparse hstub
    exact ⟨layout, hlayout, hsize⟩

/-- Frames are sized for a text with an unknown letter, so that a check which expects the right
sizes for it gets as far as the signature. -/
theorem check_exact_unknown_letter :
    let expectation : Expectation := ⟨"VQ", 0, 0⟩
    (Convention.aapcs64.stubFrame "VQ").outcome = .ok 0 ∧
      (∃ direct, (Convention.aapcs64.directFrame "VQ").outcome = .ok direct) ∧
      (expectation.check Convention.aapcs64).outcome =
        .error (.notSignature "VQ" (.unknownLetter 'Q' 1)) := by
  intro expectation
  have htally : Tally.ofText "VQ" = .ok ⟨0, 1⟩ := rfl
  have hstub : (Convention.aapcs64.stubFrame "VQ").outcome = .ok 0 :=
    (Convention.stubFrame_eq_ok_iff htally).mpr ⟨by decide, by decide⟩
  have hdirect : (Convention.aapcs64.directFrame "VQ").outcome = .ok 0 :=
    (Convention.directFrame_eq_ok_iff htally).mpr ⟨by decide, by decide⟩
  have hunread : Signature.parse "VQ" = .error (.unknownLetter 'Q' 1) := rfl
  have hfirst : Step.stubFrame.failure? Convention.aapcs64 expectation = none :=
    Step.failure?_stubFrame_eq_none_iff.mpr hstub
  have hsecond : Step.directFrame.failure? Convention.aapcs64 expectation = none :=
    Step.failure?_directFrame_eq_none_iff.mpr hdirect
  obtain ⟨-, hverdict, hredundant, -, -, hqueries⟩ := check_exact Convention.aapcs64 expectation
  refine ⟨hstub, (hqueries 0 hstub).1, ?_⟩
  rw [hverdict, hredundant, Step.decisive, verdict_cons_of_none hfirst,
    verdict_cons_of_none hsecond]
  apply verdict_cons_of_some
  simp only [Step.failure?, expectation, hunread]

end Expectation

end CallFrame
