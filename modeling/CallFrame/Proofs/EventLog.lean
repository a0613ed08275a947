import CallFrame.Proofs.ReturnedSizes
import CallFrame.Session

/-! # The log of a session

Events are left deep inside the operations that size frames. What follows says from outside what the
log of a session holds: one event for each call that returned, in the order of the calls, with the
numbers that the call returned, and nothing else.

* **`Records`** — one event for a result, and none for an error.
* **`Call`** — the four operations that can leave an event; **`Call.Leaves`** says which one it is,
  and `Call.leaves_stubFrame` and its siblings that each operation keeps to it.
* **`Logged`** — a log that holds what each of a list of calls leaves, one after the other.
* **`Expectation.Ends`** — the ways in which a check of expected sizes ends; `ends_check` says that
  there are no others.
* **`Session.calls`** and **`Session.log`** — the calls of a run and the events of its replies;
  `logged_step` is the step and `logged_calls` the run.
* **`Session.log_replays_calls`** — the log of every run, and what of it a check leaves. -/

namespace CallFrame

/-! ## What an event shows -/

namespace Event

/-- **The record of an accepted convention**, with the four numbers that it was made from. -/
def IsConvention (floatingPointRegisters integerRegisters wordSize stackAlignment : Word)
    (event : Event) : Prop :=
  event.level = .debug ∧ event.message = "custom calling convention" ∧
    ∃ convention, event = .conventionAccepted convention ∧
      convention.floatingPointRegisters = floatingPointRegisters ∧
      convention.integerRegisters = integerRegisters ∧
      convention.wordSize = wordSize ∧ convention.stackAlignment = stackAlignment

/-- **The record of a stub's frame.** -/
def IsStubFrame (text : String) (outArgs : Word) (savesReturnAddress : Bool) (size : Word)
    (event : Event) : Prop :=
  event.level = .trace ∧ event.message = "critical native stub frame" ∧
    event = .stubFrame text outArgs savesReturnAddress size

/-- **The record of a direct call's frame.** -/
def IsDirectFrame (text : String) (size : Word) (event : Event) : Prop :=
  event.level = .trace ∧ event.message = "critical native direct call frame" ∧
    event = .directFrame text size

end Event

/-- **One event for a result, and none for an error.** -/
def Records {ε α : Type} (describes : α → Event → Prop) (outcome : Except ε α)
    (events : List Event) : Prop :=
  match outcome with
  | .ok result => ∃ event, describes result event ∧ events = [event]
  | .error _ => events = []

/-- One event answers for every result. -/
theorem Records.exists_event {ε α : Type} {describes : α → Event → Prop} {outcome : Except ε α}
    {events : List Event} (hrecords : Records describes outcome events) :
    ∃ event, ∀ result, outcome = .ok result → events = [event] := by
  rcases outcome with error | result
  · exact ⟨.directFrame "" 0, by simp⟩
  · obtain ⟨event, -, hevents⟩ := hrecords
    exact ⟨event, fun _ _ => hevents⟩

/-! ## Calls -/

/-- Calls that can leave an event. -/
inductive Call where
  /-- A convention is made from numbers. -/
  | makeConvention (floatingPointRegisters integerRegisters wordSize stackAlignment : Word)
  /-- The stub's frame of an unchecked text is sized. -/
  | stubFrame (convention : Convention) (text : String)
  /-- The direct call's frame of an unchecked text is sized. -/
  | directFrame (convention : Convention) (text : String)
  /-- The stub of a signature is laid out. -/
  | stubLayout (convention : Convention) (signature : Signature)

namespace Call

/-- **What a call should leave.** The record of a stub repeats the parts of the layout that was
returned. For an unchecked text it repeats the size that was returned and the stack arguments that
the text has, and says that the return address is kept when there are any or the result is
narrow. -/
def Leaves : Call → List Event → Prop
  | makeConvention floatingPointRegisters integerRegisters wordSize stackAlignment =>
      Records (fun _ event => event.IsConvention floatingPointRegisters integerRegisters wordSize
          stackAlignment)
        (Convention.make floatingPointRegisters integerRegisters wordSize stackAlignment)
  | stubFrame convention text =>
      Records (fun size event => ∃ outArgs, convention.callArgs text = .ok outArgs ∧
          event.IsStubFrame text outArgs (outArgs != 0 || opensNarrow text) size)
        (convention.stubFrame text).outcome
  | directFrame convention text =>
      Records (fun size event => event.IsDirectFrame text size)
        (convention.directFrame text).outcome
  | stubLayout convention signature =>
      Records (fun layout event => event.IsStubFrame signature.text layout.outArgs
          layout.savesReturnAddress layout.size)
        (convention.stubLayout signature).outcome

/-- A layout that is made leaves one event, which repeats its parts, and no layout leaves none. -/
theorem records_tracedLayout (convention : Convention) (text : String) (outArgs : Word)
    (narrow : Bool) :
    Records (fun layout event => event.IsStubFrame text layout.outArgs layout.savesReturnAddress
        layout.size)
      (convention.tracedLayout text outArgs narrow).outcome
      (convention.tracedLayout text outArgs narrow).events := by
  rw [Convention.tracedLayout]
  cases StubLayout.make convention outArgs narrow with
  | ok layout => exact ⟨layout.event text, ⟨rfl, rfl, rfl⟩, rfl⟩
  | error fault => rfl

/-- **A convention that is made leaves its record.** -/
theorem leaves_makeConvention (session : Session)
    (floatingPointRegisters integerRegisters wordSize stackAlignment : Word) :
    (makeConvention floatingPointRegisters integerRegisters wordSize stackAlignment).Leaves
      (session.perform (.setConvention floatingPointRegisters integerRegisters wordSize
        stackAlignment)).events := by
  rw [Leaves, Session.perform]
  cases hmake : Convention.make floatingPointRegisters integerRegisters wordSize stackAlignment with
  | error error => rfl
  | ok convention =>
      refine ⟨.conventionAccepted convention, ⟨rfl, rfl, convention, rfl, ?_⟩, rfl⟩
      exact Convention.make_eq_ok_iff.mp hmake

/-- **The stub's frame of a text leaves its record.** -/
theorem leaves_stubFrame (convention : Convention) (text : String) :
    (stubFrame convention text).Leaves (convention.stubFrame text).events := by
  rw [Leaves, Convention.stubFrame]
  cases hargs : convention.callArgs text with
  | error fault => rfl
  | ok outArgs =>
      -- the size is taken from the layout, and taking it adds no event to the layout's own
      rw [Traced.bind_of_ok _ (Traced.outcome_ofExcept _), Traced.events_bind_pure]
      dsimp only
      rw [Traced.outcome_bind]
      have hrecords := records_tracedLayout convention text outArgs (hasNarrowResult text)
      cases hlayout : (convention.tracedLayout text outArgs (hasNarrowResult text)).outcome with
      | error fault =>
          rw [hlayout] at hrecords
          exact hrecords
      | ok layout =>
          rw [hlayout] at hrecords
          obtain ⟨event, hevent, hevents⟩ := hrecords
          rw [Convention.outcome_tracedLayout] at hlayout
          -- the layout repeats the stack arguments and keeps the return address as they say
          obtain ⟨hout, hsaves, -⟩ := StubLayout.make_eq_ok_iff.mp hlayout
          rw [hout, hsaves, hasNarrowResult_eq_opensNarrow] at hevent
          exact ⟨event, ⟨outArgs, rfl, hevent⟩, hevents⟩

/-- **The direct call's frame of a text leaves its record.** -/
theorem leaves_directFrame (convention : Convention) (text : String) :
    (directFrame convention text).Leaves (convention.directFrame text).events := by
  rw [Leaves, Convention.directFrame]
  cases convention.callArgs text with
  | error fault => rfl
  | ok outArgs =>
      rw [Traced.bind_of_ok _ (Traced.outcome_ofExcept _)]
      cases roundUp outArgs convention.stackAlignment with
      | error fault => rfl
      | ok size => exact ⟨_, ⟨rfl, rfl, rfl⟩, rfl⟩

/-- **The layout of a signature leaves its record.** -/
theorem leaves_stubLayout (convention : Convention) (signature : Signature) :
    (stubLayout convention signature).Leaves (convention.stubLayout signature).events := by
  rw [Leaves, Convention.stubLayout]
  cases Tally.ofSignature signature with
  | error fault => rfl
  | ok tally =>
      rw [Traced.bind_of_ok _ (Traced.outcome_ofExcept _)]
      cases hargs : convention.outArgs tally.floatingPoint tally.integer with
      | error fault => rfl
      | ok outArgs =>
          exact records_tracedLayout convention signature.text outArgs signature.result.isNarrow

end Call

/-! ## The log of calls -/

/-- **A log of calls**: what the first call leaves, then what the next does, and nothing else. -/
inductive Logged : List Call → List Event → Prop where
  /-- Without a call there is no event. -/
  | nil : Logged [] []
  /-- The events of a call come before those of all later calls. -/
  | cons {call : Call} {events : List Event} {calls : List Call} {others : List Event}
      (hfirst : call.Leaves events) (hrest : Logged calls others) :
      Logged (call :: calls) (events ++ others)

namespace Logged

variable {call : Call} {calls laterCalls : List Call} {events laterEvents : List Event}

/-- A single call logs what it leaves. -/
theorem single (hleaves : call.Leaves events) : Logged [call] events := by
  rw [← List.append_nil events]
  exact .cons hleaves .nil

/-- Logs follow each other as their calls do. -/
theorem append (hcalls : Logged calls events) (hlater : Logged laterCalls laterEvents) :
    Logged (calls ++ laterCalls) (events ++ laterEvents) := by
  -- induction on the first log; its last event is followed by the first one of the other log
  induction hcalls with
  | nil => exact hlater
  | cons hfirst _ ih =>
      rw [List.append_assoc, List.cons_append]
      exact .cons hfirst ih

end Logged

/-! ## Checks -/

namespace Expectation

variable {convention : Convention} {expectation : Expectation}

/-- A query that returned still does when its fault is put in other words. -/
theorem outcome_mapError_fault {α : Type} {queried : Traced Fault α} {result : α}
    (hreturned : queried.outcome = .ok result) :
    (queried.mapError ExpectationError.fault).outcome = .ok result := by
  rw [Traced.outcome_mapError, hreturned]
  rfl

/-- **One comparison of a check.** The check ends with a query that faults, and behind a query with
another size than the expected one; otherwise it goes on. -/
theorem compare_bind (queried : Traced Fault Word) (size : ExpectedSize) (text : String)
    (expected : Word) (next : Traced ExpectationError Unit) :
    (queried.mapError ExpectationError.fault >>= fun actual =>
        Traced.ofExcept (compare size text actual expected) >>= fun _ => next) =
      match queried.outcome with
      | .error fault => ⟨.error (.fault fault), queried.events⟩
      | .ok actual =>
          if actual = expected then ⟨next.outcome, queried.events ++ next.events⟩
          else ⟨.error (.mismatch size text actual expected), queried.events⟩ := by
  cases houtcome : queried.outcome with
  | error fault =>
      apply Traced.bind_of_error
      rw [Traced.outcome_mapError, houtcome]
      rfl
  | ok actual =>
      rw [Traced.bind_of_ok _ (outcome_mapError_fault houtcome), compare]
      by_cases hsame : actual = expected
      · rw [if_pos hsame]
        simp only [hsame]
        rfl
      · rw [if_neg hsame]
        simp only [hsame]
        show (⟨_, queried.events ++ []⟩ : Traced ExpectationError Unit) = _
        rw [List.append_nil]
        rfl

/-- **The ways in which a check ends**, and the events that it leaves. There is none for a fault in
a later query, since these return where the first one does, and none for another size of the layout,
since it has the size of the text. -/
inductive Ends (convention : Convention) (expectation : Expectation) :
    Except ExpectationError Unit → List Event → Prop where
  /-- The stub's frame is not sized. -/
  | fault {fault : Fault} (hstub : (convention.stubFrame expectation.text).outcome = .error fault) :
      Ends convention expectation (.error (.fault fault)) []
  /-- The stub's frame has another size. -/
  | stubDiffers {size : Word}
      (hstub : (convention.stubFrame expectation.text).outcome = .ok size)
      (hdiffers : size ≠ expectation.stub) :
      Ends convention expectation
        (.error (.mismatch .stubFrame expectation.text size expectation.stub))
        (convention.stubFrame expectation.text).events
  /-- The direct call's frame has another size. -/
  | directDiffers {size : Word}
      (hstub : (convention.stubFrame expectation.text).outcome = .ok expectation.stub)
      (hdirect : (convention.directFrame expectation.text).outcome = .ok size)
      (hdiffers : size ≠ expectation.direct) :
      Ends convention expectation
        (.error (.mismatch .directFrame expectation.text size expectation.direct))
        ((convention.stubFrame expectation.text).events ++
          (convention.directFrame expectation.text).events)
  /-- Both frames are as expected, and the text is no signature. -/
  | notSignature {error : SignatureError}
      (hstub : (convention.stubFrame expectation.text).outcome = .ok expectation.stub)
      (hdirect : (convention.directFrame expectation.text).outcome = .ok expectation.direct)
      (hunread : Signature.parse expectation.text = .error error) :
      Ends convention expectation (.error (.notSignature expectation.text error))
        ((convention.stubFrame expectation.text).events ++
          (convention.directFrame expectation.text).events)
  /-- Both frames are as expected, and so is the layout, which repeats the event of the stub. -/
  | passed {signature : Signature}
      (hstub : (convention.stubFrame expectation.text).outcome = .ok expectation.stub)
      (hdirect : (convention.directFrame expectation.text).outcome = .ok expectation.direct)
      (hread : Signature.parse expectation.text = .ok signature) :
      Ends convention expectation (.ok ())
        ((convention.stubFrame expectation.text).events ++
          ((convention.directFrame expectation.text).events ++
            (convention.stubFrame expectation.text).events))

/-- The last comparison of a check never fails, since a layout has the size of its text. It leaves
the event of the stub a second time. -/
theorem layout_bind {signature : Signature}
    (hstub : (convention.stubFrame expectation.text).outcome = .ok expectation.stub)
    (hparse : Signature.parse expectation.text = .ok signature) :
    ((convention.stubLayout signature).mapError ExpectationError.fault >>= fun layout =>
        Traced.ofExcept (compare .stubLayout expectation.text layout.size expectation.stub)) =
      ⟨.ok (), (convention.stubFrame expectation.text).events⟩ := by
  obtain ⟨layout, hlayout, hsize, -, hevents⟩ :=
    Convention.exists_layout_of_stubFrame hparse hstub
  rw [Traced.bind_of_ok _ (outcome_mapError_fault hlayout), compare, if_pos hsize]
  simp only [Traced.outcome_ofExcept, Traced.events_ofExcept, Traced.events_mapError,
    List.append_nil, hevents]

/-- **Every check ends in one of these ways.** -/
theorem ends_check (convention : Convention) (expectation : Expectation) :
    Ends convention expectation (expectation.check convention).outcome
      (expectation.check convention).events := by
  rw [check, compare_bind]
  cases hstub : (convention.stubFrame expectation.text).outcome with
  | error fault =>
      have hsilent := Call.leaves_stubFrame convention expectation.text
      rw [Call.Leaves, hstub] at hsilent
      rw [show (convention.stubFrame expectation.text).events = [] from hsilent]
      exact .fault hstub
  | ok stub =>
      -- the second query returns where the first one did, whether the check gets there or not
      obtain ⟨direct, hdirect⟩ := Convention.exists_directFrame_of_stubFrame hstub
      by_cases hsame : stub = expectation.stub
      · subst hsame
        dsimp only
        rw [if_pos rfl, compare_bind, hdirect]
        by_cases hexpected : direct = expectation.direct
        · subst hexpected
          dsimp only
          rw [if_pos rfl]
          cases hparse : Signature.parse expectation.text with
          | error error =>
              have hread : readExample expectation.text =
                  .error (.notSignature expectation.text error) := by
                rw [readExample, hparse]
                rfl
              rw [hread, Traced.bind_of_error _ (Traced.outcome_ofExcept _)]
              simp only [Traced.events_ofExcept, List.append_nil]
              exact .notSignature hstub hdirect hparse
          | ok signature =>
              have hread : readExample expectation.text = .ok signature := by
                rw [readExample, hparse]
                rfl
              rw [hread, Traced.bind_of_ok _ (Traced.outcome_ofExcept _),
                layout_bind hstub hparse]
              exact .passed hstub hdirect hparse
        · dsimp only
          rw [if_neg hexpected]
          exact .directDiffers hstub hdirect hexpected
      · dsimp only
        rw [if_neg hsame]
        exact .stubDiffers hstub hsame

/-- **The calls of a check**: the stub's frame; the direct call's frame once the stub's is the
expected one; and the layout once both are, provided that the text is a signature. -/
def calls (convention : Convention) (expectation : Expectation) : List Call :=
  let text := expectation.text
  .stubFrame convention text ::
    if (convention.stubFrame text).outcome.toOption = some expectation.stub then
      .directFrame convention text ::
        if (convention.directFrame text).outcome.toOption = some expectation.direct then
          (Signature.parse text).toOption.toList.map (.stubLayout convention)
        else []
    else []

variable {outcome : Except ExpectationError Unit} {events : List Event}

/-- **A check logs its calls**, in whichever way it ends. -/
theorem Ends.logged (hends : Ends convention expectation outcome events) :
    Logged (expectation.calls convention) events := by
  have hstubLeaves := Call.leaves_stubFrame convention expectation.text
  have hdirectLeaves := Call.leaves_directFrame convention expectation.text
  rw [calls]
  cases hends with
  | fault hstub =>
      rw [Call.Leaves, hstub] at hstubLeaves
      simp only [hstub, Except.toOption, reduceCtorEq, if_false]
      apply Logged.single
      rw [Call.Leaves, hstub]
      rfl
  | stubDiffers hstub hdiffers =>
      simp only [hstub, Except.toOption, Option.some.injEq, hdiffers, if_false]
      exact .single hstubLeaves
  | directDiffers hstub hdirect hdiffers =>
      simp only [hstub, hdirect, Except.toOption, Option.some.injEq, hdiffers, if_true, if_false]
      exact .cons hstubLeaves (.single hdirectLeaves)
  | notSignature hstub hdirect hunread =>
      simp only [hstub, hdirect, hunread, Except.toOption, if_true]
      exact .cons hstubLeaves (.single hdirectLeaves)
  | passed hstub hdirect hread =>
      simp only [hstub, hdirect, hread, Except.toOption, if_true]
      refine .cons hstubLeaves (.cons hdirectLeaves (.single ?_))
      -- the third event is that of the layout, which the first query has left already
      obtain ⟨layout, -, -, -, hevents⟩ := Convention.exists_layout_of_stubFrame hread hstub
      rw [← hevents]
      exact Call.leaves_stubLayout convention _

/-- How many events a check leaves, by the way in which it ends. -/
def recorded : Except ExpectationError Unit → Nat
  | .error (.fault _) => 0
  | .error (.mismatch .stubFrame ..) => 1
  | .error (.mismatch .directFrame ..) => 2
  | .error (.notSignature ..) => 2
  | .error (.mismatch .stubLayout ..) => 3
  | .ok () => 3

/-- **A check leaves a first part of stub, direct call, stub**, where the first and the last event
are the same. -/
theorem Ends.events_eq_take (hends : Ends convention expectation outcome events) :
    ∃ stub direct : Event, events = [stub, direct, stub].take (recorded outcome) ∧
      (∀ size, (convention.stubFrame expectation.text).outcome = .ok size →
        (convention.stubFrame expectation.text).events = [stub]) ∧
      ∀ size, (convention.directFrame expectation.text).outcome = .ok size →
        (convention.directFrame expectation.text).events = [direct] := by
  obtain ⟨stub, hstubEvent⟩ := (Call.leaves_stubFrame convention expectation.text).exists_event
  obtain ⟨direct, hdirectEvent⟩ :=
    (Call.leaves_directFrame convention expectation.text).exists_event
  refine ⟨stub, direct, ?_, hstubEvent, hdirectEvent⟩
  cases hends with
  | fault => rfl
  | stubDiffers hstub =>
      rw [hstubEvent _ hstub]
      rfl
  | directDiffers hstub hdirect | notSignature hstub hdirect | passed hstub hdirect =>
      rw [hstubEvent _ hstub, hdirectEvent _ hdirect]
      rfl

end Expectation

/-! ## Sessions -/

namespace Session

/-- The calls that a request makes. -/
def callsOf (session : Session) : Request → List Call
  | .query (.layout text) =>
      (session.signatureFor text).toOption.toList.map (.stubLayout session.convention)
  | .query (.frames text) =>
      [.stubFrame session.convention text, .directFrame session.convention text]
  | .query (.check expectation) => expectation.calls session.convention
  | .setConvention floatingPointRegisters integerRegisters wordSize stackAlignment =>
      [.makeConvention floatingPointRegisters integerRegisters wordSize stackAlignment]
  | .query _ | .parse _ | .reset => []

/-- **The calls of a run**, in the order in which they are made. -/
def calls (session : Session) : List Request → List Call
  | [] => []
  | request :: rest => session.callsOf request ++ (session.step request).1.calls rest

/-- **The log of a run**: the events of all of its replies. -/
def log (session : Session) (requests : List Request) : List Event :=
  (session.replies requests).flatMap Reply.events

/-- A step leaves the events of what it performs, whether the request is refused or not. -/
theorem events_step (session : Session) (request : Request) :
    (session.step request).2.events = (session.perform request).events := by
  rw [step]
  cases (session.perform request).outcome <;> rfl

/-- **A query logs its calls.** Queries that are not about frames make none and leave no event. -/
theorem logged_answer (session : Session) (query : Query) :
    Logged (session.callsOf (.query query)) (session.answer query).events := by
  cases query with
  | layout text =>
      rw [callsOf, answer]
      cases session.signatureFor text with
      | error refusal => exact .nil
      | ok signature =>
          rw [Traced.bind_of_ok _ (Traced.outcome_ofExcept _), Traced.events_bind_pure]
          exact .single (Call.leaves_stubLayout session.convention signature)
  | frames text =>
      exact .cons (Call.leaves_stubFrame session.convention text)
        (.single (Call.leaves_directFrame session.convention text))
  | check expectation =>
      rw [callsOf, answer, Traced.events_bind_pure]
      exact (Expectation.ends_check session.convention expectation).logged
  | constants | current | tally | outArgs | total | roundUp | kinds | spellMix | spell
  | readExample => exact .nil

/-- **A request logs its calls.** -/
theorem logged_step (session : Session) (request : Request) :
    Logged (session.callsOf request) (session.step request).2.events := by
  rw [events_step]
  cases request with
  | query query =>
      rw [perform, Traced.events_bind_pure]
      exact session.logged_answer query
  | setConvention floatingPointRegisters integerRegisters wordSize stackAlignment =>
      exact .single (Call.leaves_makeConvention session floatingPointRegisters integerRegisters
        wordSize stackAlignment)
  | parse text =>
      -- a text that is read is counted as well, and neither is recorded
      have hsilent : (session.perform (.parse text)).events = [] := by
        apply Traced.events_bind_eq_nil (Traced.events_ofExcept _)
        intro signature
        apply Traced.events_bind_eq_nil (Traced.events_ofExcept _)
        intro tally
        exact Traced.events_bind_eq_nil (Traced.events_ofExcept _) fun total => rfl
      rw [hsilent]
      exact .nil
  | reset => exact .nil

/-- **A run logs its calls.** -/
theorem logged_calls (session : Session) (requests : List Request) :
    Logged (session.calls requests) (session.log requests) := by
  -- induction on the requests; each step hands its session on, so the session is generalized
  induction requests generalizing session with
  | nil => exact .nil
  | cons request rest ih => exact (session.logged_step request).append (ih _)

/-- **The log replays the results.** In the log of every run each call leaves its record, in the
order of the calls: one event with the numbers that the call was given or returned, if it returned,
and none if it was refused or faulted; and no other event is there. Every check ends in one of its
ways, and leaves a first part of stub, direct call, stub, cut behind the comparison that failed;
the first event and the last are the same, and each is there exactly because its query returned. -/
theorem log_replays_calls :
    (∀ (session : Session) (requests : List Request),
      Logged (session.calls requests) (session.log requests)) ∧
    ∀ (convention : Convention) (expectation : Expectation),
      expectation.Ends convention (expectation.check convention).outcome
        (expectation.check convention).events ∧
      ∃ stub direct : Event,
        (expectation.check convention).events =
          [stub, direct, stub].take
            (Expectation.recorded (expectation.check convention).outcome) ∧
        (∀ size, (convention.stubFrame expectation.text).outcome = .ok size →
          (convention.stubFrame expectation.text).events = [stub]) ∧
        ∀ size, (convention.directFrame expectation.text).outcome = .ok size →
          (convention.directFrame expectation.text).events = [direct] := by
  refine ⟨logged_calls, fun convention expectation => ?_⟩
  have hends := Expectation.ends_check convention expectation
  exact ⟨hends, hends.events_eq_take⟩

/-- With no registers and words of four bytes, one argument fills the direct call's frame of eight.
A refused convention leaves nothing, and a check that expects sixteen there ends behind the second
query. -/
theorem log_replays_calls_four_bytes :
    let convention : Convention := ⟨0, 0, 4, 8, by decide, ⟨3, rfl⟩, by decide⟩
    let expectation : Expectation := ⟨"VI", 8, 16⟩
    let session : Session := ⟨convention, none⟩
    Logged [.makeConvention 8 8 0 16, .stubFrame convention "VI", .directFrame convention "VI"]
      (session.log [.setConvention 8 8 0 16, .query (.frames "VI")]) ∧
    (convention.directFrame "VI").outcome = .ok 8 ∧
    ∃ stub direct : Event, (convention.stubFrame "VI").events = [stub] ∧
      (convention.directFrame "VI").events = [direct] ∧
      (expectation.check convention).events = [stub, direct] := by
  intro convention expectation session
  have htally : Tally.ofText "VI" = .ok ⟨0, 1⟩ := rfl
  have hstub : (convention.stubFrame "VI").outcome = .ok 8 :=
    (Convention.stubFrame_eq_ok_iff htally).mpr ⟨by decide, by decide⟩
  have hdirect : (convention.directFrame "VI").outcome = .ok 8 :=
    (Convention.directFrame_eq_ok_iff htally).mpr ⟨by decide, by decide⟩
  have hcheck : (expectation.check convention).outcome =
      .error (.mismatch .directFrame "VI" 8 16) := by
    rw [Expectation.check, Expectation.compare_bind, hstub]
    dsimp only
    rw [if_pos rfl, Expectation.compare_bind, hdirect]
    rfl
  obtain ⟨hlogged, hchecks⟩ := log_replays_calls
  obtain ⟨-, stub, direct, hevents, hfirst, hsecond⟩ := hchecks convention expectation
  rw [hcheck] at hevents
  exact ⟨hlogged session [.setConvention 8 8 0 16, .query (.frames "VI")], hdirect, stub, direct,
    hfirst 8 hstub, hsecond 8 hdirect, hevents⟩

end Session

end CallFrame
