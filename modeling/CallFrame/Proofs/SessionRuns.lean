import CallFrame.Proofs.ConventionRules
import CallFrame.Proofs.Grammar
import CallFrame.Session

/-! # Runs of a session

A session changes only when a convention or a signature is accepted, or when it is reset. Whatever
else is asked for, the session goes on from where it was. So every session that a run leads to is
well formed, and the requests that change nothing may be left out of a run without anybody who made
the other requests noticing.

* **`Session.Next`** — what a request may do to a session, one rule for each way; `next_step` is the
  step of a session against these rules.
* **`Session.IsSound`** — what is kept along every run: sizes that are powers of two, and a text of
  the grammar. `isSound_next` is the step and `isSound_after` the run.
* **`Session.transcript`** — the requests of a run with their replies, and **`Session.Thinned`** — a
  transcript from which queries and refused requests were left out.
* **`Session.run_stable`** — every run keeps all this, and a transcript that was thinned is the
  transcript of its own requests. -/

namespace CallFrame

namespace Convention

/-! ## Sizes of an accepted convention -/

/-- **The numbers of an accepted convention are powers of two in ascending order.** -/
theorem isPowerOfTwo_of_make
    {floatingPointRegisters integerRegisters wordSize stackAlignment : Word}
    {convention : Convention}
    (hmake : make floatingPointRegisters integerRegisters wordSize stackAlignment =
      .ok convention) :
    wordSize.toNat.isPowerOfTwo ∧ stackAlignment.toNat.isPowerOfTwo ∧
      wordSize ≤ stackAlignment := by
  obtain ⟨smaller, larger, hle, -, hsmaller, hlarger⟩ :=
    forall_holds_iff.mp (exists_make_eq_ok_iff.mp ⟨convention, hmake⟩)
  refine ⟨⟨smaller, hsmaller⟩, ⟨larger, hlarger⟩, ?_⟩
  rw [UInt64.le_iff_toNat_le, hsmaller, hlarger]
  exact Nat.pow_le_pow_right (by decide) hle

end Convention

namespace Session

/-! ## One request -/

/-- **What a request does to a session.** Each rule says which reply goes with it, and none but the
last three leads to another session. -/
inductive Next (session : Session) : Request → Reply → Session → Prop where
  /-- A query leaves the session as it is, whatever the answer is. -/
  | query (query : Query) (reply : Reply) : Next session (.query query) reply session
  /-- Numbers that break a rule of conventions are refused. -/
  | rejected {floatingPointRegisters integerRegisters wordSize stackAlignment : Word}
      {error : ConventionError} {reply : Reply}
      (hmade : Convention.make floatingPointRegisters integerRegisters wordSize stackAlignment =
        .error error)
      (hanswer : reply.answer = .error (.convention error)) :
      Next session (.setConvention floatingPointRegisters integerRegisters wordSize stackAlignment)
        reply session
  /-- A text that is no signature is refused. -/
  | unread {text : String} {error : SignatureError} {reply : Reply}
      (hparsed : Signature.parse text = .error error)
      (hanswer : reply.answer = .error (.signature error)) :
      Next session (.parse text) reply session
  /-- A signature whose arguments no word can count is refused. -/
  | uncounted {text : String} {signature : Signature} {fault : Fault} {reply : Reply}
      (hparsed : Signature.parse text = .ok signature)
      (hcounted : (Tally.ofSignature signature >>= Tally.total) = .error fault)
      (hanswer : reply.answer = .error (.fault fault)) :
      Next session (.parse text) reply session
  /-- A convention that is accepted becomes the current one. -/
  | accepted {floatingPointRegisters integerRegisters wordSize stackAlignment : Word}
      {convention : Convention} {reply : Reply}
      (hmade : Convention.make floatingPointRegisters integerRegisters wordSize stackAlignment =
        .ok convention)
      (hanswer : reply.answer = .ok (.convention convention)) :
      Next session (.setConvention floatingPointRegisters integerRegisters wordSize stackAlignment)
        reply { session with convention }
  /-- A signature that is read becomes the current one. -/
  | read {text : String} {signature : Signature} {tally : Tally} {total : Word} {reply : Reply}
      (hparsed : Signature.parse text = .ok signature)
      (hanswer : reply.answer = .ok (.signature signature tally total)) :
      Next session (.parse text) reply { session with signature := some signature }
  /-- A reset leads back to the start. -/
  | reset {reply : Reply} (hanswer : reply.answer = .ok (.convention start.convention)) :
      Next session .reset reply start

section

variable {session next : Session} {request : Request} {reply : Reply}

/-- A performed request leads to the session and the answer that it performed. -/
theorem step_of_ok {answer : Answer}
    (hperformed : (session.perform request).outcome = .ok (next, answer)) :
    session.step request = (next, ⟨.ok answer, (session.perform request).events⟩) := by
  simp only [step, hperformed]

/-- A request that was not performed is refused, and the session stays. -/
theorem step_of_error {refusal : Refusal}
    (hperformed : (session.perform request).outcome = .error refusal) :
    session.step request = (session, ⟨.error refusal, (session.perform request).events⟩) := by
  simp only [step, hperformed]

/-- A convention is set as far as it can be made. -/
theorem outcome_perform_setConvention
    {floatingPointRegisters integerRegisters wordSize stackAlignment : Word} :
    (session.perform (.setConvention floatingPointRegisters integerRegisters wordSize
      stackAlignment)).outcome =
      ((Convention.make floatingPointRegisters integerRegisters wordSize
        stackAlignment).mapError .convention >>= fun convention =>
          .ok ({ session with convention }, .convention convention)) := by
  simp only [perform, Traced.outcome_bind, Traced.outcome_ofExcept, Traced.outcome_emit,
    Traced.outcome_pure]
  rfl

/-- A signature is set as far as it can be read and counted. -/
theorem outcome_perform_parse {text : String} :
    (session.perform (.parse text)).outcome =
      ((Signature.parse text).mapError .signature >>= fun signature =>
        (Tally.ofSignature signature).mapError .fault >>= fun tally =>
          tally.total.mapError .fault >>= fun total =>
            .ok ({ session with signature := some signature },
              .signature signature tally total)) := by
  simp only [perform, Traced.outcome_bind, Traced.outcome_ofExcept, Traced.outcome_pure]

/-- A request that is performed follows one of the rules. -/
theorem next_of_ok {answer : Answer} {events : List Event}
    (hperformed : (session.perform request).outcome = .ok (next, answer)) :
    Next session request ⟨.ok answer, events⟩ next := by
  cases request with
  | query asked =>
      simp only [perform, Traced.outcome_bind, Traced.outcome_pure, bind_eq_ok_iff,
        Except.ok.injEq, Prod.mk.injEq] at hperformed
      obtain ⟨_, -, rfl, -⟩ := hperformed
      exact .query asked _
  | setConvention floatingPointRegisters integerRegisters wordSize stackAlignment =>
      simp only [outcome_perform_setConvention, bind_eq_ok_iff, mapError_eq_ok_iff,
        Except.ok.injEq, Prod.mk.injEq] at hperformed
      obtain ⟨convention, hmake, rfl, rfl⟩ := hperformed
      exact .accepted hmake rfl
  | parse text =>
      simp only [outcome_perform_parse, bind_eq_ok_iff, mapError_eq_ok_iff, Except.ok.injEq,
        Prod.mk.injEq] at hperformed
      obtain ⟨signature, hparse, tally, -, total, -, rfl, rfl⟩ := hperformed
      exact .read hparse rfl
  | reset =>
      simp only [perform, Traced.outcome_pure, Except.ok.injEq, Prod.mk.injEq] at hperformed
      obtain ⟨rfl, rfl⟩ := hperformed
      exact .reset rfl

/-- A request that is not performed follows one of the rules of refusals. -/
theorem next_of_error {refusal : Refusal} {events : List Event}
    (hperformed : (session.perform request).outcome = .error refusal) :
    Next session request ⟨.error refusal, events⟩ session := by
  cases request with
  | query asked => exact .query asked _
  | setConvention floatingPointRegisters integerRegisters wordSize stackAlignment =>
      simp only [outcome_perform_setConvention, bind_eq_error_iff, mapError_eq_error_iff,
        reduceCtorEq, and_false, exists_false, or_false] at hperformed
      obtain ⟨error, hmake, rfl⟩ := hperformed
      exact .rejected hmake rfl
  | parse text =>
      simp only [outcome_perform_parse, bind_eq_error_iff, mapError_eq_error_iff,
        mapError_eq_ok_iff, reduceCtorEq, and_false, exists_false, or_false] at hperformed
      rcases hperformed with ⟨error, hparse, rfl⟩ | ⟨signature, hparse, hcount⟩
      · exact .unread hparse rfl
      · -- the arguments cannot be counted, or their counts cannot be added up
        rcases hcount with ⟨fault, hfault, rfl⟩ | ⟨tally, htally, fault, hfault, rfl⟩
        · exact .uncounted hparse (bind_eq_error_iff.mpr (.inl hfault)) rfl
        · exact .uncounted hparse (bind_eq_error_iff.mpr (.inr ⟨tally, htally, hfault⟩)) rfl
  | reset => cases hperformed

/-- **Every step follows one of the rules.** -/
theorem next_step (session : Session) (request : Request) :
    Next session request (session.step request).2 (session.step request).1 := by
  rcases hperformed : (session.perform request).outcome with refusal | ⟨next, answer⟩
  · rw [step_of_error hperformed]
    exact next_of_error hperformed
  · rw [step_of_ok hperformed]
    exact next_of_ok hperformed

/-- Under a query the session stays what it is. -/
theorem Next.eq_of_query {query : Query} (hnext : Next session (.query query) reply next) :
    next = session := by
  cases hnext
  rfl

/-- After a refusal the session is what it was. -/
theorem Next.eq_of_refused {refusal : Refusal} (hnext : Next session request reply next)
    (hrefused : reply.answer = .error refusal) : next = session := by
  cases hnext with
  | query | rejected | unread | uncounted => rfl
  | accepted _ hanswer | read _ hanswer | reset hanswer =>
      rw [hanswer] at hrefused
      cases hrefused

end

/-! ## What every run keeps -/

/-- **A well-formed session**: the sizes of its convention are powers of two in ascending order, and
its signature, if there is one, is written as a text of the grammar. -/
structure IsSound (session : Session) : Prop where
  /-- The size of a word is a power of two. -/
  wordSize : session.convention.wordSize.toNat.isPowerOfTwo
  /-- The stack alignment is a power of two. -/
  stackAlignment : session.convention.stackAlignment.toNat.isPowerOfTwo
  /-- A word is no larger than the stack alignment. -/
  wordSize_le : session.convention.wordSize ≤ session.convention.stackAlignment
  /-- The text opens with the letter of a result and goes on with letters of arguments. -/
  signature : ∀ signature ∈ session.signature, IsSpelling signature.text

/-- The session in which nothing has been set is well formed. -/
theorem isSound_start : start.IsSound where
  wordSize := ⟨3, rfl⟩
  stackAlignment := ⟨4, rfl⟩
  wordSize_le := by decide
  signature := by simp [start]

/-- **A well-formed session leads to a well-formed session.** -/
theorem isSound_next {session next : Session} {request : Request} {reply : Reply}
    (hnext : Next session request reply next) (hsound : session.IsSound) : next.IsSound := by
  cases hnext with
  | query | rejected | unread | uncounted => exact hsound
  | reset => exact isSound_start
  | accepted hmade =>
      obtain ⟨hword, halignment, hle⟩ := Convention.isPowerOfTwo_of_make hmade
      obtain ⟨-, -, rfl, rfl⟩ := Convention.make_eq_ok_iff.mp hmade
      exact ⟨hword, halignment, hle, hsound.signature⟩
  | read hparsed =>
      refine ⟨hsound.wordSize, hsound.stackAlignment, hsound.wordSize_le, ?_⟩
      rintro signature ⟨⟩
      rw [← Signature.parse_eq_ok_iff.mp hparsed]
      exact Signature.exists_parse_eq_ok_iff.mp ⟨_, hparsed⟩

/-- The requests of a run are made one after the other. -/
theorem after_cons (session : Session) (request : Request) (rest : List Request) :
    session.after (request :: rest) = (session.step request).1.after rest := rfl

/-- **Every run leads to a well-formed session.** -/
theorem isSound_after {session : Session} (hsound : session.IsSound) (requests : List Request) :
    (session.after requests).IsSound := by
  induction requests generalizing session with
  | nil => exact hsound
  | cons request rest ih => exact ih (isSound_next (session.next_step request) hsound)

/-! ## Leaving requests out -/

/-- **The requests of a run with their replies**, in the order in which they were made. -/
def transcript (session : Session) (requests : List Request) : List (Request × Reply) :=
  requests.zip (session.replies requests)

/-- The first request of a transcript comes before all others. -/
theorem transcript_cons (session : Session) (request : Request) (rest : List Request) :
    session.transcript (request :: rest) =
      (request, (session.step request).2) :: (session.step request).1.transcript rest := rfl

/-- Entries of a transcript that may be left out: queries, and requests that were refused. -/
def IsIdle (entry : Request × Reply) : Prop :=
  (∃ query, entry.1 = .query query) ∨ ∃ refusal, entry.2.answer = .error refusal

/-- **A transcript from which idle entries were left out**, any number of them and anywhere. -/
inductive Thinned : List (Request × Reply) → List (Request × Reply) → Prop where
  /-- Nothing is left of nothing. -/
  | nil : Thinned [] []
  /-- Any entry may stay. -/
  | keep (entry : Request × Reply) {whole kept : List (Request × Reply)}
      (hrest : Thinned whole kept) : Thinned (entry :: whole) (entry :: kept)
  /-- An idle entry may be left out. -/
  | drop {entry : Request × Reply} {whole kept : List (Request × Reply)} (hidle : IsIdle entry)
      (hrest : Thinned whole kept) : Thinned (entry :: whole) kept

/-- An idle entry leaves the session as it is. -/
theorem step_of_isIdle {session : Session} {request : Request}
    (hidle : IsIdle (request, (session.step request).2)) : (session.step request).1 = session := by
  rcases hidle with ⟨query, hquery⟩ | ⟨refusal, hrefused⟩
  · obtain rfl : request = .query query := hquery
    exact (session.next_step _).eq_of_query
  · exact (session.next_step request).eq_of_refused hrefused

/-- **The requests that are left have the replies that they had**, and lead to the same session. -/
theorem transcript_of_thinned {session : Session} {requests : List Request}
    {kept : List (Request × Reply)} (hthinned : Thinned (session.transcript requests) kept) :
    session.transcript (kept.map Prod.fst) = kept ∧
      session.after (kept.map Prod.fst) = session.after requests := by
  -- induction on the requests; one that is left out hands its own session on to the others
  induction requests generalizing session kept with
  | nil =>
      cases hthinned
      exact ⟨rfl, rfl⟩
  | cons request rest ih =>
      rw [transcript_cons] at hthinned
      rw [after_cons]
      cases hthinned with
      | keep _ hrest =>
          obtain ⟨htranscript, hafter⟩ := ih hrest
          refine ⟨?_, hafter⟩
          rw [List.map_cons, transcript_cons, htranscript]
      | drop hidle hrest =>
          rw [step_of_isIdle hidle] at hrest ⊢
          exact ih hrest

/-- **What every run of a session keeps.** The session that a run leads to is well formed; the next
request does to it what the rules say, so that it stays as it is under every query and after every
refusal, be it an error or a fault; and when queries and refused requests are left out of the run,
any of them and anywhere, then all others get the answers and leave the events that they did, and
lead to the same session. -/
theorem run_stable (requests : List Request) :
    (start.after requests).IsSound ∧
    (∀ request, Next (start.after requests) request ((start.after requests).step request).2
      ((start.after requests).step request).1) ∧
    (∀ request refusal, ((start.after requests).step request).2.answer = .error refusal →
      ((start.after requests).step request).1 = start.after requests) ∧
    ∀ kept, Thinned (start.transcript requests) kept →
      start.transcript (kept.map Prod.fst) = kept ∧
        start.after (kept.map Prod.fst) = start.after requests := by
  refine ⟨isSound_after isSound_start requests, fun request => next_step _ request, ?_, ?_⟩
  · intro request refusal hrefused
    exact (next_step _ request).eq_of_refused hrefused
  · intro kept hthinned
    exact transcript_of_thinned hthinned

/-- With no registers, one argument takes a word of four bytes. Of five requests the refused
convention, the refused text and the query in the middle may be left out. -/
theorem run_stable_four_bytes :
    let accepted : Request := .setConvention 0 0 4 8
    let asked : Request := .query (.frames "VI")
    let entry : Request → Request × Reply := fun request =>
      (request, ((start.after [accepted]).step request).2)
    Thinned
      (start.transcript [accepted, .setConvention 8 8 0 16, asked, .parse "VV", asked])
      [(accepted, (start.step accepted).2), entry asked] ∧
    start.transcript [accepted, asked] = [(accepted, (start.step accepted).2), entry asked] ∧
    (entry (.parse "VV")).2.answer = .error (.signature (.voidArgument 1)) ∧
    ((start.after [accepted]).step (.parse "VV")).1 = start.after [accepted] := by
  intro accepted asked entry
  have hthinned : Thinned
      (start.transcript [accepted, .setConvention 8 8 0 16, asked, .parse "VV", asked])
      [(accepted, (start.step accepted).2), entry asked] :=
    .keep _ (.drop (.inr ⟨.convention .zeroWordSize, rfl⟩) (.drop (.inl ⟨_, rfl⟩)
      (.drop (.inr ⟨.signature (.voidArgument 1), rfl⟩) (.keep _ .nil))))
  obtain ⟨-, -, -, hkept⟩ :=
    run_stable [accepted, .setConvention 8 8 0 16, asked, .parse "VV", asked]
  obtain ⟨-, -, hrefused, -⟩ := run_stable [accepted]
  exact ⟨hthinned, (hkept _ hthinned).1, rfl, hrefused _ _ rfl⟩

end Session

end CallFrame
