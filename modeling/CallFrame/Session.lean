import CallFrame.Expectation

/-! # Sessions

A session holds a current convention and, once one has been read, a current signature, and answers
requests one after the other.

* **`Query`** asks something and changes nothing; **`Request`** is a query or a change.
* **`Session.perform`** answers a request. A refused request has no next session, so the session
  goes on from where it was.
* **`Session.replies`** answers a list of requests, each with the events left by its answer. -/

namespace CallFrame

/-- The current convention and signature. -/
structure Session where
  /-- The convention that frames are sized under. -/
  convention : Convention
  /-- The signature that was read last. -/
  signature : Option Signature

/-- A session in which nothing has been set. -/
def Session.start : Session := ⟨Convention.aapcs64, none⟩

/-! ## Requests -/

/-- Requests that leave the session as it is. -/
inductive Query where
  /-- The built-in conventions and letters. -/
  | constants
  /-- The current convention and signature. -/
  | current
  /-- The stub's layout for a text, or for the current signature. -/
  | layout (text : Option String)
  /-- The stack arguments, the stub's frame and the direct call's frame for an unchecked text. -/
  | frames (text : String)
  /-- The tally of an unchecked text. -/
  | tally (text : String)
  /-- The size of stack arguments for given counts, with a fault and with an error. -/
  | outArgs (floatingPoint integer : Word)
  /-- The sum of two counts. -/
  | total (floatingPoint integer : Word)
  /-- A value rounded up to an alignment. -/
  | roundUp (value alignment : Word)
  /-- The kinds of the characters of a text. -/
  | kinds (text : String)
  /-- The text for an argument mix. -/
  | spellMix (result : Char) (doubles ints : Nat)
  /-- The text for a list of kinds. -/
  | spell (result : Kind) (arguments : List Kind)
  /-- The signature of a text that should be one. -/
  | readExample (text : String)
  /-- A comparison of frames with expected sizes. -/
  | check (expectation : Expectation)

/-- Steps of a session. -/
inductive Request where
  /-- A question about the session or about frames. -/
  | query (query : Query)
  /-- A new convention, from its numbers. -/
  | setConvention (floatingPointRegisters integerRegisters wordSize stackAlignment : Word)
  /-- A new signature, from its text. -/
  | parse (text : String)
  /-- A return to the session in which nothing has been set. -/
  | reset

/-! ## Answers -/

/-- Reasons for which a request is refused. -/
inductive Refusal where
  /-- The numbers are those of no convention. -/
  | convention (error : ConventionError)
  /-- The text is no signature. -/
  | signature (error : SignatureError)
  /-- No signature has been read yet. -/
  | noSignature
  /-- The computation faults. -/
  | fault (fault : Fault)
  /-- The expectation fails. -/
  | expectation (error : ExpectationError)

/-- Results of requests. -/
inductive Answer where
  /-- The preset and the default convention, and the letters of results, of arguments and of narrow
  results. -/
  | constants (preset standard : Convention) (results arguments narrow : String)
  /-- A convention, which is now the current one. -/
  | convention (convention : Convention)
  /-- The session as it is. -/
  | current (session : Session)
  /-- A signature, which is now the current one, with its tally and the sum of the tally. -/
  | signature (signature : Signature) (tally : Tally) (total : Word)
  /-- The layout of a stub. -/
  | layout (layout : StubLayout)
  /-- The stack arguments, the stub's frame and the direct call's frame, each with its own fault. -/
  | frames (callArgs stub direct : Except Fault Word)
  /-- A tally and its sum. -/
  | tally (tally : Tally) (total : Word)
  /-- The size of stack arguments with a fault and with an error. -/
  | outArgs (unchecked : Except Fault Word) (checked : Except OutArgsError Word)
  /-- A number. -/
  | number (number : Word)
  /-- The kinds of characters, none for a character that is no letter of a kind. -/
  | kinds (kinds : List (Option Kind))
  /-- A text. -/
  | text (text : String)
  /-- An expectation that holds. -/
  | passed

/-- What a request gives back, and the events that it left. -/
structure Reply where
  /-- The result, or the reason for a refusal. -/
  answer : Except Refusal Answer
  /-- The events, from the first to the last. -/
  events : List Event

namespace Session

/-- The signature of a text, or the current one. -/
def signatureFor (session : Session) : Option String → Except Refusal Signature
  | some text => (Signature.parse text).mapError .signature
  | none => session.signature.elim (.error .noSignature) .ok

/-- The answer to a query. -/
def answer (session : Session) : Query → Traced Refusal Answer
  | .constants => pure (.constants Convention.aapcs64 default
      Kind.resultLetters Kind.argumentLetters Kind.narrowLetters)
  | .current => pure (.current session)
  | .layout text => do
      let signature ← Traced.ofExcept (session.signatureFor text)
      let layout ← (session.convention.stubLayout signature).mapError .fault
      return .layout layout
  | .frames text =>
      let stub := session.convention.stubFrame text
      let direct := session.convention.directFrame text
      ⟨.ok (.frames (session.convention.callArgs text) stub.outcome direct.outcome),
        stub.events ++ direct.events⟩
  | .tally text => (Traced.ofExcept do
      let tally ← Tally.ofText text
      let total ← tally.total
      return .tally tally total).mapError .fault
  | .outArgs floatingPoint integer => pure (.outArgs
      (session.convention.outArgs floatingPoint integer)
      (session.convention.outArgs? floatingPoint integer))
  | .total floatingPoint integer => (Traced.ofExcept do
      let total ← Tally.total ⟨floatingPoint, integer⟩
      return .number total).mapError .fault
  | .roundUp value alignment => (Traced.ofExcept do
      let number ← CallFrame.roundUp value alignment
      return .number number).mapError .fault
  | .kinds text => pure (.kinds (text.toList.map Kind.ofLetter?))
  | .spellMix result doubles ints => pure (.text (CallFrame.spellMix result doubles ints))
  | .spell result arguments => pure (.text (CallFrame.spell result arguments))
  | .readExample text => (Traced.ofExcept do
      let signature ← CallFrame.readExample text
      return .text signature.text).mapError .expectation
  | .check expectation => do
      (expectation.check session.convention).mapError .expectation
      return .passed

/-- The session after a request and the answer to it, unless it is refused. -/
def perform (session : Session) : Request → Traced Refusal (Session × Answer)
  | .query query => do
      let answer ← session.answer query
      return (session, answer)
  | .setConvention floatingPointRegisters integerRegisters wordSize stackAlignment => do
      let convention ← Traced.ofExcept ((Convention.make floatingPointRegisters integerRegisters
        wordSize stackAlignment).mapError .convention)
      Traced.emit (.conventionAccepted convention)
      return ({ session with convention }, .convention convention)
  | .parse text => do
      let signature ← Traced.ofExcept ((Signature.parse text).mapError .signature)
      let tally ← Traced.ofExcept ((Tally.ofSignature signature).mapError .fault)
      let total ← Traced.ofExcept (tally.total.mapError .fault)
      return ({ session with signature := some signature }, .signature signature tally total)
  | .reset => pure (start, .convention start.convention)

/-- The session after a request, and the reply to it. -/
def step (session : Session) (request : Request) : Session × Reply :=
  let performed := session.perform request
  match performed.outcome with
  | .ok (next, answer) => (next, ⟨.ok answer, performed.events⟩)
  | .error refusal => (session, ⟨.error refusal, performed.events⟩)

/-- The replies to requests, made one after the other. -/
def replies (session : Session) : List Request → List Reply
  | [] => []
  | request :: rest =>
      let (next, reply) := session.step request
      reply :: next.replies rest

/-- The session after requests, made one after the other. -/
def after (session : Session) (requests : List Request) : Session :=
  requests.foldl (fun current request => (current.step request).1) session

end Session

end CallFrame
