import CallFrame.Convention

/-! # Traced computations

Accepting a convention and sizing a frame leave an event each, for whoever watches what was
computed. A computation that stops keeps the events that it left before.

* **`Event`** lists what can be recorded.
* **`Traced`** is an outcome together with the events left on the way; in a sequence the events
  of the second part follow those of the first, and there is no second part after an error. -/

namespace CallFrame

/-- How much an event matters to a watcher. -/
inductive Level where
  /-- An event that explains results. -/
  | debug
  /-- An event of the fine grain. -/
  | trace
  deriving DecidableEq

/-- Records of what was computed. -/
inductive Event where
  /-- A convention was made from numbers that keep its rules. -/
  | conventionAccepted (convention : Convention)
  /-- The frame of a stub was sized. -/
  | stubFrame (signature : String) (outArgs : Word) (savesReturnAddress : Bool) (size : Word)
  /-- The frame of a direct call was sized. -/
  | directFrame (signature : String) (size : Word)
  deriving DecidableEq

namespace Event

/-- The level of an event. -/
def level : Event → Level
  | conventionAccepted _ => .debug
  | stubFrame .. | directFrame .. => .trace

/-- The sentence shown for an event. -/
def message : Event → String
  | conventionAccepted _ => "custom calling convention"
  | stubFrame .. => "critical native stub frame"
  | directFrame .. => "critical native direct call frame"

end Event

/-- An outcome and the events left on the way to it, from the first to the last. -/
structure Traced (ε α : Type) where
  /-- The result, or what stopped the computation. -/
  outcome : Except ε α
  /-- The events that were left. -/
  events : List Event

namespace Traced

variable {ε ε' α β : Type}

/-- An outcome that leaves no event. -/
def ofExcept (outcome : Except ε α) : Traced ε α := ⟨outcome, []⟩

/-- A single event. -/
def emit (event : Event) : Traced ε Unit := ⟨.ok (), [event]⟩

/-- A computation that goes on from the result of another. -/
def andThen (first : Traced ε α) (next : α → Traced ε β) : Traced ε β :=
  match first.outcome with
  | .ok result => ⟨(next result).outcome, first.events ++ (next result).events⟩
  | .error error => ⟨.error error, first.events⟩

/-- A computation with its error in other words. -/
def mapError (change : ε → ε') (computation : Traced ε α) : Traced ε' α :=
  ⟨computation.outcome.mapError change, computation.events⟩

instance : Monad (Traced ε) where
  pure result := ofExcept (.ok result)
  bind := andThen

/-! ## Outcome and events of each operation -/

@[simp] theorem outcome_ofExcept (outcome : Except ε α) : (ofExcept outcome).outcome = outcome :=
  rfl

@[simp] theorem events_ofExcept (outcome : Except ε α) : (ofExcept outcome).events = [] := rfl

@[simp] theorem outcome_pure (result : α) : (pure result : Traced ε α).outcome = .ok result := rfl

@[simp] theorem events_pure (result : α) : (pure result : Traced ε α).events = [] := rfl

@[simp] theorem outcome_emit (event : Event) : (emit event : Traced ε Unit).outcome = .ok () := rfl

@[simp] theorem events_emit (event : Event) : (emit event : Traced ε Unit).events = [event] := rfl

@[simp] theorem outcome_mapError (change : ε → ε') (computation : Traced ε α) :
    (computation.mapError change).outcome = computation.outcome.mapError change := rfl

@[simp] theorem events_mapError (change : ε → ε') (computation : Traced ε α) :
    (computation.mapError change).events = computation.events := rfl

/-- The outcome of a sequence is the sequence of the outcomes. -/
@[simp] theorem outcome_bind (first : Traced ε α) (next : α → Traced ε β) :
    (first >>= next).outcome = first.outcome >>= fun result => (next result).outcome := by
  change (andThen first next).outcome = _
  unfold andThen
  cases first.outcome <;> rfl

/-- After a result a sequence goes on with its second part. -/
theorem bind_of_ok {first : Traced ε α} {result : α} (next : α → Traced ε β)
    (hok : first.outcome = .ok result) :
    first >>= next = ⟨(next result).outcome, first.events ++ (next result).events⟩ := by
  change andThen first next = _
  simp only [andThen, hok]

/-- After an error a sequence ends. -/
theorem bind_of_error {first : Traced ε α} {error : ε} (next : α → Traced ε β)
    (hstopped : first.outcome = .error error) : first >>= next = ⟨.error error, first.events⟩ := by
  change andThen first next = _
  simp only [andThen, hstopped]

/-- A sequence of silent parts is silent. -/
theorem events_bind_eq_nil {first : Traced ε α} {next : α → Traced ε β}
    (hsilent : first.events = []) (hnext : ∀ result, (next result).events = []) :
    (first >>= next).events = [] := by
  cases houtcome : first.outcome with
  | ok result => rw [bind_of_ok next houtcome, hsilent, hnext, List.append_nil]
  | error error => rw [bind_of_error next houtcome, hsilent]

/-- What is made of a result adds nothing to the events. -/
theorem events_bind_pure (computation : Traced ε α) (change : α → β) :
    (computation >>= fun result => pure (change result)).events = computation.events := by
  cases houtcome : computation.outcome with
  | ok result => rw [bind_of_ok _ houtcome, events_pure, List.append_nil]
  | error error => rw [bind_of_error _ houtcome]

/-- A function of the result changes the outcome only by that function. -/
@[simp] theorem outcome_map (change : α → β) (computation : Traced ε α) :
    (change <$> computation).outcome = change <$> computation.outcome := by
  change (computation >>= fun result => pure (change result)).outcome = _
  rw [outcome_bind]
  cases computation.outcome <;> rfl

/-- A function of the result leaves the events as they are. -/
@[simp] theorem events_map (change : α → β) (computation : Traced ε α) :
    (change <$> computation).events = computation.events :=
  events_bind_pure computation change

/-- Sequences may be grouped in either way, and a result alone adds nothing to a sequence. -/
instance : LawfulMonad (Traced ε) := LawfulMonad.mk' (Traced ε)
  (fun ⟨outcome, events⟩ => by
    change andThen _ _ = _
    cases outcome <;> simp [andThen])
  (fun result next => by
    change andThen _ _ = _
    simp [andThen])
  (fun ⟨outcome, events⟩ next last => by
    change andThen (andThen _ _) _ = andThen _ fun result => andThen (next result) last
    cases outcome with
    | error error => rfl
    | ok result => cases hstep : (next result).outcome <;> simp [andThen, hstep])

end Traced

end CallFrame
