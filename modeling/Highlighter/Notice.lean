import Highlighter.Fault

/-!
# Notices, tallies and runs

Work leaves a trace: notices for the reader of a log, and counts of what was done. A `Run` is the
trace of some work together with its result or the fault that ended it. The trace of work that
ended with a fault is kept.

Main definitions: `Notice`, `Tally`, `Trace`, `Run`.
-/

namespace Highlighter

open Highlighter.Text

/-- How grave a notice is. -/
inductive Level where
  | debug
  | warning
  | error
  deriving DecidableEq, Repr

/-- The name of a level. -/
def Level.name : Level → String
  | .debug => "DEBUG"
  | .warning => "WARNING"
  | .error => "ERROR"

/-- A record for the log. -/
inductive Notice where
  /-- A range was dropped when it was made. -/
  | droppedRange (fault : Fault)
  /-- A rule contributes nothing because of a fault. -/
  | ruleFailed (fault : Fault)
  /-- An item of a scanner lies outside of the text. -/
  | rejectedRange (label : String) (fault : Fault)
  /-- An item of a scanner is no range. -/
  | notARange (label shown : String)
  /-- A profile keeps an entry that is no rule. -/
  | keptMalformed (profile : String) (fault : Fault)
  /-- Types were registered with a renderer. -/
  | registered (types : List String)
  | fetching (url : String)
  | unsupportedIdentifier (typeName : String)
  /-- A load failed in a foreseen way. -/
  | revertedLoad (fault : Fault)
  /-- A load failed in another way. -/
  | revertedFault (identifier location : String) (fault : Fault)
  | loaded (identifier location : String)
  | revertedLiteral (fault : Fault)
  /-- A pass is discarded because a newer one has begun. -/
  | discarded (generation newest : Nat)
  | applyFailed (generation : Nat) (fault : Fault)
  | restoreFailed (generation : Nat) (fault : Fault)
  | clearFailed (fault : Fault)
  deriving DecidableEq, Repr

/-- How grave a notice is. -/
def Notice.level : Notice → Level
  | .ruleFailed _ => .warning
  | .unsupportedIdentifier _ => .warning
  | .revertedLoad _ => .warning
  | .revertedFault _ _ _ => .warning
  | .revertedLiteral _ => .warning
  | .applyFailed _ _ => .error
  | .restoreFailed _ _ => .warning
  | .clearFailed _ => .warning
  | _ => .debug

/-- The part of the program that a notice comes from. -/
def Notice.origin : Notice → String
  | .droppedRange _ => "tinta.ranges"
  | .ruleFailed _ => "tinta.extraction"
  | .rejectedRange _ _ => "tinta.extraction"
  | .notARange _ _ => "tinta.extraction"
  | .keptMalformed _ _ => "tinta.profile"
  | .registered _ => "tinta.layering"
  | .fetching _ => "tinta.loaders"
  | .unsupportedIdentifier _ => "tinta.registry"
  | .revertedLoad _ => "tinta.registry"
  | .revertedFault _ _ _ => "tinta.registry"
  | .loaded _ _ => "tinta.registry"
  | .revertedLiteral _ => "tinta.registry"
  | .discarded _ _ => "tinta.pipeline"
  | .applyFailed _ _ => "tinta.pipeline"
  | .restoreFailed _ _ => "tinta.pipeline"
  | .clearFailed _ => "tinta.pipeline"

/-- The wording of a notice. -/
def Notice.message : Notice → String
  | .droppedRange fault => "Dropping range: " ++ fault.message
  | .ruleFailed fault => fault.message
  | .rejectedRange label fault => "Scanner '" ++ label ++ "': " ++ fault.message
  | .notARange label shown => "Scanner '" ++ label ++ "' produced a non-range value " ++ shown
  | .keptMalformed profile fault =>
    "Profile " ++ quoted profile ++ " keeps malformed entry: " ++ fault.message
  | .registered types =>
    "Registered " ++ toString types.length ++ " token types: " ++ ", ".intercalate types
  | .fetching url => "Fetching syntax profile " ++ url
  | .unsupportedIdentifier typeName =>
    "Unsupported profile identifier of type " ++ typeName ++ "; using the default profile"
  | .revertedLoad fault => fault.message ++ ". Reverting to default."
  | .revertedFault identifier location fault =>
    "Could not load syntax profile '" ++ identifier ++ "' (" ++ location ++ "): " ++
      fault.summary ++ ". Reverting to default."
  | .loaded identifier location => "Loaded syntax profile '" ++ identifier ++ "' from " ++ location
  | .revertedLiteral fault =>
    "Invalid literal syntax profile: " ++ fault.message ++ ". Reverting to default."
  | .discarded generation newest =>
    "Discarding pass " ++ toString generation ++ "; generation " ++ toString newest ++ " is newer"
  | .applyFailed generation fault =>
    "Renderer failed to apply generation " ++ toString generation ++ ": " ++ fault.summary
  | .restoreFailed generation fault =>
    "Could not restore generation " ++ toString generation ++ ": " ++ fault.summary
  | .clearFailed fault => "Renderer failed to clear highlights: " ++ fault.summary

/-- The name under which a part of the program writes to the log. -/
def loggerName (name : String) : String :=
  if name == "tinta" || name.startsWith "tinta." then name else "tinta." ++ name

/-- Counts of the work done. -/
structure Tally where
  passes : Nat := 0
  rules : Nat := 0
  ranges : Nat := 0
  failures : Nat := 0
  sourceLength : Nat := 0
  deriving DecidableEq, Repr

/-- The counts of two pieces of work together. -/
def Tally.add (a b : Tally) : Tally where
  passes := a.passes + b.passes
  rules := a.rules + b.rules
  ranges := a.ranges + b.ranges
  failures := a.failures + b.failures
  sourceLength := a.sourceLength + b.sourceLength

theorem Tally.add_assoc (a b c : Tally) : (a.add b).add c = a.add (b.add c) := by
  simp [Tally.add, Nat.add_assoc]

@[simp]
theorem Tally.zero_add (a : Tally) : Tally.add {} a = a := by
  simp [Tally.add]

@[simp]
theorem Tally.add_zero (a : Tally) : a.add {} = a := by
  simp [Tally.add]

/-- What work leaves behind besides its result. -/
structure Trace where
  notices : List Notice := []
  tally : Tally := {}
  deriving DecidableEq, Repr

/-- The trace of one piece of work after another. -/
def Trace.append (a b : Trace) : Trace :=
  ⟨a.notices ++ b.notices, a.tally.add b.tally⟩

instance : Append Trace := ⟨Trace.append⟩

theorem Trace.append_eq (a b : Trace) : a ++ b = ⟨a.notices ++ b.notices, a.tally.add b.tally⟩ :=
  rfl

theorem Trace.append_assoc (a b c : Trace) : a ++ b ++ c = a ++ (b ++ c) := by
  simp [Trace.append_eq, Tally.add_assoc]

@[simp]
theorem Trace.nil_append (a : Trace) : ({} : Trace) ++ a = a := by
  simp [Trace.append_eq]

@[simp]
theorem Trace.append_nil (a : Trace) : a ++ ({} : Trace) = a := by
  simp [Trace.append_eq]

/-- Work done: its trace, and its result or the fault that ended it. -/
structure Run (α : Type) where
  trace : Trace := {}
  outcome : Except Fault α

namespace Run

variable {α β : Type}

/-- Goes on with the result of earlier work, unless it ended with a fault. -/
def bind (run : Run α) (next : α → Run β) : Run β :=
  match run.outcome with
  | .ok value =>
    let following := next value
    ⟨run.trace ++ following.trace, following.outcome⟩
  | .error fault => ⟨run.trace, .error fault⟩

instance : Monad Run where
  pure value := ⟨{}, .ok value⟩
  bind := bind

/-- Doing nothing before or after work changes nothing, and it does not matter how three pieces of
work are put together. -/
instance : LawfulMonad Run := LawfulMonad.mk' Run
  (by rintro α ⟨trace, _ | value⟩ <;> simp [Functor.map, bind])
  (by
    intro α β value next
    simp [Bind.bind, Pure.pure, bind])
  (by
    rintro α β γ ⟨trace, _ | value⟩ next last
    · simp [Bind.bind, bind]
    · simp only [Bind.bind, bind]
      cases (next value).outcome <;> simp [Trace.append_assoc])

/-- Ends with a fault. -/
def fail (fault : Fault) : Run α :=
  ⟨{}, .error fault⟩

/-- Leaves a notice. -/
def note (notice : Notice) : Run Unit :=
  ⟨{ notices := [notice] }, .ok ()⟩

/-- Counts work. -/
def count (tally : Tally) : Run Unit :=
  ⟨{ tally }, .ok ()⟩

/-- Work whose fault becomes part of its result. -/
def attempt (run : Run α) : Run (Except Fault α) :=
  ⟨run.trace, .ok run.outcome⟩

/-- Work without a trace. -/
def ofExcept (outcome : Except Fault α) : Run α :=
  ⟨{}, outcome⟩

@[simp]
theorem outcome_pure (value : α) : (pure value : Run α).outcome = .ok value :=
  rfl

@[simp]
theorem outcome_note (notice : Notice) : (note notice).outcome = .ok () :=
  rfl

@[simp]
theorem outcome_count (tally : Tally) : (count tally).outcome = .ok () :=
  rfl

@[simp]
theorem outcome_fail (fault : Fault) : (fail fault : Run α).outcome = .error fault :=
  rfl

@[simp]
theorem outcome_ofExcept (outcome : Except Fault α) : (ofExcept outcome).outcome = outcome :=
  rfl

@[simp]
theorem outcome_attempt (run : Run α) : run.attempt.outcome = .ok run.outcome :=
  rfl

theorem outcome_bind_of_ok {run : Run α} {value : α} (h : run.outcome = .ok value)
    (next : α → Run β) : (run >>= next).outcome = (next value).outcome := by
  simp only [Bind.bind, bind, h]

theorem outcome_bind_of_error {run : Run α} {fault : Fault} (h : run.outcome = .error fault)
    (next : α → Run β) : (run >>= next).outcome = .error fault := by
  simp only [Bind.bind, bind, h]

theorem trace_bind_of_ok {run : Run α} {value : α} (h : run.outcome = .ok value)
    (next : α → Run β) : (run >>= next).trace = run.trace ++ (next value).trace := by
  simp only [Bind.bind, bind, h]

theorem trace_bind_of_error {run : Run α} {fault : Fault} (h : run.outcome = .error fault)
    (next : α → Run β) : (run >>= next).trace = run.trace := by
  simp only [Bind.bind, bind, h]

/-- To wrap up a result leaves no trace. -/
theorem trace_bind_pure (run : Run α) (f : α → β) :
    (run >>= fun value => pure (f value)).trace = run.trace := by
  cases h : run.outcome with
  | ok value =>
    rw [trace_bind_of_ok h]
    exact Trace.append_nil _
  | error fault => rw [trace_bind_of_error h]

/-- Work that consists of two pieces succeeds iff both do. -/
theorem outcome_bind_eq_ok_iff {run : Run α} {next : α → Run β} {result : β} :
    (run >>= next).outcome = .ok result ↔
      ∃ value, run.outcome = .ok value ∧ (next value).outcome = .ok result := by
  cases h : run.outcome with
  | error fault => simp [outcome_bind_of_error h]
  | ok value => simp [outcome_bind_of_ok h]

/-- It ends with a fault iff the first piece does, or the second one after the first. -/
theorem outcome_bind_eq_error_iff {run : Run α} {next : α → Run β} {fault : Fault} :
    (run >>= next).outcome = .error fault ↔ run.outcome = .error fault ∨
      ∃ value, run.outcome = .ok value ∧ (next value).outcome = .error fault := by
  cases h : run.outcome with
  | error other => simp [outcome_bind_of_error h]
  | ok value => simp [outcome_bind_of_ok h]

end Run

end Highlighter
