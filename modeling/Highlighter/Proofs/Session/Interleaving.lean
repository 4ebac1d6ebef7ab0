import Highlighter.Proofs.Session.Pass

/-!
# Interleavings of the events of a session

A session shares its time with those who use it. Texts are notified and rung for, passes begin, and
profiles arrive in an order that nobody controls; meanwhile the profile may be switched, passes may
be cancelled, the renderer may change, and the session may be closed. A workload is a session
together with the work that is outstanding for it, and a course is any finite sequence of events
that leads from one workload to another.

An event carries what was observed when it happened: whether a pass began, and what a pass returned.
What is said about a course is said about the events it consists of and the workload it leads to.

## Main definitions

* `Workload` — a session with the passes that are due to begin or wait for their profiles
* `Workload.Event`, `Workload.Step` — what can happen next, and what becomes of the workload
* `Workload.Course` — the workloads that a sequence of events can lead to
* `Workload.passes`, `Workload.results` — the passes that began in a course, and the results applied
-/

namespace Highlighter

/-- What a pass is made for. -/
inductive Workload.Cause where
  /-- Somebody asked for it. -/
  | call
  /-- A text was notified and rung for; notifications are numbered from zero. -/
  | notice (number : Nat)
  deriving DecidableEq, Repr

/-- A pass that waits for the profile of an identifier. -/
structure Workload.Request where
  pass : Pass
  identifier : Identifier

/-- A session with the work that is outstanding for it. -/
structure Workload (σ : Type) where
  session : Session σ
  /-- How many texts have been notified. -/
  notified : Nat := 0
  /-- The texts that have been rung for and are due to begin, with the numbers of their
  notifications. -/
  due : List (Nat × String) := []
  /-- The passes that wait for their profiles. -/
  requests : List Workload.Request := []

namespace Workload

variable {σ : Type}

/-- The workload of a new session. -/
def fresh (settings : Settings) (identifier : Identifier) (renderer : σ) : Workload σ :=
  { session := { settings, layering := { renderer }, identifier } }

/-- Something that happens to a session. -/
inductive Event (σ : Type) where
  | notify (text : String)
  /-- The time of the noted text has come. -/
  | ring
  /-- A pass begins, and waits for its profile unless there is nothing to do. -/
  | begin (cause : Cause) (text : String) (pass : Option Pass)
  /-- The profile of a pass arrives, in any order, and the pass returns or raises. -/
  | complete (request : Request) (profile : Profile) (outcome : Except Fault (Option Highlights))
  /-- A pass is cancelled before it begins. -/
  | drop (number : Nat) (text : String)
  /-- A pass is cancelled while it waits, or its profile does not arrive. -/
  | cancel (request : Request)
  | setProfile (identifier : Identifier)
  | close
  /-- The renderer changes without being called. -/
  | disturb (renderer : σ)

/-! ## What is observed -/

/-- The text for which a pass begins. -/
def Event.begun? : Event σ → Option String
  | .begin _ text _ => some text
  | _ => none

/-- The pass that begins and waits for its profile. -/
def Event.pass? : Event σ → Option Pass
  | .begin _ _ pass => pass
  | _ => none

/-- The result that a pass returns, with the request of the pass. -/
def Event.result? : Event σ → Option (Request × Highlights)
  | .complete request _ (.ok (some result)) => some (request, result)
  | _ => none

/-- The passes that began and waited for their profiles. -/
def passes (events : List (Event σ)) : List Pass :=
  events.filterMap Event.pass?

/-- The results that were applied, each with the request of its pass. -/
def results (events : List (Event σ)) : List (Request × Highlights) :=
  events.filterMap Event.result?

theorem passes_snoc (events : List (Event σ)) (event : Event σ) :
    passes (events ++ [event]) = passes events ++ event.pass?.toList := by
  rw [passes, List.filterMap_append]
  cases h : event.pass? <;> simp [passes, h]

theorem results_snoc (events : List (Event σ)) (event : Event σ) :
    results (events ++ [event]) = results events ++ event.result?.toList := by
  rw [results, List.filterMap_append]
  cases h : event.result? <;> simp [results, h]

/-! ## Steps and courses -/

/-- The workload after a text was notified. A closed session takes no notice. -/
def notify (w : Workload σ) (text : String) : Workload σ :=
  { w with
    session := w.session.notify text
    notified := if w.session.closed then w.notified else w.notified + 1 }

/-- The workload after the noted text was rung for. It is the text notified last. -/
def ring (w : Workload σ) (text : String) : Workload σ :=
  { w with session := w.session.ring.1, due := w.due ++ [(w.notified - 1, text)] }

/-- The workload after a pass began that left the given session, with what is still due. A pass that
waits for its profile asks for it by the identifier of this moment. -/
def begun (w : Workload σ) (session : Session σ) (pass : Option Pass) (due : List (Nat × String)) :
    Workload σ :=
  { w with
    session, due
    requests := w.requests ++ pass.toList.map fun pass => ⟨pass, w.session.identifier⟩ }

/-- The workload after a pass began for a text, with what is still due. -/
def begin (w : Workload σ) (text : String) (due : List (Nat × String)) : Workload σ :=
  w.begun (w.session.begin text).1 (w.session.begin text).2 due

@[simp]
theorem session_begun (w : Workload σ) (session : Session σ) (pass : Option Pass)
    (due : List (Nat × String)) : (w.begun session pass due).session = session :=
  rfl

@[simp]
theorem requests_begun_none (w : Workload σ) (session : Session σ) (due : List (Nat × String)) :
    (w.begun session none due).requests = w.requests := by
  simp [begun]

@[simp]
theorem requests_begun_some (w : Workload σ) (session : Session σ) (pass : Pass)
    (due : List (Nat × String)) :
    (w.begun session (some pass) due).requests = w.requests ++ [⟨pass, w.session.identifier⟩] :=
  rfl

theorem mem_requests_begun {w : Workload σ} {text : String} {session : Session σ}
    {pass : Option Pass} (begins : w.session.Begins text session pass)
    {due : List (Nat × String)} {request : Request}
    (h : request ∈ (w.begun session pass due).requests) :
    request ∈ w.requests ∨ ∃ raw, request.pass.text = w.session.snapshot raw ∧
      request.identifier = w.session.identifier := by
  cases begins with
  | closed _ => exact Or.inl (by simpa using h)
  | same _ _ => exact Or.inl (by simpa using h)
  | other _ _ =>
    rcases List.mem_append.1 h with h | h
    · exact Or.inl h
    · obtain rfl := List.mem_singleton.1 h
      exact Or.inr ⟨text, rfl, rfl⟩

/-- The passes that still wait when one of them is gone. -/
theorem sublist_of_waits {α : Type} {all before after : List α} {one : α}
    (waits : all = before ++ one :: after) : (before ++ after).Sublist all := by
  rw [waits]
  exact (List.sublist_cons_self one after).append_left before

/-- The workload after a switch to another identifier. -/
def setProfile (w : Workload σ) (identifier : Identifier) : Workload σ :=
  { w with session := w.session.setProfile identifier }

/-- The workload after its renderer has changed. -/
def disturb (w : Workload σ) (renderer : σ) : Workload σ :=
  { w with session := { w.session with layering := { w.session.layering with renderer } } }

variable [Renderer σ] [PatternReader]

/-- The workload after the profile of a pass has arrived, with the passes that still wait. -/
def complete (w : Workload σ) (pass : Pass) (profile : Profile) (requests : List Request) :
    Workload σ :=
  { w with session := (w.session.complete pass profile).1, requests }

/-- What becomes of a workload when something happens. Nothing is said about what happens next: of
the passes that are due, and of those that wait for their profiles, any may be the one. -/
inductive Step : Workload σ → Event σ → Workload σ → Prop
  | notify (w : Workload σ) (text : String) : Step w (.notify text) (w.notify text)
  | ring (w : Workload σ) {text : String} (noted : w.session.ring.2 = some text) :
      Step w .ring (w.ring text)
  | call (w : Workload σ) (text : String) :
      Step w (.begin .call text (w.session.begin text).2) (w.begin text w.due)
  | take (w : Workload σ) {number : Nat} {text : String} {before after : List (Nat × String)}
      (isDue : w.due = before ++ (number, text) :: after) :
      Step w (.begin (.notice number) text (w.session.begin text).2)
        (w.begin text (before ++ after))
  | complete (w : Workload σ) {request : Request} {before after : List Request}
      (waits : w.requests = before ++ request :: after) (profile : Profile) :
      Step w (.complete request profile (w.session.complete request.pass profile).2.outcome)
        (w.complete request.pass profile (before ++ after))
  | drop (w : Workload σ) {number : Nat} {text : String} {before after : List (Nat × String)}
      (isDue : w.due = before ++ (number, text) :: after) :
      Step w (.drop number text) { w with due := before ++ after }
  | cancel (w : Workload σ) {request : Request} {before after : List Request}
      (waits : w.requests = before ++ request :: after) :
      Step w (.cancel request) { w with requests := before ++ after }
  | setProfile (w : Workload σ) (identifier : Identifier) :
      Step w (.setProfile identifier) (w.setProfile identifier)
  | close (w : Workload σ) : Step w .close { w with session := w.session.close.1 }
  | disturb (w : Workload σ) (renderer : σ) : Step w (.disturb renderer) (w.disturb renderer)

/-- A profile arrives for a pass that waits, and the pass goes on. -/
theorem Step.of_complete {w w' : Workload σ} {request : Request} {profile : Profile}
    {outcome : Except Fault (Option Highlights)}
    (happens : Step w (.complete request profile outcome) w') :
    ∃ before after session, w.requests = before ++ request :: after ∧
      w.session.Completes request.pass profile session outcome ∧
      w' = { w with session, requests := before ++ after } := by
  -- the outcome of a step is computed, so the event has to be a variable for the cases
  generalize isComplete : Event.complete request profile outcome = event at happens
  cases happens with
  | complete waits profile =>
    cases isComplete
    exact ⟨_, _, _, waits, w.session.completes_complete request.pass profile, rfl⟩
  | _ => cases isComplete

/-- The settings of a session never change. -/
theorem Step.settings_eq {w w' : Workload σ} {event : Event σ} (happens : Step w event w') :
    w'.session.settings = w.session.settings := by
  cases happens with
  | notify text => simp [Workload.notify, Session.notify_eq]
  | call text => exact (w.session.begins_begin text).frame.1
  | take _ => exact (w.session.begins_begin _).frame.1
  | complete _ profile => exact (w.session.completes_complete _ profile).frame.1
  | _ => rfl

/-- A pass that waits has waited before, or begins now for a text and the identifier of this
moment. -/
theorem Step.mem_requests {w w' : Workload σ} {event : Event σ} (happens : Step w event w')
    {request : Request} (h : request ∈ w'.requests) :
    request ∈ w.requests ∨ ∃ raw, request.pass.text = w.session.snapshot raw ∧
      request.identifier = w.session.identifier := by
  cases happens with
  | call text => exact mem_requests_begun (w.session.begins_begin text) h
  | take _ => exact mem_requests_begun (w.session.begins_begin _) h
  | complete waits _ => exact Or.inl ((sublist_of_waits waits).subset h)
  | cancel waits => exact Or.inl ((sublist_of_waits waits).subset h)
  | _ => exact Or.inl h

/-- The given events, one after the other, can lead from one workload to another. -/
inductive Course (start : Workload σ) : List (Event σ) → Workload σ → Prop
  | nil : Course start [] start
  | snoc {events : List (Event σ)} {event : Event σ} {w w' : Workload σ} :
      Course start events w → Step w event w' → Course start (events ++ [event]) w'

end Workload

end Highlighter
