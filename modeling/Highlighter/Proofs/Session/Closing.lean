import Highlighter.Proofs.Session.Generations

/-!
# A closed session never paints again

Closing a session removes everything from its renderer. Passes that wait for their profiles at that
moment go on later, since nobody can stop a pass that somebody asked for; but closing takes a
generation of its own, so each of them finds that it is outdated. No pass begins any more. What a
closed session still does to its renderer is to clear it when it is closed again.

That no type is ever registered is a fact about calls, not about layers: it is stated for a renderer
that keeps a record of its calls, whatever it makes of them and whichever of them fail.

## Main definitions

* `Recorder` — a renderer with a record of the calls made to it
* `Workload.Closed` — a closed session under whose passes none is the newest
* `Workload.Event.ReturnsNothing` — no pass waits for its profile or returns a result

## Main results

* `Workload.Closed.step`, `Workload.Course.stays_closed` — what a step and a course keep
* `Workload.closed_session_never_paints` — what can happen after a session was closed
-/

namespace Highlighter

open Renderer

variable {σ : Type}

/-! ## Renderers with a record -/

/-- A renderer with a record of the calls made to it, the first one first. -/
structure Recorder (σ : Type) where
  inner : σ
  calls : List Renderer.Call := []

/-- A call is recorded whether or not it fails. -/
instance [Renderer σ] : Renderer (Recorder σ) where
  register recorder type spans :=
    let result := Renderer.register recorder.inner type spans
    (⟨result.1, recorder.calls ++ [.register type spans]⟩, result.2)
  clearAll recorder :=
    let result := Renderer.clearAll recorder.inner
    (⟨result.1, recorder.calls ++ [.clearAll]⟩, result.2)

/-- A recorder makes every call that is made to it. -/
theorem call_recorder [Renderer σ] (recorder : Recorder σ) (c : Renderer.Call) :
    call recorder c =
      (⟨(call recorder.inner c).1, recorder.calls ++ [c]⟩, (call recorder.inner c).2) := by
  cases c <;> rfl

instance [Renderer σ] [Layered σ] : Layered (Recorder σ) where
  layers recorder := Layered.layers recorder.inner
  layers_of_ok {recorder next c} h := by
    rw [call_recorder] at h
    obtain ⟨rfl, houtcome⟩ := Prod.mk.inj h
    exact Layered.layers_of_ok (Prod.ext rfl houtcome)
  layers_of_error {recorder next c fault} h := by
    rw [call_recorder] at h
    obtain ⟨rfl, houtcome⟩ := Prod.mk.inj h
    exact Layered.layers_of_error (Prod.ext rfl houtcome)

/-! ## Clearing a renderer -/

section Clearing

variable [Renderer σ]

/-- A renderer that was cleared a number of times, successfully or not. -/
def Renderer.cleared (renderer : σ) : Nat → σ
  | 0 => renderer
  | count + 1 => (Renderer.clearAll (cleared renderer count)).1

theorem Renderer.cleared_clearAll (renderer : σ) (count : Nat) :
    cleared (Renderer.clearAll renderer).1 count = cleared renderer (count + 1) := by
  induction count with
  | zero => rfl
  | succ count ih => simp only [cleared, ih]

theorem calls_cleared (recorder : Recorder σ) (count : Nat) :
    (cleared recorder count).calls = recorder.calls ++ List.replicate count .clearAll := by
  induction count with
  | zero => simp [cleared]
  | succ count ih =>
    rw [cleared, List.replicate_succ', ← List.append_assoc, ← ih]
    rfl

/-- A renderer without layers has none after it was cleared again, even if that fails. -/
theorem layers_clearAll_of_nil [Layered σ] {renderer : σ}
    (h : Layered.layers renderer = []) :
    Layered.layers (Renderer.clearAll renderer).1 = [] := by
  rcases hclear : Renderer.clearAll renderer with ⟨next, fault | ⟨⟩⟩
  · exact (Layered.layers_of_error (c := .clearAll) hclear).trans h
  · exact Layered.layers_of_ok (c := .clearAll) hclear

theorem layers_cleared_of_nil [Layered σ] {renderer : σ} (h : Layered.layers renderer = [])
    (count : Nat) : Layered.layers (cleared renderer count) = [] := by
  induction count with
  | zero => exact h
  | succ count ih => exact layers_clearAll_of_nil ih

/-- Closing a session clears its renderer. -/
theorem Session.renderer_close (session : Session σ) :
    session.close.1.layering.renderer = (Renderer.clearAll session.layering.renderer).1 := by
  simp only [Session.close, Layering.clear]
  rcases Renderer.clearAll session.layering.renderer with ⟨next, fault | ⟨⟩⟩ <;> rfl

end Clearing

/-! ## After the end of a session -/

namespace Workload

/-- No pass waits for its profile or returns a result. -/
def Event.ReturnsNothing : Event σ → Prop
  | .begin _ _ pass => pass = none
  | .complete _ _ outcome => outcome = .ok none
  | _ => True

/-- Whether the session is closed. -/
def Event.isClosing : Event σ → Bool
  | .close => true
  | _ => false

/-- Whether the renderer changes without being called. -/
def Event.isDisturbance : Event σ → Bool
  | .disturb _ => true
  | _ => false

/-- How often the session is closed. -/
def closings (events : List (Event σ)) : Nat :=
  events.countP Event.isClosing

theorem closings_snoc (events : List (Event σ)) (event : Event σ) :
    closings (events ++ [event]) = closings events + if event.isClosing then 1 else 0 := by
  simp [closings, List.countP_append, List.countP_singleton]

/-- A closed session without a result, and without a pass that is the newest one. -/
structure Closed (w : Workload σ) : Prop where
  isClosed : w.session.closed = true
  outdated : ∀ request ∈ w.requests, request.pass.generation < w.session.generation
  lastResult_eq : w.session.lastResult = none

namespace Closed

variable {w w' : Workload σ} {event : Event σ}

/-- A pass that begins in a closed session does nothing and waits for nothing. -/
theorem begin (closed : Closed w) {text : String} {session : Session σ} {pass : Option Pass}
    (begins : w.session.Begins text session pass) (due : List (Nat × String)) :
    Closed (w.begun session pass due) ∧ pass = none ∧ session = w.session := by
  cases begins with
  | closed _ =>
    refine ⟨⟨closed.isClosed, ?_, closed.lastResult_eq⟩, rfl, rfl⟩
    intro request hrequest
    exact closed.outdated request (by simpa using hrequest)
  | same isOpen _ => cases isOpen.symm.trans closed.isClosed
  | other isOpen _ => cases isOpen.symm.trans closed.isClosed

variable [Renderer σ] [PatternReader]

/-- A pass that goes on in a closed session is outdated. -/
theorem complete (closed : Closed w) {request : Request} {before after : List Request}
    (waits : w.requests = before ++ request :: after) {profile : Profile} {session : Session σ}
    {outcome : Except Fault (Option Highlights)}
    (completes : w.session.Completes request.pass profile session outcome) :
    Closed { w with session, requests := before ++ after } ∧ outcome = .ok none ∧
      session.layering = w.session.layering := by
  have hrequest : request ∈ w.requests := by simp [waits]
  have houtdated : request.pass.generation ≠ w.session.generation :=
    Nat.ne_of_lt (closed.outdated request hrequest)
  cases completes with
  | stale _ =>
    refine ⟨⟨closed.isClosed, ?_, closed.lastResult_eq⟩, rfl, rfl⟩
    exact fun other hother => closed.outdated other ((sublist_of_waits waits).subset hother)
  | raised newest _ => exact absurd newest houtdated
  | barred newest _ => exact absurd newest houtdated
  | applied newest _ _ _ => exact absurd newest houtdated
  | failed newest _ _ _ _ => exact absurd newest houtdated

/-- Whatever happens next, the session stays closed. Its renderer is called only to clear it, when
the session is closed again. -/
theorem step (closed : Closed w) (happens : Step w event w')
    (undisturbed : event.isDisturbance = false) :
    Closed w' ∧ event.ReturnsNothing ∧ w'.session.layering.renderer =
      cleared w.session.layering.renderer (if event.isClosing then 1 else 0) := by
  obtain ⟨isClosed, outdated, noResult⟩ := closed
  cases happens with
  | notify text =>
    have hsame : w.notify text = w := by
      simp [Workload.notify, Session.notify, isClosed]
    rw [hsame]
    exact ⟨⟨isClosed, outdated, noResult⟩, trivial, rfl⟩
  | ring _ => exact ⟨⟨isClosed, outdated, noResult⟩, trivial, rfl⟩
  | call text =>
    obtain ⟨hclosed, hpass, hsession⟩ :=
      begin ⟨isClosed, outdated, noResult⟩ (w.session.begins_begin text) w.due
    exact ⟨hclosed, hpass, by simp [Workload.begin, hsession, Event.isClosing, cleared]⟩
  | @take _ text before after _ =>
    obtain ⟨hclosed, hpass, hsession⟩ :=
      begin ⟨isClosed, outdated, noResult⟩ (w.session.begins_begin text) (before ++ after)
    exact ⟨hclosed, hpass, by simp [Workload.begin, hsession, Event.isClosing, cleared]⟩
  | complete waits profile =>
    obtain ⟨hclosed, houtcome, hlayering⟩ :=
      complete ⟨isClosed, outdated, noResult⟩ waits (w.session.completes_complete _ profile)
    exact ⟨hclosed, houtcome, congrArg Layering.renderer hlayering⟩
  | drop _ => exact ⟨⟨isClosed, outdated, noResult⟩, trivial, rfl⟩
  | cancel waits =>
    refine ⟨⟨isClosed, ?_, noResult⟩, trivial, rfl⟩
    exact fun request hrequest => outdated request ((sublist_of_waits waits).subset hrequest)
  | setProfile identifier => exact ⟨⟨isClosed, outdated, noResult⟩, trivial, rfl⟩
  | close =>
    refine ⟨⟨rfl, ?_, rfl⟩, trivial, w.session.renderer_close⟩
    exact fun request hrequest => Nat.lt_succ_of_lt (outdated request hrequest)
  | disturb _ => cases undisturbed

end Closed

section Course

variable [Renderer σ] [PatternReader] {settings : Settings} {identifier : Identifier}
variable {events later : List (Event σ)} {w w' : Workload σ}

omit [PatternReader] in
/-- Closing a session makes every pass under way outdated. -/
theorem Ordered.closed (ordered : Ordered events w) :
    Closed { w with session := w.session.close.1 } where
  isClosed := rfl
  outdated := fun _ hrequest => Nat.lt_succ_of_le (ordered.request_le hrequest)
  lastResult_eq := rfl

/-- A closed session stays closed. -/
theorem Course.stays_closed (course : Course w later w') (closed : Closed w)
    (undisturbed : ∀ event ∈ later, event.isDisturbance = false) :
    Closed w' ∧ (∀ event ∈ later, event.ReturnsNothing) ∧
      w'.session.layering.renderer = cleared w.session.layering.renderer (closings later) := by
  induction course with
  | nil => exact ⟨closed, by simp, rfl⟩
  | @snoc later event _ _ _ happens ih =>
    simp only [List.mem_append, List.mem_singleton] at undisturbed
    obtain ⟨hclosed, hnothing, hrenderer⟩ := ih fun event h => undisturbed event (Or.inl h)
    obtain ⟨hnext, hlast, hcleared⟩ := hclosed.step happens (undisturbed event (Or.inr rfl))
    refine ⟨hnext, ?_, ?_⟩
    · intro other hother
      rcases List.mem_append.1 hother with hother | hother
      · exact hnothing other hother
      · rwa [List.mem_singleton.1 hother]
    · rw [hcleared, hrenderer, closings_snoc]
      cases event.isClosing <;> rfl

end Course

/-- A closed session never paints again. Whatever has happened before it was closed, and whatever
happens afterwards, no pass waits for its profile or returns a result, there is no last result, and
the renderer is called only to clear it, once for each time the session is closed. If it could be
cleared when the session was closed, it has no layers from then on. -/
theorem closed_session_never_paints [Renderer σ] [Layered σ] [PatternReader] {settings : Settings}
    {identifier : Identifier} {renderer : Recorder σ} {events later : List (Event (Recorder σ))}
    {w closed w' : Workload (Recorder σ)}
    (course : Course (fresh settings identifier renderer) events w) (closes : Step w .close closed)
    (afterwards : Course closed later w')
    (undisturbed : ∀ event ∈ later, event.isDisturbance = false) :
    (∀ event ∈ later, event.ReturnsNothing) ∧
    w'.session.lastResult = none ∧
    w'.session.layering.renderer.calls =
      w.session.layering.renderer.calls ++ List.replicate (closings later + 1) .clearAll ∧
    ((Renderer.clearAll w.session.layering.renderer).2 = .ok () →
      Layered.layers w'.session.layering.renderer = []) := by
  cases closes
  obtain ⟨hclosed, hnothing, hrenderer⟩ :=
    afterwards.stays_closed course.ordered.closed undisturbed
  have hcleared : w'.session.layering.renderer =
      cleared w.session.layering.renderer (closings later + 1) := by
    rw [hrenderer, w.session.renderer_close, cleared_clearAll]
  refine ⟨hnothing, hclosed.lastResult_eq, ?_, ?_⟩
  · rw [hcleared, calls_cleared]
  · intro succeeded
    rw [hrenderer, w.session.renderer_close]
    refine layers_cleared_of_nil ?_ _
    exact Layered.layers_of_ok (c := .clearAll) (Prod.ext rfl succeeded)

section Example

attribute [local instance] PatternReader.standard

/-- A session is closed with a result on its renderer, a pass under way and a text noted. The pass
goes on, a text is notified, another pass is asked for, and the session is closed once more. -/
theorem closed_session_never_paints_of_waiting :
    ∃ (events later : List (Event (Recorder Canvas))) (w closed w' : Workload (Recorder Canvas)),
      Course (fresh {} .nothing { inner := {} }) events w ∧ Step w .close closed ∧
      Course closed later w' ∧
      (Layered.layers w.session.layering.renderer).map (·.1) = ["letter"] ∧
      w.requests.map (·.pass) = [⟨2, "b"⟩] ∧ w.session.pending = some "c" ∧
      later.length = 5 ∧ closings later = 1 ∧ (∀ event ∈ later, event.ReturnsNothing) ∧
      w'.session.layering.renderer.calls =
        w.session.layering.renderer.calls ++ List.replicate (closings later + 1) .clearAll ∧
      Layered.layers w'.session.layering.renderer = [] := by
  let profile : Profile :=
    { entries := [("letter", .patternRule (.pattern { source := "a", node := .literal ['a'] }))] }
  have course := (Course.nil : Course (fresh {} .nothing ({ inner := {} } : Recorder Canvas)) [] _)
    |>.snoc (.call _ "a")
    |>.snoc (.complete _ (rfl : _ = [] ++ (⟨⟨1, "a"⟩, .nothing⟩ : Request) :: []) profile)
    |>.snoc (.call _ "b") |>.snoc (.notify _ "c")
  -- what follows needs no more than this of the workload at the close
  suffices h : ∀ {events : List (Event (Recorder Canvas))} {w : Workload (Recorder Canvas)},
      Course (fresh {} .nothing { inner := {} }) events w → w.requests.map (·.pass) = [⟨2, "b"⟩] →
      (Layered.layers w.session.layering.renderer).map (·.1) = ["letter"] →
      w.session.pending = some "c" → _ from
    h course (by decide +kernel) (by decide +kernel) (by decide +kernel)
  intro events w course hpasses hlayers hpending
  obtain ⟨request, hrequests, -⟩ := List.map_eq_singleton_iff.1 hpasses
  let closed := { w with session := w.session.close.1 }
  have hwaits : closed.requests = [] ++ request :: [] := hrequests
  have afterwards := (Course.nil : Course closed [] closed) |>.snoc (.complete _ hwaits profile)
    |>.snoc (.notify _ "d") |>.snoc (.call _ "e") |>.snoc (.setProfile _ .nothing)
    |>.snoc (.close _)
  obtain ⟨hnothing, -, hcalls, hempty⟩ :=
    closed_session_never_paints course (.close w) afterwards (by simp [Event.isDisturbance])
  exact ⟨events, _, w, _, _, course, .close w, afterwards, hlayers, hpasses, hpending,
    rfl, rfl, hnothing, hcalls, hempty rfl⟩

end Example

end Workload

end Highlighter
