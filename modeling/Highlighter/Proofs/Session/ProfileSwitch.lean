import Highlighter.Proofs.Session.Generations

/-!
# Switching the profile

When the profile is switched, a pass has to be made even for the text that is on the renderer: a
text may count as done only if the result on the renderer was made with the profile that is asked
for. The switch forgets which text was applied. But a pass that began before the switch still
applies its result if it is the newest one when its profile arrives, and then its text counts as
done, although its result was made with the profile of before.

So a switch is kept, whatever happens until the next one, exactly if the newest pass is not under
way at that moment with another identifier.

## Main definitions

* `Workload.ProfileKept` — a pass is only left out if the result on the renderer was made with the
  profile that is asked for
* `Workload.Switched` — where the passes and the result come from since the last switch

## Main results

* `Workload.Course.switched` — what holds in every course without a switch
* `Workload.profile_switch_kept_iff` — when a switch is kept
* `Workload.profile_switch_lost` — a course in which a switch is lost
-/

namespace Highlighter.Workload

open Renderer

variable {σ : Type}

/-- Whether the profile is switched. -/
def Event.isSwitch : Event σ → Bool
  | .setProfile _ => true
  | _ => false

/-- If a pass began now and were left out because its text counts as done, the result on the
renderer would have been made with the identifier that is set. -/
def ProfileKept (events : List (Event σ)) (w : Workload σ) : Prop :=
  ∀ text, w.session.closed = false → (w.session.begin text).2 = none →
    ∃ request result, (results events).getLast? = some (request, result) ∧
      w.session.lastResult = some result ∧ request.identifier = w.session.identifier

/-- Where the passes under way and the result on the renderer come from in a course without a
switch: they have the identifier that is set, or are among `older` passes. Of these, only one that
was the newest at the beginning of the course can have been applied. -/
structure Switched (older : List Request) (generation : Nat) (identifier : Identifier)
    (events : List (Event σ)) (w : Workload σ) : Prop where
  identifier_eq : w.session.identifier = identifier
  generation_le : generation ≤ w.session.generation
  request : ∀ request ∈ w.requests, request.identifier = identifier ∨ request ∈ older
  record : ∀ text, w.session.appliedText = some text →
    ∃ request result, (results events).getLast? = some (request, result) ∧
      w.session.lastResult = some result ∧
      (request.identifier = identifier ∨ request ∈ older ∧ generation ≤ request.pass.generation)

namespace Switched

variable {older : List Request} {generation : Nat} {identifier : Identifier}
variable {events : List (Event σ)} {event : Event σ} {w w' : Workload σ}

/-- Nothing changes if no result is applied and every new pass asks for the identifier that is
set. -/
theorem quiet (switched : Switched older generation identifier events w)
    (noResult : event.result? = none)
    (identifier_eq : w'.session.identifier = w.session.identifier)
    (later : w.session.generation ≤ w'.session.generation)
    (request : ∀ request ∈ w'.requests, request ∈ w.requests ∨ request.identifier = identifier)
    (record : ∀ text, w'.session.appliedText = some text →
      w.session.appliedText = some text ∧ w'.session.lastResult = w.session.lastResult) :
    Switched older generation identifier (events ++ [event]) w' := by
  have hresults : results (events ++ [event]) = results events := by simp [results_snoc, noResult]
  refine
    { identifier_eq := identifier_eq.trans switched.identifier_eq
      generation_le := Nat.le_trans switched.generation_le later
      request := ?_
      record := ?_ }
  · intro other hother
    rcases request other hother with hother | hother
    · exact switched.request other hother
    · exact Or.inl hother
  · intro text htext
    obtain ⟨hbefore, hlast⟩ := record text htext
    rw [hresults, hlast]
    exact switched.record text hbefore

theorem begin (switched : Switched older generation identifier events w) {text : String}
    {session : Session σ} {pass : Option Pass} (begins : w.session.Begins text session pass)
    (due : List (Nat × String)) (noResult : event.result? = none) :
    Switched older generation identifier (events ++ [event]) (w.begun session pass due) := by
  cases begins with
  | closed _ =>
    exact switched.quiet noResult rfl (Nat.le_refl _) (by simp +contextual)
      (fun _ h => ⟨h, rfl⟩)
  | same _ _ =>
    exact switched.quiet noResult rfl w.session.generation_le_renewedGeneration
      (by simp +contextual) (fun _ h => ⟨h, rfl⟩)
  | other _ _ =>
    refine switched.quiet noResult rfl (Nat.le_succ _) ?_ (fun _ h => ⟨h, rfl⟩)
    intro request hrequest
    rw [requests_begun_some, List.mem_append, List.mem_singleton] at hrequest
    rcases hrequest with hrequest | rfl
    · exact Or.inl hrequest
    · exact Or.inr switched.identifier_eq

/-- A switch is kept if every pass under way that is the newest asks for the same identifier. -/
theorem profileKept (switched : Switched older generation identifier events w)
    (newest : ∀ request ∈ older, generation ≤ request.pass.generation →
      request.identifier = identifier) : ProfileKept events w := by
  intro text isOpen leftOut
  have happlied := (Session.begin_eq_none_iff isOpen text).1 leftOut
  obtain ⟨request, result, hresults, hlast, hmade⟩ := switched.record _ happlied
  refine ⟨request, result, hresults, hlast, ?_⟩
  rw [switched.identifier_eq]
  rcases hmade with hmade | ⟨hold, hnewest⟩
  · exact hmade
  · exact newest request hold hnewest

variable [Renderer σ] [PatternReader]

theorem complete (switched : Switched older generation identifier events w) {request : Request}
    {before after : List Request} (waits : w.requests = before ++ request :: after)
    {profile : Profile} {session : Session σ} {outcome : Except Fault (Option Highlights)}
    (completes : w.session.Completes request.pass profile session outcome) :
    Switched older generation identifier (events ++ [.complete request profile outcome])
      { w with session, requests := before ++ after } := by
  have hfewer : ∀ other ∈ before ++ after, other ∈ w.requests :=
    fun other hother => (sublist_of_waits waits).subset hother
  cases completes with
  | @applied newest result _ _ _ _ =>
    refine
      { identifier_eq := switched.identifier_eq
        generation_le := switched.generation_le
        request := fun other hother => switched.request other (hfewer other hother)
        record := ?_ }
    intro _ _
    refine ⟨request, result, by simp [results_snoc, Event.result?], rfl, ?_⟩
    rcases switched.request request (by simp [waits]) with hnew | hold
    · exact Or.inl hnew
    · exact Or.inr ⟨hold, newest ▸ switched.generation_le⟩
  | _ =>
    exact switched.quiet rfl rfl (Nat.le_refl _) (fun other hother => Or.inl (hfewer other hother))
      (fun _ h => ⟨h, rfl⟩)

/-- Whatever happens next, if it is no switch, it does not matter for where things come from. -/
theorem step (switched : Switched older generation identifier events w)
    (noSwitch : event.isSwitch = false) (happens : Step w event w') :
    Switched older generation identifier (events ++ [event]) w' := by
  cases happens with
  | notify text =>
    refine switched.quiet rfl ?_ ?_ (fun _ h => Or.inl h) ?_ <;>
      simp +contextual [Workload.notify, Session.notify_eq]
  | ring _ =>
    exact switched.quiet rfl rfl (Nat.le_refl _) (fun _ h => Or.inl h) (fun _ h => ⟨h, rfl⟩)
  | call text => exact switched.begin (w.session.begins_begin text) w.due rfl
  | take _ => exact switched.begin (w.session.begins_begin _) _ rfl
  | complete waits profile =>
    exact switched.complete waits (w.session.completes_complete _ profile)
  | drop _ =>
    exact switched.quiet rfl rfl (Nat.le_refl _) (fun _ h => Or.inl h) (fun _ h => ⟨h, rfl⟩)
  | cancel waits =>
    exact switched.quiet rfl rfl (Nat.le_refl _)
      (fun _ h => Or.inl ((sublist_of_waits waits).subset h)) (fun _ h => ⟨h, rfl⟩)
  | setProfile _ => cases noSwitch
  | close =>
    refine switched.quiet rfl rfl (Nat.le_succ _) (fun _ h => Or.inl h) ?_
    intro text htext
    cases htext
  | disturb _ =>
    exact switched.quiet rfl rfl (Nat.le_refl _) (fun _ h => Or.inl h) (fun _ h => ⟨h, rfl⟩)

end Switched

section Course

variable [Renderer σ] [PatternReader]
variable {settings : Settings} {identifier : Identifier} {renderer : σ}
variable {events : List (Event σ)} {w : Workload σ}

/-- Every pass under way is for the snapshot of some text. -/
theorem Course.exists_snapshot (course : Course (fresh settings identifier renderer) events w) :
    ∀ request ∈ w.requests, ∃ raw, request.pass.text = w.session.snapshot raw := by
  induction course with
  | nil => exact fun _ h => nomatch h
  | @snoc _ event w w' _ happens ih =>
    intro request hrequest
    have hsame : w'.session.snapshot = w.session.snapshot := by
      funext raw
      rw [Session.snapshot, Session.snapshot, happens.settings_eq]
    rw [hsame]
    rcases happens.mem_requests hrequest with hbefore | ⟨raw, hraw, -⟩
    · exact ih request hbefore
    · exact ⟨raw, hraw⟩

/-- What holds in every course without a switch that starts with no text counting as done. -/
theorem Course.switched {start : Workload σ} (course : Course start events w)
    (unapplied : start.session.appliedText = none)
    (noSwitch : ∀ event ∈ events, event.isSwitch = false) :
    Switched start.requests start.session.generation start.session.identifier events w := by
  induction course with
  | nil =>
    exact
      { identifier_eq := rfl
        generation_le := Nat.le_refl _
        request := fun _ h => Or.inr h
        record := fun text htext => nomatch unapplied.symm.trans htext }
  | snoc _ happens ih =>
    have hbefore := ih fun event h => noSwitch event (List.mem_append_left _ h)
    exact hbefore.step (noSwitch _ (List.mem_append_right _ List.mem_cons_self)) happens

/-- A text counts as done only for the profile that its result was made with, as long as the profile
is not switched. A switch is kept, whatever happens until the next one, exactly if every pass under
way that is the newest at that moment asks for the identifier that is switched to. -/
theorem profile_switch_kept_iff
    (course : Course (fresh settings identifier renderer) events w) :
    ((∀ event ∈ events, event.isSwitch = false) → ProfileKept events w) ∧
    ∀ other, w.session.closed = false → Steady w.session.layering.renderer →
      ((∀ events' w', Course (w.setProfile other) events' w' →
        (∀ event ∈ events', event.isSwitch = false) → ProfileKept events' w') ↔
      ∀ request ∈ w.requests, request.pass.generation = w.session.generation →
        request.identifier = other) := by
  have ordered := course.ordered
  refine ⟨?_, ?_⟩
  · intro noSwitch
    exact (course.switched rfl noSwitch).profileKept fun _ h => nomatch h
  · intro other isOpen steady
    constructor
    · -- the newest pass is applied first, and then its text is passed again
      intro kept request hrequest hnewest
      obtain ⟨before, after, waits⟩ := List.append_of_mem hrequest
      obtain ⟨raw, hraw⟩ := course.exists_snapshot request hrequest
      obtain ⟨layering, happens⟩ := (ordered.step (.setProfile w other)).exists_step_applied waits
        hnewest steady (extractAll_empty _ _)
      have keptNow := kept _ _ (Course.nil.snoc happens) (by simp [Event.isSwitch]) raw isOpen
      obtain ⟨made, result, hresults, -, hmade⟩ := keptNow
        ((Session.begin_eq_none_iff (by exact isOpen) raw).2 (congrArg some hraw))
      obtain ⟨rfl, -⟩ := Prod.mk.inj (Option.some.inj hresults)
      exact hmade
    · intro newest events' w' course' noSwitch
      refine (course'.switched rfl noSwitch).profileKept ?_
      intro request hrequest hle
      exact newest request hrequest (Nat.le_antisymm (ordered.request_le hrequest) hle)

end Course

section Example

attribute [local instance] PatternReader.standard

/-- A pass that was overtaken is still under way when the profile is switched. The switch is
kept. -/
theorem profile_switch_kept_of_overtaken :
    ∃ (events : List (Event Canvas)) (w : Workload Canvas),
      Course (fresh {} (.name "numbers") {}) events w ∧ w.session.closed = false ∧
      Steady w.session.layering.renderer ∧ w.requests = [⟨⟨1, "a1"⟩, .name "numbers"⟩] ∧
      w.session.appliedText = some "b2" ∧
      ∀ events' w', Course (w.setProfile (.name "words")) events' w' →
        (∀ event ∈ events', event.isSwitch = false) → ProfileKept events' w' := by
  let request (generation : Nat) (text : String) : Request := ⟨⟨generation, text⟩, .name "numbers"⟩
  have course := (Course.nil : Course (fresh {} (.name "numbers") ({} : Canvas)) [] _)
    |>.snoc (.call _ "a1") |>.snoc (.call _ "b2")
    |>.snoc (.complete _ (rfl : _ = [request 1 "a1"] ++ request 2 "b2" :: []) {})
  have hkept := (profile_switch_kept_iff course).2 (.name "words") rfl (Canvas.steady _)
  refine ⟨_, _, course, rfl, Canvas.steady _, rfl, rfl, hkept.2 ?_⟩
  intro older holder hnewest
  obtain rfl : older = request 1 "a1" := List.mem_singleton.1 holder
  cases hnewest

/-- The only pass is under way when the profile is switched. Its result is made with the profile of
before, and nevertheless its text counts as done. -/
theorem profile_switch_lost :
    ∃ (events : List (Event Canvas)) (w : Workload Canvas),
      events = [.begin .call "a1" (some ⟨1, "a1"⟩), .setProfile (.name "words"),
        .complete ⟨⟨1, "a1"⟩, .name "numbers"⟩ {}
          (.ok (some { source := "a1", generation := 1 }))] ∧
      Course (fresh {} (.name "numbers") {}) events w ∧ w.session.closed = false ∧
      w.session.identifier = .name "words" ∧ (w.session.begin "a1").2 = none ∧
      ¬ ProfileKept events w := by
  let request : Request := ⟨⟨1, "a1"⟩, .name "numbers"⟩
  have course := (Course.nil : Course (fresh {} (.name "numbers") ({} : Canvas)) [] _)
    |>.snoc (.call _ "a1") |>.snoc (.setProfile _ (.name "words"))
    |>.snoc (.complete _ (rfl : _ = [] ++ request :: []) {})
  refine ⟨_, _, rfl, course, rfl, rfl, rfl, ?_⟩
  intro kept
  obtain ⟨made, result, hresults, -, hidentifier⟩ := kept "a1" rfl rfl
  obtain ⟨rfl, -⟩ := Prod.mk.inj (Option.some.inj hresults)
  have hnames : "numbers" = "words" := Identifier.name.inj hidentifier
  exact absurd hnames (by decide)

end Example

end Highlighter.Workload
