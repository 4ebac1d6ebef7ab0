import Highlighter.Proofs.Session.Generations

/-!
# The latest snapshot wins

While a session is open and its renderer and its rules behave, all that happens to it comes to one
end: when no pass waits for its profile any more, the renderer shows the text of the pass that began
last. It does not matter in which order the profiles arrived, whether a pass returned to the text
that was on the renderer already, or when the profile was switched.

The invariant is `Current`. The pass that began last is either still under way as the newest one, or
its text is the one on the renderer. A pass for the text that was applied begins nothing, and takes
a new generation so that no pass under way stays the newest.

The second part is about notifications. A pass begins for a notified text only if the text was rung
for before another one was notified, so a text that was replaced is never passed for.

## Main definitions

* `Workload.Event.isOrdinary` — nothing is closed, cancelled or disturbed, and extraction returns
* `Workload.Current` — what holds of the latest pass and of the renderer
* `Workload.RungFor` — a notified text was rung for before it was replaced

## Main results

* `Workload.Course.current`, `Workload.Course.accounted` — what holds in every ordinary course
* `Workload.latest_snapshot_wins` — where every ordinary course comes to
-/

namespace Highlighter.Workload

open Renderer Layered

variable {σ : Type}

/-! ## What happens in a course -/

/-- Whether nothing is closed, cancelled or disturbed, and a pass that ends returns. -/
def Event.isOrdinary : Event σ → Bool
  | .notify _ | .ring | .begin _ _ _ | .setProfile _ | .complete _ _ (.ok _) => true
  | .complete _ _ (.error _) | .drop _ _ | .cancel _ | .close | .disturb _ => false

/-- The text that is notified. -/
def Event.noted? : Event σ → Option String
  | .notify text => some text
  | _ => none

/-- The texts that were notified. -/
def noted (events : List (Event σ)) : List String :=
  events.filterMap Event.noted?

/-- The text of the pass that began last. -/
def lastBegun? (events : List (Event σ)) : Option String :=
  (events.filterMap Event.begun?).getLast?

theorem noted_append (first second : List (Event σ)) :
    noted (first ++ second) = noted first ++ noted second :=
  List.filterMap_append

@[simp]
theorem noted_nil : noted ([] : List (Event σ)) = [] :=
  rfl

@[simp]
theorem noted_notify_cons (text : String) (events : List (Event σ)) :
    noted (.notify text :: events) = text :: noted events :=
  rfl

theorem noted_cons_of_none {event : Event σ} (h : event.noted? = none) (events : List (Event σ)) :
    noted (event :: events) = noted events := by
  simp [noted, h]

theorem lastBegun?_snoc_of_none {events : List (Event σ)} {event : Event σ}
    (h : event.begun? = none) : lastBegun? (events ++ [event]) = lastBegun? events := by
  simp [lastBegun?, h]

theorem lastBegun?_snoc_of_some {events : List (Event σ)} {event : Event σ} {text : String}
    (h : event.begun? = some text) : lastBegun? (events ++ [event]) = some text := by
  simp [lastBegun?, h]

/-! ## The latest pass -/

section Latest

variable [Renderer σ] [Layered σ]

/-- What holds of the latest pass and of the renderer in an ordinary course that has led to a
workload. -/
structure Current (settings : Settings) (events : List (Event σ)) (w : Workload σ) : Prop where
  settings_eq : w.session.settings = settings
  isOpen : w.session.closed = false
  steady : Steady w.session.layering.renderer
  /-- The text that need not be passed again is that of the last result. -/
  recorded : ∀ text, w.session.appliedText = some text →
    ∃ result, w.session.lastResult = some result ∧ result.source = text
  shown : ∀ result, w.session.lastResult = some result →
    layers w.session.layering.renderer = result.inhabited
  newest_text : ∀ request ∈ w.requests, request.pass.generation = w.session.generation →
    request.pass.text = w.session.text
  text_eq : ∀ raw, lastBegun? events = some raw → w.session.text = w.session.snapshot raw
  /-- The latest pass is under way as the newest one, or its text has been applied. -/
  latest : ∀ raw, lastBegun? events = some raw →
    (∃ request ∈ w.requests, request.pass.generation = w.session.generation) ∨
      ∃ result, w.session.lastResult = some result ∧ result.source = w.session.text

namespace Current

variable {settings : Settings} {events : List (Event σ)} {event : Event σ} {w w' : Workload σ}

/-- Nothing is lost if no pass begins, the renderer is left alone and the newest pass stays under
way. -/
theorem quiet (current : Current settings events w) (noBegun : event.begun? = none)
    {stage : Stage} {identifier : Identifier} {appliedText pending : Option String}
    (session_eq : w'.session = { w.session with stage, identifier, appliedText, pending })
    (applied : ∀ text, appliedText = some text → w.session.appliedText = some text)
    (fewer : ∀ request ∈ w'.requests, request ∈ w.requests)
    (kept : ∀ request ∈ w.requests, request.pass.generation = w.session.generation →
      request ∈ w'.requests) :
    Current settings (events ++ [event]) w' := by
  obtain ⟨session, notified, due, requests⟩ := w'
  obtain rfl := session_eq
  have hbegun : lastBegun? (events ++ [event]) = lastBegun? events :=
    lastBegun?_snoc_of_none noBegun
  exact
    { settings_eq := current.settings_eq
      isOpen := current.isOpen
      steady := current.steady
      recorded := fun text htext => current.recorded text (applied text htext)
      shown := current.shown
      newest_text := fun request hrequest => current.newest_text request (fewer request hrequest)
      text_eq := fun raw hraw => current.text_eq raw (hbegun ▸ hraw)
      latest := by
        intro raw hraw
        rcases current.latest raw (hbegun ▸ hraw) with ⟨request, hrequest, hnewest⟩ | hshown
        · exact Or.inl ⟨request, kept request hrequest hnewest, hnewest⟩
        · exact Or.inr hshown }

theorem begin (current : Current settings events w) (ordered : Ordered events w) {text : String}
    {session : Session σ} {pass : Option Pass} (begins : w.session.Begins text session pass)
    (due : List (Nat × String)) (isBegun : event.begun? = some text) :
    Current settings (events ++ [event]) (w.begun session pass due) := by
  have htext : ∀ raw, lastBegun? (events ++ [event]) = some raw →
      w.session.snapshot text = w.session.snapshot raw := by
    intro raw hraw
    rw [lastBegun?_snoc_of_some isBegun] at hraw
    rw [Option.some.inj hraw]
  cases begins with
  | closed isClosed => simp [current.isOpen] at isClosed
  | same _ applied =>
    refine
      { settings_eq := current.settings_eq
        isOpen := current.isOpen
        steady := current.steady
        recorded := current.recorded
        shown := current.shown
        newest_text := ?_
        text_eq := htext
        latest := fun _ _ => Or.inr (current.recorded _ applied) }
    -- no pass under way is the newest one any more
    intro request hrequest hnewest
    rw [requests_begun_none] at hrequest
    have hle := ordered.request_le hrequest
    have hne := ordered.request_ne_applied request hrequest
    have happlied := ordered.applied_le
    simp only [session_begun, Session.renewedGeneration] at hnewest
    split at hnewest <;> omega
  | other _ _ =>
    refine
      { settings_eq := current.settings_eq
        isOpen := current.isOpen
        steady := current.steady
        recorded := current.recorded
        shown := current.shown
        newest_text := ?_
        text_eq := htext
        latest := ?_ }
    · intro request hrequest hnewest
      rw [requests_begun_some, List.mem_append, List.mem_singleton] at hrequest
      rcases hrequest with hrequest | rfl
      · have hle := ordered.request_le hrequest
        simp only [session_begun] at hnewest
        omega
      · rfl
    · intro _ _
      exact Or.inl ⟨_, List.mem_append_right _ (List.mem_singleton.2 rfl), rfl⟩

variable [PatternReader]

theorem complete (current : Current settings events w) (ordered : Ordered events w)
    {request : Request} {before after : List Request}
    (waits : w.requests = before ++ request :: after) {profile : Profile} {session : Session σ}
    {outcome : Except Fault (Option Highlights)}
    (completes : w.session.Completes request.pass profile session outcome)
    (ordinary : (Event.complete request profile outcome : Event σ).isOrdinary) :
    Current settings (events ++ [.complete request profile outcome])
      { w with session, requests := before ++ after } := by
  have hrequest : request ∈ w.requests := by simp [waits]
  have hfewer : ∀ other ∈ before ++ after, other ∈ w.requests :=
    fun other hother => (sublist_of_waits waits).subset hother
  cases completes with
  | stale outdated =>
    refine current.quiet rfl rfl (fun _ h => h) hfewer ?_
    -- the pass that is gone was not the newest one
    intro other hother hnewest
    rw [waits, List.mem_append, List.mem_cons] at hother
    rcases hother with hother | rfl | hother
    · exact List.mem_append_left _ hother
    · exact absurd hnewest outdated
    · exact List.mem_append_right _ hother
  | raised _ _ => cases ordinary
  | barred newest passed =>
    exact absurd passed (Nat.not_le.2 (ordered.applied_lt hrequest newest))
  | @applied newest result extracted _ layering called =>
    -- the newest pass is the one that began last, so its result is for the text of the session
    have hsource : result.source = request.pass.text := source_extractAll extracted
    have htext : request.pass.text = w.session.text := current.newest_text request hrequest newest
    have hlayering : layering.renderer = (callAll w.session.layering.renderer result.calls).1 :=
      (congrArg Prod.fst called).symm
    refine
      { settings_eq := current.settings_eq
        isOpen := current.isOpen
        steady := hlayering ▸ current.steady.callAll result.calls
        recorded := ?_
        shown := ?_
        newest_text := fun other hother => current.newest_text other (hfewer other hother)
        text_eq := ?_
        latest := fun _ _ => Or.inr ⟨result, rfl, hsource.trans htext⟩ }
    · intro text happlied
      exact ⟨result, rfl, hsource.trans (Option.some.inj happlied)⟩
    · intro shown hshown
      obtain rfl := Option.some.inj hshown
      exact layers_callAll_calls (nodup_types_extractAll extracted) called
    · intro raw hraw
      rw [lastBegun?_snoc_of_none rfl] at hraw
      exact current.text_eq raw hraw
  | @failed _ result _ _ broken fault called _ _ =>
    rw [current.steady.callAll_eq] at called
    cases called

/-- Whatever ordinary event happens next, nothing is lost. -/
theorem step (current : Current settings events w) (ordered : Ordered events w)
    (ordinary : event.isOrdinary) (happens : Step w event w') :
    Current settings (events ++ [event]) w' := by
  cases happens with
  | notify text =>
    exact current.quiet rfl (w.session.notify_eq text) (fun _ h => h) (fun _ h => h)
      (fun _ h _ => h)
  | ring _ => exact current.quiet rfl rfl (fun _ h => h) (fun _ h => h) (fun _ h _ => h)
  | call text => exact current.begin ordered (w.session.begins_begin text) w.due rfl
  | take _ => exact current.begin ordered (w.session.begins_begin _) _ rfl
  | complete waits profile =>
    exact current.complete ordered waits (w.session.completes_complete _ profile) ordinary
  | setProfile identifier =>
    exact current.quiet rfl rfl (fun _ h => nomatch h) (fun _ h => h) (fun _ h _ => h)
  | drop _ => cases ordinary
  | cancel _ => cases ordinary
  | close => cases ordinary
  | disturb _ => cases ordinary

end Current

end Latest

/-! ## Notifications -/

/-- The notification with the given number was of the given text, and was rung for before another
text was notified. -/
def RungFor (events : List (Event σ)) (number : Nat) (text : String) : Prop :=
  ∃ before quiet after, events = before ++ .notify text :: (quiet ++ .ring :: after) ∧
    (noted before).length = number ∧ noted quiet = []

section Notices

variable {events : List (Event σ)} {number : Nat} {text : String}

theorem RungFor.snoc (rung : RungFor events number text) (event : Event σ) :
    RungFor (events ++ [event]) number text := by
  obtain ⟨before, quiet, after, rfl, hnumber, hquiet⟩ := rung
  exact ⟨before, quiet, after ++ [event], by simp, hnumber, hquiet⟩

theorem RungFor.noted_eq (rung : RungFor events number text) :
    (noted events)[number]? = some text := by
  obtain ⟨before, quiet, after, rfl, rfl, -⟩ := rung
  rw [noted_append, List.getElem?_append_right (Nat.le_refl _), Nat.sub_self]
  rfl

/-- A notification is determined by its number. -/
theorem notify_unique {before before' rest rest' : List (Event σ)} {text' : String}
    (h : before ++ .notify text :: rest = before' ++ .notify text' :: rest')
    (same : (noted before).length = (noted before').length) : rest = rest' := by
  -- if one of the notifications came first, there would be one more before the other
  induction before generalizing before' with
  | nil =>
    cases before' with
    | nil =>
      cases h
      rfl
    | cons event before' =>
      cases h
      simp at same
  | cons event before ih =>
    cases before' with
    | nil =>
      cases h
      simp at same
    | cons event' before' =>
      obtain ⟨rfl, htail⟩ := List.cons.inj h
      refine ih htail ?_
      cases hnoted : event.noted? <;> simpa [noted, hnoted] using same

/-- What comes first after a notification, another one or the time of the text, is determined. -/
theorem not_ring_of_notify {quiet quiet' after after' : List (Event σ)} {later : String}
    (unrung : .ring ∉ quiet) (silent : noted quiet' = []) :
    quiet ++ .notify later :: after ≠ quiet' ++ .ring :: after' := by
  -- the event that comes first stands among the quiet ones of the other side
  induction quiet generalizing quiet' with
  | nil =>
    cases quiet' with
    | nil => simp
    | cons event quiet' =>
      intro h
      obtain ⟨rfl, -⟩ := List.cons.inj h
      simp at silent
  | cons event quiet ih =>
    cases quiet' with
    | nil =>
      intro h
      obtain ⟨rfl, -⟩ := List.cons.inj h
      exact unrung List.mem_cons_self
    | cons event' quiet' =>
      intro h
      obtain ⟨rfl, htail⟩ := List.cons.inj h
      refine ih (fun hmem => unrung (List.mem_cons_of_mem _ hmem)) ?_ htail
      cases hnoted : event.noted? <;> simp_all [noted]

/-- A text that was replaced before its time came was not rung for. -/
theorem not_rungFor_of_replaced {before quiet after : List (Event σ)} {later raw : String}
    (replaced : events = before ++ .notify text :: (quiet ++ .notify later :: after))
    (unrung : .ring ∉ quiet) : ¬ RungFor events (noted before).length raw := by
  rintro ⟨before', quiet', after', h, hnumber, hsilent⟩
  have hrest := notify_unique (replaced.symm.trans h) hnumber.symm
  exact not_ring_of_notify unrung hsilent hrest

end Notices

/-- What holds of the notified texts in an ordinary course that has led to a workload. -/
structure Accounted (events : List (Event σ)) (w : Workload σ) : Prop where
  isOpen : w.session.closed = false
  notified_eq : w.notified = (noted events).length
  /-- The text that waits for its time is the one that was notified last. -/
  pending : ∀ text, w.session.pending = some text →
    ∃ before quiet, events = before ++ .notify text :: quiet ∧ noted quiet = []
  due : ∀ number text, (number, text) ∈ w.due → RungFor events number text
  begun : ∀ number text pass, .begin (.notice number) text pass ∈ events →
    RungFor events number text

namespace Accounted

variable {events : List (Event σ)} {event : Event σ} {w w' : Workload σ}

/-- The account is kept if nothing is notified or rung for, and a pass begins only for what is
due. -/
theorem quiet (accounted : Accounted events w) (silent : event.noted? = none)
    (isOpen : w'.session.closed = w.session.closed) (notified : w'.notified = w.notified)
    (pending : w'.session.pending = w.session.pending)
    (fewer : ∀ entry ∈ w'.due, entry ∈ w.due)
    (taken : ∀ number text pass,
      event = .begin (.notice number) text pass → (number, text) ∈ w.due) :
    Accounted (events ++ [event]) w' := by
  have hnone : noted [event] = [] := noted_cons_of_none silent []
  have hnoted : noted (events ++ [event]) = noted events := by simp [noted_append, hnone]
  refine
    { isOpen := isOpen.trans accounted.isOpen
      notified_eq := by rw [notified, hnoted, accounted.notified_eq]
      pending := ?_
      due := fun number text h => (accounted.due number text (fewer _ h)).snoc event
      begun := ?_ }
  · intro text htext
    obtain ⟨before, rest, rfl, hsilent⟩ := accounted.pending text (pending ▸ htext)
    refine ⟨before, rest ++ [event], by simp, ?_⟩
    rw [noted_append, hsilent, hnone, List.append_nil]
  · intro number text pass hmem
    rw [List.mem_append, List.mem_singleton] at hmem
    rcases hmem with hmem | rfl
    · exact (accounted.begun number text pass hmem).snoc event
    · exact (accounted.due number text (taken number text pass rfl)).snoc _

theorem notify (accounted : Accounted events w) (text : String) :
    Accounted (events ++ [.notify text]) (w.notify text) := by
  unfold Workload.notify
  rw [w.session.notify_eq, accounted.isOpen]
  refine
    { isOpen := rfl
      notified_eq := by simp [noted_append, accounted.notified_eq]
      pending := ?_
      due := fun number raw h => (accounted.due number raw h).snoc _
      begun := ?_ }
  · intro raw hraw
    obtain rfl : text = raw := by simpa using hraw
    exact ⟨events, [], rfl, rfl⟩
  · intro number raw pass hmem
    exact (accounted.begun number raw pass (by simpa using hmem)).snoc _

theorem ring (accounted : Accounted events w) {text : String}
    (noted_text : w.session.ring.2 = some text) :
    Accounted (events ++ [.ring]) (w.ring text) := by
  refine
    { isOpen := accounted.isOpen
      notified_eq := ?_
      pending := fun _ h => nomatch h
      due := ?_
      begun := ?_ }
  · rw [noted_append, noted_cons_of_none rfl, noted_nil, List.append_nil]
    exact accounted.notified_eq
  · intro number raw hmem
    have hmem : (number, raw) ∈ w.due ∨ (number, raw) = (w.notified - 1, text) := by
      simpa [Workload.ring] using hmem
    rcases hmem with hmem | hlast
    · exact (accounted.due number raw hmem).snoc _
    · -- what is rung for now is the text that was notified last
      obtain ⟨rfl, rfl⟩ := Prod.mk.inj hlast
      obtain ⟨before, quiet, rfl, hsilent⟩ := accounted.pending raw noted_text
      refine ⟨before, quiet, [], by simp, ?_, hsilent⟩
      simp [accounted.notified_eq, noted_append, hsilent]
  · intro number raw pass hmem
    exact (accounted.begun number raw pass (by simpa using hmem)).snoc _

variable [Renderer σ] [PatternReader]

/-- Whatever ordinary event happens next, the account is kept. -/
theorem step (accounted : Accounted events w) (ordinary : event.isOrdinary)
    (happens : Step w event w') : Accounted (events ++ [event]) w' := by
  cases happens with
  | notify text => exact accounted.notify text
  | ring noted_text => exact accounted.ring noted_text
  | call text =>
    obtain ⟨-, hopen, hpending, -⟩ := (w.session.begins_begin text).frame
    exact accounted.quiet rfl hopen rfl hpending (fun _ h => h) (fun _ _ _ h => nomatch h)
  | @take number text before after isDue =>
    obtain ⟨-, hopen, hpending, -⟩ := (w.session.begins_begin text).frame
    refine accounted.quiet rfl hopen rfl hpending
      (fun _ hentry => (sublist_of_waits isDue).subset hentry) ?_
    intro number' text' pass' h
    cases h
    simp [isDue]
  | @complete request _ _ waits profile =>
    obtain ⟨-, hopen, hpending⟩ := (w.session.completes_complete request.pass profile).frame
    exact accounted.quiet rfl hopen rfl hpending (fun _ h => h) (fun _ _ _ h => nomatch h)
  | setProfile identifier =>
    exact accounted.quiet rfl rfl rfl rfl (fun _ h => h) (fun _ _ _ h => nomatch h)
  | drop _ => cases ordinary
  | cancel _ => cases ordinary
  | close => cases ordinary
  | disturb _ => cases ordinary

end Accounted

/-! ## Ordinary courses -/

section Course

variable [Renderer σ] [PatternReader]
variable {settings : Settings} {identifier : Identifier} {renderer : σ}
variable {events : List (Event σ)} {w : Workload σ}

theorem Course.accounted (course : Course (fresh settings identifier renderer) events w)
    (ordinary : ∀ event ∈ events, event.isOrdinary) : Accounted events w := by
  induction course with
  | nil =>
    exact
      { isOpen := rfl
        notified_eq := rfl
        pending := fun _ h => nomatch h
        due := fun _ _ h => nomatch h
        begun := fun _ _ _ h => nomatch h }
  | snoc _ happens ih =>
    refine (ih fun event h => ordinary event (List.mem_append_left _ h)).step ?_ happens
    exact ordinary _ (List.mem_append_right _ List.mem_cons_self)

variable [Layered σ]

theorem Course.current (course : Course (fresh settings identifier renderer) events w)
    (steady : Steady renderer) (ordinary : ∀ event ∈ events, event.isOrdinary) :
    Current settings events w := by
  induction course with
  | nil =>
    exact
      { settings_eq := rfl
        isOpen := rfl
        steady := steady
        recorded := fun _ h => nomatch h
        shown := fun _ h => nomatch h
        newest_text := fun _ h => nomatch h
        text_eq := fun _ h => nomatch h
        latest := fun _ h => nomatch h }
  | snoc course happens ih =>
    have hbefore := ih fun event h => ordinary event (List.mem_append_left _ h)
    exact hbefore.step course.ordered
      (ordinary _ (List.mem_append_right _ List.mem_cons_self)) happens

/-- Whatever happens to an open session whose renderer never fails and whose extraction returns:
when no pass is under way, the renderer shows the types that have a span in the text of the pass
that began last. No pass begins for a notification that was replaced before its time came, and one
that begins for a notification is for the text that was notified. -/
theorem latest_snapshot_wins (course : Course (fresh settings identifier renderer) events w)
    (steady : Steady renderer) (ordinary : ∀ event ∈ events, event.isOrdinary) :
    (∀ raw, lastBegun? events = some raw → w.requests = [] →
      ∃ result, w.session.lastResult = some result ∧ result.source = w.session.text ∧
        w.session.text = (if settings.normalizes then Snippet.normalize raw else raw) ∧
        layers w.session.layering.renderer = result.inhabited) ∧
    (∀ before text quiet later after,
      events = before ++ .notify text :: (quiet ++ .notify later :: after) → .ring ∉ quiet →
        ∀ raw pass, .begin (.notice (noted before).length) raw pass ∉ events) ∧
    ∀ number raw pass, .begin (.notice number) raw pass ∈ events →
      (noted events)[number]? = some raw := by
  have current := course.current steady ordinary
  have accounted := course.accounted ordinary
  refine ⟨?_, ?_, ?_⟩
  · intro raw hraw hidle
    have htext : w.session.text = (if settings.normalizes then Snippet.normalize raw else raw) := by
      rw [current.text_eq raw hraw, Session.snapshot, current.settings_eq]
    rcases current.latest raw hraw with ⟨request, hrequest, -⟩ | ⟨result, hresult, hsource⟩
    · rw [hidle] at hrequest
      cases hrequest
    · exact ⟨result, hresult, hsource, htext, current.shown result hresult⟩
  · intro before text quiet later after replaced unrung raw pass hbegun
    exact not_rungFor_of_replaced replaced unrung (accounted.begun _ raw pass hbegun)
  · intro number raw pass hbegun
    exact (accounted.begun number raw pass hbegun).noted_eq

end Course

section Example

attribute [local instance] PatternReader.standard

/-- One notified text replaces another, a pass is overtaken, the session returns to the text on the
renderer while a third pass is under way, and then goes on to another text. -/
theorem latest_snapshot_wins_of_return :
    ∃ (events : List (Event Canvas)) (w : Workload Canvas),
      Course (fresh {} .nothing {}) events w ∧ Steady ({} : Canvas) ∧
      (∀ event ∈ events, event.isOrdinary) ∧ noted events = ["a", "b"] ∧
      passes events = [⟨1, "b"⟩, ⟨2, "c"⟩, ⟨3, "d"⟩, ⟨5, "e"⟩] ∧
      lastBegun? events = some " e" ∧
      (∃ result, w.session.lastResult = some result ∧ result.source = w.session.text ∧
        w.session.text = "e" ∧ layers w.session.layering.renderer = result.inhabited) ∧
      w.session.layering.renderer.order = ["letter"] ∧
      ∀ raw pass, .begin (.notice 0) raw pass ∉ events := by
  let letters : Profile := { entries := [("letter", .pattern (.constant "e"))] }
  let request (generation : Nat) (text : String) : Request := ⟨⟨generation, text⟩, .nothing⟩
  have course := (Course.nil : Course (fresh {} .nothing ({} : Canvas)) [] _)
    |>.snoc (.notify _ "a") |>.snoc (.notify _ "b") |>.snoc (.ring _ rfl)
    |>.snoc (.take _ (rfl : _ = [] ++ (1, "b") :: [])) |>.snoc (.call _ "c")
    |>.snoc (.complete _ (rfl : _ = [request 1 "b"] ++ request 2 "c" :: []) {})
    |>.snoc (.call _ "d") |>.snoc (.call _ "c")
    |>.snoc (.complete _ (rfl : _ = [request 1 "b"] ++ request 3 "d" :: []) {})
    |>.snoc (.complete _ (rfl : _ = [] ++ request 1 "b" :: []) {})
    |>.snoc (.call _ " e")
    |>.snoc (.complete _ (rfl : _ = [] ++ request 5 "e" :: []) letters)
  obtain ⟨hlatest, hreplaced, -⟩ :=
    latest_snapshot_wins course (Canvas.steady _) (List.all_eq_true.1 (by decide +kernel))
  refine ⟨_, _, course, Canvas.steady _, List.all_eq_true.1 (by decide +kernel), rfl, rfl, rfl,
    hlatest " e" rfl rfl, ?_, hreplaced [] "a" [] "b" _ rfl (by simp)⟩
  decide +kernel

end Example

end Highlighter.Workload
