import Highlighter.Layer

/-!
# Calls to a renderer

Applying highlights to a renderer is a sequence of calls: everything is removed, and then each type
that has a span is registered. The sequence ends with the first call that fails. This file says what
such a sequence leaves on a renderer that keeps its layers as a canvas does, whether it succeeds or
breaks off at some position.

## Main definitions

* `Renderer.Call`, `Renderer.callAll` — calls, and sequences of them that end with the first failure
* `Renderer.Steady` — no sequence of calls fails from now on
* `Renderer.RaisesAt` — the call at a position is the one that fails
* `Layered` — renderers that keep layers as a canvas does, also when a call fails
* `Highlights.calls` — the calls that apply highlights

## Main results

* `Layering.apply_eq_callAll` — applying highlights makes exactly their calls
* `layers_callAll_calls` — after all calls the layers are the types that have a span, in their order
* `layers_of_raisesAt_zero`, `layers_of_raisesAt_succ` — what is left when a call fails
-/

namespace Highlighter

namespace Renderer

/-- A call to a renderer. -/
inductive Call where
  | clearAll
  | register (type : String) (spans : List Span)
  deriving DecidableEq, Repr

/-- What a call that succeeds makes of the layers of a canvas. -/
def Call.effect (layers : List (String × List Span)) : Call → List (String × List Span)
  | .clearAll => []
  | .register type spans => layers.filter (·.1 != type) ++ [(type, spans)]

end Renderer

/-- The calls that apply highlights. -/
def Highlights.calls (highlights : Highlights) : List Renderer.Call :=
  .clearAll :: highlights.inhabited.map fun entry => .register entry.1 entry.2

namespace Renderer

variable {σ : Type} [Renderer σ]

/-- Makes a call. -/
def call (renderer : σ) : Call → σ × Except Fault Unit
  | .clearAll => Renderer.clearAll renderer
  | .register type spans => Renderer.register renderer type spans

/-- Makes calls one after the other until one fails. -/
def callAll (renderer : σ) : List Call → σ × Except Fault Unit
  | [] => (renderer, .ok ())
  | c :: calls =>
    match call renderer c with
    | (renderer, .ok ()) => callAll renderer calls
    | (renderer, .error fault) => (renderer, .error fault)

/-- No call fails from now on. -/
def Steady (renderer : σ) : Prop :=
  ∀ calls, (callAll renderer calls).2 = .ok ()

/-- Of the given calls, those before `position` succeed and the one at `position` fails, which
leaves the renderer `broken`. -/
def RaisesAt (renderer : σ) (calls : List Call) (position : Nat) (broken : σ) : Prop :=
  ∃ reached c fault, callAll renderer (calls.take position) = (reached, .ok ()) ∧
    calls[position]? = some c ∧ call reached c = (broken, .error fault)

theorem callAll_cons_of_ok {renderer reached : σ} {c : Call}
    (h : call renderer c = (reached, .ok ())) (calls : List Call) :
    callAll renderer (c :: calls) = callAll reached calls := by
  simp only [callAll, h]

theorem callAll_cons_of_error {renderer broken : σ} {c : Call} {fault : Fault}
    (h : call renderer c = (broken, .error fault)) (calls : List Call) :
    callAll renderer (c :: calls) = (broken, .error fault) := by
  simp only [callAll, h]

/-- Calls that succeed are followed by those after them. -/
theorem callAll_append_of_ok {renderer reached : σ} {first : List Call}
    (h : callAll renderer first = (reached, .ok ())) (second : List Call) :
    callAll renderer (first ++ second) = callAll reached second := by
  induction first generalizing renderer with
  | nil =>
    obtain rfl : renderer = reached := congrArg Prod.fst h
    rfl
  | cons c first ih =>
    rcases hc : call renderer c with ⟨next, fault | ⟨⟩⟩
    · rw [callAll_cons_of_error hc] at h
      cases h
    · rw [callAll_cons_of_ok hc] at h
      rw [List.cons_append, callAll_cons_of_ok hc]
      exact ih h

theorem Steady.callAll_eq {renderer : σ} (steady : Steady renderer) (calls : List Call) :
    callAll renderer calls = ((callAll renderer calls).1, .ok ()) :=
  Prod.ext rfl (steady calls)

/-- A renderer on which no call fails stays so, whatever is called. -/
theorem Steady.callAll {renderer : σ} (steady : Steady renderer) (calls : List Call) :
    Steady (Renderer.callAll renderer calls).1 := by
  intro more
  rw [← callAll_append_of_ok (steady.callAll_eq calls)]
  exact steady (calls ++ more)

/-- A call that fails ends the sequence it stands in. -/
theorem RaisesAt.callAll_eq {renderer broken : σ} {calls : List Call} {position : Nat}
    (h : RaisesAt renderer calls position broken) :
    ∃ fault, callAll renderer calls = (broken, .error fault) := by
  obtain ⟨reached, c, fault, hbefore, hat, hfails⟩ := h
  obtain ⟨hlt, rfl⟩ := List.getElem?_eq_some_iff.1 hat
  refine ⟨fault, ?_⟩
  rw [← List.take_append_drop position calls, callAll_append_of_ok hbefore,
    List.drop_eq_getElem_cons hlt, callAll_cons_of_error hfails]

end Renderer

/-! ## Applying highlights -/

namespace Layering

open Renderer

variable {σ : Type} [Renderer σ]

theorem registerAll_eq_callAll (renderer : σ) (entries : List (String × List Span)) :
    registerAll renderer entries =
      callAll renderer (entries.map fun entry => .register entry.1 entry.2) := by
  induction entries generalizing renderer with
  | nil => rfl
  | cons entry entries ih =>
    simp only [registerAll, List.map_cons, callAll, call]
    split <;> simp_all

/-- Applying highlights makes exactly their calls. -/
theorem apply_eq_callAll (layering : Layering σ) (highlights : Highlights) :
    ((layering.apply highlights).1.renderer, (layering.apply highlights).2.outcome) =
      callAll layering.renderer highlights.calls := by
  -- the first call is the one that removes everything; the others are those of `registerAll`
  simp only [apply, clear, Highlights.calls, callAll, call]
  rcases Renderer.clearAll layering.renderer with ⟨cleared, fault | ⟨⟩⟩
  · rfl
  · simp only [← registerAll_eq_callAll]
    rcases registerAll cleared highlights.inhabited with ⟨reached, fault | ⟨⟩⟩ <;> rfl

end Layering

/-! ## Renderers that keep layers -/

/-- A renderer that keeps layers as a canvas does. A call that fails leaves them as they are. -/
class Layered (σ : Type) [Renderer σ] where
  layers : σ → List (String × List Span)
  layers_of_ok : ∀ {renderer next : σ} {c : Renderer.Call},
    Renderer.call renderer c = (next, .ok ()) → layers next = c.effect (layers renderer)
  layers_of_error : ∀ {renderer next : σ} {c : Renderer.Call} {fault : Fault},
    Renderer.call renderer c = (next, .error fault) → layers next = layers renderer

instance : Layered Canvas where
  layers := Canvas.layers
  layers_of_ok {_ _ c} h := by
    cases c <;> cases h <;> rfl
  layers_of_error {_ _ c _} h := by
    cases c <;> cases h

instance : Layered FaultyCanvas where
  layers faulty := faulty.canvas.layers
  layers_of_ok {renderer next c} h := by
    cases c with
    | clearAll =>
      simp only [Renderer.call, Renderer.clearAll] at h
      split at h <;> cases h
      rfl
    | register type spans =>
      simp only [Renderer.call, Renderer.register] at h
      split at h <;> cases h <;> rfl
  layers_of_error {renderer next c fault} h := by
    cases c with
    | clearAll =>
      simp only [Renderer.call, Renderer.clearAll] at h
      split at h <;> cases h
      rfl
    | register type spans =>
      simp only [Renderer.call, Renderer.register] at h
      split at h <;> cases h
      rfl

theorem Canvas.steady (canvas : Canvas) : Renderer.Steady canvas := by
  intro calls
  induction calls generalizing canvas with
  | nil => rfl
  | cons c calls ih => cases c <;> exact ih _

/-- A renderer that has no failures left in its plan does not fail. -/
theorem FaultyCanvas.steady (canvas : Canvas) (skip : Nat) :
    Renderer.Steady ({ canvas, outage := { skip } } : FaultyCanvas) := by
  intro calls
  induction calls generalizing canvas with
  | nil => rfl
  | cons c calls ih => cases c <;> exact ih _

section Layered

open Renderer Layered

variable {σ : Type} [Renderer σ] [Layered σ]

theorem layers_callAll {renderer reached : σ} {calls : List Call}
    (h : callAll renderer calls = (reached, .ok ())) :
    layers reached = calls.foldl Call.effect (layers renderer) := by
  induction calls generalizing renderer with
  | nil =>
    obtain rfl : renderer = reached := congrArg Prod.fst h
    rfl
  | cons c calls ih =>
    rcases hc : call renderer c with ⟨next, fault | ⟨⟩⟩
    · rw [callAll_cons_of_error hc] at h
      cases h
    · rw [callAll_cons_of_ok hc] at h
      rw [ih h, List.foldl_cons, layers_of_ok hc]

/-- Types that are registered for the first time come on top of what is there, in their order. -/
theorem foldl_effect_register (layers entries : List (String × List Span))
    (distinct : ((layers ++ entries).map (·.1)).Nodup) :
    (entries.map fun entry => Call.register entry.1 entry.2).foldl Call.effect layers =
      layers ++ entries := by
  induction entries generalizing layers with
  | nil => simp
  | cons entry entries ih =>
    have hfresh : layers.filter (·.1 != entry.1) = layers := by
      refine List.filter_eq_self.2 fun layer hlayer => ?_
      simp only [bne_iff_ne, ne_eq]
      intro hsame
      rw [List.map_append, List.nodup_append] at distinct
      exact distinct.2.2 _ (List.mem_map_of_mem hlayer) entry.1 (by simp) hsame
    simp only [List.map_cons, List.foldl_cons, Call.effect, hfresh]
    rw [ih _ (by simpa using distinct)]
    simp

/-- What applying highlights leaves, if its calls up to one that registers succeed. -/
theorem layers_callAll_take {renderer reached : σ} {highlights : Highlights} (registered : Nat)
    (distinct : highlights.types.Nodup)
    (h : callAll renderer (highlights.calls.take (registered + 1)) = (reached, .ok ())) :
    layers reached = highlights.inhabited.take registered := by
  have hsub : (highlights.inhabited.take registered).Sublist highlights.spans :=
    (List.take_sublist _ _).trans List.filter_sublist
  -- the first call removes everything, so the types come on top of nothing
  rw [layers_callAll h, Highlights.calls, List.take_succ_cons, List.foldl_cons, ← List.map_take]
  exact foldl_effect_register [] _ (distinct.sublist (hsub.map _))

/-- After all calls the layers are the types that have a span, in their order. -/
theorem layers_callAll_calls {renderer reached : σ} {highlights : Highlights}
    (distinct : highlights.types.Nodup)
    (h : callAll renderer highlights.calls = (reached, .ok ())) :
    layers reached = highlights.inhabited := by
  have hall : highlights.calls.take (highlights.inhabited.length + 1) = highlights.calls := by
    simp [Highlights.calls, List.take_of_length_le]
  rw [layers_callAll_take _ distinct (hall ▸ h), List.take_length]

/-- If everything could not be removed, nothing has changed. -/
theorem layers_of_raisesAt_zero {renderer broken : σ} {calls : List Call}
    (h : RaisesAt renderer calls 0 broken) : layers broken = layers renderer := by
  obtain ⟨reached, c, fault, hbefore, -, hfails⟩ := h
  cases hbefore
  exact layers_of_error hfails

/-- If a type could not be registered, those before it have been. -/
theorem layers_of_raisesAt_succ {renderer broken : σ} {highlights : Highlights} {registered : Nat}
    (distinct : highlights.types.Nodup)
    (h : RaisesAt renderer highlights.calls (registered + 1) broken) :
    layers broken = highlights.inhabited.take registered ∧
      registered < highlights.inhabited.length := by
  obtain ⟨reached, c, fault, hbefore, hat, hfails⟩ := h
  refine ⟨(layers_of_error hfails).trans (layers_callAll_take _ distinct hbefore), ?_⟩
  have hlt := (List.getElem?_eq_some_iff.1 hat).1
  simpa [Highlights.calls] using hlt

end Layered

end Highlighter
