import Highlighter.Proofs.Rendering
import Mathlib.Data.List.Dedup
import Mathlib.Data.List.DropRight

/-!
# What is visible

Where spans overlap, the type on top is visible. There are two ways to find it. A canvas looks
through its layers from the top for one that covers an offset. Painting goes through the layers from
the bottom and lets each of them win wherever it covers, and the runs of equal winners are the
visible spans. This file shows that both agree at every offset of a text, whatever calls have led to
the canvas.

Applying highlights leaves exactly their types with spans as layers. Types without spans are not
registered; they paint nothing, so the winners of the highlights are those of the canvas.

## Main definitions

* `topmost` — the highest of some layers that covers an offset
* `visibleAt` — the types of the visible spans that contain an offset
* `namesSinceClear` — the names registered since everything was removed, call by call
* `Shows` — a canvas that shows highlights and nothing else

## Main results

* `getElem?_paint` — painting lets the topmost layer win
* `visibleAt_collapse` — at each offset the runs show the winner of the offset
* `order_callAll` — the layers are ordered by their last registration
* `shows_apply` — applying highlights makes the canvas show them
-/

namespace Highlighter

/-! ## Painting lets the topmost layer win -/

section Painting

variable {length offset : Nat}

/-- Whether a layer has a span that covers an offset. -/
def coversAt (offset : Nat) (layer : String × List Span) : Bool :=
  layer.2.any (·.covers offset)

/-- The highest of some layers that covers an offset; the layers are given the lowest first. -/
def topmost (layers : List (String × List Span)) (offset : Nat) : Option String :=
  (layers.reverse.find? (coversAt offset)).map (·.1)

theorem topmost_append_singleton (layers : List (String × List Span)) (layer : String × List Span) :
    topmost (layers ++ [layer]) offset =
      if coversAt offset layer then some layer.1 else topmost layers offset := by
  rw [topmost, List.reverse_append, List.reverse_singleton, List.singleton_append, List.find?_cons]
  cases coversAt offset layer <;> rfl

/-- A type wins exactly where one of its spans covers. -/
theorem getElem?_paintType (winners : List (Option String)) (layer : String × List Span) :
    (paintType winners layer)[offset]? =
      winners[offset]?.map fun winner =>
        if coversAt offset layer then some layer.1 else winner := by
  obtain ⟨type, spans⟩ := layer
  induction spans generalizing winners with
  | nil => simp [paintType, coversAt]
  | cons span spans ih =>
    have hcons : paintType winners (type, span :: spans) =
        paintType (paintSpan type winners span) (type, spans) := rfl
    -- both spans let the same type win, so it wins where one of them covers
    rw [hcons, ih, getElem?_paintSpan, Option.map_map]
    congr 1
    funext winner
    by_cases hspan : span.covers offset = true <;> simp [coversAt, hspan]

/-- Painting lets the topmost layer win. -/
theorem getElem?_paint (layers : List (String × List Span)) (inside : offset < length) :
    (paint length layers)[offset]? = some (topmost layers offset) := by
  -- from the top: the last layer decides where it covers, the others elsewhere
  induction layers using List.reverseRecOn with
  | nil => simp [paint, topmost, inside]
  | append_singleton layers layer ih =>
    have hlast : paint length (layers ++ [layer]) = paintType (paint length layers) layer := by
      rw [paint, List.foldl_append]
      rfl
    rw [hlast, getElem?_paintType, ih, topmost_append_singleton]
    rfl

/-- A layer without spans paints nothing. -/
theorem paint_filter_nonempty (layers : List (String × List Span)) :
    paint length (layers.filter fun layer => !layer.2.isEmpty) = paint length layers := by
  unfold paint
  generalize List.replicate length none = winners
  induction layers generalizing winners with
  | nil => rfl
  | cons layer layers ih =>
    obtain ⟨type, spans⟩ := layer
    cases spans with
    | nil => exact ih winners -- left out, and nothing is painted
    | cons span spans => exact ih _

end Painting

/-! ## Runs of equal winners -/

section Runs

variable {start stop offset i : Nat}

/-- Whether a visible span contains an offset. -/
def VisibleSpan.contains (span : VisibleSpan) (offset : Nat) : Bool :=
  span.start ≤ offset && offset < span.stop

/-- The types of the visible spans that contain an offset. -/
def visibleAt (spans : List VisibleSpan) (offset : Nat) : List String :=
  (spans.filter (·.contains offset)).map (·.type)

theorem visibleAt_append (spans others : List VisibleSpan) (offset : Nat) :
    visibleAt (spans ++ others) offset = visibleAt spans offset ++ visibleAt others offset := by
  rw [visibleAt, List.filter_append, List.map_append]
  rfl

theorem visibleAt_closeRun (current : Option String) :
    visibleAt (closeRun start stop current) i =
      if start ≤ i ∧ i < stop then current.toList else [] := by
  cases current with
  | none => simp [closeRun, visibleAt]
  | some type =>
    by_cases h : start ≤ i ∧ i < stop
    · simp [closeRun, visibleAt, VisibleSpan.contains, h]
    · rw [if_neg h]
      simpa [closeRun, visibleAt, VisibleSpan.contains] using h

/-- A run that has begun shows its type up to the place that is reached, and each place after it
shows its own winner. -/
theorem visibleAt_collapseFrom (current : Option String) (begun : start ≤ offset)
    (winners : List (Option String)) :
    visibleAt (collapseFrom start current offset winners) i =
      if i < start then [] else if i < offset then current.toList
      else winners[i - offset]?.join.toList := by
  induction winners generalizing start current offset with
  | nil =>
    rw [collapseFrom, visibleAt_closeRun]
    grind
  | cons winner winners ih =>
    rw [collapseFrom]
    split
    · next same =>
      -- the run goes on, and the place it reaches shows its type
      rw [ih _ (by omega)]
      grind
    · -- the run ends here, and another one begins
      rw [visibleAt_append, visibleAt_closeRun, ih _ (by omega)]
      grind

/-- At each offset the runs show the winner of the offset. -/
theorem visibleAt_collapse (winners : List (Option String)) :
    visibleAt (collapse winners) i = winners[i]?.join.toList := by
  rw [collapse, visibleAt_collapseFrom _ (Nat.le_refl 0)]
  simp

end Runs

/-! ## The order of layers -/

section Order

open Renderer

/-- The name that a call registers. -/
def Renderer.Call.name? : Call → Option String
  | .clearAll => none
  | .register type _ => some type

/-- The names registered since everything was removed, call by call. -/
def namesSinceClear (calls : List Call) : List String :=
  (calls.rtakeWhile (· != .clearAll)).filterMap Call.name?

theorem dedup_append_singleton (names : List String) (name : String) :
    (names ++ [name]).dedup = names.dedup.filter (· != name) ++ [name] := by
  induction names with
  | nil => simp
  | cons other names ih =>
    rw [List.cons_append]
    by_cases hname : other = name
    · subst hname
      rw [List.dedup_cons_of_mem (by simp), ih]
      by_cases hmem : other ∈ names
      · rw [List.dedup_cons_of_mem hmem]
      · rw [List.dedup_cons_of_notMem hmem]
        simp
    · by_cases hmem : other ∈ names
      · rw [List.dedup_cons_of_mem (by simp [hmem]), ih, List.dedup_cons_of_mem hmem]
      · rw [List.dedup_cons_of_notMem (by simp [hmem, hname]), ih, List.dedup_cons_of_notMem hmem]
        simp [hname]

/-- A name is at the place of its last registration. -/
theorem map_fst_foldl_effect (calls : List Call) :
    (calls.foldl Call.effect []).map (·.1) = (namesSinceClear calls).dedup := by
  induction calls using List.reverseRecOn with
  | nil => rfl
  | append_singleton calls c ih =>
    rw [List.foldl_append, namesSinceClear, List.rtakeWhile_concat]
    cases c with
    | clearAll => simp [Call.effect]
    | register type spans =>
      have hnames : (Call.register type spans != .clearAll) = true := rfl
      have hfilter : ((calls.foldl Call.effect []).filter (·.1 != type)).map (·.1) =
          (namesSinceClear calls).dedup.filter (· != type) := by
        rw [← ih, List.filter_map]
        rfl
      rw [if_pos hnames, List.filterMap_append]
      simp only [List.foldl_cons, List.foldl_nil, Call.effect, List.map_append, hfilter]
      exact (dedup_append_singleton _ _).symm

/-- The layers are ordered by their last registration. -/
theorem order_callAll (calls : List Call) :
    (callAll ({} : Canvas) calls).1.order = (namesSinceClear calls).dedup := by
  have h := layers_callAll ((Canvas.steady {}).callAll_eq calls)
  rw [← map_fst_foldl_effect, Canvas.order]
  exact congrArg _ h

end Order

/-! ## A canvas agrees with painting -/

theorem coversAt_eq_any (offset : Nat) (layer : String × List Span) :
    coversAt offset layer =
      layer.2.any fun span => span.start ≤ (offset : Int) && (offset : Int) < span.stop := by
  simp [coversAt, Span.covers]

theorem Canvas.winnerAt_eq_topmost (canvas : Canvas) (offset : Nat) :
    canvas.winnerAt offset = topmost canvas.layers offset := by
  rw [winnerAt, topmost]
  congr 2
  funext layer
  exact (coversAt_eq_any offset layer).symm

/-- At each offset of a text the visible spans of a canvas show its winner. -/
theorem Canvas.visibleAt_visibleSpans (canvas : Canvas) {source : String} {offset : Nat}
    (inside : offset < source.length) :
    visibleAt (canvas.visibleSpans source) offset = (canvas.winnerAt offset).toList := by
  rw [visibleSpans, visibleAt_collapse, getElem?_paint _ inside, winnerAt_eq_topmost]
  rfl

/-! ## Applying highlights -/

/-- A canvas shows highlights and nothing else. -/
structure Shows (canvas : Canvas) (highlights : Highlights) : Prop where
  order_eq : canvas.order = highlights.inhabited.map (·.1)
  spansOf_eq : ∀ type, canvas.spansOf type = highlights.get type
  winnerAt_eq : ∀ offset : Nat, offset < highlights.source.length →
    (winners highlights)[offset]? = some (canvas.winnerAt offset)
  visibleSpans_eq : canvas.visibleSpans highlights.source = visibleSpans highlights

theorem lookup_inhabited {entries : List (String × List Span)} (type : String)
    (distinct : (entries.map (·.1)).Nodup) :
    ((entries.filter fun entry => !entry.2.isEmpty).lookup type).getD [] =
      (entries.lookup type).getD [] := by
  induction entries with
  | nil => rfl
  | cons entry entries ih =>
    obtain ⟨name, spans⟩ := entry
    obtain ⟨fresh, others⟩ := List.nodup_cons.1 distinct
    cases spans with
    | cons span spans =>
      rw [List.filter_cons_of_pos rfl, List.lookup_cons, List.lookup_cons]
      cases type == name with
      | true => rfl
      | false => exact ih others
    | nil =>
      rw [List.filter_cons_of_neg (by simp), ih others, List.lookup_cons]
      by_cases hname : type = name
      · -- the name has no other entry, so nothing is found either way
        subst hname
        have hnone : entries.lookup type = none := by
          rw [List.lookup_eq_none_iff]
          intro other hother
          simp only [bne_iff_ne, ne_eq]
          rintro rfl
          exact fresh (List.mem_map.2 ⟨other, hother, rfl⟩)
        simp [hnone]
      · rw [beq_eq_false_iff_ne.2 hname]

theorem shows_of_layers_eq {canvas : Canvas} {highlights : Highlights}
    (distinct : highlights.types.Nodup) (h : canvas.layers = highlights.inhabited) :
    Shows canvas highlights := by
  have hpaint : paint highlights.source.length canvas.layers = winners highlights := by
    rw [h]
    exact paint_filter_nonempty _
  refine ⟨by rw [Canvas.order, h], fun type => ?_, fun offset inside => ?_, ?_⟩
  · rw [Canvas.spansOf, h]
    exact lookup_inhabited type distinct
  · rw [← hpaint, getElem?_paint _ inside, Canvas.winnerAt_eq_topmost]
  · rw [Canvas.visibleSpans, hpaint]
    rfl

/-- Applying highlights succeeds and makes the canvas show them, whatever it showed before. -/
theorem shows_apply (layering : Layering Canvas) {highlights : Highlights}
    (distinct : highlights.types.Nodup) :
    (layering.apply highlights).2.outcome = .ok () ∧
      Shows (layering.apply highlights).1.renderer highlights := by
  have happly := layering.apply_eq_callAll highlights
  have hcalls := layering.renderer.steady.callAll_eq highlights.calls
  rw [hcalls] at happly
  obtain ⟨hrenderer, houtcome⟩ := Prod.mk.inj happly
  refine ⟨houtcome, shows_of_layers_eq distinct ?_⟩
  rw [hrenderer]
  exact layers_callAll_calls distinct hcalls

/-- A canvas orders its layers by their last registration, and its winner at each offset of a text
is the type of the one visible span there, if there is one. Applying highlights to any canvas makes
it show the highlights. -/
theorem registration_order_decides_winners :
    (∀ calls : List Renderer.Call,
      (Renderer.callAll ({} : Canvas) calls).2 = .ok () ∧
      (Renderer.callAll ({} : Canvas) calls).1.order = (namesSinceClear calls).dedup ∧
      ∀ (source : String) (offset : Nat), offset < source.length →
        visibleAt ((Renderer.callAll ({} : Canvas) calls).1.visibleSpans source) offset =
          ((Renderer.callAll ({} : Canvas) calls).1.winnerAt offset).toList) ∧
    ∀ (layering : Layering Canvas) (highlights : Highlights), highlights.types.Nodup →
      (layering.apply highlights).2.outcome = .ok () ∧
        Shows (layering.apply highlights).1.renderer highlights := by
  refine ⟨fun calls => ⟨Canvas.steady {} calls, order_callAll calls, ?_⟩, ?_⟩
  · intro source offset inside
    exact Canvas.visibleAt_visibleSpans _ inside
  · intro layering highlights distinct
    exact shows_apply layering distinct

/-- Calls that register a type, cover it by another one, and move it to the top. -/
def movedToTop : List Renderer.Call :=
  [.clearAll, .register "low" [⟨0, 3, by decide⟩], .register "high" [⟨1, 2, by decide⟩],
    .register "low" [⟨0, 2, by decide⟩]]

/-- Highlights that overlap and reach past their text, with a type that has no spans. -/
def reachingPast : Highlights where
  source := "abc"
  spans := [("low", [⟨0, 9, by decide⟩]), ("none", []), ("high", [⟨1, 2, by decide⟩])]

theorem registration_order_decides_movedToTop :
    (Renderer.callAll ({} : Canvas) movedToTop).1.order = ["high", "low"] ∧
      visibleAt ((Renderer.callAll ({} : Canvas) movedToTop).1.visibleSpans "abc") 1 = ["low"] ∧
      reachingPast.types.Nodup ∧
      Shows (Layering.apply ⟨(Renderer.callAll ({} : Canvas) movedToTop).1, ["low"]⟩
        reachingPast).1.renderer reachingPast := by
  obtain ⟨-, horder, hvisible⟩ := registration_order_decides_winners.1 movedToTop
  have distinct : reachingPast.types.Nodup := by decide
  refine ⟨horder.trans (by decide), (hvisible "abc" 1 (by decide)).trans (by decide), distinct, ?_⟩
  exact (registration_order_decides_winners.2 _ _ distinct).2

end Highlighter
