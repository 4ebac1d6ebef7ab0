import Highlighter.Proofs.Visibility

/-!
# The flat view of highlights

What is visible of highlights can be told in two ways: character by character, by the type that wins
there, or by spans that do not overlap. This file shows that both say the same, and that there is
only one way to say it by spans. Spans may overlap, repeat each other and reach past the text; the
type that wins at a character is the last one in the order of declaration with a span there.

The spans are determined by what they show, since each of them ends where its type is no longer
shown: a span that touches the next one has another type.

## Main definitions

* `WinsAt` — the last type with a span at an offset
* `IsFlat` — spans that follow each other, and have another type where they touch
* `IsFlatView` — flat spans that show the winners and stay within them

## Main results

* `topmost_eq_iff` — the topmost layer is the last one that covers the offset
* `IsFlat.eq_of_visibleAt` — flat spans are determined by what they show
* `isFlatView_collapse` — the runs of equal winners are a flat view
* `visibleSpans_canonical` — the visible spans are the only flat view of highlights
-/

namespace Highlighter

/-! ## The type that wins -/

/-- The last of some layers with a span at an offset is that of the given type; without a type, none
of them has a span there. -/
def WinsAt (layers : List (String × List Span)) (offset : Nat) : Option String → Prop
  | some type => ∃ below spans above, layers = below ++ (type, spans) :: above ∧
      (∃ span ∈ spans, span.covers offset) ∧ ∀ layer ∈ above, ∀ span ∈ layer.2, ¬ span.covers offset
  | none => ∀ layer ∈ layers, ∀ span ∈ layer.2, ¬ span.covers offset

theorem coversAt_iff {offset : Nat} {layer : String × List Span} :
    coversAt offset layer ↔ ∃ span ∈ layer.2, span.covers offset :=
  List.any_eq_true

/-- The topmost layer is the last one that covers the offset. -/
theorem topmost_eq_iff {layers : List (String × List Span)} {offset : Nat}
    {winner : Option String} :
    topmost layers offset = winner ↔ WinsAt layers offset winner := by
  cases winner with
  | none => simp [topmost, WinsAt, coversAt]
  | some type =>
    rw [topmost, Option.map_eq_some_iff]
    constructor
    · rintro ⟨⟨_, spans⟩, hfind, rfl⟩
      obtain ⟨hcovers, above, below, hlayers, habove⟩ := List.find?_eq_some_iff_append.1 hfind
      refine ⟨below.reverse, spans, above.reverse, ?_, coversAt_iff.1 hcovers, ?_⟩
      · rw [← List.reverse_reverse layers, hlayers]
        simp
      · intro layer hlayer span hspan hcovered
        have hnot := habove layer (List.mem_reverse.1 hlayer)
        rw [coversAt_iff.2 ⟨span, hspan, hcovered⟩] at hnot
        cases hnot
    · rintro ⟨below, spans, above, rfl, hcovers, habove⟩
      refine ⟨(type, spans), List.find?_eq_some_iff_append.2 ?_, rfl⟩
      refine ⟨coversAt_iff.2 hcovers, above.reverse, below.reverse, by simp, ?_⟩
      intro layer hlayer
      rw [Bool.not_eq_true', ← Bool.not_eq_true, coversAt_iff]
      rintro ⟨span, hspan, hcovered⟩
      exact habove layer (List.mem_reverse.1 hlayer) span hspan hcovered

theorem length_winners (highlights : Highlights) :
    (winners highlights).length = highlights.source.length :=
  length_paint _ _

/-- Each character of the text has its winner, the last type with a span there. -/
theorem getElem?_winners_eq_some_iff (highlights : Highlights) (offset : Nat)
    (winner : Option String) :
    (winners highlights)[offset]? = some winner ↔
      offset < highlights.source.length ∧ WinsAt highlights.spans offset winner := by
  by_cases inside : offset < highlights.source.length
  · rw [winners, getElem?_paint _ inside, Option.some_inj, topmost_eq_iff]
    exact (and_iff_right inside).symm
  · have hnone : (winners highlights)[offset]? = none := by
      rw [List.getElem?_eq_none_iff, length_winners]
      exact Nat.le_of_not_lt inside
    simp [hnone, inside]

/-! ## Flat spans -/

/-- Spans that follow each other, and have another type where they touch. -/
structure IsFlat (spans : List VisibleSpan) : Prop where
  nonempty : ∀ span ∈ spans, span.start < span.stop
  ascending : spans.Pairwise fun a b => a.stop ≤ b.start
  touching : spans.Pairwise fun a b => a.stop = b.start → a.type ≠ b.type

/-- Flat spans that show the winner of each offset, and nothing outside. -/
structure IsFlatView (winners : List (Option String)) (spans : List VisibleSpan) : Prop
    extends IsFlat spans where
  bounded : ∀ span ∈ spans, span.stop ≤ winners.length
  shown : ∀ offset type, type ∈ visibleAt spans offset ↔ winners[offset]? = some (some type)

theorem mem_visibleAt_iff {spans : List VisibleSpan} {offset : Nat} {type : String} :
    type ∈ visibleAt spans offset ↔
      ∃ span ∈ spans, (span.start ≤ offset ∧ offset < span.stop) ∧ span.type = type := by
  simp [visibleAt, VisibleSpan.contains, and_assoc]

namespace IsFlat

variable {a b : VisibleSpan} {spans others : List VisibleSpan} {offset : Nat} {type : String}

theorem tail (h : IsFlat (a :: spans)) : IsFlat spans :=
  ⟨(List.forall_mem_cons.1 h.nonempty).2, (List.pairwise_cons.1 h.ascending).2,
    (List.pairwise_cons.1 h.touching).2⟩

theorem start_lt_stop (h : IsFlat (a :: spans)) : a.start < a.stop :=
  h.nonempty a List.mem_cons_self

/-- After the first span only the others show something. -/
theorem mem_visibleAt_tail_iff (h : IsFlat (a :: spans)) :
    type ∈ visibleAt spans offset ↔ type ∈ visibleAt (a :: spans) offset ∧ a.stop ≤ offset := by
  rw [mem_visibleAt_iff, mem_visibleAt_iff]
  constructor
  · rintro ⟨span, hspan, hinside, htype⟩
    have hstop := (List.pairwise_cons.1 h.ascending).1 span hspan
    exact ⟨⟨span, List.mem_cons_of_mem _ hspan, hinside, htype⟩, by omega⟩
  · rintro ⟨⟨span, hspan, hinside, htype⟩, hstop⟩
    obtain rfl | hspan := List.mem_cons.1 hspan
    · omega
    · exact ⟨span, hspan, hinside, htype⟩

theorem start_le_of_mem_visibleAt (h : IsFlat (a :: spans))
    (hmem : type ∈ visibleAt (a :: spans) offset) : a.start ≤ offset := by
  obtain ⟨span, hspan, hinside, -⟩ := mem_visibleAt_iff.1 hmem
  obtain rfl | hspan := List.mem_cons.1 hspan
  · exact hinside.1
  · have hstart := h.start_lt_stop
    have hstop := (List.pairwise_cons.1 h.ascending).1 span hspan
    omega

/-- Within the first span only its type is shown. -/
theorem mem_visibleAt_first_iff (h : IsFlat (a :: spans))
    (inside : a.start ≤ offset ∧ offset < a.stop) :
    type ∈ visibleAt (a :: spans) offset ↔ type = a.type := by
  constructor
  · intro hmem
    obtain ⟨span, hspan, hinside, htype⟩ := mem_visibleAt_iff.1 hmem
    obtain rfl | hspan := List.mem_cons.1 hspan
    · exact htype.symm
    · have hstop := (List.pairwise_cons.1 h.ascending).1 span hspan
      omega
  · rintro rfl
    exact mem_visibleAt_iff.2 ⟨a, List.mem_cons_self, inside, rfl⟩

/-- Where the first span ends, its type is not shown: a span that begins there has another type. -/
theorem not_mem_visibleAt_stop (h : IsFlat (a :: spans)) :
    a.type ∉ visibleAt (a :: spans) a.stop := by
  intro hmem
  obtain ⟨span, hspan, hinside, htype⟩ := mem_visibleAt_iff.1 hmem
  obtain rfl | hspan := List.mem_cons.1 hspan
  · omega
  · have hstop := (List.pairwise_cons.1 h.ascending).1 span hspan
    have htouching := (List.pairwise_cons.1 h.touching).1 span hspan
    exact htouching (by omega) htype.symm

theorem start_le_start (h : IsFlat (a :: spans)) (h' : IsFlat (b :: others))
    (shown : ∀ offset type, type ∈ visibleAt (b :: others) offset →
      type ∈ visibleAt (a :: spans) offset) : a.start ≤ b.start := by
  apply h.start_le_of_mem_visibleAt
  apply shown b.start b.type
  rw [h'.mem_visibleAt_first_iff ⟨Nat.le_refl _, h'.start_lt_stop⟩]

theorem stop_le_stop (h : IsFlat (a :: spans)) (h' : IsFlat (b :: others))
    (shown : ∀ offset type, type ∈ visibleAt (b :: others) offset →
      type ∈ visibleAt (a :: spans) offset)
    (start : a.start = b.start) (type : a.type = b.type) : b.stop ≤ a.stop := by
  by_contra hlonger
  have hstart := h.start_lt_stop
  apply h.not_mem_visibleAt_stop
  apply shown a.stop a.type
  rw [h'.mem_visibleAt_first_iff (by omega)]
  exact type

/-- Flat spans are determined by what they show. -/
theorem eq_of_visibleAt (h : IsFlat spans) (h' : IsFlat others)
    (shown : ∀ offset type, type ∈ visibleAt spans offset ↔ type ∈ visibleAt others offset) :
    spans = others := by
  have hsomething : ∀ {a : VisibleSpan} {spans : List VisibleSpan}, IsFlat (a :: spans) →
      a.type ∈ visibleAt (a :: spans) a.start := fun h =>
    (h.mem_visibleAt_first_iff ⟨Nat.le_refl _, h.start_lt_stop⟩).2 rfl
  induction spans generalizing others with
  | nil =>
    cases others with
    | nil => rfl
    | cons b others => cases (shown _ _).2 (hsomething h')
  | cons a spans ih =>
    cases others with
    | nil => cases (shown _ _).1 (hsomething h)
    | cons b others =>
      have hshown := fun offset type => (shown offset type).1
      have hshown' := fun offset type => (shown offset type).2
      have hstart : a.start = b.start :=
        Nat.le_antisymm (h.start_le_start h' hshown') (h'.start_le_start h hshown)
      have htype : a.type = b.type := by
        have hmem := hshown _ _ (hsomething h)
        rw [hstart] at hmem
        exact (h'.mem_visibleAt_first_iff ⟨Nat.le_refl _, h'.start_lt_stop⟩).1 hmem
      have hstop : a.stop = b.stop :=
        Nat.le_antisymm (h'.stop_le_stop h hshown hstart.symm htype.symm)
          (h.stop_le_stop h' hshown' hstart htype)
      have hfirst : a = b := by
        cases a
        cases b
        simp_all
      have hothers : spans = others := by
        refine ih h.tail h'.tail fun offset type => ?_
        rw [h.mem_visibleAt_tail_iff, h'.mem_visibleAt_tail_iff, shown, hstop]
      rw [hfirst, hothers]

end IsFlat

/-! ## Runs of equal winners -/

section Runs

variable {start offset : Nat} {current : Option String}

theorem mem_closeRun_iff {stop : Nat} {span : VisibleSpan} :
    span ∈ closeRun start stop current ↔
      span.start = start ∧ span.stop = stop ∧ current = some span.type := by
  cases current with
  | none => simp [closeRun]
  | some type =>
    cases span
    simp [closeRun, eq_comm]

/-- A run that shows a type has begun before the place that is reached. -/
theorem bounds_collapseFrom (begun : start ≤ offset) (filled : current ≠ none → start < offset)
    (winners : List (Option String)) :
    ∀ span ∈ collapseFrom start current offset winners,
      start ≤ span.start ∧ span.start < span.stop ∧ span.stop ≤ offset + winners.length := by
  induction winners generalizing start current offset with
  | nil =>
    intro span hspan
    obtain ⟨hstart, hstop, hcurrent⟩ := mem_closeRun_iff.1 hspan
    have hfilled := filled (by simp [hcurrent])
    simp only [List.length_nil]
    omega
  | cons winner winners ih =>
    intro span hspan
    rw [collapseFrom] at hspan
    simp only [List.length_cons]
    split at hspan
    · have hbounds := ih (by omega) (fun _ => by omega) span hspan
      omega
    · obtain hclosed | hspan := List.mem_append.1 hspan
      · obtain ⟨hstart, hstop, hcurrent⟩ := mem_closeRun_iff.1 hclosed
        have hfilled := filled (by simp [hcurrent])
        omega
      · have hbounds := ih (by omega) (fun _ => by omega) span hspan
        omega

/-- Runs follow each other; a run that begins where another one ends has another winner. -/
theorem pairwise_collapseFrom (begun : start ≤ offset) (filled : current ≠ none → start < offset)
    (winners : List (Option String)) :
    (collapseFrom start current offset winners).Pairwise fun a b =>
      a.stop ≤ b.start ∧ (a.stop = b.start → a.type ≠ b.type) := by
  have hclosed : ∀ (start stop : Nat) (current : Option String),
      (closeRun start stop current).Pairwise fun a b =>
        a.stop ≤ b.start ∧ (a.stop = b.start → a.type ≠ b.type) := by
    intro start stop current
    cases current <;> simp [closeRun]
  induction winners generalizing start current offset with
  | nil => exact hclosed _ _ _
  | cons winner winners ih =>
    rw [collapseFrom]
    split
    · exact ih (by omega) (fun _ => by omega)
    · next other =>
      refine List.pairwise_append.2 ⟨hclosed _ _ _, ih (by omega) (fun _ => by omega), ?_⟩
      intro a ha b hb
      obtain ⟨-, hstop, hcurrent⟩ := mem_closeRun_iff.1 ha
      have hbounds := bounds_collapseFrom (by omega) (fun _ => by omega) winners b hb
      refine ⟨by omega, fun htouching htype => other ?_⟩
      -- the new run shows its winner where it begins
      have hshown : b.type ∈ visibleAt (collapseFrom offset winner (offset + 1) winners) offset :=
        mem_visibleAt_iff.2 ⟨b, hb, by omega, rfl⟩
      rw [visibleAt_collapseFrom _ (by omega)] at hshown
      have hwinner : winner = some b.type := by simpa using hshown
      rw [hwinner, hcurrent, htype]

/-- The runs of equal winners are a flat view of the winners. -/
theorem isFlatView_collapse (winners : List (Option String)) :
    IsFlatView winners (collapse winners) := by
  have hbounds := bounds_collapseFrom (Nat.le_refl 0) (absurd rfl) winners
  have hpairwise := pairwise_collapseFrom (Nat.le_refl 0) (absurd rfl) winners
  refine ⟨⟨fun span hspan => (hbounds span hspan).2.1, hpairwise.imp And.left,
    hpairwise.imp And.right⟩, fun span hspan => ?_, fun offset type => ?_⟩
  · simpa using (hbounds span hspan).2.2
  · rw [visibleAt_collapse, Option.mem_toList, Option.join_eq_some_iff]

end Runs

/-- A flat view of winners is made of their runs. -/
theorem isFlatView_iff {winners : List (Option String)} {spans : List VisibleSpan} :
    IsFlatView winners spans ↔ spans = collapse winners := by
  constructor
  · intro h
    have hcollapse := isFlatView_collapse winners
    exact h.eq_of_visibleAt hcollapse.toIsFlat fun offset type =>
      (h.shown offset type).trans (hcollapse.shown offset type).symm
  · rintro rfl
    exact isFlatView_collapse winners

/-- The visible spans are the only flat view of highlights. Each character of the text has a winner,
and this is the last type in the order of declaration with a span there. -/
theorem visibleSpans_canonical (highlights : Highlights) :
    (winners highlights).length = highlights.source.length ∧
      (∀ offset winner, (winners highlights)[offset]? = some winner ↔
        offset < highlights.source.length ∧ WinsAt highlights.spans offset winner) ∧
      ∀ spans, IsFlatView (winners highlights) spans ↔ spans = visibleSpans highlights :=
  ⟨length_winners highlights, getElem?_winners_eq_some_iff highlights, fun _ => isFlatView_iff⟩

example :
    visibleSpans
      { source := "abc"
        spans := [("low", [⟨0, 9, by decide⟩, ⟨0, 2, by decide⟩]),
          ("high", [⟨1, 2, by decide⟩])] } =
      [⟨0, 1, "low"⟩, ⟨1, 2, "high"⟩, ⟨2, 3, "low"⟩] := by
  decide

end Highlighter
