import Highlighter.Proofs.Regex.Matching

/-!
# Matches go forward

Matching never leaves the text and never ends before the place where it began. Looks behind and
ahead return to the place they were made from, and a repetition or a back reference only moves on,
so this holds of every expression. The matches of a pattern are therefore ordered: each begins where
the one before it ended or later, and an empty match changes nothing of this.

## Main definitions

* `Cursor.Precedes` — a place that is not after another one in the same text
* `Match.Proper` — a match that does not end before it begins, nor after the end of the text

## Main results

* `Node.Leads.precedes` — an expression leads to no earlier place
* `Node.search?_precedes` — what a search finds is not before the place where it began
* `Pattern.findAll_proper`, `Pattern.findAll_ordered` — all matches lie in the text, one after the
  other
-/

namespace Highlighter.Regex

/-! ## Places of one text -/

/-- One place is not after another one in the same text. -/
structure Cursor.Precedes (cursor later : Cursor) : Prop where
  text_eq : later.text = cursor.text
  offset_le : cursor.offset ≤ later.offset

namespace Cursor

variable {cursor middle later : Cursor}

theorem Precedes.refl (cursor : Cursor) : cursor.Precedes cursor :=
  ⟨rfl, Nat.le_refl _⟩

theorem Precedes.trans (h : cursor.Precedes middle) (h' : middle.Precedes later) :
    cursor.Precedes later :=
  ⟨h'.text_eq.trans h.text_eq, Nat.le_trans h.offset_le h'.offset_le⟩

/-- No place is beyond the end of its text. -/
theorem offset_le_length (cursor : Cursor) : cursor.offset ≤ cursor.text.length := by
  rw [cursor.offset_eq, text, List.length_append, List.length_reverse]
  omega

@[simp]
theorem text_start (text : List Char) : (start text).text = text :=
  rfl

/-- Moving on by a character adds one to the offset. -/
theorem offset_of_next? {c : Char} (h : cursor.next? = some (c, later)) :
    later.offset = cursor.offset + 1 := by
  obtain ⟨before, _ | ⟨d, after⟩, _, _, _, _⟩ := cursor
  · simp [next?] at h
  · simp only [next?, Option.some.injEq, Prod.mk.injEq] at h
    obtain ⟨-, rfl⟩ := h
    rfl

theorem precedes_of_next? {c : Char} (h : cursor.next? = some (c, later)) :
    cursor.Precedes later where
  text_eq := text_of_next? h
  offset_le := by
    rw [offset_of_next? h]
    omega

theorem precedes_of_consume? {folding : Folding} {text : List Char}
    (h : cursor.consume? folding text = some later) : cursor.Precedes later := by
  induction text generalizing cursor with
  | nil =>
    obtain rfl := Option.some.inj h
    exact .refl cursor
  | cons c text ih =>
    rw [consume?] at h
    split at h
    next d next hnext =>
      split at h
      next => exact (precedes_of_next? hnext).trans (ih h)
      next => cases h
    next => cases h

end Cursor

/-! ## Expressions -/

theorem Iterates.precedes {step : State → State → Prop} {count : Nat} {state reached : State}
    (forward : ∀ {state reached}, step state reached → state.cursor.Precedes reached.cursor)
    (h : Iterates step count state reached) : state.cursor.Precedes reached.cursor := by
  induction h with
  | zero state => exact .refl _
  | succ hfirst _ ih => exact (forward hfirst).trans ih

/-- An expression leads to no earlier place. -/
theorem Node.Leads.precedes {node : Node} {state reached : State} (h : node.Leads state reached) :
    state.cursor.Precedes reached.cursor := by
  induction node generalizing state reached with
  | empty =>
    obtain rfl := h
    exact .refl _
  | chars set =>
    obtain ⟨c, cursor, hnext, -, rfl⟩ := h
    exact Cursor.precedes_of_next? hnext
  | anchor condition =>
    obtain ⟨-, rfl⟩ := h
    exact .refl _
  | seq first second ihFirst ihSecond =>
    obtain ⟨middle, hfirst, hsecond⟩ := h
    exact (ihFirst hfirst).trans (ihSecond hsecond)
  | alt first second ihFirst ihSecond =>
    rcases h with h | h
    · exact ihFirst h
    · exact ihSecond h
  | group index body ih =>
    obtain ⟨inner, hinner, rfl⟩ := h
    have hforward : state.cursor.Precedes inner.cursor := ih hinner
    exact hforward
  | backref index folding =>
    obtain ⟨capture, cursor, -, hconsume, rfl⟩ := h
    exact Cursor.precedes_of_consume? hconsume
  | repeated least most greed body ih =>
    obtain ⟨extra, -, hiterates⟩ := h
    exact hiterates.precedes ih
  | ahead negated body ih =>
    -- whatever the body does, matching goes on from the place where the look was made
    cases negated with
    | true =>
      obtain ⟨-, rfl⟩ := h
      exact .refl _
    | false =>
      obtain ⟨inner, -, rfl⟩ := h
      exact .refl _
  | behind width negated body ih =>
    cases negated with
    | true =>
      obtain ⟨-, rfl⟩ := h
      exact .refl _
    | false =>
      obtain ⟨cursor, inner, -, -, rfl⟩ := h
      exact .refl _
  | atomic body ih => exact ih h
  | cond index present absent ihPresent ihAbsent =>
    rw [Leads] at h
    split at h
    next => exact ihPresent h
    next => exact ihAbsent h

/-! ## Matches -/

/-- A match does not end before it begins, and not after the end of the text. -/
structure Match.Proper (text : List Char) (found : Match) : Prop where
  start_le_stop : found.start ≤ found.stop
  text_eq : found.final.cursor.text = text

theorem Match.Proper.stop_le {text : List Char} {found : Match} (proper : found.Proper text) :
    found.stop ≤ text.length := by
  rw [← proper.text_eq]
  exact found.final.cursor.offset_le_length

namespace Node

variable {node : Node} {moving : Bool} {cursor : Cursor} {found : Match}

/-- A match at a place begins there. -/
theorem matchAt?_precedes (h : node.matchAt? moving cursor = some found) :
    found.start = cursor.offset ∧ found.Proper cursor.text := by
  obtain ⟨final, hrun, rfl⟩ := Option.map_eq_some_iff.1 h
  obtain ⟨reached, hleads, hreached⟩ := node.exists_leads_of_run hrun
  -- the rest of a whole pattern is to stop, so the match ends in the state that was reached
  obtain rfl : reached = final := by
    by_cases hempty : (moving && reached.cursor.offset == cursor.offset) = true
    · simp [hempty] at hreached
    · simpa [hempty] using hreached
  have hforward : cursor.Precedes reached.cursor := hleads.precedes
  exact ⟨rfl, hforward.offset_le, hforward.text_eq⟩

theorem searchWithin?_precedes {count : Nat}
    (h : node.searchWithin? count moving cursor = some found) :
    cursor.offset ≤ found.start ∧ found.Proper cursor.text := by
  induction count generalizing moving cursor with
  | zero =>
    obtain ⟨hstart, hproper⟩ := matchAt?_precedes h
    exact ⟨Nat.le_of_eq hstart.symm, hproper⟩
  | succ count ih =>
    rw [searchWithin?, Option.orElse_eq_or, Option.or_eq_some_iff] at h
    rcases h with h | ⟨-, h⟩
    · obtain ⟨hstart, hproper⟩ := matchAt?_precedes h
      exact ⟨Nat.le_of_eq hstart.symm, hproper⟩
    · split at h
      next c next hnext =>
        obtain ⟨hle, hproper⟩ := ih h
        rw [Cursor.text_of_next? hnext] at hproper
        rw [Cursor.offset_of_next? hnext] at hle
        exact ⟨by omega, hproper⟩
      next => cases h

/-- What a search finds is not before the place where it began. -/
theorem search?_precedes (h : node.search? moving cursor = some found) :
    cursor.offset ≤ found.start ∧ found.Proper cursor.text :=
  searchWithin?_precedes h

theorem findWithin_precedes {count : Nat}
    (h : found ∈ node.findWithin count moving cursor) :
    cursor.offset ≤ found.start ∧ found.Proper cursor.text := by
  induction count generalizing moving cursor with
  | zero => cases h
  | succ count ih =>
    rw [findWithin] at h
    split at h
    next first hfirst =>
      obtain ⟨hle, hproper⟩ := search?_precedes hfirst
      rcases List.mem_cons.1 h with rfl | h
      · exact ⟨hle, hproper⟩
      · -- the next search begins where the first match ended
        obtain ⟨hnext, hfound⟩ := ih h
        rw [hproper.text_eq] at hfound
        exact ⟨Nat.le_trans (Nat.le_trans hle hproper.start_le_stop) hnext, hfound⟩
    next => cases h

theorem findWithin_ordered (node : Node) (count : Nat) (moving : Bool) (cursor : Cursor) :
    (node.findWithin count moving cursor).Pairwise fun found next => found.stop ≤ next.start := by
  induction count generalizing moving cursor with
  | zero => exact .nil
  | succ count ih =>
    rw [findWithin]
    split
    next first _ =>
      refine .cons ?_ (ih _ _)
      intro next hnext
      exact (findWithin_precedes hnext).1
    next => exact .nil

end Node

namespace Pattern

/-- All matches lie in the text. -/
theorem findAll_proper {pattern : Pattern} {text : List Char} {found : Match}
    (h : found ∈ pattern.findAll text) : found.Proper text :=
  (Node.findWithin_precedes h).2

/-- Every match begins where the one before it ended, or later. -/
theorem findAll_ordered (pattern : Pattern) (text : List Char) :
    (pattern.findAll text).Pairwise fun found next => found.stop ≤ next.start :=
  pattern.node.findWithin_ordered _ _ _

end Pattern

end Highlighter.Regex
