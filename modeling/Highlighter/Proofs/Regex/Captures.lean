import Highlighter.Proofs.Regex.Repetition

/-!
# What groups have matched lies in the text

A group records where it has matched. Whatever an expression does in between, looks behind and ahead
included, it stays in the text that it was started in, so nothing that is recorded reaches beyond
the end of this text.

## Main definitions

* `State.Within` — a state of a text all of whose groups have matched in this text

## Main results

* `Node.Leads.within` — an expression does not leave the text, nor do its groups
* `Pattern.capture_stop_le` — what a group of a match has matched lies in the text
-/

namespace Highlighter.Regex

theorem Cursor.text_of_back? {count : Nat} {cursor earlier : Cursor}
    (h : cursor.back? count = some earlier) : earlier.text = cursor.text := by
  induction count generalizing cursor with
  | zero =>
    obtain rfl := Option.some.inj h
    rfl
  | succ count ih =>
    obtain ⟨previous, hprevious, hback⟩ := Option.bind_eq_some_iff.1 h
    rw [ih hback, text_of_previous? hprevious]

/-- A place of a text, with groups that have matched in this text. -/
structure State.Within (text : List Char) (state : State) : Prop where
  text_eq : state.cursor.text = text
  stop_le : ∀ entry ∈ state.captures, entry.2.stop ≤ text.length

namespace State.Within

variable {text : List Char} {state : State}

theorem start (cursor : Cursor) : State.Within cursor.text ⟨cursor, []⟩ :=
  ⟨rfl, by simp⟩

/-- To go on from another place of the text changes no group. -/
theorem move (within : state.Within text) {cursor : Cursor} (htext : cursor.text = text) :
    { state with cursor }.Within text :=
  ⟨htext, within.stop_le⟩

theorem record (within : state.Within text) (index : Nat) (from_ : Cursor) :
    (state.record index from_).Within text := by
  refine ⟨within.text_eq, ?_⟩
  intro entry hentry
  rcases List.mem_cons.1 hentry with rfl | hentry
  · rw [← within.text_eq]
    exact state.cursor.offset_le_length
  · exact within.stop_le entry hentry

theorem capture_stop_le (within : state.Within text) {index : Nat} {capture : Capture}
    (h : state.capture? index = some capture) : capture.stop ≤ text.length := by
  obtain ⟨first, others, hcaptures, -⟩ := List.lookup_eq_some_iff.1 h
  exact within.stop_le (index, capture) (by simp [hcaptures])

end State.Within

theorem Iterates.within {step : State → State → Prop} {text : List Char} {count : Nat}
    {state reached : State}
    (stays : ∀ {state reached}, step state reached → state.Within text → reached.Within text)
    (h : Iterates step count state reached) (within : state.Within text) : reached.Within text := by
  induction h with
  | zero state => exact within
  | succ hfirst _ ih => exact ih (stays hfirst within)

/-- An expression does not leave the text, nor do its groups. -/
theorem Node.Leads.within {node : Node} {text : List Char} {state reached : State}
    (h : node.Leads state reached) (within : state.Within text) : reached.Within text := by
  induction node generalizing state reached with
  | empty =>
    obtain rfl := h
    exact within
  | chars set =>
    obtain ⟨c, cursor, hnext, -, rfl⟩ := h
    exact within.move ((Cursor.text_of_next? hnext).trans within.text_eq)
  | anchor condition =>
    obtain ⟨-, rfl⟩ := h
    exact within
  | seq first second ihFirst ihSecond =>
    obtain ⟨middle, hfirst, hsecond⟩ := h
    exact ihSecond hsecond (ihFirst hfirst within)
  | alt first second ihFirst ihSecond =>
    rcases h with h | h
    · exact ihFirst h within
    · exact ihSecond h within
  | group index body ih =>
    obtain ⟨inner, hinner, rfl⟩ := h
    exact (ih hinner within).record index state.cursor
  | backref index folding =>
    obtain ⟨capture, cursor, -, hconsume, rfl⟩ := h
    exact within.move ((Cursor.precedes_of_consume? hconsume).text_eq.trans within.text_eq)
  | repeated least most greed body ih =>
    obtain ⟨extra, -, hiterates⟩ := h
    exact hiterates.within ih within
  | ahead negated body ih =>
    -- the groups of the body are kept, and the place is the one where the look was made
    cases negated with
    | true =>
      obtain ⟨-, rfl⟩ := h
      exact within
    | false =>
      obtain ⟨inner, hinner, rfl⟩ := h
      exact (ih hinner within).move within.text_eq
  | behind width negated body ih =>
    cases negated with
    | true =>
      obtain ⟨-, rfl⟩ := h
      exact within
    | false =>
      obtain ⟨cursor, inner, hback, hinner, rfl⟩ := h
      have hearlier := within.move ((Cursor.text_of_back? hback).trans within.text_eq)
      exact (ih hinner hearlier).move within.text_eq
  | atomic body ih => exact ih h within
  | cond index present absent ihPresent ihAbsent =>
    rw [Leads] at h
    split at h
    next => exact ihPresent h within
    next => exact ihAbsent h within

/-- What a group of a match has matched lies in the text. -/
theorem Pattern.capture_stop_le {pattern : Pattern} {text : List Char} {found : Match}
    (h : pattern.search? text = some found) {index : Nat} {capture : Capture}
    (hcapture : found.final.capture? index = some capture) : capture.stop ≤ text.length := by
  obtain ⟨passed, rest, rfl, hmatch, -⟩ := Node.exists_of_search? h
  have hplace : (Cursor.between (passed.reverse ++ []) rest).text = passed ++ rest := by
    simp [Cursor.text]
  have within := (Node.leads_of_matchAt? hmatch).within (.start _)
  rw [hplace] at within
  exact within.capture_stop_le hcapture

end Highlighter.Regex
