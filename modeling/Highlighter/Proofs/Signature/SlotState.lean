import Highlighter.Proofs.Signature.Balanced
import Highlighter.Proofs.Signature.Reading
import Highlighter.Proofs.Signature.Transition

/-!
# The states in which slots begin

A parameter list is read from its first character on, and each of its slots begins in the state that
the reading has reached there. These states are all alike: a slot is cut off in code and outside of
all groups, so all that its state remembers of the list is the comma before it, and a comma begins
no comment. What is made of the text of a slot therefore depends on this text alone.

## Main definitions

* `stateAt` — the state in which a character of a list is read
* `ScanState.IsTopCode` — in code, outside of all groups
* `Lexis.specials` — the characters that can have a meaning in code
* `Lexis.IsNeutral` — text that leaves the state of code as it was

## Main results

* `stateAt_of_mem_slots` — the state in which a slot begins
* `isTopCode_stateAt_slot` — reading from there is like reading from the beginning of a list
* `ScanState.IsTopCode.after_of_ordinary`, `Lexis.IsNeutral.isTopCode` — what does not leave the
  code
-/

namespace Highlighter.Signature

/-- The state in which the character at a place is read, in a list that begins at an offset. -/
def stateAt (lexis : Lexis) (source : List Char) (offset place : Nat) : ScanState :=
  ({} : ScanState).after lexis ((source.take place).drop offset)

/-- The characters that can have a meaning in code. -/
def Lexis.specials (lexis : Lexis) : List Char :=
  lexis.quotes ++ ('=' :: punctuation) ++ (lexis.lineComment ++ lexis.blockOpen)

theorem Lexis.opensMarker_eq_false {lexis : Lexis} {c : Char} (ordinary : c ∉ lexis.specials) :
    lexis.opensMarker c = false := by
  simp only [specials, List.mem_append, not_or] at ordinary
  obtain ⟨-, noLine, noBlock⟩ := ordinary
  have hline : lexis.lineComment.head? ≠ some c := fun h => noLine (List.mem_of_mem_head? h)
  have hblock : lexis.blockOpen.head? ≠ some c := fun h => noBlock (List.mem_of_mem_head? h)
  simp [opensMarker, hline, hblock]

namespace ScanState

variable {lexis : Lexis} {state next : ScanState} {c : Char} {text : List Char}

theorem Reads.after_eq {cut : Option Nat} {last : ScanState}
    (reads : Reads lexis state text cut last) :
    state.after lexis text = last := by
  induction reads with
  | nil state => rfl
  | cons step _ ih => rw [after_cons, step, ih]
  | default step _ ih => rw [after_cons, step, ih]

/-! ## Code outside of groups -/

/-- In code, outside of all groups. -/
def IsTopCode (state : ScanState) : Prop :=
  state.mode = .code ∧ state.topLevel = true

instance (state : ScanState) : Decidable state.IsTopCode :=
  inferInstanceAs (Decidable (_ ∧ _))

theorem completes_eq_false_of_not_mem {marker : List Char} (h : c ∉ marker) :
    state.completes marker c = false := by
  have hsingle : marker ≠ [c] := fun hmarker => h (by simp [hmarker])
  have hpair : marker ≠ state.previous ++ [c] := fun hmarker => h (by simp [hmarker])
  simp [completes, hsingle, hpair]

/-- A character without a meaning is read for itself. -/
theorem step_of_ordinary (isCode : state.mode = .code) (ordinary : c ∉ lexis.specials) :
    state.step lexis c = (.none, { state with previous := [c] }) := by
  simp only [Lexis.specials, punctuation, List.mem_append, List.mem_cons, not_or] at ordinary
  obtain ⟨⟨noQuote, hpunctuation⟩, noLine, noBlock⟩ := ordinary
  have hline := @completes_eq_false_of_not_mem state c _ noLine
  have hblock := @completes_eq_false_of_not_mem state c _ noBlock
  rw [ReadForItself.step_eq ⟨isCode, hline, hblock, noQuote⟩]
  unfold stepDelimiter
  split <;> simp_all

/-- Characters without a meaning lead nowhere else. -/
theorem IsTopCode.after_of_ordinary (isTopCode : state.IsTopCode)
    (ordinary : ∀ c ∈ text, c ∉ lexis.specials) : (state.after lexis text).IsTopCode := by
  induction text generalizing state with
  | nil => exact isTopCode
  | cons c text ih =>
    simp only [List.mem_cons, forall_eq_or_imp] at ordinary
    rw [after_cons, step_of_ordinary isTopCode.1 ordinary.1]
    exact @ih { state with previous := [c] } isTopCode ordinary.2

end ScanState

/-! ## Neutral text -/

open ScanState

variable {lexis : Lexis}

/-- Text that leaves the state of code as it was, but for the last character. -/
def Lexis.IsNeutral (lexis : Lexis) (text : List Char) : Prop :=
  ∀ state : ScanState, state.AtCode lexis → ∃ previous,
    state.after lexis text = { state with previous } ∧ { state with previous }.AtCode lexis

namespace Lexis.IsNeutral

variable {text first second body : List Char}

theorem append (hfirst : lexis.IsNeutral first) (hsecond : lexis.IsNeutral second) :
    lexis.IsNeutral (first ++ second) := by
  intro state atCode
  obtain ⟨middle, hmiddle, atMiddle⟩ := hfirst state atCode
  obtain ⟨last, hlast, atLast⟩ := hsecond _ atMiddle
  exact ⟨last, by rw [after_append, hmiddle, hlast], atLast⟩

theorem flatten {pieces : List (List Char)} (h : ∀ piece ∈ pieces, lexis.IsNeutral piece) :
    lexis.IsNeutral pieces.flatten := by
  induction pieces with
  | nil => exact fun state atCode => ⟨state.previous, rfl, atCode⟩
  | cons piece pieces ih =>
    simp only [List.mem_cons, forall_eq_or_imp] at h
    exact h.1.append (ih h.2)

theorem of_ordinary (ordinary : ∀ c ∈ text, c ∉ lexis.specials) : lexis.IsNeutral text := by
  induction text with
  | nil => exact fun state atCode => ⟨state.previous, rfl, atCode⟩
  | cons c text ih =>
    simp only [List.mem_cons, forall_eq_or_imp] at ordinary
    have hfirst : lexis.IsNeutral [c] := by
      intro state atCode
      have hstep := step_of_ordinary atCode.mode_eq ordinary.1
      exact ⟨[c], by rw [after_cons, hstep, after_nil],
        atCode.note (Lexis.opensMarker_eq_false ordinary.1)⟩
    exact hfirst.append (ih ordinary.2)

theorem lineComment (coherent : lexis.Coherent) (hasMarker : lexis.lineComment ≠ [])
    (isLine : '\n' ∉ body) : lexis.IsNeutral (lexis.lineComment ++ body ++ ['\n']) :=
  fun _ atCode =>
    ⟨[], (atCode.reads_lineComment coherent hasMarker isLine).after_eq, atCode.forget⟩

theorem blockComment (coherent : lexis.Coherent) (hasMarker : lexis.blockOpen ≠ [])
    (isInner : ¬ lexis.blockClose <:+: body) :
    lexis.IsNeutral (lexis.blockOpen ++ body ++ lexis.blockClose) :=
  fun _ atCode =>
    ⟨[], (atCode.reads_blockComment coherent hasMarker isInner).after_eq, atCode.forget⟩

/-- After neutral text a list is where it was in the beginning. -/
theorem isTopCode (h : lexis.IsNeutral text) : (({} : ScanState).after lexis text).IsTopCode := by
  obtain ⟨previous, hafter, -⟩ := h {} (atCode_start lexis)
  rw [hafter]
  exact ⟨rfl, rfl⟩

end Lexis.IsNeutral

/-! ## Slots -/

namespace ScanState

variable {state next : ScanState} {c : Char}

/-- A quote is remembered in literals only. -/
def ForgetsQuote (state : ScanState) : Prop :=
  state.mode = .quoted ∨ state.mode = .escaped ∨ state.quote = []

theorem quote_stepDelimiter (state : ScanState) (c : Char) :
    (state.stepDelimiter c).2.quote = state.quote := by
  unfold stepDelimiter
  split <;> rfl

theorem Transition.forgetsQuote {result : Boundary × ScanState}
    (transition : Transition lexis state c result) (h : state.ForgetsQuote) :
    result.2.ForgetsQuote := by
  cases transition with
  | sign forItself =>
    have hquote : state.quote = [] := by simpa [ForgetsQuote, forItself.inCode] using h
    exact .inr (.inr ((quote_stepDelimiter _ c).trans hquote))
  | _ => simp_all [ForgetsQuote, enter]

theorem ForgetsQuote.step (h : state.ForgetsQuote) (lexis : Lexis) (c : Char) :
    (state.step lexis c).2.ForgetsQuote :=
  (state.transition lexis c).forgetsQuote h

theorem of_stepDelimiter_separator (h : state.stepDelimiter c = (.separator, next)) :
    c = ',' ∧ state.topLevel = true ∧ next = state := by
  unfold stepDelimiter at h
  cases isTop : state.topLevel <;> by_cases hend : state.paren - 1 = 0 <;> split at h <;> simp_all

/-- Only a comma of code outside of all groups separates, and nothing else is remembered then. -/
theorem eq_of_step_separator (h : state.step lexis c = (.separator, next))
    (forgets : state.ForgetsQuote) : next = { previous := [','] } := by
  have transition := state.transition lexis c
  rw [h] at transition
  rcases transition.silent_or_forItself with ⟨silent, -⟩ | ⟨forItself, hstep⟩
  · cases silent
  · obtain ⟨rfl, isTop, rfl⟩ := of_stepDelimiter_separator hstep.symm
    have hquote : state.quote = [] := by simpa [ForgetsQuote, forItself.inCode] using forgets
    simp only [topLevel, Bool.and_eq_true, beq_iff_eq] at isTop
    obtain ⟨⟨hparen, hbracket⟩, hbrace⟩ := isTop
    rw [forItself.inCode, hquote, hparen, hbracket, hbrace]

/-- Every slot but the first one begins after a comma. -/
theorem exists_of_mem_slotsFrom {start offset : Nat} {cut : Option Nat} {text : List Char}
    {slot : Slot} (forgets : state.ForgetsQuote)
    (h : slot ∈ slotsFrom lexis state start cut offset text) :
    slot.start = start ∨ ∃ passed rest, text = passed ++ rest ∧
      slot.start = offset + passed.length ∧ state.after lexis passed = { previous := [','] } := by
  induction text generalizing state start offset cut with
  | nil => simp [slotsFrom] at h
  | cons c text ih =>
    have hnext := forgets.step lexis c
    rw [slotsFrom] at h
    -- what is read after this character is part of what is read from it on
    have hlater : ∀ {next start cut}, (state.step lexis c).2 = next →
        slot ∈ slotsFrom lexis next start cut (offset + 1) text →
        slot.start = start ∨ ∃ passed rest, c :: text = passed ++ rest ∧
          slot.start = offset + passed.length ∧
            state.after lexis passed = { previous := [','] } := by
      rintro _ start cut rfl hslot
      rcases ih hnext hslot with hstart | ⟨passed, rest, rfl, hstart, hafter⟩
      · exact .inl hstart
      · exact .inr ⟨c :: passed, rest, rfl, by simp [hstart]; omega, by rw [after_cons, hafter]⟩
    split at h
    · next state' hstep => exact hlater (by rw [hstep]) h
    · next state' hstep => exact hlater (by rw [hstep]) h
    · next state' hstep =>
      rcases List.mem_cons.1 h with rfl | h
      · exact .inl rfl
      · rcases hlater (by rw [hstep]) h with hstart | hlater
        · refine .inr ⟨[c], text, rfl, hstart, ?_⟩
          rw [after_cons, hstep, after_nil]
          exact eq_of_step_separator hstep forgets
        · exact .inr hlater
    · obtain rfl := List.mem_singleton.1 h
      exact .inl rfl

/-- After a comma a list is read as from its beginning, since a comma begins no comment. -/
theorem isTopCode_after_comma (coherent : lexis.Coherent) (text : List Char) :
    (({ previous := [','] } : ScanState).after lexis text).IsTopCode ↔
      (({} : ScanState).after lexis text).IsTopCode := by
  cases text with
  | nil => exact ⟨fun _ => ⟨rfl, rfl⟩, fun _ => ⟨rfl, rfl⟩⟩
  | cons c text =>
    have hfree := (coherent.punctuation_free ',' (by decide)).2
    simp only [Lexis.opensMarker, Bool.or_eq_false_iff, beq_eq_false_iff_ne] at hfree
    have hcompletes : ∀ marker : List Char, marker.head? ≠ some ',' →
        ({ previous := [','] } : ScanState).completes marker c =
          ({} : ScanState).completes marker c := by
      intro marker hmarker
      have hpair : marker ≠ [',', c] := fun h => hmarker (by simp [h])
      simp [completes, beq_eq_false_iff_ne.2 hpair]
    have hstep : ({ previous := [','] } : ScanState).step lexis c =
        ({} : ScanState).step lexis c := by
      simp only [ScanState.step, stepCode, hcompletes _ hfree.1, hcompletes _ hfree.2]
      rfl
    rw [after_cons, after_cons, hstep]

end ScanState

section Slots

variable {source : List Char} {offset : Nat} {slot : Slot}

theorem stateAt_add {place : Nat} (hoffset : offset ≤ place) (hplace : place ≤ source.length)
    (count : Nat) :
    stateAt lexis source offset (place + count) =
      (stateAt lexis source offset place).after lexis ((source.drop place).take count) := by
  have hlength : offset ≤ (source.take place).length := by
    rw [List.length_take]
    omega
  rw [stateAt, stateAt, List.take_add, List.drop_append_of_le_length hlength, after_append]

/-- The state in which a slot begins: that of a new list, or the one after a comma. -/
theorem stateAt_of_mem_slots (h : slot ∈ slots lexis source offset) :
    offset ≤ slot.start ∧ slot.start ≤ source.length ∧
      (stateAt lexis source offset slot.start = {} ∨
        stateAt lexis source offset slot.start = { previous := [','] }) := by
  have hinside : offset ≤ source.length := by
    apply Nat.le_of_not_lt
    intro hbeyond
    rw [slots, List.drop_eq_nil_of_le (Nat.le_of_lt hbeyond)] at h
    simp [slotsFrom] at h
  have forgets : ({} : ScanState).ForgetsQuote := .inr (.inr rfl)
  rcases exists_of_mem_slotsFrom forgets h with hstart | ⟨passed, rest, hsplit, hstart, hafter⟩
  · refine ⟨by omega, by omega, .inl ?_⟩
    rw [hstart, stateAt, List.drop_eq_nil_of_le (List.length_take_le _ _)]
    rfl
  · have hlength := congrArg List.length hsplit
    simp only [List.length_drop, List.length_append] at hlength
    refine ⟨by omega, by omega, .inr ?_⟩
    have hpassed : (source.take slot.start).drop offset = passed := by
      rw [hstart, List.drop_take, hsplit]
      simp
    rw [stateAt, hpassed, hafter]

/-- Reading the text of a slot is like reading from the beginning of a list. -/
theorem isTopCode_stateAt_slot (coherent : lexis.Coherent) (h : slot ∈ slots lexis source offset)
    (count : Nat) :
    (stateAt lexis source offset (slot.start + count)).IsTopCode ↔
      (({} : ScanState).after lexis ((source.drop slot.start).take count)).IsTopCode := by
  obtain ⟨hoffset, hinside, hstate⟩ := stateAt_of_mem_slots h
  rw [stateAt_add hoffset hinside]
  rcases hstate with hstate | hstate
  · rw [hstate]
  · rw [hstate, isTopCode_after_comma coherent]

end Slots

end Highlighter.Signature
