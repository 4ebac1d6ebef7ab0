import Highlighter.Proofs.Signature.Hidden

/-!
# The states of a parameter list

While a parameter list is read, its state holds the depths of the groups around the current
character and what has to be known of the text before it. Whatever the markers and quotes are and
whatever is read, up to the end of the list these fit together: no depth is negative, the list's own
parenthesis is open until its end has been reported, and what is remembered is what the mode needs.

Most characters are taken for nothing and change no depth. The others are characters of code that
are read for themselves, and these are the only boundaries.

## Main definitions

* `ScanState.Remembers` — what is remembered in each mode
* `ScanState.WellFormed` — the states of a list
* `ScanState.Ongoing` — those in which the list has not ended

## Main results

* `ScanState.Transition.remembers` — every character leads to a state that remembers what it should
* `ScanState.Ongoing.step` — a list goes on until its end is reported
* `reading_wellFormed_until_finish` — all states up to the end of a list are well-formed
-/

namespace Highlighter.Signature

namespace ScanState

variable {lexis : Lexis} {state : ScanState} {c : Char} {result : Boundary × ScanState}

/-- What a state remembers of the text before, by its mode. -/
inductive Remembers (lexis : Lexis) (state : ScanState) : Prop
  /-- In code, at most the last character. -/
  | code (mode_eq : state.mode = .code) (quote_eq : state.quote = [])
      (length_le : state.previous.length ≤ 1)
  /-- In a literal, the quote that opened it. -/
  | literal (mode_eq : state.mode = .quoted ∨ state.mode = .escaped) {quote : Char}
      (isQuote : quote ∈ lexis.quotes) (quote_eq : state.quote = [quote])
      (previous_eq : state.previous = [])
  /-- In a comment that ends with its line, nothing. -/
  | comment (mode_eq : state.mode = .comment) (hasMarker : lexis.lineComment ≠ [])
      (quote_eq : state.quote = []) (previous_eq : state.previous = [])
  /-- In a comment that ends with a marker, at most the last character. -/
  | blockComment (mode_eq : state.mode = .blockComment) (hasMarker : lexis.blockOpen ≠ [])
      (quote_eq : state.quote = []) (length_le : state.previous.length ≤ 1)

/-- A state of a list: no bracket and no brace is closed that was not open, and what is remembered
fits the mode. -/
structure WellFormed (lexis : Lexis) (state : ScanState) : Prop where
  bracket_nonneg : 0 ≤ state.bracket
  brace_nonneg : 0 ≤ state.brace
  remembers : state.Remembers lexis

/-- A state of a list that has not ended. -/
structure Ongoing (lexis : Lexis) (state : ScanState) : Prop extends WellFormed lexis state where
  paren_pos : 1 ≤ state.paren

/-! ## What is remembered -/

namespace Remembers

theorem quote_eq_nil (h : state.Remembers lexis)
    (noLiteral : ¬ (state.mode = .quoted ∨ state.mode = .escaped)) : state.quote = [] := by
  cases h with
  | literal inLiteral => exact absurd inLiteral noLiteral
  | _ => assumption

theorem of_literal (h : state.Remembers lexis)
    (inLiteral : state.mode = .quoted ∨ state.mode = .escaped) :
    (∃ quote ∈ lexis.quotes, state.quote = [quote]) ∧ state.previous = [] := by
  cases h with
  | literal _ isQuote hquote hprevious => exact ⟨⟨_, isQuote, hquote⟩, hprevious⟩
  | _ => simp_all

end Remembers

theorem ne_nil_of_completes {marker : List Char} (h : state.completes marker c = true) :
    marker ≠ [] := by
  rintro rfl
  simp [completes] at h

/-- Every character leads to a state that remembers what it should. -/
theorem Transition.remembers (transition : Transition lexis state c result)
    (h : state.Remembers lexis) : result.2.Remembers lexis := by
  cases transition with
  | opensLine inCode completes =>
    have hquote := h.quote_eq_nil (by simp [inCode])
    exact .comment rfl (ne_nil_of_completes completes) hquote rfl
  | opensBlock inCode _ completes =>
    have hquote := h.quote_eq_nil (by simp [inCode])
    exact .blockComment rfl (ne_nil_of_completes completes) hquote (Nat.zero_le 1)
  | opensLiteral _ _ _ isQuote => exact .literal (.inl rfl) isQuote rfl rfl
  | sign forItself =>
    -- the character is remembered, and a delimiter changes depths only
    obtain ⟨hmode, hprevious⟩ := @stepDelimiter_frame { state with previous := [c] } c
    have hquote := h.quote_eq_nil (by simp [forItself.inCode])
    exact .code (hmode.trans forItself.inCode) ((quote_stepDelimiter _ c).trans hquote)
      (by simp [hprevious])
  | escapes quoted _ =>
    obtain ⟨⟨_, isQuote, hquote⟩, hprevious⟩ := h.of_literal (.inl quoted)
    exact .literal (.inr rfl) isQuote hquote hprevious
  | escapedText escaped =>
    obtain ⟨⟨_, isQuote, hquote⟩, hprevious⟩ := h.of_literal (.inr escaped)
    exact .literal (.inl rfl) isQuote hquote hprevious
  | closesLiteral _ _ _ => exact .code rfl rfl (Nat.zero_le 1)
  | closesLine commented _ =>
    exact .code rfl (h.quote_eq_nil (by simp [commented])) (Nat.zero_le 1)
  | closesBlock commented _ =>
    exact .code rfl (h.quote_eq_nil (by simp [commented])) (Nat.zero_le 1)
  | literalText _ _ _ => exact h
  | lineText _ _ => exact h
  | blockText commented _ =>
    -- the last character is replaced, so that there is still at most one
    cases h with
    | blockComment hmode hasMarker hquote _ =>
      exact .blockComment hmode hasMarker hquote (by simp)
    | _ => simp_all

/-! ## Depths and boundaries -/

/-- What a character is taken for that is read for itself. -/
theorem stepDelimiter_fst (state : ScanState) (c : Char) :
    (state.stepDelimiter c).1 =
      if c = ')' ∧ state.paren = 1 then .finish
      else if c = ',' ∧ state.topLevel = true then .separator
      else if c = '=' ∧ state.topLevel = true then .default
      else .none := by
  have hparen : state.paren - 1 = 0 ↔ state.paren = 1 := by omega
  unfold stepDelimiter
  split <;> simp_all

/-- A separator changes nothing, and neither does the beginning of a default value. -/
theorem stepDelimiter_snd_of_mark
    (h : (state.stepDelimiter c).1 = .separator ∨ (state.stepDelimiter c).1 = .default) :
    (state.stepDelimiter c).2 = state := by
  unfold stepDelimiter at h ⊢
  by_cases hend : state.paren - 1 = 0 <;> split at h <;> simp_all

/-- As long as the list has not ended, no depth becomes negative, and it ends when its own
parenthesis is closed. -/
theorem stepDelimiter_depths (hparen : 1 ≤ state.paren) (hbracket : 0 ≤ state.bracket)
    (hbrace : 0 ≤ state.brace) (c : Char) :
    0 ≤ (state.stepDelimiter c).2.bracket ∧ 0 ≤ (state.stepDelimiter c).2.brace ∧
      0 ≤ (state.stepDelimiter c).2.paren ∧
      ((state.stepDelimiter c).1 = .finish ↔ (state.stepDelimiter c).2.paren = 0) := by
  have hopen : state.paren ≠ 0 := by omega
  unfold stepDelimiter
  -- brackets and braces are held at zero, and a parenthesis is closed by one only
  cases state.topLevel <;> split <;> simp_all <;> omega

/-- A boundary other than none is a character that is read for itself. -/
theorem step_fst_eq_iff {boundary : Boundary} (isBoundary : boundary ≠ .none) :
    (state.step lexis c).1 = boundary ↔
      state.ReadForItself lexis c ∧
        ({ state with previous := [c] }.stepDelimiter c).1 = boundary := by
  constructor
  · intro h
    rcases (state.transition lexis c).silent_or_forItself with ⟨silent, -⟩ | ⟨forItself, hstep⟩
    · exact absurd (h.symm.trans silent) isBoundary
    · exact ⟨forItself, hstep ▸ h⟩
  · rintro ⟨forItself, h⟩
    rw [forItself.step_eq, h]

theorem step_eq_finish_iff :
    (state.step lexis c).1 = .finish ↔
      state.ReadForItself lexis c ∧ c = ')' ∧ state.paren = 1 := by
  rw [step_fst_eq_iff (by decide), stepDelimiter_fst]
  grind

theorem step_eq_mark_iff {mark : Boundary} {sign : Char}
    (isMark : mark = .separator ∧ sign = ',' ∨ mark = .default ∧ sign = '=') :
    (state.step lexis c).1 = mark ↔
      state.IsTopCode ∧ state.ReadForItself lexis c ∧ c = sign := by
  have hsome : mark ≠ .none := by grind
  have htop : { state with previous := [c] }.topLevel = state.topLevel := rfl
  have inCode : state.ReadForItself lexis c → state.mode = .code := ReadForItself.inCode
  rw [step_fst_eq_iff hsome, stepDelimiter_fst, htop, IsTopCode]
  -- the characters of the three boundaries differ, so at most one condition holds
  grind

/-- Separators and beginnings of default values keep the depths. -/
theorem sameDepths_of_mark
    (h : (state.step lexis c).1 = .separator ∨ (state.step lexis c).1 = .default) :
    state.SameDepths (state.step lexis c).2 := by
  rcases (state.transition lexis c).silent_or_forItself with ⟨-, same⟩ | ⟨-, hstep⟩
  · exact same
  · rw [hstep] at h ⊢
    rw [stepDelimiter_snd_of_mark h]
    exact ⟨rfl, rfl, rfl⟩

/-! ## Reading a list -/

namespace Ongoing

theorem start (lexis : Lexis) : ({} : ScanState).Ongoing lexis :=
  { bracket_nonneg := Int.le_refl 0
    brace_nonneg := Int.le_refl 0
    remembers := .code rfl rfl (Nat.zero_le 1)
    paren_pos := Int.le_refl 1 }

/-- Every character of a list leads to a state of the list, and the one that closes the list's own
parenthesis is its end. -/
theorem step (h : state.Ongoing lexis) (c : Char) :
    (state.step lexis c).2.WellFormed lexis ∧ 0 ≤ (state.step lexis c).2.paren ∧
      ((state.step lexis c).1 = .finish ↔ (state.step lexis c).2.paren = 0) := by
  have remembers := (state.transition lexis c).remembers h.remembers
  have hpos := h.paren_pos
  rcases (state.transition lexis c).silent_or_forItself with
    ⟨silent, hparen, hbracket, hbrace⟩ | ⟨-, hstep⟩
  · -- only the mode and what is remembered can have changed
    refine ⟨⟨hbracket ▸ h.bracket_nonneg, hbrace ▸ h.brace_nonneg, remembers⟩, by omega, ?_⟩
    have hopen : (state.step lexis c).2.paren ≠ 0 := by omega
    simp [silent, hopen]
  · obtain ⟨hbracket, hbrace, hparen, hfinish⟩ := @stepDelimiter_depths
      { state with previous := [c] } hpos h.bracket_nonneg h.brace_nonneg c
    rw [← hstep] at hbracket hbrace hparen hfinish
    exact ⟨⟨hbracket, hbrace, remembers⟩, hparen, hfinish⟩

/-- A list goes on after a character that is not its end. -/
theorem step_of_ne_finish (h : state.Ongoing lexis) (goesOn : (state.step lexis c).1 ≠ .finish) :
    (state.step lexis c).2.Ongoing lexis := by
  obtain ⟨wellFormed, hparen, hfinish⟩ := h.step c
  have hopen := mt hfinish.2 goesOn
  exact { wellFormed with paren_pos := by omega }

/-- A list goes on through text in which it does not end. -/
theorem after (h : state.Ongoing lexis) {text : List Char}
    (unended : Boundary.finish ∉ state.boundaries lexis text) :
    (state.after lexis text).Ongoing lexis := by
  induction text generalizing state with
  | nil => exact h
  | cons c text ih =>
    -- the first character is not the end, and neither is any of the others
    simp only [boundaries, steps, List.map_cons, List.mem_cons, not_or] at unended
    exact ih (h.step_of_ne_finish (Ne.symm unended.1)) unended.2

end Ongoing

end ScanState

open ScanState

/-- Whatever literals and comments look like and whatever is read of a list, up to its end the
list's own parenthesis is open, and the next character leads to a state of the list. The list ends
exactly when its own parenthesis is closed. It is separated, and a default value begins in it,
exactly at commas and equals signs of code outside of all groups that are read for themselves, and
these keep the depths. -/
theorem reading_wellFormed_until_finish (lexis : Lexis) {text : List Char}
    (unended : Boundary.finish ∉ ({} : ScanState).boundaries lexis text)
    {state next : ScanState} {c : Char} {boundary : Boundary}
    (hstate : ({} : ScanState).after lexis text = state)
    (hstep : state.step lexis c = (boundary, next)) :
    1 ≤ state.paren ∧ state.WellFormed lexis ∧ next.WellFormed lexis ∧
      (boundary = .finish ↔ next.paren = 0) ∧
      (boundary = .finish ↔ state.ReadForItself lexis c ∧ c = ')' ∧ state.paren = 1) ∧
      (boundary = .separator ↔ state.IsTopCode ∧ state.ReadForItself lexis c ∧ c = ',') ∧
      (boundary = .default ↔ state.IsTopCode ∧ state.ReadForItself lexis c ∧ c = '=') ∧
      (boundary = .separator ∨ boundary = .default → state.SameDepths next) := by
  have ongoing : state.Ongoing lexis := hstate ▸ (Ongoing.start lexis).after unended
  obtain ⟨rfl, rfl⟩ : (state.step lexis c).1 = boundary ∧ (state.step lexis c).2 = next := by
    simp [hstep]
  obtain ⟨wellFormed, -, hfinish⟩ := ongoing.step c
  exact ⟨ongoing.paren_pos, ongoing.toWellFormed, wellFormed, hfinish, step_eq_finish_iff,
    step_eq_mark_iff (.inl ⟨rfl, rfl⟩), step_eq_mark_iff (.inr ⟨rfl, rfl⟩), sameDepths_of_mark⟩

/-- A list with closing delimiters that were never opened, and with others in a literal and a
comment: it is still open after all of them, and the next parenthesis ends it. -/
theorem reading_wellFormed_until_finish_of_stray_closers :
    ∃ state next : ScanState,
      Boundary.finish ∉ ({} : ScanState).boundaries javascript.lexis
        "a]\x7d, b = (c['),'], d) /* ) */ e".toList ∧
      ({} : ScanState).after javascript.lexis "a]\x7d, b = (c['),'], d) /* ) */ e".toList = state ∧
      state.step javascript.lexis ')' = (.finish, next) ∧
      1 ≤ state.paren ∧ state.WellFormed javascript.lexis ∧ next.WellFormed javascript.lexis ∧
      next.paren = 0 ∧ state.ReadForItself javascript.lexis ')' := by
  have unended : Boundary.finish ∉ ({} : ScanState).boundaries javascript.lexis
      "a]\x7d, b = (c['),'], d) /* ) */ e".toList := by
    decide
  have hstate : ({} : ScanState).after javascript.lexis
      "a]\x7d, b = (c['),'], d) /* ) */ e".toList = { previous := ['e'] } := by
    decide
  have hstep : ({ previous := ['e'] } : ScanState).step javascript.lexis ')' =
      (.finish, { paren := 0, previous := [')'] }) := by
    decide
  obtain ⟨hparen, wellFormed, wellFormed', hends, hreads, -⟩ :=
    reading_wellFormed_until_finish javascript.lexis unended hstate hstep
  exact ⟨_, _, unended, hstate, hstep, hparen, wellFormed, wellFormed', hends.1 rfl,
    (hreads.1 rfl).1⟩

end Highlighter.Signature
