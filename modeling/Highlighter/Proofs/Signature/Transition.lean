import Highlighter.Signature.State

/-!
# What a character can do

Each character of a parameter list leads from one state to the next. There are few ways in which it
can: a character of code begins a comment or a literal or is read for itself, a character of a
literal or a comment ends it or belongs to it. This file lists the ways, so that what is true of
every character is proved by going through the list.

## Main definitions

* `ScanState.ReadForItself` — a character of code that begins no comment and no literal
* `ScanState.Transition` — the ways from one state to the next

## Main results

* `ScanState.transition` — a character that is read goes one of these ways
* `ScanState.Transition.silent_or_forItself` — only what is read for itself is a boundary or changes
  a depth
* `ScanState.ReadForItself.step_eq` — what is read for itself is a delimiter or means nothing
-/

namespace Highlighter.Signature.ScanState

/-- A character of code that completes no marker and opens no literal. -/
structure ReadForItself (lexis : Lexis) (state : ScanState) (c : Char) : Prop where
  inCode : state.mode = .code
  noLine : state.completes lexis.lineComment c = false
  noBlock : state.completes lexis.blockOpen c = false
  noQuote : c ∉ lexis.quotes

/-- The ways in which a character leads from a state to the next. Each comes with what the character
is taken for. -/
inductive Transition (lexis : Lexis) (state : ScanState) (c : Char) : Boundary × ScanState → Prop
  | opensLine (inCode : state.mode = .code)
      (completes : state.completes lexis.lineComment c = true) :
      Transition lexis state c (.none, state.enter .comment)
  | opensBlock (inCode : state.mode = .code)
      (noLine : state.completes lexis.lineComment c = false)
      (completes : state.completes lexis.blockOpen c = true) :
      Transition lexis state c (.none, state.enter .blockComment)
  | opensLiteral (inCode : state.mode = .code)
      (noLine : state.completes lexis.lineComment c = false)
      (noBlock : state.completes lexis.blockOpen c = false) (isQuote : c ∈ lexis.quotes) :
      Transition lexis state c (.none, { state.enter .quoted with quote := [c] })
  | sign (forItself : state.ReadForItself lexis c) :
      Transition lexis state c ({ state with previous := [c] }.stepDelimiter c)
  | escapes (quoted : state.mode = .quoted) (isBackslash : c = '\\') :
      Transition lexis state c (.none, { state with mode := .escaped })
  | closesLiteral (quoted : state.mode = .quoted) (noBackslash : c ≠ '\\')
      (isQuote : state.quote = [c]) :
      Transition lexis state c (.none, { state.enter .code with quote := [] })
  | literalText (quoted : state.mode = .quoted) (noBackslash : c ≠ '\\')
      (noQuote : state.quote ≠ [c]) : Transition lexis state c (.none, state)
  | escapedText (escaped : state.mode = .escaped) :
      Transition lexis state c (.none, { state with mode := .quoted })
  | closesLine (commented : state.mode = .comment) (isBreak : c = '\n') :
      Transition lexis state c (.none, state.enter .code)
  | lineText (commented : state.mode = .comment) (noBreak : c ≠ '\n') :
      Transition lexis state c (.none, state)
  | closesBlock (commented : state.mode = .blockComment)
      (closes : state.previous ++ [c] = lexis.blockClose) :
      Transition lexis state c (.none, state.enter .code)
  | blockText (commented : state.mode = .blockComment)
      (goesOn : state.previous ++ [c] ≠ lexis.blockClose) :
      Transition lexis state c (.none, { state with previous := [c] })

variable {lexis : Lexis} {state : ScanState} {c : Char}

theorem ReadForItself.step_eq (forItself : state.ReadForItself lexis c) :
    state.step lexis c = { state with previous := [c] }.stepDelimiter c := by
  obtain ⟨inCode, noLine, noBlock, noQuote⟩ := forItself
  simp [step, inCode, stepCode, noLine, noBlock, noQuote]

theorem transition_of_code (inCode : state.mode = .code) :
    Transition lexis state c (state.stepCode lexis c) := by
  unfold stepCode
  split
  next completes => exact .opensLine inCode completes
  next noLine =>
    rw [Bool.not_eq_true] at noLine
    split
    next completes => exact .opensBlock inCode noLine completes
    next noBlock =>
      rw [Bool.not_eq_true] at noBlock
      split
      next isQuote => exact .opensLiteral inCode noLine noBlock (List.contains_iff_mem.1 isQuote)
      next noQuote =>
        exact .sign ⟨inCode, noLine, noBlock, fun h => noQuote (List.contains_iff_mem.2 h)⟩

variable (lexis state c) in
/-- A character that is read goes one of these ways. -/
theorem transition : Transition lexis state c (state.step lexis c) := by
  unfold step
  split
  next inCode => exact transition_of_code inCode
  next quoted =>
    split
    next isBackslash => exact .escapes quoted isBackslash
    next noBackslash =>
      split
      next isQuote => exact .closesLiteral quoted noBackslash isQuote
      next noQuote => exact .literalText quoted noBackslash noQuote
  next escaped => exact .escapedText escaped
  next commented =>
    split
    next isBreak => exact .closesLine commented isBreak
    next noBreak => exact .lineText commented noBreak
  next commented =>
    split
    next closes => exact .closesBlock commented closes
    next goesOn => exact .blockText commented goesOn

/-- A character that is not read for itself is no boundary and changes no depth. -/
theorem Transition.silent_or_forItself {result : Boundary × ScanState}
    (transition : Transition lexis state c result) :
    (result.1 = .none ∧ result.2.paren = state.paren ∧ result.2.bracket = state.bracket ∧
        result.2.brace = state.brace) ∨
      (state.ReadForItself lexis c ∧ result = { state with previous := [c] }.stepDelimiter c) := by
  cases transition with
  | sign forItself => exact .inr ⟨forItself, rfl⟩
  | _ => exact .inl ⟨rfl, rfl, rfl, rfl⟩

end Highlighter.Signature.ScanState
