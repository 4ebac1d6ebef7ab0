import Highlighter.Proofs.Signature.BlockComment
import Highlighter.Proofs.Signature.SlotState

/-!
# Hidden text

The characters of a literal or of a comment are hidden: whatever they are, they are no boundaries,
and what follows is read as if others stood in their place. For all that a state knows of a literal
or a comment is forgotten at its end. What has to be excluded is that a comment has half begun
before it, so that the slash before a literal or a comment is taken together with its first
character.

## Main definitions

* `ScanState.RemembersOne` — what a state knows of the character before
* `Lexis.Hides` — the texts of literals and comments
* `ScanState.boundaries` — what the characters of a text are taken for

## Main results

* `ScanState.RemembersOne.step` — no more than one character is remembered
* `ScanState.AtJoint.reads_hidden` — hidden text leaves the depths as they were
* `hidden_text_never_splits` — the boundaries after hidden text do not depend on it
-/

namespace Highlighter.Signature

namespace ScanState

variable {lexis : Lexis} {state : ScanState} {c : Char} {text : List Char}

/-! ## What is known of the character before -/

/-- A state knows at most the character before. In code this character is no marker, for it would
have begun a comment. -/
structure RemembersOne (lexis : Lexis) (state : ScanState) : Prop where
  length_le : state.previous.length ≤ 1
  no_marker : state.mode = .code → ∀ c ∈ state.previous,
    lexis.lineComment ≠ [c] ∧ lexis.blockOpen ≠ [c]

theorem ne_of_not_completes {marker : List Char} (h : state.completes marker c = false) :
    marker ≠ [c] := by
  rintro rfl
  simp [completes] at h

namespace RemembersOne

theorem start (lexis : Lexis) : ({} : ScanState).RemembersOne lexis :=
  ⟨by decide, by simp⟩

theorem enter (lexis : Lexis) (state : ScanState) (mode : Mode) :
    (state.enter mode).RemembersOne lexis :=
  ⟨by simp [ScanState.enter], by simp [ScanState.enter]⟩

/-- Outside of code nothing is asked of the character before. -/
theorem of_mode_ne (hlength : state.previous.length ≤ 1) (hmode : state.mode ≠ .code) :
    state.RemembersOne lexis :=
  ⟨hlength, fun h => absurd h hmode⟩

theorem of_transition {result : Boundary × ScanState}
    (transition : Transition lexis state c result) (h : state.RemembersOne lexis) :
    result.2.RemembersOne lexis := by
  cases transition with
  | sign forItself =>
    -- the character completes no marker, and is remembered
    obtain ⟨-, hprevious⟩ := @stepDelimiter_frame { state with previous := [c] } c
    refine ⟨by simp [hprevious], ?_⟩
    intro _ d hd
    obtain rfl : d = c := by simpa [hprevious] using hd
    exact ⟨ne_of_not_completes forItself.noLine, ne_of_not_completes forItself.noBlock⟩
  | opensLiteral _ _ _ _ => exact of_mode_ne (by simp [ScanState.enter]) (by simp [ScanState.enter])
  | escapes _ _ => exact of_mode_ne h.length_le (by simp)
  | escapedText _ => exact of_mode_ne h.length_le (by simp)
  | blockText commented _ => exact of_mode_ne (by simp) (by simp [commented])
  | closesLiteral _ _ _ => exact enter lexis { state with quote := [] } .code
  | opensLine _ _ => exact enter lexis state .comment
  | opensBlock _ _ _ => exact enter lexis state .blockComment
  | closesLine _ _ => exact enter lexis state .code
  | closesBlock _ _ => exact enter lexis state .code
  | literalText _ _ _ => exact h
  | lineText _ _ => exact h

theorem step (h : state.RemembersOne lexis) (c : Char) :
    (state.step lexis c).2.RemembersOne lexis :=
  of_transition (state.transition lexis c) h

end RemembersOne

end ScanState

open ScanState

/-- In code, where the character before is no slash, no comment has half begun. -/
theorem atJoint_of_mem_builtin {grammar : Grammar} (isBuiltin : grammar ∈ builtin.map (·.2))
    {text : List Char} (inCode : (({} : ScanState).after grammar.lexis text).mode = .code)
    (noSlash : (({} : ScanState).after grammar.lexis text).previous ≠ ['/']) :
    (({} : ScanState).after grammar.lexis text).AtJoint grammar.lexis := by
  have hquote : (({} : ScanState).after grammar.lexis text).ForgetsQuote :=
    after_keeps (P := ForgetsQuote) (fun h c => h.step grammar.lexis c) (.inr (.inr rfl)) text
  have hone : (({} : ScanState).after grammar.lexis text).RemembersOne grammar.lexis :=
    after_keeps RemembersOne.step (.start _) text
  generalize ({} : ScanState).after grammar.lexis text = state at inCode noSlash hquote hone
  refine ⟨inCode, by simpa [ForgetsQuote, inCode] using hquote, ?_⟩
  intro c hc
  obtain ⟨noLine, noBlock⟩ := hone.no_marker inCode c hc
  have hslash : c ≠ '/' := by
    rintro rfl
    obtain ⟨d, hd⟩ := List.length_eq_one_iff.1
      (Nat.le_antisymm hone.length_le (List.length_pos_of_mem hc))
    rw [hd, List.mem_singleton] at hc
    exact noSlash (hc ▸ hd)
  simp only [builtin, List.map_cons, List.map_nil, List.mem_cons, List.not_mem_nil, or_false]
    at isBuiltin
  rcases isBuiltin with rfl | rfl | rfl
  · simpa [Lexis.opensMarker, javascript] using hslash.symm
  · rfl
  · simpa [Lexis.opensMarker, python] using noLine

/-! ## Literals and comments -/

/-- The text of a literal or of a comment. -/
inductive Lexis.Hides (lexis : Lexis) : List Char → Prop
  | literal {quote : Char} {body : List Char} (isQuote : quote ∈ lexis.quotes)
      (isBody : isLiteralBody quote body) : Hides lexis (quote :: body ++ [quote])
  | lineComment {body : List Char} (hasMarker : lexis.lineComment ≠ []) (isLine : '\n' ∉ body) :
      Hides lexis (lexis.lineComment ++ body ++ ['\n'])
  | blockComment {body : List Char} (hasMarker : lexis.blockOpen ≠ [])
      (isInner : ¬ lexis.blockClose <:+: body) :
      Hides lexis (lexis.blockOpen ++ body ++ lexis.blockClose)

namespace ScanState

/-- What the characters of a text are taken for. -/
def boundaries (lexis : Lexis) (state : ScanState) (text : List Char) : List Boundary :=
  (state.steps lexis text).map (·.1)

theorem boundaries_append (lexis : Lexis) (state : ScanState) (first second : List Char) :
    state.boundaries lexis (first ++ second) =
      state.boundaries lexis first ++ (state.after lexis first).boundaries lexis second := by
  rw [boundaries, steps_append, List.map_append, boundaries, boundaries]

variable {lexis : Lexis} {state last : ScanState} {text : List Char}

/-- At the end of hidden text all that was known of it is forgotten. -/
theorem AtJoint.reads_hidden (atJoint : state.AtJoint lexis) (coherent : lexis.Coherent)
    (hides : lexis.Hides text) : Reads lexis state text none { state with previous := [] } := by
  cases hides with
  | literal isQuote isBody => exact atJoint.reads_literal coherent isQuote isBody
  | lineComment hasMarker isLine => exact atJoint.reads_lineComment coherent hasMarker isLine
  | blockComment hasMarker isInner => exact atJoint.reads_blockComment coherent hasMarker isInner

/-- Text that separates nothing and begins no default value has no boundaries. -/
theorem Reads.boundaries_eq (reads : Reads lexis state text none last) :
    state.boundaries lexis text = List.replicate text.length .none := by
  generalize hcut : none = cut at reads
  induction reads with
  | nil state => rfl
  | cons step _ ih =>
    have hlater := ih (Option.map_eq_none_iff.1 hcut.symm).symm
    rw [boundaries] at hlater ⊢
    rw [steps, step, List.map_cons, hlater, List.length_cons, List.replicate_succ]
  | default step _ _ => cases hcut

/-- After hidden text the boundaries are those of what follows. -/
theorem AtJoint.boundaries_hidden (atJoint : state.AtJoint lexis) (coherent : lexis.Coherent)
    (hides : lexis.Hides text) (rest : List Char) :
    state.boundaries lexis (text ++ rest) =
      List.replicate text.length .none ++
        { state with previous := [] }.boundaries lexis rest := by
  have hread := atJoint.reads_hidden coherent hides
  rw [boundaries_append, hread.boundaries_eq, hread.after_eq]

end ScanState

/-- What stands in a literal or in a comment has no influence on how a list is split. Two lists that
differ only in a literal or a comment have no boundary in it and the same boundaries at
corresponding characters before and after it. -/
theorem hidden_text_never_splits {grammar : Grammar} (isBuiltin : grammar ∈ builtin.map (·.2))
    {before first second : List Char}
    (inCode : (({} : ScanState).after grammar.lexis before).mode = .code)
    (noSlash : (({} : ScanState).after grammar.lexis before).previous ≠ ['/'])
    (hfirst : grammar.lexis.Hides first) (hsecond : grammar.lexis.Hides second) (rest : List Char) :
    ∃ earlier later, earlier.length = before.length ∧ later.length = rest.length ∧
      ({} : ScanState).boundaries grammar.lexis (before ++ (first ++ rest)) =
        earlier ++ (List.replicate first.length .none ++ later) ∧
      ({} : ScanState).boundaries grammar.lexis (before ++ (second ++ rest)) =
        earlier ++ (List.replicate second.length .none ++ later) := by
  have coherent := coherent_of_mem_builtin isBuiltin
  have atJoint := atJoint_of_mem_builtin isBuiltin inCode noSlash
  refine ⟨({} : ScanState).boundaries grammar.lexis before,
    { ({} : ScanState).after grammar.lexis before with previous := [] }.boundaries
      grammar.lexis rest, by simp [boundaries], by simp [boundaries], ?_, ?_⟩
  · rw [boundaries_append, atJoint.boundaries_hidden coherent hfirst]
  · rw [boundaries_append, atJoint.boundaries_hidden coherent hsecond]

/-- A literal and a comment in a group, both with a closing parenthesis, a comma, an equals sign and
a quote in them: in both lists the group is closed after them, and the comma after it separates. -/
theorem hidden_text_never_splits_in_group :
    ∃ first second : List Char,
      first = '\'' :: "),=\\'".toList ++ ['\''] ∧
      second = javascript.lexis.blockOpen ++ "),='".toList ++ javascript.lexis.blockClose ∧
      javascript ∈ builtin.map (·.2) ∧
      (({} : ScanState).after javascript.lexis "a = (b".toList).mode = .code ∧
      (({} : ScanState).after javascript.lexis "a = (b".toList).previous ≠ ['/'] ∧
      javascript.lexis.Hides first ∧ javascript.lexis.Hides second ∧
      ({} : ScanState).boundaries javascript.lexis ("a = (b".toList ++ (first ++ "),c)".toList)) =
        [.none, .none, .default, .none, .none, .none] ++ (List.replicate 7 .none ++
          [.none, .separator, .none, .finish]) ∧
      ∃ earlier later, earlier.length = 6 ∧ later.length = 4 ∧
        ({} : ScanState).boundaries javascript.lexis ("a = (b".toList ++ (first ++ "),c)".toList)) =
          earlier ++ (List.replicate first.length .none ++ later) ∧
        ({} : ScanState).boundaries javascript.lexis
          ("a = (b".toList ++ (second ++ "),c)".toList)) =
          earlier ++ (List.replicate second.length .none ++ later) := by
  have isBuiltin : javascript ∈ builtin.map (·.2) := by simp [builtin]
  have inCode : (({} : ScanState).after javascript.lexis "a = (b".toList).mode = .code := by decide
  have noSlash : (({} : ScanState).after javascript.lexis "a = (b".toList).previous ≠ ['/'] := by
    decide
  have hfirst : javascript.lexis.Hides ('\'' :: "),=\\'".toList ++ ['\'']) :=
    .literal (by decide) (by decide)
  have hsecond : javascript.lexis.Hides
      (javascript.lexis.blockOpen ++ "),='".toList ++ javascript.lexis.blockClose) :=
    .blockComment (by decide) (by decide)
  exact ⟨_, _, rfl, rfl, isBuiltin, inCode, noSlash, hfirst, hsecond, by decide,
    hidden_text_never_splits isBuiltin inCode noSlash hfirst hsecond "),c)".toList⟩

end Highlighter.Signature
