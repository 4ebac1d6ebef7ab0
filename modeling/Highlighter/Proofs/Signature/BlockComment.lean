import Highlighter.Proofs.Signature.Reading

/-!
# Block comments

A block comment begins and ends with markers of one or two characters. While a list is read, only
the character before the current one is known, so a marker of two characters is recognised at its
second one; the first one has been read as code by then. The opening marker is looked for as the
current character alone and together with the one before it, but the closing marker only together
with the one before it, which is unknown just after the opening marker.

It follows when a comment is skipped as it should be. Two things can go wrong. The first character
of an opening marker of two can have a meaning of its own: it can change a depth, separate two
parameters or begin a default value. And a closing marker of one character is not found after a body
that is not empty.

## Main definitions

* `ScanState.SkipsComment` — a comment is skipped as a whole and changes no depth
* `ScanState.IsInert` — a character that means nothing where it stands

## Main results

* `ScanState.skips_comment_iff` — which comments are skipped
-/

namespace Highlighter.Signature

/-- The text of a block comment. -/
def Lexis.blockComment (lexis : Lexis) (body : List Char) : List Char :=
  lexis.blockOpen ++ (body ++ lexis.blockClose)

/-- Comments begin and end with markers of one or two characters, none of which is a quote, and
there are no comments that end with their line. -/
structure Lexis.HasBlockMarkers (lexis : Lexis) : Prop where
  noLineComment : lexis.lineComment = []
  blockOpen_length : lexis.blockOpen.length = 1 ∨ lexis.blockOpen.length = 2
  blockClose_length : lexis.blockClose.length = 1 ∨ lexis.blockClose.length = 2
  noQuote : ∀ c ∈ lexis.blockOpen ++ lexis.blockClose, c ∉ lexis.quotes

/-- The closing marker stands at the end of a body that is followed by it, and nowhere before. -/
def Lexis.ClosesOnlyAfter (lexis : Lexis) (body : List Char) : Prop :=
  ∀ before after, body ++ lexis.blockClose = before ++ lexis.blockClose ++ after → after = []

/-- A marker that does not stand before the end of a text stands only at its end. -/
theorem Lexis.closesOnlyAfter_of_not_infix {lexis : Lexis} {body : List Char}
    (h : ¬ lexis.blockClose <:+: (body ++ lexis.blockClose).dropLast) :
    lexis.ClosesOnlyAfter body := by
  intro before after heq
  rcases List.eq_nil_or_concat after with hnil | ⟨others, last, rfl⟩
  · exact hnil
  · refine absurd ⟨before, others, ?_⟩ h
    rw [heq, List.concat_eq_append, ← List.append_assoc, List.dropLast_concat]

namespace ScanState

/-- A state in the middle of a list, in code, that knows nothing of the character before. -/
structure AtPiece (state : ScanState) : Prop where
  mode_eq : state.mode = .code
  previous_eq : state.previous = []
  paren_pos : 1 ≤ state.paren
  bracket_nonneg : 0 ≤ state.bracket
  brace_nonneg : 0 ≤ state.brace

/-- Two states with the same depths. -/
def SameDepths (state other : ScanState) : Prop :=
  other.paren = state.paren ∧ other.bracket = state.bracket ∧ other.brace = state.brace

/-- A comment is skipped from a state: no character of it is a boundary, it is known to be a comment
from the end of its opening marker to the end of its closing one, and then there is code again, with
the depths of before. -/
structure SkipsComment (lexis : Lexis) (state : ScanState) (body : List Char) : Prop where
  silent : ∀ result ∈ state.steps lexis (lexis.blockComment body), result.1 = .none
  inside : ∀ place result, (state.steps lexis (lexis.blockComment body))[place]? = some result →
    lexis.blockOpen.length ≤ place + 1 → place + 1 < (lexis.blockComment body).length →
    result.2.mode = .blockComment
  mode_eq : (state.after lexis (lexis.blockComment body)).mode = .code
  depths : state.SameDepths (state.after lexis (lexis.blockComment body))

/-- A character that changes no depth, separates nothing and begins no default value where it
stands. -/
def IsInert (state : ScanState) (c : Char) : Prop :=
  c ∉ ['(', ')', '[', '\x7b'] ∧ (c = ']' → state.bracket = 0) ∧ (c = '\x7d' → state.brace = 0) ∧
    (c ∈ [',', '='] → state.topLevel = false)

variable {lexis : Lexis} {state : ScanState} {body : List Char}

/-! ## The opening marker -/

/-- A character means nothing exactly if it is no boundary and keeps the depths. -/
theorem AtPiece.isInert_iff (atPiece : state.AtPiece) (c : Char) :
    state.IsInert c ↔
      ({ state with previous := [c] }.stepDelimiter c).1 = .none ∧
        state.SameDepths ({ state with previous := [c] }.stepDelimiter c).2 := by
  have hparen := atPiece.paren_pos
  have hbracket := atPiece.bracket_nonneg
  have hbrace := atPiece.brace_nonneg
  have htop : { state with previous := [c] }.topLevel = state.topLevel := rfl
  unfold stepDelimiter IsInert SameDepths
  split <;> simp_all <;> omega

/-- Delimiters change depths only. -/
theorem stepDelimiter_frame (c : Char) :
    (state.stepDelimiter c).2.mode = state.mode ∧
      (state.stepDelimiter c).2.previous = state.previous := by
  unfold stepDelimiter
  split <;> exact ⟨rfl, rfl⟩

/-- The opening marker leads into the comment. It is no boundary and keeps the depths exactly if its
first character, where it has two, means nothing. -/
theorem exists_opened (markers : lexis.HasBlockMarkers) (atPiece : state.AtPiece) :
    ∃ opened : ScanState, state.after lexis lexis.blockOpen = opened.enter .blockComment ∧
      ((∀ result ∈ state.steps lexis lexis.blockOpen, result.1 = .none) ∧
          state.SameDepths opened ↔
        ∀ a b, lexis.blockOpen = [a, b] → state.IsInert a) := by
  obtain ⟨noLine, openLength, -, noQuote⟩ := markers
  match hopen : lexis.blockOpen with
  | [] => simp [hopen] at openLength
  | [a] =>
    have hstep : state.step lexis a = (.none, state.enter .blockComment) := by
      simp [step, atPiece.mode_eq, stepCode, completes, noLine, hopen]
    refine ⟨state, by simp [hstep], ?_⟩
    simp [steps, hstep, SameDepths]
  | [a, b] =>
    -- the first character is read as code, and the second one completes the marker
    have hquote : a ∉ lexis.quotes := noQuote a (by simp [hopen])
    have hfirst : state.step lexis a = { state with previous := [a] }.stepDelimiter a := by
      simp [step, atPiece.mode_eq, stepCode, completes, noLine, hopen, atPiece.previous_eq, hquote]
    have hinert := atPiece.isInert_iff a
    generalize hread : { state with previous := [a] }.stepDelimiter a = read at hfirst hinert
    obtain ⟨boundary, opened⟩ := read
    have hframe := @stepDelimiter_frame { state with previous := [a] } a
    rw [hread] at hframe
    have hmode : opened.mode = .code := hframe.1.trans atPiece.mode_eq
    have hprevious : opened.previous = [a] := hframe.2
    have hsecond : opened.step lexis b = (.none, opened.enter .blockComment) := by
      simp [step, hmode, stepCode, completes, noLine, hopen, hprevious]
    refine ⟨opened, by simp [hfirst, hsecond], ?_⟩
    simp [steps, hfirst, hsecond, hinert]
  | _ :: _ :: _ :: _ => simp [hopen] at openLength

/-! ## The body and the closing marker -/

/-- A comment goes on as long as its closing marker has not been read. -/
theorem steps_comment {text : List Char} (commented : state.mode = .blockComment)
    (first : ∀ c ∈ text.head?, state.previous ++ [c] ≠ lexis.blockClose)
    (others : ∀ c d, [c, d] <:+: text → [c, d] ≠ lexis.blockClose) :
    (∀ result ∈ state.steps lexis text, result.1 = .none ∧ result.2.mode = .blockComment) ∧
      ∃ previous, state.after lexis text = { state with previous } ∧
        ∀ c ∈ text.getLast?, previous = [c] := by
  induction text generalizing state with
  | nil => exact ⟨by simp [steps], state.previous, rfl, by simp⟩
  | cons c text ih =>
    have hstep : state.step lexis c = (.none, { state with previous := [c] }) := by
      simp [step, commented, first c rfl]
    have hfirst : ∀ d ∈ text.head?, [c] ++ [d] ≠ lexis.blockClose := by
      intro d hd
      obtain ⟨rest, rfl⟩ := List.head?_eq_some_iff.1 hd
      exact others c d ⟨[], rest, rfl⟩
    have hothers : ∀ d e, [d, e] <:+: text → [d, e] ≠ lexis.blockClose :=
      fun d e h => others d e (h.trans (List.suffix_cons c text).isInfix)
    obtain ⟨hsteps, previous, hafter, hlast⟩ :=
      @ih { state with previous := [c] } commented hfirst hothers
    refine ⟨?_, previous, by simpa [hstep] using hafter, ?_⟩
    · intro result hresult
      rw [steps, hstep] at hresult
      rcases List.mem_cons.1 hresult with rfl | hresult
      · exact ⟨rfl, commented⟩
      · exact hsteps result hresult
    · cases text with
      | nil =>
        have hprevious : previous = [c] := (congrArg ScanState.previous hafter).symm
        simpa using hprevious
      | cons d text => simpa using hlast

/-- The rest of a comment is read without a boundary and without changing a depth. At its end there
is code, unless a closing marker of one character follows a body that is not empty. -/
theorem ends_comment (commented : state.mode = .blockComment) (fresh : state.previous = [])
    (closeLength : lexis.blockClose.length = 1 ∨ lexis.blockClose.length = 2)
    (only : lexis.ClosesOnlyAfter body) :
    (∀ result ∈ state.steps lexis (body ++ lexis.blockClose), result.1 = .none) ∧
      (∀ place result, (state.steps lexis (body ++ lexis.blockClose))[place]? = some result →
        place + 1 < (body ++ lexis.blockClose).length → result.2.mode = .blockComment) ∧
      ∃ mode previous,
        state.after lexis (body ++ lexis.blockClose) = { state with mode, previous } ∧
          (mode = .code ↔ (lexis.blockClose.length = 1 → body = [])) := by
  match hclose : lexis.blockClose with
  | [] => simp [hclose] at closeLength
  | [x] =>
    cases body with
    | nil =>
      have hstep : state.step lexis x = (.none, state.enter .code) := by
        simp [step, commented, fresh, hclose]
      refine ⟨by simp [steps, hstep], by simp [steps], .code, [], by simp [hstep, enter], by simp⟩
    | cons c body =>
      -- after the first character of the body there is always one before the current one
      have hfirst : c ≠ x := by
        rintro rfl
        have hend := only [] (body ++ [c]) (by simp [hclose])
        simp at hend
      obtain ⟨hsteps, previous, hafter, -⟩ :=
        @steps_comment lexis state (c :: body ++ [x]) commented
          (by simpa [fresh, hclose] using hfirst) (by simp [hclose])
      refine ⟨fun result h => (hsteps result h).1, ?_, state.mode, previous, hafter, ?_⟩
      · intro place result hresult _
        exact (hsteps result (List.mem_of_getElem? hresult)).2
      · simp [commented]
  | [x, y] =>
    have hinner : ∀ c d, [c, d] <:+: body ++ [x] → [c, d] ≠ [x, y] := by
      rintro c d ⟨before, after, hinfix⟩ heq
      obtain ⟨rfl, rfl⟩ : c = x ∧ d = y := by simpa using heq
      have hsplit : body ++ [c, d] = body ++ [c] ++ [d] := by simp
      have hend := only before (after ++ [d]) (by rw [hclose, hsplit, ← hinfix]; simp)
      simp at hend
    obtain ⟨hsteps, previous, hafter, hlast⟩ :=
      @steps_comment lexis state (body ++ [x]) commented (by simp [fresh, hclose])
        (by simpa only [hclose] using hinner)
    have hprevious : previous = [x] := hlast x (by simp)
    have hstep : (state.after lexis (body ++ [x])).step lexis y = (.none, state.enter .code) := by
      simp [hafter, step, commented, hclose, hprevious, enter]
    have htext : body ++ [x, y] = body ++ [x] ++ [y] := by simp
    rw [htext, steps_append lexis state (body ++ [x]), after_append lexis state (body ++ [x])]
    refine ⟨?_, ?_, .code, [], by simp [hstep, enter], by simp⟩
    · intro result hresult
      rcases List.mem_append.1 hresult with hresult | hresult
      · exact (hsteps result hresult).1
      · simp only [steps, hstep, List.mem_singleton] at hresult
        rw [hresult]
    · intro place result hresult hplace
      rw [List.getElem?_append_left (by simpa using hplace)] at hresult
      exact (hsteps result (List.mem_of_getElem? hresult)).2
  | _ :: _ :: _ :: _ => simp [hclose] at closeLength

/-! ## Comments -/

/-- Which comments are skipped: those whose opening marker begins with a character that means
nothing where it stands, unless the marker consists of that character alone, and whose closing
marker has two characters, unless the body is empty. -/
theorem skips_comment_iff (markers : lexis.HasBlockMarkers) (atPiece : state.AtPiece)
    (only : lexis.ClosesOnlyAfter body) :
    SkipsComment lexis state body ↔
      (∀ a b, lexis.blockOpen = [a, b] → state.IsInert a) ∧
        (lexis.blockClose.length = 1 → body = []) := by
  obtain ⟨opened, hopened, hmeaning⟩ := exists_opened markers atPiece
  obtain ⟨hsilent, hinside, mode, previous, hafter, hends⟩ :=
    @ends_comment lexis (opened.enter .blockComment) body rfl rfl markers.blockClose_length only
  have hsteps : state.steps lexis (lexis.blockComment body) =
      state.steps lexis lexis.blockOpen ++
        (opened.enter .blockComment).steps lexis (body ++ lexis.blockClose) := by
    rw [Lexis.blockComment, steps_append, hopened]
  have hfinal : state.after lexis (lexis.blockComment body) =
      { opened with mode, previous } := by
    rw [Lexis.blockComment, after_append, hopened, hafter]
    rfl
  rw [← hmeaning, ← hends]
  constructor
  · intro skips
    refine ⟨⟨?_, ?_⟩, ?_⟩
    · intro result hresult
      exact skips.silent result (hsteps ▸ List.mem_append_left _ hresult)
    · have hdepths := skips.depths
      rwa [hfinal] at hdepths
    · have hmode := skips.mode_eq
      rwa [hfinal] at hmode
  · rintro ⟨⟨hquiet, hdepths⟩, hcode⟩
    refine ⟨?_, ?_, by rw [hfinal, hcode], by rwa [hfinal]⟩
    · intro result hresult
      rw [hsteps] at hresult
      rcases List.mem_append.1 hresult with hresult | hresult
      · exact hquiet result hresult
      · exact hsilent result hresult
    · intro place result hresult hlow hhigh
      rw [hsteps] at hresult
      by_cases hlast : place < lexis.blockOpen.length
      · -- the last character of the opening marker has led into the comment
        rw [List.getElem?_append_left (by simpa using hlast)] at hresult
        have hread := snd_of_getElem?_steps lexis state hresult
        rw [List.take_of_length_le hlow, hopened] at hread
        rw [hread]
        rfl
      · rw [List.getElem?_append_right (by simpa using hlast), length_steps] at hresult
        refine hinside _ result hresult ?_
        simp only [Lexis.blockComment, List.length_append] at hhigh ⊢
        omega

/-- Comments between `/*` and `*/` are skipped, also deep in a list and with delimiters in them. -/
theorem skips_comment_in_group :
    ∃ (lexis : Lexis) (state : ScanState) (body : List Char),
      lexis.blockOpen = ['/', '*'] ∧ lexis.blockClose = ['*', '/'] ∧ lexis.quotes = ['\'', '"'] ∧
      state.paren = 2 ∧ state.brace = 1 ∧ body = ['/', ',', ')', '=', '*'] ∧
      lexis.HasBlockMarkers ∧ state.AtPiece ∧ lexis.ClosesOnlyAfter body ∧
      SkipsComment lexis state body := by
  let lexis : Lexis :=
    { quotes := ['\'', '"'], blockOpen := ['/', '*'], blockClose := ['*', '/'] }
  let state : ScanState := { paren := 2, brace := 1 }
  have hmarkers : lexis.HasBlockMarkers :=
    ⟨rfl, Or.inr rfl, Or.inr rfl, by simp [lexis]⟩
  have hstate : state.AtPiece := ⟨rfl, rfl, by decide, by decide, by decide⟩
  have hclose : lexis.ClosesOnlyAfter ['/', ',', ')', '=', '*'] :=
    Lexis.closesOnlyAfter_of_not_infix (by decide)
  refine ⟨lexis, state, _, rfl, rfl, rfl, rfl, rfl, rfl, hmarkers, hstate, hclose, ?_⟩
  apply (skips_comment_iff hmarkers hstate hclose).2
  refine ⟨?_, by decide⟩
  rintro a b hopen
  obtain ⟨rfl, -⟩ := List.cons.inj hopen
  exact ⟨by decide, by decide, by decide, by decide⟩

/-- A comment between `<` and `>` does not end, and one that begins with `(*` leaves a parenthesis
open. -/
theorem comments_not_skipped :
    (∃ (lexis : Lexis) (body : List Char), lexis.blockOpen = ['<'] ∧ lexis.blockClose = ['>'] ∧
      body = ['x'] ∧ lexis.HasBlockMarkers ∧ ({} : ScanState).AtPiece ∧
      lexis.ClosesOnlyAfter body ∧ ¬ SkipsComment lexis {} body) ∧
    ∃ (lexis : Lexis) (body : List Char), lexis.blockOpen = ['(', '*'] ∧
      lexis.blockClose = ['*', ')'] ∧ body = ['x'] ∧ lexis.HasBlockMarkers ∧
      ({} : ScanState).AtPiece ∧ lexis.ClosesOnlyAfter body ∧ ¬ SkipsComment lexis {} body := by
  have hstate : ({} : ScanState).AtPiece := ⟨rfl, rfl, by decide, by decide, by decide⟩
  constructor
  · refine ⟨{ quotes := ['"'], blockOpen := ['<'], blockClose := ['>'] }, ['x'], rfl, rfl, rfl,
      ⟨rfl, Or.inl rfl, Or.inl rfl, by simp⟩, hstate,
      Lexis.closesOnlyAfter_of_not_infix (by decide), ?_⟩
    intro skips
    exact absurd skips.mode_eq (by decide)
  · refine ⟨{ quotes := ['"'], blockOpen := ['(', '*'], blockClose := ['*', ')'] }, ['x'], rfl, rfl,
      rfl, ⟨rfl, Or.inr rfl, Or.inr rfl, by simp⟩, hstate,
      Lexis.closesOnlyAfter_of_not_infix (by decide), ?_⟩
    intro skips
    exact absurd skips.depths.1 (by decide)

end ScanState

end Highlighter.Signature
