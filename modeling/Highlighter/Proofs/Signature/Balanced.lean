import Highlighter.Signature.Grammar

/-!
# Balanced text in a parameter list

A parameter list is cut at its commas, but not at those of string literals, comments and nested
delimiters. This file says what text may stand between two commas so that this is unambiguous: text
that is balanced. It is built from plain characters, closed literals, closed comments, and groups
in delimiters that fit, and in groups commas are allowed too.

Reading balanced text leaves the depths as they were. Nothing in it separates or ends the list, and
what begins a default value is the first equals sign outside of literals, comments and groups.
From this it follows how a list of balanced arguments is cut.

## Main definitions

* `Code` — balanced text, `Code.text` — the characters it consists of
* `Code.defaultAt?` — where its default value begins
* `ScanState.AtJoint` — a state in code in which no comment has half begun
* `ScanState.Reads` — reading a text separates nothing and leads from one state to another
* `Lexis.Coherent` — what literals and comments must look like to be told apart

## Main results

* `ScanState.reads_code` — balanced text is read as one piece
* `slots_arguments` — the slots of a list of balanced arguments
* `scanList_arguments` — the names found in such a list are those found in its arguments
-/

namespace Highlighter.Signature

/-- A fact about all characters of a list is decided along the list, not over all characters. -/
scoped instance (priority := 1100) decidableForallMem (chars : List Char) {p : Char → Prop}
    [DecidablePred p] : Decidable (∀ c ∈ chars, p c) :=
  List.decidableBAll p chars

/-! ## Balanced text -/

/-- The delimiters of a group. -/
inductive Bracket where
  | round
  | square
  | curly
  deriving DecidableEq, Repr

/-- The character that opens a group. -/
def Bracket.opening : Bracket → Char
  | .round => '('
  | .square => '['
  | .curly => '\x7b'

/-- The character that closes a group. -/
def Bracket.closing : Bracket → Char
  | .round => ')'
  | .square => ']'
  | .curly => '\x7d'

/-- The delimiters of groups, and the comma. -/
def punctuation : List Char :=
  ['(', ')', '[', ']', '\x7b', '\x7d', ',']

/-- Whether a character begins the marker of a comment. -/
def Lexis.opensMarker (lexis : Lexis) (c : Char) : Bool :=
  lexis.lineComment.head? == some c || lexis.blockOpen.head? == some c

/-- Whether a character is neither a quote nor a delimiter nor a comma, and begins no comment. -/
def Lexis.isPlain (lexis : Lexis) (c : Char) : Bool :=
  !lexis.quotes.contains c && !punctuation.contains c && !lexis.opensMarker c

/-- Whether a text can stand between two quotes: a quote in it follows a backslash, and there is no
backslash at its end that would hide the closing quote. -/
def isLiteralBody (quote : Char) : List Char → Bool
  | [] => true
  | ['\\'] => false
  | '\\' :: _ :: rest => isLiteralBody quote rest
  | c :: rest => c != quote && isLiteralBody quote rest

/-- Balanced text. Commas are allowed in groups only. -/
inductive Code (lexis : Lexis) : Bool → Type where
  | done {inGroup : Bool} : Code lexis inGroup
  | plain {inGroup : Bool} (c : Char) (isPlain : lexis.isPlain c) (rest : Code lexis inGroup) :
      Code lexis inGroup
  | comma (rest : Code lexis true) : Code lexis true
  | literal {inGroup : Bool} (quote : Char) (isQuote : quote ∈ lexis.quotes) (body : List Char)
      (isBody : isLiteralBody quote body) (rest : Code lexis inGroup) : Code lexis inGroup
  | lineComment {inGroup : Bool} (hasMarker : lexis.lineComment ≠ []) (body : List Char)
      (isLine : '\n' ∉ body) (rest : Code lexis inGroup) : Code lexis inGroup
  | blockComment {inGroup : Bool} (hasMarker : lexis.blockOpen ≠ []) (body : List Char)
      (isInner : ¬ lexis.blockClose <:+: body) (rest : Code lexis inGroup) : Code lexis inGroup
  | group {inGroup : Bool} (bracket : Bracket) (body : Code lexis true)
      (rest : Code lexis inGroup) : Code lexis inGroup

namespace Code

variable {lexis : Lexis} {inGroup : Bool}

/-- The characters of balanced text. -/
def text {inGroup : Bool} : Code lexis inGroup → List Char
  | done => []
  | plain c _ rest => c :: rest.text
  | comma rest => ',' :: rest.text
  | literal quote _ body _ rest => quote :: body ++ quote :: rest.text
  | lineComment _ body _ rest => lexis.lineComment ++ body ++ '\n' :: rest.text
  | blockComment _ body _ rest => lexis.blockOpen ++ body ++ lexis.blockClose ++ rest.text
  | group bracket body rest => bracket.opening :: body.text ++ bracket.closing :: rest.text

/-- The offset of the first equals sign outside of literals, comments and groups, where a default
value begins. -/
def defaultAt? {inGroup : Bool} : Code lexis inGroup → Option Nat
  | done => none
  | plain c _ rest => if c = '=' then some 0 else rest.defaultAt?.map (· + 1)
  | comma rest => rest.defaultAt?.map (· + 1)
  | literal _ _ body _ rest => rest.defaultAt?.map (· + (body.length + 2))
  | lineComment _ body _ rest =>
    rest.defaultAt?.map (· + (lexis.lineComment.length + body.length + 1))
  | blockComment _ body _ rest =>
    rest.defaultAt?.map
      (· + (lexis.blockOpen.length + body.length + lexis.blockClose.length))
  | group _ body rest => rest.defaultAt?.map (· + (body.text.length + 2))

end Code

/-- The text of a list of arguments. -/
def argumentsText {lexis : Lexis} (arguments : List (Code lexis false)) : List Char :=
  [','].intercalate (arguments.map Code.text)

/-- The slots of arguments the first of which begins at an offset: each goes up to the default value
of the argument, or to its end. -/
def argumentSlots {lexis : Lexis} : Nat → List (Code lexis false) → List Slot
  | _, [] => []
  | offset, argument :: rest =>
    ⟨offset, offset + argument.defaultAt?.getD argument.text.length⟩ ::
      argumentSlots (offset + argument.text.length + 1) rest

/-! ## Reading without a boundary -/

namespace ScanState

variable {lexis : Lexis}

/-- Reading a text from a state leads to another one and separates nothing. A default value may
begin in the text, for the first time at the given offset. -/
inductive Reads (lexis : Lexis) : ScanState → List Char → Option Nat → ScanState → Prop
  | nil (state : ScanState) : Reads lexis state [] none state
  | cons {state next last : ScanState} {c : Char} {text : List Char} {cut : Option Nat}
      (step : state.step lexis c = (.none, next)) (rest : Reads lexis next text cut last) :
      Reads lexis state (c :: text) (cut.map (· + 1)) last
  | default {state next last : ScanState} {c : Char} {text : List Char} {cut : Option Nat}
      (step : state.step lexis c = (.default, next)) (rest : Reads lexis next text cut last) :
      Reads lexis state (c :: text) (some 0) last

namespace Reads

variable {state middle last : ScanState} {first second : List Char} {cut later : Option Nat}

theorem single {c : Char} (step : state.step lexis c = (.none, last)) :
    Reads lexis state [c] none last :=
  .cons step (.nil last)

theorem append (reads : Reads lexis state first cut middle)
    (more : Reads lexis middle second later last) :
    Reads lexis state (first ++ second) (cut <|> later.map (· + first.length)) last := by
  induction reads with
  | nil state => simpa using more
  | @cons state next middle c text cut step _ ih =>
    have hcut : ((cut.map (· + 1)) <|> later.map (· + (c :: text).length)) =
        (cut <|> later.map (· + text.length)).map (· + 1) := by
      cases cut <;> cases later <;> simp [Nat.add_assoc]
    rw [hcut]
    exact .cons step (ih more)
  | default step _ ih => exact .default step (ih more)

/-- Text without an equals sign that counts, followed by other text. -/
theorem append_of_none (reads : Reads lexis state first none middle)
    (more : Reads lexis middle second later last) :
    Reads lexis state (first ++ second) (later.map (· + first.length)) last := by
  simpa using reads.append more

end Reads

/-- A slot goes on through text that separates nothing. -/
theorem slotsFrom_append {state last : ScanState} {text : List Char} {cut : Option Nat}
    (reads : Reads lexis state text cut last) (start : Nat) (before : Option Nat) (offset : Nat)
    (rest : List Char) :
    slotsFrom lexis state start before offset (text ++ rest) =
      slotsFrom lexis last start (before <|> cut.map (offset + ·)) (offset + text.length) rest := by
  induction reads generalizing before offset with
  | nil state => simp
  | @cons state next last c text cut step _ ih =>
    have hcut : cut.map (offset + 1 + ·) = (cut.map (· + 1)).map (offset + ·) := by
      cases cut <;> simp [Nat.add_assoc, Nat.add_comm 1]
    rw [List.cons_append, slotsFrom, step]
    dsimp only
    rw [ih, hcut, List.length_cons, Nat.add_assoc, Nat.add_comm 1]
  | @default state next last c text cut step _ ih =>
    rw [List.cons_append, slotsFrom, step]
    dsimp only
    rw [ih, List.length_cons, Nat.add_assoc, Nat.add_comm 1]
    cases before <;> simp

end ScanState

/-! ## Literals and comments that can be told apart -/

/-- Quotes and markers that are not taken for anything else. -/
structure Lexis.Coherent (lexis : Lexis) : Prop where
  /-- Delimiters, commas and equals signs are no quotes and begin no comment. -/
  punctuation_free : ∀ c ∈ '=' :: punctuation, c ∉ lexis.quotes ∧ lexis.opensMarker c = false
  /-- Quotes are no backslashes and begin no comment. -/
  quotes_free : ∀ c ∈ lexis.quotes, c ≠ '\\' ∧ lexis.opensMarker c = false
  lineComment_short : lexis.lineComment.length ≤ 2
  blockOpen_short : lexis.blockOpen.length ≤ 2
  /-- Neither marker is taken for the other one while it is read. -/
  apart : lexis.lineComment ≠ [] → lexis.blockOpen ≠ [] →
    ¬ lexis.lineComment <:+: lexis.blockOpen ∧ ¬ lexis.blockOpen <+: lexis.lineComment
  blockClose_pair : lexis.blockOpen ≠ [] → ∃ a b, a ≠ b ∧ lexis.blockClose = [a, b]

/-- The built-in grammars have coherent literals and comments. -/
theorem coherent_of_mem_builtin {grammar : Grammar} (isBuiltin : grammar ∈ builtin.map (·.2)) :
    grammar.lexis.Coherent := by
  simp only [builtin, List.map_cons, List.map_nil, List.mem_cons, List.not_mem_nil, or_false]
    at isBuiltin
  rcases isBuiltin with rfl | rfl | rfl
  · exact
      { punctuation_free := by decide
        quotes_free := by decide
        lineComment_short := by decide
        blockOpen_short := by decide
        apart := by decide
        blockClose_pair := fun _ => ⟨'*', '/', by decide, rfl⟩ }
  · exact
      { punctuation_free := by decide
        quotes_free := by decide
        lineComment_short := by decide
        blockOpen_short := by decide
        apart := by decide
        blockClose_pair := fun h => absurd rfl h }
  · exact
      { punctuation_free := by decide
        quotes_free := by decide
        lineComment_short := by decide
        blockOpen_short := by decide
        apart := by decide
        blockClose_pair := fun h => absurd rfl h }

theorem Lexis.lineComment_ne {lexis : Lexis} {c : Char} (free : lexis.opensMarker c = false) :
    lexis.lineComment ≠ [c] := by
  intro hmarker
  simp [Lexis.opensMarker, hmarker] at free

theorem Lexis.blockOpen_ne {lexis : Lexis} {c : Char} (free : lexis.opensMarker c = false) :
    lexis.blockOpen ≠ [c] := by
  intro hmarker
  simp [Lexis.opensMarker, hmarker] at free

namespace ScanState

variable {lexis : Lexis}

/-- A state of code in which no comment has half begun, at whatever depths. -/
structure AtJoint (lexis : Lexis) (state : ScanState) : Prop where
  mode_eq : state.mode = .code
  quote_eq : state.quote = []
  previous_free : ∀ c ∈ state.previous, lexis.opensMarker c = false

/-- A state between two pieces of code: no comment has half begun, and the list has not ended. -/
structure AtCode (lexis : Lexis) (state : ScanState) : Prop extends state.AtJoint lexis where
  paren_pos : 1 ≤ state.paren
  bracket_nonneg : 0 ≤ state.bracket
  brace_nonneg : 0 ≤ state.brace

section Code

variable {state : ScanState}

/-- A marker is not complete if it is more than the character and did not begin just before. -/
theorem completes_eq_false {marker : List Char} {c : Char}
    (notBegun : ∀ d ∈ state.previous, marker.head? ≠ some d) (h : marker ≠ [c]) :
    state.completes marker c = false := by
  have hpair : marker ≠ state.previous ++ [c] := by
    intro hmarker
    cases hprevious : state.previous with
    | nil => simp [hprevious, h] at hmarker
    | cons d others =>
      refine notBegun d (by simp [hprevious]) ?_
      simp [hmarker, hprevious]
  simp [completes, h, hpair]

namespace AtJoint

theorem lineComment_notBegun (atJoint : state.AtJoint lexis) :
    ∀ c ∈ state.previous, lexis.lineComment.head? ≠ some c := by
  intro c hc hhead
  have hfree := atJoint.previous_free c hc
  simp [Lexis.opensMarker, hhead] at hfree

theorem blockOpen_notBegun (atJoint : state.AtJoint lexis) :
    ∀ c ∈ state.previous, lexis.blockOpen.head? ≠ some c := by
  intro c hc hhead
  have hfree := atJoint.previous_free c hc
  simp [Lexis.opensMarker, hhead] at hfree

/-- A character that begins no literal and completes no marker is read for itself. -/
theorem step_eq (atJoint : state.AtJoint lexis) {c : Char} (noQuote : c ∉ lexis.quotes)
    (noLine : lexis.lineComment ≠ [c]) (noBlock : lexis.blockOpen ≠ [c]) :
    state.step lexis c = { state with previous := [c] }.stepDelimiter c := by
  have hline := completes_eq_false atJoint.lineComment_notBegun noLine
  have hblock := completes_eq_false atJoint.blockOpen_notBegun noBlock
  simp [step, atJoint.mode_eq, stepCode, hline, hblock, noQuote]

theorem step_eq_of_free (atJoint : state.AtJoint lexis) {c : Char} (noQuote : c ∉ lexis.quotes)
    (free : lexis.opensMarker c = false) :
    state.step lexis c = { state with previous := [c] }.stepDelimiter c :=
  atJoint.step_eq noQuote (Lexis.lineComment_ne free) (Lexis.blockOpen_ne free)

end AtJoint

namespace AtCode

/-- Between two pieces of code only the last character is forgotten. -/
theorem forget (atCode : state.AtCode lexis) : { state with previous := [] }.AtCode lexis :=
  { atCode with previous_free := by simp }

theorem note (atCode : state.AtCode lexis) {c : Char} (free : lexis.opensMarker c = false) :
    { state with previous := [c] }.AtCode lexis :=
  { atCode with previous_free := by simpa using free }

/-- A plain character changes no depth. It begins a default value if it is an equals sign outside
of all groups. -/
theorem reads_plain (atCode : state.AtCode lexis) {c : Char} (isPlain : lexis.isPlain c) :
    Reads lexis state [c] (if state.topLevel ∧ c = '=' then some 0 else none)
      { state with previous := [c] } := by
  simp only [Lexis.isPlain, punctuation, Bool.and_eq_true, Bool.not_eq_true', List.contains_eq_mem,
    decide_eq_false_iff_not, List.mem_cons, List.not_mem_nil, or_false, not_or] at isPlain
  obtain ⟨⟨noQuote, hround, hround', hsquare, hsquare', hcurly, hcurly', hcomma⟩, free⟩ := isPlain
  have hstep := atCode.step_eq_of_free noQuote free
  have htop : { state with previous := [c] }.topLevel = state.topLevel := rfl
  by_cases hequals : c = '='
  · subst hequals
    cases hlevel : state.topLevel with
    | true => exact .default (hstep.trans (by simp [stepDelimiter, htop, hlevel])) (.nil _)
    | false => exact .single (hstep.trans (by simp [stepDelimiter, htop, hlevel]))
  · simp only [hequals, and_false, if_false]
    refine .single (hstep.trans ?_)
    unfold stepDelimiter
    split <;> simp_all

/-- A comma in a group separates nothing. -/
theorem reads_comma (atCode : state.AtCode lexis) (coherent : lexis.Coherent)
    (nested : state.topLevel = false) :
    Reads lexis state [','] none { state with previous := [','] } := by
  obtain ⟨noQuote, free⟩ := coherent.punctuation_free ',' (by decide)
  have hnested : { state with previous := [','] }.topLevel = false := nested
  refine .single ((atCode.step_eq_of_free noQuote free).trans ?_)
  simp [stepDelimiter, hnested]

theorem step_separator (atCode : state.AtCode lexis) (coherent : lexis.Coherent)
    (isTop : state.topLevel) :
    state.step lexis ',' = (.separator, { state with previous := [','] }) := by
  obtain ⟨noQuote, free⟩ := coherent.punctuation_free ',' (by decide)
  have htop : { state with previous := [','] }.topLevel := isTop
  rw [atCode.step_eq_of_free noQuote free]
  simp [stepDelimiter, htop]

/-- A closing parenthesis outside of all groups ends the list. -/
theorem step_finish (atCode : state.AtCode lexis) (coherent : lexis.Coherent)
    (isTop : state.topLevel) : ∃ next, state.step lexis ')' = (.finish, next) := by
  obtain ⟨noQuote, free⟩ := coherent.punctuation_free ')' (by decide)
  have hparen : state.paren = 1 := by
    simp only [topLevel, Bool.and_eq_true, beq_iff_eq] at isTop
    exact isTop.1.1
  refine ⟨{ state with previous := [')'], paren := 0 }, ?_⟩
  rw [atCode.step_eq_of_free noQuote free]
  simp [stepDelimiter, hparen]

end AtCode

/-- The body of a literal is read without leaving the literal. -/
theorem reads_literalBody {quote : Char} (quoted : state.mode = .quoted)
    (opened : state.quote = [quote]) {body : List Char} (isBody : isLiteralBody quote body) :
    Reads lexis state body none state := by
  fun_induction isLiteralBody quote body with
  | case1 => exact .nil state
  | case2 => cases isBody
  | case3 c rest ih =>
    -- the backslash leads into the mode for escapes, and the character after it back
    have hescape : state.step lexis '\\' = (.none, { state with mode := .escaped }) := by
      simp [step, quoted]
    refine .cons hescape (.cons ?_ (ih isBody))
    simp [step, ← quoted]
  | case4 c rest notDangling notEscape ih =>
    have hescape : c ≠ '\\' := by
      intro hc
      cases rest with
      | nil => exact notDangling hc rfl
      | cons d rest => exact notEscape d rest hc rfl
    rw [Bool.and_eq_true, bne_iff_ne] at isBody
    refine .cons ?_ (ih isBody.2)
    simp [step, quoted, opened, hescape, Ne.symm isBody.1]

/-- The rest of a comment is read up to the end of its line. -/
theorem reads_lineBody (commented : state.mode = .comment) {body : List Char}
    (isLine : '\n' ∉ body) : Reads lexis state (body ++ ['\n']) none (state.enter .code) := by
  induction body with
  | nil => exact .single (by simp [step, commented])
  | cons c body ih =>
    rw [List.mem_cons, not_or] at isLine
    exact .cons (by simp [step, commented, Ne.symm isLine.1]) (ih isLine.2)

/-- The rest of a comment is read up to its closing marker. -/
theorem reads_blockBody (commented : state.mode = .blockComment) {a b : Char} (differ : a ≠ b)
    (closes : lexis.blockClose = [a, b]) {body : List Char}
    (isInner : ¬ [a, b] <:+: state.previous ++ body) :
    Reads lexis state (body ++ [a, b]) none (state.enter .code) := by
  induction body generalizing state with
  | nil =>
    have hfirst : state.previous ++ [a] ≠ [a, b] := by
      intro h
      have hlast := congrArg List.getLast? h
      simp [differ] at hlast
    have hstep : state.step lexis a = (.none, { state with previous := [a] }) := by
      simp [step, commented, closes, hfirst]
    refine .cons hstep (.single ?_)
    simp [step, commented, closes, enter]
  | cons c body ih =>
    have hopen : state.previous ++ [c] ≠ [a, b] := by
      intro h
      exact isInner ⟨[], body, by simp [← h]⟩
    have hstep : state.step lexis c = (.none, { state with previous := [c] }) := by
      simp [step, commented, closes, hopen]
    refine .cons hstep (@ih { state with previous := [c] } commented ?_)
    intro hinner
    exact isInner (hinner.trans (List.suffix_append _ _).isInfix)

namespace AtJoint

theorem reads_literal (atJoint : state.AtJoint lexis) (coherent : lexis.Coherent) {quote : Char}
    (isQuote : quote ∈ lexis.quotes) {body : List Char} (isBody : isLiteralBody quote body) :
    Reads lexis state (quote :: body ++ [quote]) none { state with previous := [] } := by
  obtain ⟨noEscape, free⟩ := coherent.quotes_free quote isQuote
  have hline := completes_eq_false atJoint.lineComment_notBegun (Lexis.lineComment_ne free)
  have hblock := completes_eq_false atJoint.blockOpen_notBegun (Lexis.blockOpen_ne free)
  have hbody : Reads lexis { state.enter .quoted with quote := [quote] } body none _ :=
    reads_literalBody rfl rfl isBody
  have hopen : state.step lexis quote =
      (.none, { state.enter .quoted with quote := [quote] }) := by
    simp [step, atJoint.mode_eq, stepCode, hline, hblock, isQuote]
  refine .cons hopen (hbody.append_of_none (.single ?_))
  simp [step, enter, noEscape, ← atJoint.mode_eq, ← atJoint.quote_eq]

/-- The first character of a marker of two characters is read for itself. -/
theorem step_markerHead (atJoint : state.AtJoint lexis) (coherent : lexis.Coherent) {c : Char}
    (opens : lexis.opensMarker c) (noLine : lexis.lineComment ≠ [c])
    (noBlock : lexis.blockOpen ≠ [c]) :
    state.step lexis c = (.none, { state with previous := [c] }) := by
  have hfree : c ∉ '=' :: punctuation := fun hc =>
    absurd opens (by simp [(coherent.punctuation_free c hc).2])
  have hquote : c ∉ lexis.quotes := fun hc =>
    absurd opens (by simp [(coherent.quotes_free c hc).2])
  rw [atJoint.step_eq hquote noLine noBlock]
  unfold stepDelimiter
  split <;> simp_all [punctuation]

theorem reads_lineMarker (atJoint : state.AtJoint lexis) (coherent : lexis.Coherent)
    (hasMarker : lexis.lineComment ≠ []) :
    Reads lexis state lexis.lineComment none (state.enter .comment) := by
  have hshort := coherent.lineComment_short
  match hmarker : lexis.lineComment with
  | [] => exact absurd hmarker hasMarker
  | [a] => exact .single (by simp [step, atJoint.mode_eq, stepCode, completes, hmarker])
  | [a, b] =>
    have hblock : lexis.blockOpen ≠ [a] := by
      intro hopen
      have hapart := (coherent.apart hasMarker (by simp [hopen])).2
      simp [hopen, hmarker] at hapart
    have hhead := atJoint.step_markerHead coherent (c := a) (by simp [Lexis.opensMarker, hmarker])
      (by simp [hmarker]) hblock
    refine .cons hhead (.single ?_)
    simp [step, atJoint.mode_eq, stepCode, completes, hmarker, enter]
  | _ :: _ :: _ :: _ => simp [hmarker] at hshort

theorem reads_blockMarker (atJoint : state.AtJoint lexis) (coherent : lexis.Coherent)
    (hasMarker : lexis.blockOpen ≠ []) :
    Reads lexis state lexis.blockOpen none (state.enter .blockComment) := by
  have hshort := coherent.blockOpen_short
  -- the marker of the other comment is looked for first, but it does not occur in this one
  have hline : ∀ marker, marker <:+: lexis.blockOpen → marker ≠ [] →
      lexis.lineComment ≠ marker := by
    rintro _ hinner hne rfl
    exact (coherent.apart hne hasMarker).1 hinner
  match hmarker : lexis.blockOpen with
  | [] => exact absurd hmarker hasMarker
  | [a] =>
    have hnot := completes_eq_false atJoint.lineComment_notBegun
      (hline [a] (by simp [hmarker]) (by simp))
    have hcomplete : state.completes lexis.blockOpen a = true := by simp [completes, hmarker]
    exact .single (by simp [step, atJoint.mode_eq, stepCode, hnot, hcomplete])
  | [a, b] =>
    have hfirst := hline [a] ⟨[], [b], by simp [hmarker]⟩ (by simp)
    have hsecond := hline [b] ⟨[a], [], by simp [hmarker]⟩ (by simp)
    have hboth := hline [a, b] (by simp [hmarker]) (by simp)
    have hhead := atJoint.step_markerHead coherent (c := a) (by simp [Lexis.opensMarker, hmarker])
      hfirst (by simp [hmarker])
    refine .cons hhead (.single ?_)
    simp [step, atJoint.mode_eq, stepCode, completes, hmarker, enter, hsecond, hboth]
  | _ :: _ :: _ :: _ => simp [hmarker] at hshort

theorem reads_lineComment (atJoint : state.AtJoint lexis) (coherent : lexis.Coherent)
    (hasMarker : lexis.lineComment ≠ []) {body : List Char} (isLine : '\n' ∉ body) :
    Reads lexis state (lexis.lineComment ++ body ++ ['\n']) none { state with previous := [] } := by
  have hbody : Reads lexis (state.enter .comment) (body ++ ['\n']) none _ :=
    reads_lineBody rfl isLine
  have hread := (atJoint.reads_lineMarker coherent hasMarker).append_of_none hbody
  simpa [enter, ← atJoint.mode_eq] using hread

theorem reads_blockComment (atJoint : state.AtJoint lexis) (coherent : lexis.Coherent)
    (hasMarker : lexis.blockOpen ≠ []) {body : List Char} (isInner : ¬ lexis.blockClose <:+: body) :
    Reads lexis state (lexis.blockOpen ++ body ++ lexis.blockClose) none
      { state with previous := [] } := by
  obtain ⟨a, b, differ, closes⟩ := coherent.blockClose_pair hasMarker
  have hbody : Reads lexis (state.enter .blockComment) (body ++ [a, b]) none _ :=
    reads_blockBody rfl differ closes (by simpa [enter, ← closes] using isInner)
  have hread := (atJoint.reads_blockMarker coherent hasMarker).append_of_none hbody
  simpa [enter, closes, ← atJoint.mode_eq] using hread

end AtJoint

/-- The state one group deeper. -/
def deepen (state : ScanState) : Bracket → ScanState
  | .round => { state with paren := state.paren + 1 }
  | .square => { state with bracket := state.bracket + 1 }
  | .curly => { state with brace := state.brace + 1 }

theorem deepen_previous (state : ScanState) (first second : List Char) (bracket : Bracket) :
    { { state with previous := first }.deepen bracket with previous := second } =
      { state with previous := second }.deepen bracket := by
  cases bracket <;> rfl

namespace AtCode

theorem deepen (atCode : state.AtCode lexis) (bracket : Bracket) :
    (state.deepen bracket).AtCode lexis := by
  obtain ⟨⟨hmode, hquote, hprevious⟩, hparen, hbracket, hbrace⟩ := atCode
  cases bracket <;> exact ⟨⟨hmode, hquote, hprevious⟩, by simp [ScanState.deepen]; omega,
    by simp [ScanState.deepen]; omega, by simp [ScanState.deepen]; omega⟩

theorem topLevel_deepen (atCode : state.AtCode lexis) (bracket : Bracket) :
    (state.deepen bracket).topLevel = false := by
  have hparen := atCode.paren_pos
  have hbracket := atCode.bracket_nonneg
  have hbrace := atCode.brace_nonneg
  cases bracket <;> simp [ScanState.deepen, topLevel] <;> omega

theorem step_opening (atCode : state.AtCode lexis) (coherent : lexis.Coherent)
    (bracket : Bracket) :
    state.step lexis bracket.opening =
      (.none, { state with previous := [bracket.opening] }.deepen bracket) := by
  obtain ⟨noQuote, free⟩ :=
    coherent.punctuation_free bracket.opening (by cases bracket <;> decide)
  rw [atCode.step_eq_of_free noQuote free]
  cases bracket <;> rfl

/-- Closing a group leads back to the depths before it was opened. -/
theorem step_closing (atCode : state.AtCode lexis) (coherent : lexis.Coherent)
    (bracket : Bracket) :
    (state.deepen bracket).step lexis bracket.closing =
      (.none, { state with previous := [bracket.closing] }) := by
  obtain ⟨noQuote, free⟩ :=
    coherent.punctuation_free bracket.closing (by cases bracket <;> decide)
  rw [(atCode.deepen bracket).toAtJoint.step_eq_of_free noQuote free]
  have hparen := atCode.paren_pos
  have hbracket := atCode.bracket_nonneg
  have hbrace := atCode.brace_nonneg
  cases bracket with
  | round =>
    have hopen : state.paren ≠ 0 := by omega
    simp [ScanState.deepen, stepDelimiter, Bracket.closing, hopen]
  | square =>
    simpa [ScanState.deepen, stepDelimiter, Bracket.closing] using Int.max_eq_right hbracket
  | curly =>
    simpa [ScanState.deepen, stepDelimiter, Bracket.closing] using Int.max_eq_right hbrace

end AtCode

/-- Text without an equals sign that counts, followed by text that is read as one piece. -/
theorem Reads.append_piece {piece text : List Char} {previous : List Char} {cut : Option Nat}
    (reads : Reads lexis state piece none { state with previous })
    (more : ∃ previous', Reads lexis { state with previous } text
        (if state.topLevel then cut else none) { state with previous := previous' } ∧
      { state with previous := previous' }.AtCode lexis) :
    ∃ previous', Reads lexis state (piece ++ text)
        (if state.topLevel then cut.map (· + piece.length) else none)
        { state with previous := previous' } ∧
      { state with previous := previous' }.AtCode lexis := by
  obtain ⟨previous', hmore, hcode⟩ := more
  refine ⟨previous', ?_, hcode⟩
  have hread := reads.append_of_none hmore
  cases htop : state.topLevel <;> simpa [htop] using hread

/-- Balanced text is read as one piece: it changes no depth and separates nothing. Outside of all
groups a default value begins at its first equals sign that counts. -/
theorem reads_code (coherent : lexis.Coherent) {inGroup : Bool} (code : Code lexis inGroup)
    (atCode : state.AtCode lexis) (nested : inGroup = true → state.topLevel = false) :
    ∃ previous, Reads lexis state code.text (if state.topLevel then code.defaultAt? else none)
        { state with previous } ∧
      { state with previous }.AtCode lexis := by
  induction code generalizing state with
  | done => exact ⟨state.previous, by simpa [Code.text, Code.defaultAt?] using .nil state, atCode⟩
  | plain c isPlain rest ih =>
    have hfree : lexis.opensMarker c = false := by simp_all [Lexis.isPlain]
    have hfirst := atCode.reads_plain isPlain
    have hrest := ih (atCode.note hfree) nested
    by_cases hdefault : state.topLevel ∧ c = '='
    · -- the default value begins here, whatever follows
      obtain ⟨previous, hrest, hcode⟩ := hrest
      have hread := hfirst.append hrest
      exact ⟨previous, by simpa [hdefault, Code.text, Code.defaultAt?] using hread, hcode⟩
    · rw [if_neg hdefault] at hfirst
      have hread := hfirst.append_piece hrest
      cases htop : state.topLevel with
      | false => simpa [htop, Code.text] using hread
      | true =>
        have hequals : c ≠ '=' := fun hequals => hdefault ⟨htop, hequals⟩
        simpa [htop, hequals, Code.text, Code.defaultAt?] using hread
  | comma rest ih =>
    have hfree := (coherent.punctuation_free ',' (by decide)).2
    exact (atCode.reads_comma coherent (nested rfl)).append_piece (ih (atCode.note hfree) nested)
  | literal quote isQuote body isBody rest ih =>
    have hread := (atCode.reads_literal coherent isQuote isBody).append_piece
      (ih atCode.forget nested)
    simpa [Code.text, Code.defaultAt?, Nat.add_assoc] using hread
  | lineComment hasMarker body isLine rest ih =>
    have hread := (atCode.reads_lineComment coherent hasMarker isLine).append_piece
      (ih atCode.forget nested)
    simpa [Code.text, Code.defaultAt?, Nat.add_assoc] using hread
  | blockComment hasMarker body isInner rest ih =>
    have hread := (atCode.reads_blockComment coherent hasMarker isInner).append_piece
      (ih atCode.forget nested)
    simpa [Code.text, Code.defaultAt?, Nat.add_assoc] using hread
  | group bracket body rest ihBody ihRest =>
    have hopening := (coherent.punctuation_free bracket.opening (by cases bracket <;> decide)).2
    have hclosing := (coherent.punctuation_free bracket.closing (by cases bracket <;> decide)).2
    have hdeep := (atCode.note hopening).deepen bracket
    have htop := (atCode.note hopening).topLevel_deepen bracket
    obtain ⟨previous, hbody, hinner⟩ := ihBody hdeep fun _ => htop
    rw [htop, deepen_previous] at hbody
    have hinside : { state with previous }.AtCode lexis :=
      { atCode with previous_free := hinner.previous_free }
    have hgroup : Reads lexis state (bracket.opening :: body.text ++ [bracket.closing]) none
        { state with previous := [bracket.closing] } :=
      .cons (atCode.step_opening coherent bracket)
        (hbody.append_of_none (.single (hinside.step_closing coherent bracket)))
    have hread := hgroup.append_piece (ihRest (atCode.note hclosing) nested)
    simpa [Code.text, Code.defaultAt?, Nat.add_assoc] using hread

end Code

/-- Every list begins between two pieces of code, outside of all groups. -/
theorem atCode_start (lexis : Lexis) : ({} : ScanState).AtCode lexis :=
  ⟨⟨rfl, rfl, by simp⟩, by decide, by decide, by decide⟩

end ScanState

/-! ## Lists of arguments -/

section Arguments

open ScanState

variable {lexis : Lexis}

theorem argumentsText_cons_cons (first second : Code lexis false)
    (others : List (Code lexis false)) :
    argumentsText (first :: second :: others) =
      first.text ++ ',' :: argumentsText (second :: others) := by
  simp [argumentsText, List.intercalate]

theorem argumentsText_singleton (argument : Code lexis false) :
    argumentsText [argument] = argument.text := by
  simp [argumentsText, List.intercalate]

/-- A list of balanced arguments is cut at the commas between them and ends with the parenthesis
after them, whatever follows. -/
theorem slotsFrom_arguments (coherent : lexis.Coherent) {state : ScanState}
    (atCode : state.AtCode lexis) (isTop : state.topLevel) (start : Nat)
    (arguments : List (Code lexis false)) (nonempty : arguments ≠ []) (after : List Char) :
    slotsFrom lexis state start none start (argumentsText arguments ++ ')' :: after) =
      argumentSlots start arguments := by
  induction arguments generalizing state start with
  | nil => exact absurd rfl nonempty
  | cons first others ih =>
    obtain ⟨previous, hread, hcode⟩ := reads_code coherent first atCode fun h => nomatch h
    rw [isTop, if_pos rfl] at hread
    have hstop : (first.defaultAt?.map (start + ·)).getD (start + first.text.length) =
        start + first.defaultAt?.getD first.text.length := by
      cases first.defaultAt? <;> rfl
    cases others with
    | nil =>
      obtain ⟨ended, hfinish⟩ := hcode.step_finish coherent isTop
      rw [argumentsText_singleton, slotsFrom_append hread, slotsFrom, hfinish]
      simp [argumentSlots, hstop]
    | cons second others =>
      have hcomma := (coherent.punctuation_free ',' (by decide)).2
      rw [argumentsText_cons_cons, List.append_assoc, slotsFrom_append hread, List.cons_append,
        slotsFrom, hcode.step_separator coherent isTop]
      dsimp only
      rw [ih (hcode.note hcomma) isTop _ (by simp)]
      simp [argumentSlots, hstop]

/-- The slots of a list of balanced arguments. -/
theorem slots_arguments (coherent : lexis.Coherent) (before after : List Char)
    (arguments : List (Code lexis false)) (nonempty : arguments ≠ []) :
    slots lexis (before ++ argumentsText arguments ++ ')' :: after) before.length =
      argumentSlots before.length arguments := by
  rw [slots, List.append_assoc, List.drop_left]
  exact slotsFrom_arguments coherent (atCode_start lexis) rfl before.length arguments nonempty after

/-- The names in slots are those that each of the slots gives, in their order. -/
theorem namesIn_eq_mapM (grammar : Grammar) (source : List Char) (length : Nat)
    (slots : List Slot) :
    grammar.namesIn source length slots =
      (do
        let names ← slots.mapM (grammar.argumentName source length)
        return names.filterMap id) := by
  induction slots with
  | nil => simp [Grammar.namesIn]
  | cons slot slots ih =>
    simp only [Grammar.namesIn, ih, List.mapM_cons, bind_assoc, pure_bind]
    congr 1
    funext name
    congr 1
    funext names
    cases name <;> rfl

/-- A parameter list that consists of balanced arguments is split exactly at the commas between
them. The names that are found in it are those that the grammar finds in the slots of the
arguments, in their order; each slot goes from the beginning of its argument to its first equals
sign outside of literals, comments and groups, or to its end. Nothing after the list is looked
at. -/
theorem scanList_arguments {grammar : Grammar} (isBuiltin : grammar ∈ builtin.map (·.2))
    (before after : List Char) (arguments : List (Code grammar.lexis false))
    (nonempty : arguments ≠ []) (length : Nat) :
    grammar.scanList (before ++ argumentsText arguments ++ ')' :: after) length before.length =
      (do
        let names ← (argumentSlots before.length arguments).mapM
          (grammar.argumentName (before ++ argumentsText arguments ++ ')' :: after) length)
        return names.filterMap id) := by
  rw [Grammar.scanList, slots_arguments (coherent_of_mem_builtin isBuiltin) _ _ _ nonempty,
    namesIn_eq_mapM]

end Arguments

/-- A literal, a comment and a group hide the commas and the equals sign in them, and nothing after
the list counts. -/
theorem scanList_arguments_hidden :
    ∃ arguments : List (Code javascript.lexis false),
      argumentsText arguments = "a/*=,*/=[1,','],b".toList ∧
      javascript ∈ builtin.map (·.2) ∧ arguments ≠ [] ∧
      argumentSlots 2 arguments = [⟨2, 9⟩, ⟨18, 19⟩] ∧
      (javascript.scanList "f(a/*=,*/=[1,','],b)\x7bc,d)".toList 25 2).outcome.toOption =
        some [⟨2, 3, by decide⟩, ⟨18, 19, by decide⟩] := by
  let first : Code javascript.lexis false :=
    .plain 'a' (by decide) <| .blockComment (by decide) ['=', ','] (by decide) <|
      .plain '=' (by decide) <| .group .square (.plain '1' (by decide) <| .comma <|
        .literal '\'' (by decide) [','] (by decide) .done) .done
  let second : Code javascript.lexis false := .plain 'b' (by decide) .done
  have hscan := @scanList_arguments javascript (by simp [builtin]) "f(".toList
    "\x7bc,d)".toList [first, second] (by simp) 25
  have hsource : "f(".toList ++ argumentsText [first, second] ++ ')' :: "\x7bc,d)".toList =
      "f(a/*=,*/=[1,','],b)\x7bc,d)".toList := by decide
  have hbefore : "f(".toList.length = 2 := by decide
  rw [hsource, hbefore] at hscan
  refine ⟨[first, second], by decide, by simp [builtin], by simp, by decide, ?_⟩
  rw [hscan]
  decide +kernel

end Highlighter.Signature
