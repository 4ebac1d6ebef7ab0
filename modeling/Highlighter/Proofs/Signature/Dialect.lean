import Highlighter.Proofs.Regex.Matching
import Highlighter.Proofs.Signature.Balanced

/-!
# How signatures are written

Two of the built-in grammars have headers that begin with a word: `def` in Python, `function` or
`fn` in PHP. This file says how plain signatures of these languages are written, and what the
patterns of the grammars make of them: the header pattern matches the beginning of a signature up to
its parenthesis, and can match only where one of the words is followed by a blank or an opening; the
parameter pattern finds the name of a parameter after its marker.

## Main definitions

* `Name` — an ASCII identifier
* `Dialect` — how the signatures of a language are written
* `Opens` — a word that may begin a header

## Main results

* `Dialect.prefers_header` — the header pattern matches the beginning of a signature
* `Dialect.opens_of_leads_header` — where the header pattern matches, a word of the language opens
  it
* `Dialect.search?_parameter` — the name that the parameter pattern finds
-/

namespace Highlighter.Signature

open Highlighter.Regex Highlighter.Text

/-! ## Names and dialects -/

/-- Whether an identifier may begin with a character. -/
def isInitial (c : Char) : Bool :=
  c.isAlpha || c == '_'

/-- An ASCII identifier. -/
structure Name where
  head : Char
  tail : List Char
  head_isInitial : isInitial head
  tail_isWord : ∀ c ∈ tail, isAsciiWord c

/-- The characters of an identifier. -/
def Name.text (name : Name) : List Char :=
  name.head :: name.tail

/-- The languages with signatures that begin with a word. -/
inductive Dialect where
  | python
  | php
  deriving DecidableEq, Repr

namespace Dialect

/-- The grammar of the language. -/
def grammar : Dialect → Grammar
  | python => Signature.python
  | php => Signature.php

/-- What comes before the name of a function. -/
def opening : Dialect → List Char
  | python => "def ".toList
  | php => "function ".toList

/-- What comes after the parameters of a function. -/
def closing : Dialect → List Char
  | python => "):\n    pass".toList
  | php => ") \x7b\x7d".toList

/-- What may come before a parameter. -/
def markers : Dialect → List (List Char)
  | python => [[], ['*'], ['*', '*']]
  | php => [[], ['&'], ['.', '.', '.'], ['&', '.', '.', '.']]

/-- What comes before the identifier of a parameter and belongs to its name. -/
def sigil : Dialect → List Char
  | python => []
  | php => ['$']

/-- What comes before and after the equals sign of a default value. -/
def gap : Dialect → List Char
  | python => []
  | php => [' ']

/-- The words that begin a header. -/
def words : Dialect → List (List Char)
  | python => ["def".toList]
  | php => ["function".toList, "fn".toList]

end Dialect

/-- A word with blanks after it, or none, and then something that is neither a comma nor an equals
sign nor a closing parenthesis. Without blanks the word must end there. -/
def Opens (word text : List Char) : Prop :=
  ∃ blanks x rest, text = word ++ (blanks ++ x :: rest) ∧ (∀ c ∈ blanks, isBlank c) ∧
    x ∉ [' ', ',', '=', ')'] ∧ (blanks = [] → ¬ isAsciiWord x)

/-! ## Characters -/

theorem toNat_lt_of_isAsciiWord {c : Char} (h : isAsciiWord c) : c.toNat < 128 := by
  have alpha : c.isAlpha = (c.isUpper || c.isLower) := rfl
  have upper : c.isUpper = decide (c.val ≥ 'A'.val ∧ c.val ≤ 'Z'.val) := rfl
  have lower : c.isLower = (decide (c.val ≥ 'a'.val) && decide (c.val ≤ 'z'.val)) := rfl
  simp only [isAsciiWord, Char.isAlphanum, alpha, upper, lower, Char.isDigit, Bool.or_eq_true,
    Bool.and_eq_true, decide_eq_true_eq, beq_iff_eq, UInt32.le_iff_toNat_le, ge_iff_le] at h
  change (((65 ≤ c.toNat ∧ c.toNat ≤ 90) ∨ (97 ≤ c.toNat ∧ c.toNat ≤ 122)) ∨
    (48 ≤ c.toNat ∧ c.toNat ≤ 57)) ∨ c = '_' at h
  rcases h with h | rfl
  · omega
  · decide

/-- What holds of each ASCII character that can stand in a word holds of all of them. -/
theorem forall_isAsciiWord {p : Char → Prop}
    (h : ∀ code < 128, isAsciiWord (Char.ofNat code) → p (Char.ofNat code)) {c : Char}
    (isWord : isAsciiWord c) : p c := by
  have hc := h c.toNat (toNat_lt_of_isAsciiWord isWord)
  rw [Char.ofNat_toNat] at hc
  exact hc isWord

theorem isAsciiWord_of_isInitial {c : Char} (h : isInitial c) : isAsciiWord c := by
  simp only [isInitial, isAsciiWord, Char.isAlphanum, Bool.or_eq_true] at h ⊢
  exact h.imp_left Or.inl

theorem isWord_of_isAsciiWord {c : Char} (h : isAsciiWord c) : isWord c := by
  rw [isWord, if_pos (toNat_lt_of_isAsciiWord h)]
  exact h

theorem not_isBlank_of_isAsciiWord {c : Char} (h : isAsciiWord c) : ¬ isBlank c :=
  @forall_isAsciiWord (fun c => ¬ isBlank c) (by decide) c h

namespace Name

variable (name : Name)

theorem isAsciiWord_of_mem {c : Char} (h : c ∈ name.text) : isAsciiWord c := by
  rcases List.mem_cons.1 h with rfl | h
  · exact isAsciiWord_of_isInitial name.head_isInitial
  · exact name.tail_isWord c h

/-- What holds of all characters with which an identifier may begin. -/
theorem head_induction {p : Char → Prop}
    (h : ∀ code < 128, isInitial (Char.ofNat code) → p (Char.ofNat code)) : p name.head := by
  have hascii := toNat_lt_of_isAsciiWord (isAsciiWord_of_isInitial name.head_isInitial)
  have hhead := h name.head.toNat hascii
  rw [Char.ofNat_toNat] at hhead
  exact hhead name.head_isInitial

end Name

/-! ## The expressions of the patterns -/

open Node

def blankSet : CharSet where
  items := [.category .blank false false]

def wordSet : CharSet where
  items := [.category .word false false]

def initialSet : CharSet where
  items := [.category .word true false, .category .digit false false]
  negated := true

/-- Word characters, and all others from a code point up to the end of the basic plane. -/
def wideWordSet (first : Nat) : CharSet where
  items := [.category .word false false, .range first 65535]

/-- ASCII letters and the underscore, and all characters from a code point up to the end of the
basic plane. -/
def wideInitialSet (first : Nat) : CharSet where
  items := [.range 65 90, .range 97 122, .single 95, .range first 65535]

def blanks : Node :=
  .repeated 0 none .greedy (.chars blankSet)

def optional (node : Node) : Node :=
  .repeated 0 (some 1) .greedy node

/-- What may stand between the name of a Python function and its parenthesis. -/
def typeParameters : Node :=
  .ofList [letter '[', .repeated 0 none .greedy (.chars ⟨[.single 93, .single 10], true, .exact⟩),
    letter ']', blanks]

/-- A comment line. -/
def commentLine : Node :=
  .ofList [blanks, letter '#', .repeated 0 none .greedy (.chars ⟨[.single 10], true, .exact⟩),
    letter '\n']

/-- The header of a Python function. -/
def pythonHeader : Node :=
  .seq (.anchor (.wordEdge false)) (.ofList ("def".toList.map letter ++
    [.repeated 1 none .greedy (.chars blankSet), .chars initialSet,
      .repeated 0 none .greedy (.chars wordSet), blanks, optional typeParameters, letter '(']))

/-- A parameter of a Python function. -/
def pythonParameter : Node :=
  .ofList [.anchor .textStart, .repeated 0 none .greedy commentLine, blanks,
    optional (.seq (letter '*') (.alt (letter '*') .empty)), blanks,
    .group 1 (.seq (.chars initialSet) (.repeated 0 none .greedy (.chars wordSet)))]

/-- What follows the first letter of a named PHP function, up to its parenthesis. -/
def functionRest : Node :=
  .ofList ("unction".toList.map letter ++
    [.anchor (.wordEdge false), blanks, optional (letter '&'), blanks,
      optional (.ofList [.chars (wideInitialSet 128),
        .repeated 0 none .greedy (.chars (wideWordSet 128)), blanks])])

/-- The header of a PHP function. -/
def phpHeader : Node :=
  .ofList [.anchor (.wordEdge false), letter 'f', .alt functionRest (.seq (letter 'n') blanks),
    letter '(']

/-- A parameter of a PHP function. -/
def phpParameter : Node :=
  .ofList [optional (.seq (letter '&') blanks),
    optional (.ofList ("...".toList.map letter ++ [blanks])),
    .group 1 (.ofList [letter '$', .chars (wideInitialSet 127),
      .repeated 0 none .greedy (.chars (wideWordSet 127))])]

/-- The header pattern of a language as an expression. -/
def Dialect.headerNode : Dialect → Node
  | .python => pythonHeader
  | .php => phpHeader

/-- The parameter pattern of a language as an expression. -/
def Dialect.parameterNode : Dialect → Node
  | .python => pythonParameter
  | .php => phpParameter

theorem Dialect.node_header (dialect : Dialect) :
    dialect.grammar.header.node = dialect.headerNode := by
  cases dialect <;> decide +kernel

theorem Dialect.node_parameter (dialect : Dialect) :
    dialect.grammar.parameter.node = dialect.parameterNode := by
  cases dialect <;> decide +kernel

theorem Dialect.groupNumber?_name (dialect : Dialect) :
    dialect.grammar.parameter.groupNumber? "name" = some 1 := by
  cases dialect <;> decide +kernel

/-! ## Steps of the patterns -/

section Steps

open Cursor (between)

variable {before after taken : List Char} {captures : List (Nat × Capture)} {state reached : State}

theorem holds_blankSet (c : Char) : blankSet.holds c = isBlank c := by
  simp [blankSet, CharSet.holds, CharItem.holds, Category.holds]

theorem letter_nowhere {c d : Char} (differ : c ≠ d) (reached : State) :
    ¬ (letter d).Leads ⟨between before (c :: after), captures⟩ reached := by
  intro h
  obtain ⟨x, hafter, -, hholds⟩ := exists_of_leads_chars h
  obtain ⟨rfl, -⟩ := List.cons.inj hafter
  exact differ (holds_single.1 hholds)

theorem of_leads_letter {c : Char} (h : (letter c).Leads state reached) :
    state.cursor.after = c :: reached.cursor.after := by
  obtain ⟨d, hafter, -, hholds⟩ := exists_of_leads_chars h
  rw [hafter, holds_single.1 hholds]

/-- All blanks are passed. -/
theorem prefers_blanks (taken after : List Char) (isBlank : ∀ c ∈ taken, Text.isBlank c)
    (maximal : ∀ c ∈ after.head?, ¬ Text.isBlank c) :
    blanks.Prefers ⟨between before (taken ++ after), captures⟩
      ⟨between (taken.reverse ++ before) after, captures⟩ :=
  prefers_repeated_chars taken after (by simpa only [holds_blankSet] using isBlank)
    (Nat.zero_le _) (by simpa only [holds_blankSet] using maximal)

theorem prefers_no_blanks (maximal : ∀ c ∈ after.head?, ¬ Text.isBlank c) :
    blanks.Prefers ⟨between before after, captures⟩ ⟨between before after, captures⟩ :=
  prefers_blanks [] after (by simp) maximal

theorem exists_of_leads_blanks (h : blanks.Leads state reached) :
    ∃ taken, state.cursor.after = taken ++ reached.cursor.after ∧ ∀ c ∈ taken, isBlank c := by
  obtain ⟨taken, hafter, hholds, -⟩ := exists_of_leads_repeated_chars h
  exact ⟨taken, hafter, by simpa only [holds_blankSet] using hholds⟩

end Steps

namespace Name

open Cursor (between)

variable (name : Name) {before : List Char} {captures : List (Nat × Capture)}

theorem head_not_isBlank : ¬ isBlank name.head :=
  not_isBlank_of_isAsciiWord (isAsciiWord_of_isInitial name.head_isInitial)

/-- A name is matched as a whole by a set for its first character and one for the others. -/
theorem prefers_text {initial others : CharSet} (hinitial : initial.holds name.head)
    (hothers : ∀ c ∈ name.tail, others.holds c) (after : List Char)
    (maximal : ∀ c ∈ after.head?, ¬ others.holds c) :
    (Node.seq (.chars initial) (.repeated 0 none .greedy (.chars others))).Prefers
      ⟨between before (name.text ++ after), captures⟩
      ⟨between (name.text.reverse ++ before) after, captures⟩ := by
  have htail := @prefers_repeated_chars others 0 (name.head :: before) captures name.tail after
    hothers (Nat.zero_le _) maximal
  have hmoved : name.text.reverse ++ before = name.tail.reverse ++ name.head :: before := by
    simp [text]
  rw [hmoved]
  exact .seq (prefers_chars hinitial) htail

theorem holds_head_initialSet : initialSet.holds name.head :=
  name.head_induction (p := fun c => initialSet.holds c) (by decide)

theorem holds_tail_wordSet {c : Char} (h : c ∈ name.tail) : wordSet.holds c := by
  simpa [wordSet, CharSet.holds, CharItem.holds, Category.holds] using
    isWord_of_isAsciiWord (name.tail_isWord c h)

end Name

/-! ## Headers -/

section Headers

open Cursor (between)

/-- The header pattern matches a signature up to the parenthesis of its parameters. -/
theorem prefers_header_python (name : Name) (after : List Char) :
    pythonHeader.Prefers ⟨between [] ("def ".toList ++ name.text ++ '(' :: after), []⟩
      ⟨between ("def ".toList ++ name.text ++ ['(']).reverse after, []⟩ := by
  have hedge : (Anchor.wordEdge false).holds
      (between [] ("def ".toList ++ name.text ++ '(' :: after)) := by
    simpa [Anchor.holds, Cursor.wordEdge] using (by decide : isWord 'd' = true)
  have hblank : (Node.repeated 1 none .greedy (.chars blankSet)).Prefers
      ⟨between "fed".toList (' ' :: (name.text ++ '(' :: after)), []⟩
      ⟨between " fed".toList (name.text ++ '(' :: after), []⟩ :=
    prefers_repeated_chars [' '] (name.text ++ '(' :: after) (by decide) (by decide)
      (by simpa [Name.text, holds_blankSet] using name.head_not_isBlank)
  have hname := @Name.prefers_text name " fed".toList [] initialSet wordSet
    name.holds_head_initialSet (fun c => name.holds_tail_wordSet) ('(' :: after)
    (by simpa using (by decide : wordSet.holds '(' = false))
  have hopening : (letter '(').Prefers
      ⟨between (name.text.reverse ++ " fed".toList) ('(' :: after), []⟩
      ⟨between ('(' :: (name.text.reverse ++ " fed".toList)) after, []⟩ :=
    prefers_chars (holds_single.2 rfl)
  have hreached : ("def ".toList ++ name.text ++ ['(']).reverse =
      '(' :: (name.text.reverse ++ " fed".toList) := by
    simp
  rw [hreached]
  refine .seq (prefers_anchor hedge) (prefers_letters "def".toList (by simp) ?_)
  refine .seq hblank (.assoc (.seq hname (.seq (prefers_no_blanks ?_) (.seq (prefers_skip ?_) ?_))))
  · simpa using (by decide : isBlank '(' = false)
  · rintro reached ⟨middle, hletter, -⟩
    exact letter_nowhere (by decide) middle hletter
  · exact hopening

theorem prefers_functionRest (name : Name) (after : List Char) :
    functionRest.Prefers ⟨between ['f'] ("unction ".toList ++ name.text ++ '(' :: after), []⟩
      ⟨between (name.text.reverse ++ " noitcnuf".toList) ('(' :: after), []⟩ := by
  have hopening : ∀ c ∈ ('(' :: after).head?, ¬ isBlank c := by
    simpa using (by decide : isBlank '(' = false)
  have hhead : ∀ c ∈ (name.text ++ '(' :: after).head?, ¬ isBlank c := by
    simpa [Name.text] using name.head_not_isBlank
  have hedge : (Anchor.wordEdge false).holds
      (between "noitcnuf".toList (' ' :: (name.text ++ '(' :: after))) := by
    simpa [Anchor.holds, Cursor.wordEdge] using
      (by decide : ¬ (isWord 'n' ↔ isWord ' '))
  have hname := @Name.prefers_text name " noitcnuf".toList [] (wideInitialSet 128)
    (wideWordSet 128) (name.head_induction (p := fun c => (wideInitialSet 128).holds c) (by decide))
    (fun c hc => by simp [wideWordSet, CharSet.holds, CharItem.holds, Category.holds,
      isWord_of_isAsciiWord (name.tail_isWord c hc)]) ('(' :: after)
    (by simpa using (by decide : (wideWordSet 128).holds '(' = false))
  have hampersand : name.head ≠ '&' := name.head_induction (p := fun c => c ≠ '&') (by decide)
  refine prefers_letters "unction".toList (by simp) (.seq (prefers_anchor hedge) ?_)
  refine .seq (prefers_blanks [' '] (name.text ++ '(' :: after) (by decide) hhead) ?_
  refine .seq (prefers_skip (letter_nowhere hampersand)) (.seq (prefers_no_blanks hhead) ?_)
  exact .optional (.assoc (.seq hname (prefers_no_blanks hopening)))

/-- The header pattern matches a signature up to the parenthesis of its parameters. -/
theorem prefers_header_php (name : Name) (after : List Char) :
    phpHeader.Prefers ⟨between [] ("function ".toList ++ name.text ++ '(' :: after), []⟩
      ⟨between ("function ".toList ++ name.text ++ ['(']).reverse after, []⟩ := by
  have hedge : (Anchor.wordEdge false).holds
      (between [] ("function ".toList ++ name.text ++ '(' :: after)) := by
    simpa [Anchor.holds, Cursor.wordEdge] using (by decide : isWord 'f' = true)
  have hreached : ("function ".toList ++ name.text ++ ['(']).reverse =
      '(' :: (name.text.reverse ++ " noitcnuf".toList) := by
    simp
  rw [hreached]
  refine .seq (prefers_anchor hedge) (.seq (prefers_chars (holds_single.2 rfl)) ?_)
  exact .seq (.alt (prefers_functionRest name after)) (prefers_chars (holds_single.2 rfl))

/-- A header pattern can match only where its word is followed by a blank and an identifier. -/
theorem opens_of_leads_header_python {state reached : State}
    (h : pythonHeader.Leads state reached) : Opens "def".toList state.cursor.after := by
  obtain ⟨edge, ⟨-, rfl⟩, hletters⟩ := h
  obtain ⟨word, hword, -, blanked, hblank, next, hinitial, -⟩ :=
    exists_of_leads_letters "def".toList (by simp) hletters
  obtain ⟨taken, htaken, hblanks, hsome⟩ := exists_of_leads_repeated_chars hblank
  obtain ⟨x, hx, -, hholds⟩ := exists_of_leads_chars hinitial
  refine ⟨taken, x, next.cursor.after, by rw [hword, htaken, hx], ?_, ?_, ?_⟩
  · simpa only [holds_blankSet] using hblanks
  · intro hmem
    have hclosed : ∀ c ∈ [' ', ',', '=', ')'], initialSet.holds c = false := by decide
    simp [hclosed x hmem] at hholds
  · rintro rfl
    simp at hsome

theorem opens_of_leads_functionRest {after : List Char} {state reached : State}
    (h : functionRest.Leads state reached) (hopening : reached.cursor.after = '(' :: after) :
    Opens "unction".toList state.cursor.after := by
  obtain ⟨word, hword, hbefore, edge, ⟨hedge, rfl⟩, first, hfirst, mark, hmark, second, hsecond,
    hname⟩ := exists_of_leads_letters "unction".toList (by simp) h
  obtain ⟨taken, htaken, hblank⟩ := exists_of_leads_blanks hfirst
  -- no character of a word follows the word itself
  have hends : ∀ x rest, edge.cursor.after = x :: rest → ¬ isAsciiWord x := by
    intro x rest hx hxword
    have hn : isWord 'n' = true := by decide
    simp [Anchor.holds, Cursor.wordEdge, hbefore, hx, hn, isWord_of_isAsciiWord hxword] at hedge
  have hopens : ∀ x rest blanks, edge.cursor.after = blanks ++ x :: rest →
      (∀ c ∈ blanks, isBlank c) → x ∉ [' ', ',', '=', ')'] →
      Opens "unction".toList state.cursor.after := by
    intro x rest blanks hafter hblanks hx
    refine ⟨blanks, x, rest, by rw [hword, hafter], hblanks, hx, ?_⟩
    rintro rfl
    exact hends x rest hafter
  rcases eq_or_leads_of_leads_optional hmark with rfl | hmark
  · obtain ⟨others, hothers, hblank'⟩ := exists_of_leads_blanks hsecond
    have hblanks : ∀ c ∈ taken ++ others, isBlank c := by
      intro c hc
      exact (List.mem_append.1 hc).elim (hblank c) (hblank' c)
    have hafter : edge.cursor.after = taken ++ others ++ second.cursor.after := by
      rw [htaken, hothers, List.append_assoc]
    rcases eq_or_leads_of_leads_optional hname with rfl | ⟨next, hinitial, -⟩
    · rw [hopening] at hafter
      exact hopens _ _ _ hafter hblanks (by decide)
    · obtain ⟨x, hx, -, hholds⟩ := exists_of_leads_chars hinitial
      rw [hx] at hafter
      refine hopens _ _ _ hafter hblanks ?_
      intro hmem
      have hclosed : ∀ c ∈ [' ', ',', '=', ')'], (wideInitialSet 128).holds c = false := by decide
      simp [hclosed x hmem] at hholds
  · rw [of_leads_letter hmark] at htaken
    exact hopens _ _ _ htaken hblank (by decide)

theorem Opens.cons {word text : List Char} (c : Char) (h : Opens word text) :
    Opens (c :: word) (c :: text) := by
  obtain ⟨blanks, x, rest, rfl, hblanks, hx, hends⟩ := h
  exact ⟨blanks, x, rest, rfl, hblanks, hx, hends⟩

/-- A header pattern can match only where one of its words is followed by blanks and an opening. -/
theorem opens_of_leads_header_php {state reached : State} (h : phpHeader.Leads state reached) :
    ∃ word ∈ ["function".toList, "fn".toList], Opens word state.cursor.after := by
  obtain ⟨edge, ⟨-, rfl⟩, first, hfirst, last, hrest, hopening⟩ := h
  have hopening := of_leads_letter hopening
  rw [of_leads_letter hfirst]
  rcases hrest with hrest | ⟨second, hsecond, hblanks⟩
  · exact ⟨_, by simp, (opens_of_leads_functionRest hrest hopening).cons 'f'⟩
  · obtain ⟨taken, htaken, hblank⟩ := exists_of_leads_blanks hblanks
    have hafter : 'f' :: first.cursor.after =
        "fn".toList ++ (taken ++ '(' :: reached.cursor.after) := by
      rw [of_leads_letter hsecond, htaken, hopening]
      rfl
    exact ⟨_, by simp, taken, '(', _, hafter, hblank, by decide, fun _ => by decide⟩

end Headers

/-! ## Parameters -/

section Parameters

open Cursor (between)

variable {lead marker : List Char}

/-- The state after the name of a parameter, which is matched as the first group. -/
def nameState (before name after : List Char) : State :=
  State.record ⟨between (name.reverse ++ before) after, []⟩ 1 (between before (name ++ after))

theorem capture?_nameState (before name after : List Char) :
    ∃ text, (nameState before name after).capture? 1 =
      some ⟨before.length, before.length + name.length, text⟩ :=
  ⟨_, by simp [nameState, State.record, State.capture?, Nat.add_comm]; rfl⟩

/-- Without a number sign there is no comment. -/
theorem commentLine_nowhere {text : List Char} (free : '#' ∉ text) (reached : State) :
    ¬ commentLine.Leads ⟨between [] text, []⟩ reached := by
  rintro ⟨middle, hblanks, next, hmark, -⟩
  obtain ⟨taken, htaken, -⟩ := exists_of_leads_blanks hblanks
  rw [of_leads_letter hmark] at htaken
  apply free
  rw [show text = _ from htaken]
  simp

theorem prefers_letter {c : Char} {before after : List Char} :
    (letter c).Prefers ⟨between before (c :: after), []⟩ ⟨between (c :: before) after, []⟩ :=
  prefers_chars (holds_single.2 rfl)

/-- Stars are passed. -/
theorem prefers_stars (isMarker : marker ∈ Dialect.python.markers) (name : Name)
    (before : List Char) :
    (optional (.seq (letter '*') (.alt (letter '*') .empty))).Prefers
      ⟨between before (marker ++ name.text), []⟩
      ⟨between (marker.reverse ++ before) name.text, []⟩ := by
  have hstar : name.head ≠ '*' := name.head_induction (p := fun c => c ≠ '*') (by decide)
  have hmarkers : marker = [] ∨ marker = ['*'] ∨ marker = ['*', '*'] := by
    simpa [Dialect.markers] using isMarker
  rcases hmarkers with rfl | rfl | rfl
  · apply prefers_skip
    rintro reached ⟨middle, hleads, -⟩
    exact letter_nowhere hstar middle hleads
  · exact .optional (.seq prefers_letter (.alt_of_nowhere (letter_nowhere hstar) prefers_empty))
  · exact .optional (.seq prefers_letter (.alt prefers_letter))

/-- Neither a marker nor a name has blanks. -/
theorem Dialect.not_isBlank_of_mem {dialect : Dialect} (isMarker : marker ∈ dialect.markers)
    (name : Name) {c : Char} (h : c ∈ marker ++ (dialect.sigil ++ name.text)) : ¬ isBlank c := by
  have hmarker : ∀ marker ∈ dialect.markers, ∀ c ∈ marker ++ dialect.sigil, ¬ isBlank c := by
    cases dialect <;> decide
  rw [← List.append_assoc] at h
  rcases List.mem_append.1 h with h | h
  · exact hmarker marker isMarker c h
  · exact not_isBlank_of_isAsciiWord (name.isAsciiWord_of_mem h)

theorem prefers_parameter_python (isLead : lead ∈ [[], [' ']])
    (isMarker : marker ∈ Dialect.python.markers) (name : Name) :
    pythonParameter.Prefers ⟨between [] (lead ++ (marker ++ name.text)), []⟩
      (nameState (marker.reverse ++ lead.reverse) name.text []) := by
  have hsolid : ∀ c ∈ marker ++ name.text, ¬ isBlank c :=
    fun c => Dialect.not_isBlank_of_mem isMarker name
  have hcomment : '#' ∉ lead ++ (marker ++ name.text) := by
    have hlead : ∀ lead ∈ [[], [' ']], '#' ∉ lead := by decide
    have hmarker : ∀ marker ∈ Dialect.python.markers, '#' ∉ marker := by decide
    have hname : '#' ∉ name.text := fun h => absurd (name.isAsciiWord_of_mem h) (by decide)
    simp [hlead lead isLead, hmarker marker isMarker, hname]
  have hblanks : blanks.Prefers ⟨between [] (lead ++ (marker ++ name.text)), []⟩
      ⟨between lead.reverse (marker ++ name.text), []⟩ := by
    have hlead : ∀ lead ∈ [[], [' ']], ∀ c ∈ lead, isBlank c := by decide
    have hmoved := @prefers_blanks [] [] lead (marker ++ name.text) (hlead lead isLead)
      fun c hc => hsolid c (List.mem_of_mem_head? hc)
    rwa [List.append_nil] at hmoved
  have hnone : blanks.Prefers ⟨between (marker.reverse ++ lead.reverse) name.text, []⟩
      ⟨between (marker.reverse ++ lead.reverse) name.text, []⟩ :=
    prefers_no_blanks fun c hc => hsolid c (List.mem_append_right _ (List.mem_of_mem_head? hc))
  have hname := @Name.prefers_text name (marker.reverse ++ lead.reverse) [] initialSet wordSet
    name.holds_head_initialSet (fun c => name.holds_tail_wordSet) [] (by simp)
  rw [List.append_nil] at hname
  refine .seq (prefers_anchor rfl) (.seq (prefers_skip (commentLine_nowhere hcomment)) ?_)
  exact .seq hblanks (.seq (prefers_stars isMarker name lead.reverse) (.seq hnone hname.group))

/-- Dots with blanks after them, or nothing at all. -/
def IsDots (dots : List Char) : Prop :=
  dots = [] ∨ ∃ taken, dots = "...".toList ++ taken ∧ ∀ c ∈ taken, isBlank c

/-- Dots are passed. -/
theorem prefers_dots {dots : List Char} (isDots : IsDots dots) {c : Char} (noDot : c ≠ '.')
    (solid : ¬ isBlank c) (before after : List Char) :
    (optional (.ofList ("...".toList.map letter ++ [blanks]))).Prefers
      ⟨between before (dots ++ c :: after), []⟩
      ⟨between (dots.reverse ++ before) (c :: after), []⟩ := by
  rcases isDots with rfl | ⟨taken, rfl, areBlank⟩
  · apply prefers_skip
    rintro reached ⟨middle, hleads, -⟩
    exact letter_nowhere noDot middle hleads
  · rw [List.append_assoc, List.reverse_append, List.append_assoc]
    refine .optional (prefers_letters "...".toList (by simp) ?_)
    exact prefers_blanks taken (c :: after) areBlank (by simpa using solid)

/-- An ampersand is passed. -/
theorem prefers_ampersand {mark : List Char} (isMark : mark = [] ∨ mark = ['&'])
    {before after : List Char} {c : Char} (hc : c ≠ '&') (solid : ¬ isBlank c) :
    (optional (.seq (letter '&') blanks)).Prefers ⟨between before (mark ++ c :: after), []⟩
      ⟨between (mark.reverse ++ before) (c :: after), []⟩ := by
  rcases isMark with rfl | rfl
  · apply prefers_skip
    rintro reached ⟨middle, hleads, -⟩
    exact letter_nowhere hc middle hleads
  · exact .optional (.seq prefers_letter (prefers_no_blanks (by simpa using solid)))

theorem prefers_parameter_php (isMarker : marker ∈ Dialect.php.markers) (name : Name)
    {trail : List Char} (isTrail : trail ∈ [[], [' ']]) (before : List Char) :
    phpParameter.Prefers ⟨between before (marker ++ ('$' :: name.text ++ trail)), []⟩
      (nameState (marker.reverse ++ before) ('$' :: name.text) trail) := by
  obtain ⟨mark, dots, rfl, hmark, hdots⟩ : ∃ mark dots : List Char, marker = mark ++ dots ∧
      (mark = [] ∨ mark = ['&']) ∧ (dots = [] ∨ dots = ['.', '.', '.']) := by
    have hmarkers : marker = [] ∨ marker = ['&'] ∨ marker = ['.', '.', '.'] ∨
        marker = ['&', '.', '.', '.'] := by
      simpa [Dialect.markers] using isMarker
    rcases hmarkers with rfl | rfl | rfl | rfl
    · exact ⟨[], [], by simp⟩
    · exact ⟨['&'], [], by simp⟩
    · exact ⟨[], ['.', '.', '.'], by simp⟩
    · exact ⟨['&'], ['.', '.', '.'], by simp⟩
  have hampersand : (optional (.seq (letter '&') blanks)).Prefers
      ⟨between before (mark ++ (dots ++ '$' :: (name.text ++ trail))), []⟩
      ⟨between (mark.reverse ++ before) (dots ++ '$' :: (name.text ++ trail)), []⟩ := by
    rcases hdots with rfl | rfl
    · exact prefers_ampersand hmark (by decide) (by decide)
    · exact prefers_ampersand hmark (by decide) (by decide)
  have hmaximal : ∀ c ∈ trail.head?, ¬ (wideWordSet 127).holds c := by
    have hspaces : ∀ trail ∈ [[], [' ']], ∀ c ∈ trail, ¬ (wideWordSet 127).holds c := by decide
    exact fun c hc => hspaces trail isTrail c (List.mem_of_mem_head? hc)
  have hname := @Name.prefers_text name ('$' :: (dots.reverse ++ (mark.reverse ++ before))) []
    (wideInitialSet 127) (wideWordSet 127)
    (name.head_induction (p := fun c => (wideInitialSet 127).holds c) (by decide))
    (fun c hc => by simp [wideWordSet, CharSet.holds, CharItem.holds, Category.holds,
      isWord_of_isAsciiWord (name.tail_isWord c hc)]) trail hmaximal
  have hgroup : (Node.ofList [letter '$', .chars (wideInitialSet 127),
      .repeated 0 none .greedy (.chars (wideWordSet 127))]).Prefers
      ⟨between (dots.reverse ++ (mark.reverse ++ before)) ('$' :: (name.text ++ trail)), []⟩ _ :=
    .seq prefers_letter hname
  have isDots : IsDots dots := hdots.imp_right fun h => ⟨[], h, by simp⟩
  refine .seq (by simpa using hampersand)
    (.seq (prefers_dots isDots (by decide) (by decide) _ _) ?_)
  simpa [nameState, Node.ofList] using hgroup.group

theorem phpParameter_nowhere (before after : List Char) (reached : State) :
    ¬ phpParameter.Leads ⟨between before (' ' :: after), []⟩ reached := by
  rintro ⟨marked, hmark, dotted, hdots, inner, ⟨next, hsigil, -⟩, -⟩
  rcases eq_or_leads_of_leads_optional hmark with rfl | ⟨middle, hmark, -⟩
  · rcases eq_or_leads_of_leads_optional hdots with rfl | ⟨middle, hdots, -⟩
    · exact letter_nowhere (by decide) next hsigil
    · exact letter_nowhere (by decide) middle hdots
  · exact letter_nowhere (by decide) middle hmark

end Parameters

namespace Dialect

open Cursor (between)

variable (dialect : Dialect)

/-- The header pattern matches the beginning of a signature up to the parenthesis of its
parameters. -/
theorem prefers_header (name : Name) (after : List Char) :
    dialect.headerNode.Prefers ⟨between [] (dialect.opening ++ name.text ++ '(' :: after), []⟩
      ⟨between (dialect.opening ++ name.text ++ ['(']).reverse after, []⟩ := by
  cases dialect with
  | python => exact prefers_header_python name after
  | php => exact prefers_header_php name after

/-- Where the header pattern matches, a word of the language opens a header. -/
theorem opens_of_leads_header {state reached : State}
    (h : dialect.headerNode.Leads state reached) :
    ∃ word ∈ dialect.words, Opens word state.cursor.after := by
  cases dialect with
  | python => exact ⟨_, List.mem_singleton.2 rfl, opens_of_leads_header_python h⟩
  | php => exact opens_of_leads_header_php h

/-- The parameter pattern finds the name of a parameter after its marker. -/
theorem search?_parameter {lead marker trail : List Char} (isLead : lead ∈ [[], [' ']])
    (isMarker : marker ∈ dialect.markers) (name : Name) (isTrail : trail ∈ [[], dialect.gap]) :
    ∃ found, dialect.parameterNode.search? false
        (.start (lead ++ marker ++ (dialect.sigil ++ name.text) ++ trail)) = some found ∧
      found.final = nameState (lead ++ marker).reverse (dialect.sigil ++ name.text) trail := by
  cases dialect with
  | python =>
    obtain rfl : trail = [] := by simpa [gap] using isTrail
    have hprefers := prefers_parameter_python isLead isMarker name
    have htext : lead ++ marker ++ (python.sigil ++ name.text) ++ [] =
        lead ++ (marker ++ name.text) := by
      simp [sigil]
    rw [htext, List.reverse_append, Cursor.start_eq_between]
    exact ⟨_, search?_of_prefers hprefers, rfl⟩
  | php =>
    have hprefers := prefers_parameter_php isMarker name isTrail lead.reverse
    have htext : lead ++ marker ++ (php.sigil ++ name.text) ++ trail =
        lead ++ (marker ++ ('$' :: name.text ++ trail)) := by
      simp [sigil]
    rw [htext, List.reverse_append, Cursor.start_eq_between]
    -- the pattern does not begin with a blank, so the one before the marker is passed over
    have hleads : lead = [] ∨ lead = [' '] := by simpa using isLead
    rcases hleads with rfl | rfl
    · exact ⟨_, search?_of_prefers hprefers, rfl⟩
    · have hpassed := search?_cons
        (phpParameter_nowhere [] (marker ++ ('$' :: name.text ++ trail))) false
      exact ⟨_, hpassed.trans (search?_of_prefers hprefers), rfl⟩

end Dialect

end Highlighter.Signature
