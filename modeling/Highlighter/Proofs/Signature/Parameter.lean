import Highlighter.Proofs.Regex.Repetition
import Highlighter.Proofs.Signature.Dialect
import Highlighter.Proofs.Signature.SlotState

/-!
# What the parameter patterns find

A parameter pattern passes over what may come before a name and takes the name. What it passes over
depends on the language. In Python these are comment lines, blanks and stars, which leave the
reading of a list in code. In PHP it is all text before the first variable. In JavaScript these are
comments, blanks and dots; but the pattern may also go back into a block comment and leave it at a
later closing marker, and it does so whenever no name follows otherwise.

## Main definitions

* `FindsName` — the name that a match stands for, with the text before and after it
* `Varies` — the beginning of a PHP variable
* `Introduction` — comments, blanks and dots before a JavaScript name
* `Overruns`, `Unnamed` — a comment is left too late; no name follows an introduction

## Main results

* `exists_findsName_python` — what comes before a name in Python is neutral
* `exists_findsName_php` — the name in PHP is the first variable
* `exists_findsName_javascript` — the name in JavaScript follows an introduction, if any name does
-/

namespace Highlighter.Signature

open Highlighter.Regex Highlighter.Text Node

/-! ## The name that is found -/

/-- The parameter pattern of a grammar finds a name in a text, after what it passes over. -/
structure FindsName (grammar : Grammar) (found : Match) (text passed name rest : List Char) :
    Prop where
  text_eq : text = passed ++ (name ++ rest)
  nonempty : name ≠ []
  ordinary : ∀ c ∈ name, c ∉ grammar.lexis.specials
  offsets_eq : nameOffsets grammar.parameter found =
    .ok (passed.length, (passed.length + name.length : Nat))

theorem groupNumber?_name {grammar : Grammar} (isBuiltin : grammar ∈ builtin.map (·.2)) :
    grammar.parameter.groupNumber? "name" = some 1 := by
  simp only [builtin, List.map_cons, List.map_nil, List.mem_cons, List.not_mem_nil, or_false]
    at isBuiltin
  rcases isBuiltin with rfl | rfl | rfl
  · decide +kernel
  · exact Dialect.php.groupNumber?_name
  · exact Dialect.python.groupNumber?_name

theorem capture?_record (state : State) (index : Nat) (start : Cursor) :
    (state.record index start).capture? index =
      some ⟨start.offset, state.cursor.offset, state.cursor.textSince start.offset⟩ := by
  simp [State.record, State.capture?]

/-- A group records what it leads past. -/
theorem capture?_of_leads_group {index : Nat} {body : Node} {state reached : State}
    {taken : List Char} (h : (group index body).Leads state reached)
    (hafter : state.cursor.after = taken ++ reached.cursor.after) :
    ∃ text, reached.capture? index =
      some ⟨state.cursor.offset, state.cursor.offset + taken.length, text⟩ := by
  obtain ⟨inner, hinner, rfl⟩ := h
  have hbefore := hinner.precedes.before_eq hafter
  have hoffset : inner.cursor.offset = state.cursor.offset + taken.length := by
    rw [inner.cursor.offset_eq, hbefore, state.cursor.offset_eq]
    simp [Nat.add_comm]
  exact ⟨_, by rw [capture?_record, hoffset]⟩

/-- A name is found where the pattern has led to its group. -/
theorem FindsName.of_leads {grammar : Grammar} (isBuiltin : grammar ∈ builtin.map (·.2))
    {found : Match} {text passed name : List Char} {body : Node} {middle : State}
    (hgroup : (group 1 body).Leads middle found.final) (proper : found.Proper text)
    (hpassed : text = passed ++ middle.cursor.after)
    (hname : middle.cursor.after = name ++ found.final.cursor.after) (nonempty : name ≠ [])
    (ordinary : ∀ c ∈ name, c ∉ grammar.lexis.specials) :
    FindsName grammar found text passed name found.final.cursor.after := by
  refine ⟨by rw [hpassed, hname], nonempty, ordinary, ?_⟩
  have htext : middle.cursor.text = text := hgroup.precedes.text_eq.symm.trans proper.text_eq
  rw [Cursor.text, hpassed] at htext
  have hoffset : middle.cursor.offset = passed.length := by
    rw [middle.cursor.offset_eq, ← List.append_cancel_right htext, List.length_reverse]
  obtain ⟨capture, hcapture⟩ := capture?_of_leads_group hgroup hname
  simp [nameOffsets, groupNumber?_name isBuiltin, hcapture, hoffset]

/-- An identifier consists of a first character and others. -/
theorem exists_of_leads_identifier {initial others : CharSet} {state reached : State}
    (h : (seq (chars initial) (repeated 0 none .greedy (chars others))).Leads state reached) :
    ∃ c tail, state.cursor.after = c :: tail ++ reached.cursor.after ∧ initial.holds c ∧
      ∀ d ∈ tail, others.holds d := by
  obtain ⟨middle, hinitial, hothers⟩ := h
  obtain ⟨c, hc, -, hholds⟩ := exists_of_leads_chars hinitial
  obtain ⟨tail, htail, hall, -⟩ := exists_of_leads_repeated_chars hothers
  exact ⟨c, tail, by rw [hc, htail, List.cons_append], hholds, hall⟩

/-- An identifier is taken as a whole. -/
theorem prefers_identifier {initial others : CharSet} {before rest : List Char} {c : Char}
    (hc : initial.holds c) :
    (seq (chars initial) (repeated 0 none .greedy (chars others))).Prefers
      ⟨.between before (c :: rest), []⟩
      ⟨.between ((c :: rest.takeWhile others.holds).reverse ++ before)
        (rest.dropWhile others.holds), []⟩ := by
  have hall : ∀ d ∈ rest.takeWhile others.holds, others.holds d :=
    List.all_eq_true.1 List.all_takeWhile
  have hmaximal : ∀ d ∈ (rest.dropWhile others.holds).head?, ¬ others.holds d := by
    intro d hd
    have hfirst := List.head?_dropWhile_not others.holds rest
    rw [Option.mem_def.1 hd] at hfirst
    simpa using hfirst
  have htail := @prefers_repeated_chars others 0 (c :: before) [] _ _ hall (Nat.zero_le _) hmaximal
  rw [List.takeWhile_append_dropWhile] at htail
  simpa using (prefers_chars hc).seq htail

/-- What a set does not hold of is not among the characters that it takes. -/
theorem not_mem_of_holds {set : CharSet} {chars : List Char} {c : Char} (h : set.holds c)
    (free : ∀ d ∈ chars, set.holds d = false) : c ∉ chars := by
  intro hmem
  simp [free c hmem] at h

theorem not_mem_of_mem_identifier {initial others : CharSet} {chars tail : List Char} {c d : Char}
    (hc : initial.holds c) (htail : ∀ d ∈ tail, others.holds d)
    (hinitial : ∀ d ∈ chars, initial.holds d = false)
    (hothers : ∀ d ∈ chars, others.holds d = false) (hd : d ∈ c :: tail) : d ∉ chars := by
  rcases List.mem_cons.1 hd with rfl | hd
  · exact not_mem_of_holds hc hinitial
  · exact not_mem_of_holds (htail d hd) hothers

theorem ordinary_of_isBlank {grammar : Grammar} (isBuiltin : grammar ∈ builtin.map (·.2)) {c : Char}
    (h : isBlank c) : c ∉ grammar.lexis.specials := by
  have hfree : ∀ grammar ∈ builtin.map (·.2), ∀ d ∈ grammar.lexis.specials, isBlank d = false := by
    simp only [builtin, List.map_cons, List.map_nil, List.forall_mem_cons]
    refine ⟨?_, ?_, ?_, by simp⟩ <;> decide
  intro hmem
  simp [hfree grammar isBuiltin c hmem] at h

theorem isNeutral_of_areBlank {grammar : Grammar} (isBuiltin : grammar ∈ builtin.map (·.2))
    {blanks : List Char} (areBlank : ∀ c ∈ blanks, isBlank c) : grammar.lexis.IsNeutral blanks :=
  .of_ordinary fun c hc => ordinary_of_isBlank isBuiltin (areBlank c hc)

/-- All characters but the end of a line. -/
def lineSet : CharSet where
  items := [.single 10]
  negated := true

theorem holds_lineSet (c : Char) : lineSet.holds c ↔ c ≠ '\n' := by
  have hcode : c.toNat = 10 ↔ c = '\n' := @Char.toNat_inj c '\n'
  simp [lineSet, CharSet.holds, CharItem.holds, Folding.same, Folding.lower, hcode]

theorem exists_of_leads_line {state reached : State}
    (h : (seq (repeated 0 none .greedy (chars lineSet)) (letter '\n')).Leads state reached) :
    ∃ body, state.cursor.after = body ++ '\n' :: reached.cursor.after ∧ '\n' ∉ body := by
  obtain ⟨middle, hbody, hend⟩ := h
  obtain ⟨body, hafter, hholds, -⟩ := exists_of_leads_repeated_chars hbody
  refine ⟨body, by rw [hafter, of_leads_letter hend], ?_⟩
  intro hmem
  exact (holds_lineSet '\n').1 (hholds _ hmem) rfl

/-! ## Python -/

theorem isBuiltin_python : python ∈ builtin.map (·.2) := by
  simp [builtin]

/-- A comment line is blanks and a comment. -/
theorem exists_of_leads_commentLine {state reached : State} (h : commentLine.Leads state reached) :
    ∃ piece, state.cursor.after = piece ++ reached.cursor.after ∧ python.lexis.IsNeutral piece := by
  obtain ⟨first, hblanks, second, hmark, hline⟩ := h
  obtain ⟨taken, htaken, areBlank⟩ := exists_of_leads_blanks hblanks
  obtain ⟨body, hbody, isLine⟩ := exists_of_leads_line hline
  refine ⟨taken ++ ('#' :: body ++ ['\n']), ?_, ?_⟩
  · simp [htaken, of_leads_letter hmark, hbody]
  · refine (isNeutral_of_areBlank isBuiltin_python areBlank).append ?_
    exact .lineComment (coherent_of_mem_builtin isBuiltin_python) (by decide) isLine

theorem exists_of_leads_stars {state reached : State}
    (h : (optional (.seq (letter '*') (.alt (letter '*') .empty))).Leads state reached) :
    ∃ stars, state.cursor.after = stars ++ reached.cursor.after ∧ ∀ c ∈ stars, c = '*' := by
  rcases eq_or_leads_of_leads_optional h with rfl | ⟨middle, hfirst, hsecond⟩
  · exact ⟨[], rfl, by simp⟩
  · rcases hsecond with hsecond | rfl
    · exact ⟨['*', '*'], by simp [of_leads_letter hfirst, of_leads_letter hsecond], by simp⟩
    · exact ⟨['*'], by simp [of_leads_letter hfirst], by simp⟩

/-- What is passed over before a name in Python is neutral. -/
theorem exists_findsName_python {text : List Char} {found : Match}
    (h : python.parameter.search? text = some found) :
    ∃ passed name rest, FindsName python found text passed name rest ∧
      python.lexis.IsNeutral passed := by
  have hnode : python.parameter.node = pythonParameter := Dialect.python.node_parameter
  rw [Pattern.search?, hnode, Cursor.start_eq_between] at h
  have proper : found.Proper text := (search?_precedes h).2
  obtain ⟨first, hcomments, second, hblanks, third, hstars, fourth, hmore, hgroup⟩ :=
    leads_of_search?_textStart h
  obtain ⟨pieces, hpieces, areNeutral⟩ :=
    exists_pieces_of_leads_repeated exists_of_leads_commentLine hcomments
  obtain ⟨taken, htaken, areBlank⟩ := exists_of_leads_blanks hblanks
  obtain ⟨stars, hstars, areStars⟩ := exists_of_leads_stars hstars
  obtain ⟨more, hmore, moreBlank⟩ := exists_of_leads_blanks hmore
  obtain ⟨inner, hidentifier, hfinal⟩ := hgroup
  obtain ⟨c, tail, hname, hc, htail⟩ := exists_of_leads_identifier hidentifier
  have hcursor : inner.cursor.after = found.final.cursor.after := by rw [hfinal]; rfl
  rw [hcursor] at hname
  have hstar : python.lexis.IsNeutral stars := by
    refine .of_ordinary fun c hc => ?_
    rw [areStars c hc]
    decide
  refine ⟨pieces.flatten ++ (taken ++ (stars ++ more)), c :: tail, found.final.cursor.after,
    .of_leads isBuiltin_python ⟨inner, hidentifier, hfinal⟩ proper ?_ hname (by simp) ?_, ?_⟩
  · have htext : text = _ := hpieces
    simp [htext, htaken, hstars, hmore]
  · exact fun d => not_mem_of_mem_identifier hc htail (by decide) (by decide)
  · have htaken := isNeutral_of_areBlank isBuiltin_python areBlank
    have hmore := isNeutral_of_areBlank isBuiltin_python moreBlank
    exact (Lexis.IsNeutral.flatten areNeutral).append (htaken.append (hstar.append hmore))

/-! ## PHP -/

theorem isBuiltin_php : php ∈ builtin.map (·.2) := by
  simp [builtin]

/-- A variable begins with a dollar sign and the first character of an identifier. -/
def Varies (text : List Char) : Prop :=
  ∃ c rest, text = '$' :: c :: rest ∧ (wideInitialSet 127).holds c

/-- The pattern matches where a variable begins. -/
theorem exists_matchAt?_of_varies {text : List Char} (varies : Varies text) (before : List Char) :
    ∃ found, phpParameter.matchAt? false (.between before text) = some found := by
  obtain ⟨c, rest, rfl, hc⟩ := varies
  have hname : (Node.ofList [letter '$', .chars (wideInitialSet 127),
      .repeated 0 none .greedy (.chars (wideWordSet 127))]).Prefers
      ⟨.between before ('$' :: c :: rest), []⟩ _ :=
    .seq prefers_letter (prefers_identifier hc)
  have hmark := @prefers_ampersand [] (.inl rfl) before (c :: rest) '$' (by decide) (by decide)
  have hdots := @prefers_dots [] (.inl rfl) '$' (by decide) (by decide) before (c :: rest)
  exact ⟨_, matchAt?_of_prefers (.seq hmark (.seq hdots hname.group))⟩

theorem exists_of_leads_dots {state reached : State}
    (h : (optional (.ofList ("...".toList.map letter ++ [blanks]))).Leads state reached) :
    ∃ dots, state.cursor.after = dots ++ reached.cursor.after ∧ IsDots dots := by
  rcases eq_or_leads_of_leads_optional h with rfl | h
  · exact ⟨[], rfl, .inl rfl⟩
  · obtain ⟨middle, hletters, -, hblanks⟩ := exists_of_leads_letters "...".toList (by simp) h
    obtain ⟨taken, htaken, areBlank⟩ := exists_of_leads_blanks hblanks
    exact ⟨"...".toList ++ taken, by rw [hletters, htaken, List.append_assoc],
      .inr ⟨taken, rfl, areBlank⟩⟩

/-- What may come before a variable: an ampersand, dots, and blanks. -/
theorem exists_of_leads_phpMarker {state marked dotted : State}
    (hmark : (optional (.seq (letter '&') blanks)).Leads state marked)
    (hdots : (optional (.ofList ("...".toList.map letter ++ [blanks]))).Leads marked dotted) :
    ∃ marker, state.cursor.after = marker ++ dotted.cursor.after ∧ '$' ∉ marker := by
  have hblank : ∀ {taken : List Char}, (∀ c ∈ taken, isBlank c) → '$' ∉ taken := by
    intro taken areBlank hmem
    exact absurd (areBlank '$' hmem) (by decide)
  obtain ⟨mark, hmark, noMark⟩ : ∃ mark, state.cursor.after = mark ++ marked.cursor.after ∧
      '$' ∉ mark := by
    rcases eq_or_leads_of_leads_optional hmark with rfl | ⟨middle, hletter, hblanks⟩
    · exact ⟨[], rfl, by simp⟩
    · obtain ⟨taken, htaken, areBlank⟩ := exists_of_leads_blanks hblanks
      exact ⟨'&' :: taken, by simp [of_leads_letter hletter, htaken],
        by simpa using hblank areBlank⟩
  obtain ⟨dots, hdots, isDots⟩ := exists_of_leads_dots hdots
  have noDots : '$' ∉ dots := by
    rcases isDots with rfl | ⟨taken, rfl, areBlank⟩
    · simp
    · simpa using hblank areBlank
  exact ⟨mark ++ dots, by simp [hmark, hdots], by simp [noMark, noDots]⟩

/-- The name that is found in PHP is the first variable of the text. -/
theorem exists_findsName_php {text : List Char} {found : Match}
    (h : php.parameter.search? text = some found) :
    ∃ passed name rest, FindsName php found text passed name rest ∧
      ∀ before after, text = before ++ after → Varies after → passed.length ≤ before.length := by
  have hnode : php.parameter.node = phpParameter := Dialect.php.node_parameter
  rw [Pattern.search?, hnode, Cursor.start_eq_between] at h
  have proper : found.Proper text := (search?_precedes h).2
  obtain ⟨skipped, rest, htext, hmatch, hnone⟩ := exists_of_search? h
  obtain ⟨marked, hmark, dotted, hdots, hgroup⟩ := leads_of_matchAt? hmatch
  obtain ⟨marker, hmarker, noSigil⟩ := exists_of_leads_phpMarker hmark hdots
  have hvariable := hgroup
  obtain ⟨inner, ⟨sigil, hsigil, hidentifier⟩, hfinal⟩ := hvariable
  obtain ⟨c, tail, hname, hc, htail⟩ := exists_of_leads_identifier hidentifier
  have hcursor : inner.cursor.after = found.final.cursor.after := by rw [hfinal]; rfl
  have hvariable : dotted.cursor.after = '$' :: c :: tail ++ found.final.cursor.after := by
    rw [of_leads_letter hsigil, hname, hcursor]
    rfl
  have hrest : rest = marker ++ dotted.cursor.after := hmarker
  refine ⟨skipped ++ marker, '$' :: c :: tail, found.final.cursor.after,
    .of_leads isBuiltin_php hgroup proper ?_ hvariable (by simp) ?_, ?_⟩
  · simp [htext, hrest]
  · refine List.forall_mem_cons.2 ⟨by decide, fun d => ?_⟩
    exact not_mem_of_mem_identifier hc htail (by decide) (by decide)
  · intro before after hsplit varies
    apply Nat.le_of_not_lt
    intro hearlier
    rw [htext, hrest] at hsplit
    rw [List.length_append] at hearlier
    -- an earlier variable would have been matched by itself, or its sigil would stand in the marker
    have hmarked : ∀ inside, marker ++ dotted.cursor.after = inside ++ after →
        marker.length ≤ inside.length := by
      intro inside hinside
      obtain ⟨d, others, rfl, -⟩ := varies
      rcases List.append_eq_append_iff.1 hinside with ⟨more, rfl, -⟩ | ⟨more, rfl, hmore⟩
      · simp
      · cases more with
        | nil => simp
        | cons first more =>
          obtain ⟨rfl, -⟩ := List.cons.inj hmore
          simp at noSigil
    rcases List.append_eq_append_iff.1 hsplit with ⟨inside, rfl, hinside⟩ | ⟨others, rfl, hothers⟩
    · have hlength := hmarked inside hinside
      rw [List.length_append] at hearlier
      omega
    · cases others with
      | nil =>
        have hlength := hmarked [] hothers.symm
        simp only [List.append_nil, List.length_nil] at hearlier hlength
        omega
      | cons d others =>
        obtain ⟨other, hother⟩ := exists_matchAt?_of_varies varies before.reverse
        have hnothing := hnone before (d :: others) rfl (by simp)
        rw [List.append_nil, hrest, ← hothers, hother] at hnothing
        cases hnothing

/-! ## JavaScript -/

theorem isBuiltin_javascript : javascript ∈ builtin.map (·.2) := by
  simp [builtin]

/-- Every character. -/
def anySet : CharSet where
  items := [.category .blank false false, .category .blank true false]

/-- ASCII letters, the underscore and the dollar sign. -/
def dollarInitialSet : CharSet where
  items := [.range 65 90, .range 97 122, .single 95, .single 36]

/-- Word characters and the dollar sign. -/
def dollarWordSet : CharSet where
  items := [.category .word false false, .single 36]

/-- A comment before a JavaScript parameter, with the blanks before it. -/
def scriptComment : Node :=
  .ofList [blanks, letter '/',
    .alt (.seq (letter '/') (.seq (.repeated 0 none .greedy (.chars lineSet)) (letter '\n')))
      (.seq (letter '*') (.seq (.repeated 0 none .lazy (.chars anySet))
        (.seq (letter '*') (letter '/'))))]

/-- A parameter of a JavaScript function. -/
def scriptParameter : Node :=
  .ofList [.anchor .textStart, .repeated 0 none .greedy scriptComment, blanks,
    optional (.ofList ("...".toList.map letter ++ [blanks])),
    .group 1 (.seq (.chars dollarInitialSet) (.repeated 0 none .greedy (.chars dollarWordSet)))]

theorem node_javascript : javascript.parameter.node = scriptParameter := by
  decide +kernel

/-- A comment with the blanks before it. A block comment ends with the first closing marker. -/
inductive Comment where
  | line (blanks body : List Char) (areBlank : ∀ c ∈ blanks, isBlank c) (isLine : '\n' ∉ body)
  | block (blanks body : List Char) (areBlank : ∀ c ∈ blanks, isBlank c)
      (isInner : ¬ ['*', '/'] <:+: body)

/-- The characters of a comment. -/
def Comment.text : Comment → List Char
  | line blanks body _ _ => blanks ++ ('/' :: '/' :: body ++ ['\n'])
  | block blanks body _ _ => blanks ++ ('/' :: '*' :: body ++ ['*', '/'])

/-- The characters of comments one after the other. -/
def commentsText (comments : List Comment) : List Char :=
  (comments.map Comment.text).flatten

/-- What introduces a parameter: comments, blanks and dots. -/
structure Introduction where
  comments : List Comment
  blanks : List Char
  areBlank : ∀ c ∈ blanks, isBlank c
  dots : List Char
  isDots : IsDots dots

/-- The characters of an introduction. -/
def Introduction.text (introduction : Introduction) : List Char :=
  commentsText introduction.comments ++ (introduction.blanks ++ introduction.dots)

/-- The text goes on past the end of a block comment as if the comment had not ended. -/
def Overruns (text : List Char) : Prop :=
  ∃ (comments : List Comment) (blanks body others : List Char), (∀ c ∈ blanks, isBlank c) ∧
    ['*', '/'] <:+: body ∧
    text = commentsText comments ++ (blanks ++ ('/' :: '*' :: body ++ '*' :: '/' :: others))

/-- No identifier follows an introduction. -/
def Unnamed (text : List Char) : Prop :=
  ∀ (introduction : Introduction) (c : Char) (rest : List Char),
    text = introduction.text ++ c :: rest → dollarInitialSet.holds c = false

/-! ### Introductions are neutral -/

theorem Comment.isNeutral_text (comment : Comment) : javascript.lexis.IsNeutral comment.text := by
  have coherent := coherent_of_mem_builtin isBuiltin_javascript
  cases comment with
  | line blanks body areBlank isLine =>
    refine (isNeutral_of_areBlank isBuiltin_javascript areBlank).append ?_
    exact .lineComment coherent (by decide) isLine
  | block blanks body areBlank isInner =>
    refine (isNeutral_of_areBlank isBuiltin_javascript areBlank).append ?_
    exact .blockComment coherent (by decide) isInner

theorem Introduction.isNeutral_text (introduction : Introduction) :
    javascript.lexis.IsNeutral introduction.text := by
  obtain ⟨comments, blanks, areBlank, dots, isDots⟩ := introduction
  have hcomments : javascript.lexis.IsNeutral (commentsText comments) := by
    refine .flatten fun piece hpiece => ?_
    obtain ⟨comment, -, rfl⟩ := List.mem_map.1 hpiece
    exact comment.isNeutral_text
  have hdots : javascript.lexis.IsNeutral dots := by
    rcases isDots with rfl | ⟨taken, rfl, areBlank⟩
    · exact .of_ordinary (by simp)
    · refine .append (.of_ordinary (by decide)) ?_
      exact isNeutral_of_areBlank isBuiltin_javascript areBlank
  exact hcomments.append ((isNeutral_of_areBlank isBuiltin_javascript areBlank).append hdots)

/-! ### What the pattern can pass over -/

theorem exists_of_leads_scriptComment {state reached : State}
    (h : scriptComment.Leads state reached) :
    ∃ piece, state.cursor.after = piece ++ reached.cursor.after ∧
      ((∃ comment : Comment, comment.text = piece) ∨
        ∃ blanks body, (∀ c ∈ blanks, isBlank c) ∧ ['*', '/'] <:+: body ∧
          piece = blanks ++ ('/' :: '*' :: body ++ ['*', '/'])) := by
  obtain ⟨first, hblanks, second, hslash, hrest⟩ := h
  obtain ⟨taken, htaken, areBlank⟩ := exists_of_leads_blanks hblanks
  rw [of_leads_letter hslash] at htaken
  rcases hrest with ⟨third, hmark, hline⟩ | ⟨third, hmark, fourth, hbody, fifth, hstar, hclose⟩
  · obtain ⟨body, hbody, isLine⟩ := exists_of_leads_line hline
    refine ⟨taken ++ ('/' :: '/' :: body ++ ['\n']), ?_,
      .inl ⟨.line taken body areBlank isLine, rfl⟩⟩
    simp [htaken, of_leads_letter hmark, hbody]
  · obtain ⟨body, hbody, -⟩ := exists_of_leads_repeated_chars hbody
    refine ⟨taken ++ ('/' :: '*' :: body ++ ['*', '/']), ?_, ?_⟩
    · simp [htaken, of_leads_letter hmark, hbody, of_leads_letter hstar, of_leads_letter hclose]
    · by_cases isInner : ['*', '/'] <:+: body
      · exact .inr ⟨taken, body, areBlank, isInner, rfl⟩
      · exact .inl ⟨.block taken body areBlank isInner, rfl⟩

/-- Comments are passed over one by one, up to the first that is left too late. -/
theorem exists_of_leads_scriptComments {state reached : State}
    (h : (repeated 0 none .greedy scriptComment).Leads state reached) :
    ∃ taken, state.cursor.after = taken ++ reached.cursor.after ∧
      ((∃ comments, taken = commentsText comments) ∨ Overruns taken) := by
  obtain ⟨pieces, hpieces, arePieces⟩ :=
    exists_pieces_of_leads_repeated exists_of_leads_scriptComment h
  refine ⟨pieces.flatten, hpieces, ?_⟩
  clear h hpieces
  induction pieces with
  | nil => exact .inl ⟨[], rfl⟩
  | cons piece pieces ih =>
    simp only [List.mem_cons, forall_eq_or_imp] at arePieces
    obtain ⟨⟨comment, rfl⟩ | ⟨blanks, body, areBlank, ended, rfl⟩, arePieces⟩ := arePieces
    · rcases ih arePieces with ⟨comments, hcomments⟩ | ⟨comments, blanks, body, others, areBlank,
        ended, hothers⟩
      · exact .inl ⟨comment :: comments, by simp [hcomments, commentsText]⟩
      · exact .inr ⟨comment :: comments, blanks, body, others, areBlank, ended,
          by simp [hothers, commentsText]⟩
    · exact .inr ⟨[], blanks, body, pieces.flatten, areBlank, ended, by simp [commentsText]⟩

theorem Overruns.append {text : List Char} (h : Overruns text) (more : List Char) :
    Overruns (text ++ more) := by
  obtain ⟨comments, blanks, body, others, areBlank, ended, rfl⟩ := h
  exact ⟨comments, blanks, body, others ++ more, areBlank, ended, by simp⟩

/-! ### What the pattern prefers -/

theorem slash_not_isBlank : ¬ isBlank '/' := by
  decide

theorem holds_anySet (c : Char) : anySet.holds c = true := by
  cases h : isBlank c <;> simp [anySet, CharSet.holds, CharItem.holds, Category.holds, h]

/-- A closing marker does not begin in the body of a comment that ends with the first one. -/
theorem closing_nowhere {first others before after : List Char} (nonempty : others ≠ [])
    (isInner : ¬ ['*', '/'] <:+: first ++ others) (reached : State) :
    ¬ (seq (letter '*') (letter '/')).Leads
      ⟨.between before (others ++ '*' :: '/' :: after), []⟩ reached := by
  rintro ⟨middle, hstar, hslash⟩
  have hafter : others ++ '*' :: '/' :: after = '*' :: '/' :: reached.cursor.after := by
    have hfirst := of_leads_letter hstar
    rwa [of_leads_letter hslash] at hfirst
  match others, hafter with
  | [c], hafter => simp at hafter
  | c :: d :: others, hafter =>
    simp only [List.cons_append, List.cons.injEq] at hafter
    obtain ⟨rfl, rfl, -⟩ := hafter
    exact isInner ⟨first, others, by simp⟩

/-- A comment is passed over as a whole. -/
theorem Comment.prefers_text (comment : Comment) (before after : List Char) :
    scriptComment.Prefers ⟨.between before (comment.text ++ after), []⟩
      ⟨.between (comment.text.reverse ++ before) after, []⟩ := by
  cases comment with
  | line blanks body areBlank isLine =>
    have hbody : (repeated 0 none .greedy (chars lineSet)).Prefers
        ⟨.between ('/' :: '/' :: (blanks.reverse ++ before)) (body ++ '\n' :: after), []⟩ _ :=
      prefers_repeated_chars body ('\n' :: after)
        (fun c hc => (holds_lineSet c).2 fun h => isLine (h ▸ hc)) (Nat.zero_le _)
        (by simp [holds_lineSet])
    have hblanks :=
      @prefers_blanks before [] blanks ('/' :: '/' :: (body ++ '\n' :: after)) areBlank
      (by simpa using slash_not_isBlank)
    have hcomment : scriptComment.Prefers
        ⟨.between before (blanks ++ '/' :: '/' :: (body ++ '\n' :: after)), []⟩ _ :=
      hblanks.seq (prefers_letter.seq (.alt (prefers_letter.seq (hbody.seq prefers_letter))))
    simpa [Comment.text] using hcomment
  | block blanks body areBlank isInner =>
    have hclosing : (seq (letter '*') (letter '/')).Prefers
        ⟨.between (body.reverse ++ '*' :: '/' :: (blanks.reverse ++ before))
          ('*' :: '/' :: after), []⟩
        _ :=
      prefers_letter.seq prefers_letter
    have hbody :
        (seq (repeated 0 none .lazy (chars anySet)) (seq (letter '*') (letter '/'))).Prefers
        ⟨.between ('*' :: '/' :: (blanks.reverse ++ before)) (body ++ '*' :: '/' :: after), []⟩ _ :=
      prefers_lazy_chars (fun c _ => holds_anySet c)
        (fun first others hsplit nonempty => closing_nowhere nonempty (hsplit ▸ isInner)) hclosing
    have hblanks := @prefers_blanks before [] blanks ('/' :: '*' :: (body ++ '*' :: '/' :: after))
      areBlank (by simpa using slash_not_isBlank)
    have hline : ∀ reached, ¬ (seq (letter '/') (seq (repeated 0 none .greedy (chars lineSet))
        (letter '\n'))).Leads ⟨.between ('/' :: (blanks.reverse ++ before))
          ('*' :: (body ++ '*' :: '/' :: after)), []⟩ reached := by
      rintro reached ⟨middle, hslash, -⟩
      exact letter_nowhere (by decide) middle hslash
    have hcomment : scriptComment.Prefers
        ⟨.between before (blanks ++ '/' :: '*' :: (body ++ '*' :: '/' :: after)), []⟩ _ :=
      hblanks.seq (prefers_letter.seq (.alt_of_nowhere hline (prefers_letter.seq hbody)))
    simpa [Comment.text] using hcomment

/-- Blanks end where the first other character stands. -/
theorem eq_of_blanks_append {first second rest others : List Char} {c d : Char}
    (hfirst : ∀ x ∈ first, isBlank x) (hsecond : ∀ x ∈ second, isBlank x) (hc : ¬ isBlank c)
    (hd : ¬ isBlank d) (h : first ++ c :: rest = second ++ d :: others) : c = d := by
  induction first generalizing second with
  | nil =>
    cases second with
    | nil => exact (List.cons.inj h).1
    | cons x second =>
      obtain ⟨rfl, -⟩ := List.cons.inj h
      exact absurd (hsecond c List.mem_cons_self) hc
  | cons x first ih =>
    cases second with
    | nil =>
      obtain ⟨rfl, -⟩ := List.cons.inj h
      exact absurd (hfirst x List.mem_cons_self) hd
    | cons y second =>
      simp only [List.mem_cons, forall_eq_or_imp] at hfirst hsecond
      exact ih hfirst.2 hsecond.2 (List.cons.inj h).2

/-- No comment follows where blanks are followed by something else. -/
theorem scriptComment_nowhere {taken rest before : List Char} {c : Char}
    (areBlank : ∀ x ∈ taken, isBlank x) (solid : ¬ isBlank c) (noSlash : c ≠ '/')
    (reached : State) :
    ¬ scriptComment.Leads ⟨.between before (taken ++ c :: rest), []⟩ reached := by
  rintro ⟨first, hblanks, second, hslash, -⟩
  obtain ⟨others, hothers, areBlank'⟩ := exists_of_leads_blanks hblanks
  rw [of_leads_letter hslash] at hothers
  exact noSlash (eq_of_blanks_append areBlank areBlank' solid slash_not_isBlank hothers)

theorem dollarInitialSet_free : ∀ c ∈ ['/', '.'], dollarInitialSet.holds c = false := by
  decide

theorem not_isBlank_of_dollarInitialSet {c : Char} (h : dollarInitialSet.holds c) :
    ¬ isBlank c := by
  have hfree : ∀ code < 128, dollarInitialSet.holds (Char.ofNat code) →
      ¬ isBlank (Char.ofNat code) := by decide
  have hascii : c.toNat < 128 := by
    simp only [dollarInitialSet, CharSet.holds, CharItem.holds, rangeHolds, Folding.equals,
      Folding.same, Folding.lower] at h
    simp at h
    omega
  have hc := hfree c.toNat hascii
  rw [Char.ofNat_toNat] at hc
  exact hc h

/-- An identifier after an introduction is the name that is found. -/
theorem Introduction.search?_text (introduction : Introduction) {c : Char} {rest : List Char}
    (hc : dollarInitialSet.holds c) :
    ∃ found, javascript.parameter.search? (introduction.text ++ c :: rest) = some found ∧
      ∃ stop : Nat,
        nameOffsets javascript.parameter found = .ok (introduction.text.length, stop) := by
  obtain ⟨comments, blanks, areBlank, dots, isDots⟩ := introduction
  have solid := not_isBlank_of_dollarInitialSet hc
  have noDot : c ≠ '.' := fun h => not_mem_of_holds hc dollarInitialSet_free (by simp [h])
  have noSlash : c ≠ '/' := fun h => not_mem_of_holds hc dollarInitialSet_free (by simp [h])
  -- the first character after the blanks is neither blank nor a slash, so no comment follows
  obtain ⟨d, others, hnext, hsolid, hslash⟩ : ∃ d others, dots ++ c :: rest = d :: others ∧
      ¬ isBlank d ∧ d ≠ '/' := by
    rcases isDots with rfl | ⟨taken, rfl, -⟩
    · exact ⟨c, rest, rfl, solid, noSlash⟩
    · exact ⟨'.', _, rfl, by decide, by decide⟩
  have hcomments := @prefers_repeated_pieces scriptComment [] [] (comments.map Comment.text)
    (blanks ++ (dots ++ c :: rest)) (by
      intro piece hpiece
      obtain ⟨comment, -, rfl⟩ := List.mem_map.1 hpiece
      exact ⟨by cases comment <;> simp [Comment.text], comment.prefers_text⟩) (by
      intro before
      rw [hnext]
      exact scriptComment_nowhere areBlank hsolid hslash)
  have hblanks := @prefers_blanks ((comments.map Comment.text).flatten.reverse ++ []) [] blanks
    (dots ++ c :: rest) areBlank (by simpa [hnext] using hsolid)
  have hdots := prefers_dots isDots noDot solid
    (blanks.reverse ++ ((comments.map Comment.text).flatten.reverse ++ [])) rest
  have hprefers : scriptParameter.Prefers
      ⟨.between []
        ((comments.map Comment.text).flatten ++ (blanks ++ (dots ++ c :: rest))), []⟩ _ :=
    .seq (prefers_anchor rfl) (hcomments.seq (hblanks.seq (hdots.seq
      (prefers_identifier hc).group)))
  have htext : Introduction.text ⟨comments, blanks, areBlank, dots, isDots⟩ ++ c :: rest =
      (comments.map Comment.text).flatten ++ (blanks ++ (dots ++ c :: rest)) := by
    simp [Introduction.text, commentsText]
  have hfound := search?_of_prefers hprefers
  rw [← node_javascript, ← htext] at hfound
  refine ⟨_, hfound, ?_⟩
  simp only [nameOffsets, groupNumber?_name isBuiltin_javascript, capture?_record]
  refine ⟨_, congrArg (fun start : Nat => Except.ok ((start : Int), _)) ?_⟩
  simp [Introduction.text, commentsText]
  omega

/-- What is passed over before a name in JavaScript is an introduction, unless a comment is passed
over beyond its end because no name follows an introduction. -/
theorem exists_findsName_javascript {text : List Char} {found : Match}
    (h : javascript.parameter.search? text = some found) :
    ∃ passed name rest, FindsName javascript found text passed name rest ∧
      ((∃ introduction : Introduction, introduction.text = passed) ∨
        Overruns passed ∧ Unnamed text) := by
  have hsearch := h
  rw [Pattern.search?, node_javascript, Cursor.start_eq_between] at hsearch
  have proper : found.Proper text := (search?_precedes hsearch).2
  obtain ⟨first, hcomments, second, hblanks, third, hdots, hgroup⟩ :=
    leads_of_search?_textStart hsearch
  obtain ⟨taken, htaken, isTaken⟩ := exists_of_leads_scriptComments hcomments
  obtain ⟨blanks, hblanks, areBlank⟩ := exists_of_leads_blanks hblanks
  obtain ⟨dots, hdots, isDots⟩ := exists_of_leads_dots hdots
  obtain ⟨inner, hidentifier, hfinal⟩ := hgroup
  obtain ⟨c, tail, hname, hc, htail⟩ := exists_of_leads_identifier hidentifier
  have hcursor : inner.cursor.after = found.final.cursor.after := by rw [hfinal]; rfl
  rw [hcursor] at hname
  have hpassed : text = taken ++ (blanks ++ dots) ++ third.cursor.after := by
    have htext : text = _ := htaken
    simp [htext, hblanks, hdots]
  have hfinds : FindsName javascript found text (taken ++ (blanks ++ dots)) (c :: tail)
      found.final.cursor.after := by
    refine .of_leads isBuiltin_javascript ⟨inner, hidentifier, hfinal⟩ proper hpassed hname
      (by simp) fun d => ?_
    exact not_mem_of_mem_identifier hc htail (by decide) (by decide)
  refine ⟨_, _, _, hfinds, ?_⟩
  by_cases named : ∃ (introduction : Introduction) (d : Char) (others : List Char),
      text = introduction.text ++ d :: others ∧ dollarInitialSet.holds d
  · -- the name after the introduction is found, so what was passed over is as long as it
    obtain ⟨introduction, d, others, hsplit, hd⟩ := named
    obtain ⟨again, hagain, stop, hoffsets⟩ := @introduction.search?_text d others hd
    rw [← hsplit, h] at hagain
    obtain rfl := Option.some.inj hagain
    have hpair := Except.ok.inj (hoffsets.symm.trans hfinds.offsets_eq)
    have hlength := Int.ofNat.inj (Prod.mk.inj hpair).1
    exact .inl ⟨introduction, (List.append_inj (hsplit.symm.trans hpassed) hlength).1⟩
  · right
    have unnamed : Unnamed text := by
      intro introduction d others hsplit
      by_cases hd : dollarInitialSet.holds d
      · exact absurd ⟨introduction, d, others, hsplit, hd⟩ named
      · simpa using hd
    refine ⟨?_, unnamed⟩
    rcases isTaken with ⟨comments, rfl⟩ | overruns
    · refine absurd ⟨⟨comments, blanks, areBlank, dots, isDots⟩, c,
        tail ++ found.final.cursor.after, ?_, hc⟩ named
      rw [hpassed, hname]
      rfl
    · exact overruns.append _

end Highlighter.Signature
