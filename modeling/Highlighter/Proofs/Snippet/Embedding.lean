import Highlighter.Proofs.Snippet.Normal
import Mathlib.Data.List.Forall2

/-!
# Embedded snippets

A document embeds a snippet when it indents all lines of it by the same number of spaces and tabs,
ends them in either way, and puts line ends before and blanks after the whole. Empty lines may be
indented less. This file shows that normalizing gives back a snippet that was normal, whatever the
document did.

## Main definitions

* `Indented` — a line with what the document puts before it
* `Laid` — lines, each with what stands before it and with a line end between them
* `Embeds` — a document that contains a snippet and nothing but blanks besides

## Main results

* `Laid.exists_unified` — the lines are found again when line ends are unified
* `normalize_of_embeds` — normalizing gives back the snippet
-/

namespace Highlighter.Snippet

open Highlighter.Text

/-- A line with what a document puts before it: exactly so many spaces and tabs, or at most so many
if the line is empty. -/
inductive Indented (width : Nat) : List Char → List Char → Prop
  | text {line indent : List Char} (nonempty : line ≠ []) (isIndent : IsIndent indent)
      (length : indent.length = width) : Indented width line (indent ++ line)
  | empty {indent : List Char} (isIndent : IsIndent indent) (length : indent.length ≤ width) :
      Indented width [] indent

/-- Lines, each with what a document puts before it, and with a line end between two of them. -/
inductive Laid (width : Nat) : List (List Char) → List Char → Prop
  | last {line out : List Char} (indented : Indented width line out) : Laid width [line] out
  | next {line out : List Char} {parts : List (List Char)} {more : List Char}
      (indented : Indented width line out) (lineEnd : LineEnd) (others : Laid width parts more) :
      Laid width (line :: parts) (out ++ (lineEnd.chars ++ more))

/-- A document that contains a snippet: line ends before it, its lines, and blanks after it. -/
def Embeds (width : Nat) (snippet document : List Char) : Prop :=
  ∃ (before : List LineEnd) (body blanks : List Char),
    document = before.flatMap LineEnd.chars ++ (body ++ blanks) ∧
      Laid width (lines snippet) body ∧ ∀ c ∈ blanks, isBlank c

variable {width : Nat} {line out body snippet : List Char} {parts outs : List (List Char)}

/-! ## One line -/

namespace Indented

theorem ne_nil (h : Indented width line out) (nonempty : line ≠ []) : out ≠ [] := by
  cases h with
  | text _ isIndent length => exact List.append_ne_nil_of_right_ne_nil _ nonempty
  | empty => exact absurd rfl nonempty

theorem newline_not_mem (h : Indented width line out) (newline : '\n' ∉ line) : '\n' ∉ out := by
  cases h with
  | text nonempty isIndent length =>
    have hindent := isIndent.not_mem (c := '\n') (by decide) (by decide)
    simp [hindent, newline]
  | empty isIndent length => exact isIndent.not_mem (by decide) (by decide)

theorem getLast?_ne_return (h : Indented width line out) (hline : line.getLast? ≠ some '\r') :
    out.getLast? ≠ some '\r' := by
  cases h with
  | text nonempty isIndent length => rwa [List.getLast?_append_of_ne_nil _ nonempty]
  | empty isIndent length =>
    exact fun hlast => isIndent.not_mem (by decide) (by decide) (List.mem_of_getLast? hlast)

/-- Dedenting gives the line back. -/
theorem dedent_map_untab (h : Indented width line out) (tab : '\t' ∉ line) :
    dedent width (out.map untab) = line := by
  cases h with
  | text nonempty isIndent length =>
    rw [List.map_append, isIndent.map_untab, map_untab_eq_self_iff.2 tab, length,
      dedent_replicate_append]
  | empty isIndent length => rw [isIndent.map_untab, dedent_replicate length]

/-- The indentation is measured on a line that does not begin with a space itself. -/
theorem indentation_map_untab (h : Indented width line out) (nonempty : line ≠ [])
    (space : line.head? ≠ some ' ') (tab : '\t' ∉ line) : indentation (out.map untab) = width := by
  cases h with
  | text _ isIndent length =>
    rw [List.map_append, isIndent.map_untab, map_untab_eq_self_iff.2 tab, length,
      indentation_replicate_append width space]
  | empty => exact absurd rfl nonempty

end Indented

/-! ## All lines -/

theorem Laid.ne_nil (h : Laid width parts body) : parts ≠ [] := by
  cases h <;> exact List.cons_ne_nil _ _

/-- When line ends are unified, the lines are found again, each with what stands before it. -/
theorem Laid.exists_unified (h : Laid width parts body) (newline : ∀ part ∈ parts, '\n' ∉ part)
    (crlf : ¬ ['\r', '\n'] <:+: unlines parts) :
    ∃ outs, List.Forall₂ (Indented width) parts outs ∧ unifyLineEnds body = unlines outs := by
  have hunify : ∀ {out : List Char}, '\n' ∉ out → unifyLineEnds out = out := fun hout =>
    (unifyLineEnds_eq_self_iff _).2 fun hcrlf => hout (hcrlf.mem (by simp))
  induction h with
  | last indented =>
    have hout := indented.newline_not_mem (newline _ List.mem_cons_self)
    exact ⟨[_], .cons indented .nil, by rw [hunify hout, unlines_singleton]⟩
  | @next line out parts more indented lineEnd others ih =>
    obtain ⟨hline, hparts⟩ := List.forall_mem_cons.1 newline
    obtain ⟨second, rest, rfl⟩ := List.exists_cons_of_ne_nil others.ne_nil
    -- a line end of the snippet is a single line feed, so the line does not end in a carriage
    -- return
    rw [unlines_cons_cons, crlf_infix_append_iff hline, not_or] at crlf
    obtain ⟨outs, houts, hmore⟩ := ih hparts crlf.2
    refine ⟨out :: outs, .cons indented houts, ?_⟩
    cases houts with
    | cons _ _ =>
      rw [unifyLineEnds_append (indented.getLast?_ne_return crlf.1), unifyLineEnds_chars_append,
        hunify (indented.newline_not_mem hline), hmore, unlines_cons_cons]

theorem map_untab_unlines (parts : List (List Char)) :
    (unlines parts).map untab = unlines (parts.map (·.map untab)) := by
  induction parts with
  | nil => rfl
  | cons line parts ih =>
    cases parts with
    | nil => simp
    | cons second others =>
      rw [List.map_cons, List.map_cons, unlines_cons_cons, unlines_cons_cons, ← List.map_cons, ← ih,
        List.map_append, List.map_cons]
      rfl

/-- Dedenting gives all lines back. -/
theorem map_dedent_of_forall₂ (h : List.Forall₂ (Indented width) parts outs)
    (tab : ∀ part ∈ parts, '\t' ∉ part) :
    (outs.map (·.map untab)).map (dedent width) = parts := by
  induction h with
  | nil => rfl
  | cons indented others ih =>
    obtain ⟨hline, hparts⟩ := List.forall_mem_cons.1 tab
    rw [List.map_cons, List.map_cons, indented.dedent_map_untab hline, ih hparts]

theorem newline_not_mem_of_forall₂ (h : List.Forall₂ (Indented width) parts outs)
    (newline : ∀ part ∈ parts, '\n' ∉ part) : ∀ out ∈ outs.map (·.map untab), '\n' ∉ out := by
  induction h with
  | nil => simp
  | cons indented others ih =>
    obtain ⟨hline, hparts⟩ := List.forall_mem_cons.1 newline
    refine List.forall_mem_cons.2 ⟨?_, ih hparts⟩
    intro hmem
    obtain ⟨c, hc, hnewline⟩ := List.mem_map.1 hmem
    obtain rfl := (untab_eq_iff (by decide) (by decide)).1 hnewline
    exact indented.newline_not_mem hline hc

/-- Indented lines end as the lines do, if these do not end in a blank. -/
theorem trimEnd_unlines_of_forall₂ (h : List.Forall₂ (Indented width) parts outs)
    (tab : ∀ part ∈ parts, '\t' ∉ part) (nonempty : unlines parts ≠ [])
    (last : (unlines parts).getLast?.any isBlank = false) :
    trimEnd (unlines outs) = unlines outs := by
  obtain ⟨c, hc⟩ := Option.ne_none_iff_exists'.1 (mt List.getLast?_eq_none_iff.1 nonempty)
  have solid : ¬ isBlank c := by simpa [hc] using last
  rw [← map_dedent_of_forall₂ h tab, getLast?_unlines_map_dedent_iff width solid,
    ← map_untab_unlines, List.getLast?_map] at hc
  obtain ⟨d, hd, rfl⟩ := Option.map_eq_some_iff.1 hc
  rw [trimEnd_eq_self_iff, hd]
  simpa [isBlank_untab] using solid

/-! ## The whole snippet -/

/-- The lines of nothing are one empty line, and what stands before it is blank. -/
theorem normalizeChars_of_laid_nil (h : Laid width (lines []) body) : normalizeChars body = [] := by
  obtain ⟨indented⟩ | ⟨-, -, others⟩ := h
  · have areBlank : ∀ c ∈ body, isBlank c := by
      cases indented with
      | text nonempty => exact absurd rfl nonempty
      | empty isIndent =>
        intro c hc
        obtain rfl | rfl := isIndent c hc <;> decide
    exact normalizeChars_append_of_blank areBlank []
  · exact absurd rfl others.ne_nil

/-- Normalizing finds the lines of a normal snippet: the first of them tells how far all are
indented, and the last of them ends the text. -/
theorem normalizeChars_of_laid (normal : IsNormal snippet) (nonempty : snippet ≠ [])
    (h : Laid width (lines snippet) body) : normalizeChars body = snippet := by
  have hnewline : ∀ part ∈ lines snippet, '\n' ∉ part := fun _ => newline_not_mem_of_mem_lines
  have htab : ∀ part ∈ lines snippet, '\t' ∉ part := by
    intro part hpart hmem
    have htab := mem_unlines_of_mem hpart hmem
    rw [unlines_lines] at htab
    exact normal.tab htab
  obtain ⟨outs, houts, hunify⟩ :=
    h.exists_unified hnewline (by rw [unlines_lines]; exact normal.crlf)
  have hdedent := map_dedent_of_forall₂ houts htab
  have hnewlines := newline_not_mem_of_forall₂ houts hnewline
  have htrim := trimEnd_unlines_of_forall₂ houts htab (by rwa [unlines_lines])
    (by rw [unlines_lines]; exact normal.last)
  -- the first line is not empty and begins without a space, so all of its indentation was added
  obtain ⟨first, others, hlines⟩ := List.exists_cons_of_ne_nil (lines_ne_nil snippet)
  have hfirst : first ≠ [] := by
    rintro rfl
    exact nonempty (eq_nil_of_lines_eq hlines normal.newline)
  have hspace : first.head? ≠ some ' ' := by
    rw [← head?_unlines_cons hfirst others, ← hlines, unlines_lines]
    exact normal.space
  rw [hlines] at houts hnewline htab
  obtain ⟨out, more, indented, -, rfl⟩ := List.forall₂_cons_left_iff.1 houts
  have hindentation := indented.indentation_map_untab hfirst hspace (htab _ List.mem_cons_self)
  have hhead : (unlines (out :: more)).head? ≠ some '\n' := by
    rw [head?_unlines_cons (indented.ne_nil hfirst)]
    exact fun hhead => indented.newline_not_mem (hnewline _ List.mem_cons_self)
      (List.mem_of_head? hhead)
  rw [normalizeChars, hunify, dropWhile_newline_eq_self_iff.2 hhead, htrim, map_untab_unlines,
    List.map_cons, dedentLines_of_lines_eq (lines_unlines hnewlines (List.cons_ne_nil _ _)),
    hindentation, ← List.map_cons, hdedent, unlines_lines]

/-- Normalizing gives back a snippet that was normal, whatever document it is embedded in. -/
theorem normalize_of_embeds {snippet document : String} (normal : normalize snippet = snippet)
    (embeds : Embeds width snippet.toList document.toList) : normalize document = snippet := by
  obtain ⟨before, body, blanks, hdocument, laid, areBlank⟩ := embeds
  rw [normalize_eq_self_iff] at normal
  rw [normalize, hdocument, normalizeChars_lineEnds_append, normalizeChars_append_of_blank areBlank,
    ← String.toList_inj, String.toList_ofList]
  by_cases hsnippet : snippet.toList = []
  · rw [hsnippet] at laid ⊢
    exact normalizeChars_of_laid_nil laid
  · exact normalizeChars_of_laid normal hsnippet laid

theorem embeds_embeddedSample : Embeds 2 plainSample.toList embeddedSample.toList := by
  have hlines : lines plainSample.toList =
      ["if a:".toList, "  b ".toList, [], "c".toList] := by decide +kernel
  have first : Indented 2 "if a:".toList ("\t ".toList ++ "if a:".toList) :=
    .text (by decide) (by decide) rfl
  have second : Indented 2 "  b ".toList ("  ".toList ++ "  b ".toList) :=
    .text (by decide) (by decide) rfl
  have third : Indented 2 [] " ".toList := .empty (by decide) (by decide)
  have fourth : Indented 2 "c".toList ("\t\t".toList ++ "c".toList) :=
    .text (by decide) (by decide) rfl
  have laid := Laid.next first .crlf (.next second .lf (.next third .crlf (.last fourth)))
  rw [← hlines] at laid
  have areBlank : ∀ c ∈ "\u000b\n".toList, isBlank c := List.all_eq_true.1 (by decide)
  exact ⟨[.crlf, .lf], _, "\u000b\n".toList, by decide +kernel, laid, areBlank⟩

theorem normalize_of_embeds_embeddedSample :
    normalize plainSample = plainSample ∧ Embeds 2 plainSample.toList embeddedSample.toList ∧
      normalize embeddedSample = plainSample := by
  have normal : normalize plainSample = plainSample := by decide +kernel
  exact ⟨normal, embeds_embeddedSample, normalize_of_embeds normal embeds_embeddedSample⟩

end Highlighter.Snippet
