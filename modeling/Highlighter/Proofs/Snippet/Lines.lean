import Highlighter.Snippet
import Mathlib.Data.List.DropRight

/-!
# Lines of a snippet

Normalizing a snippet is a chain of small steps: line ends are unified, line feeds before the text
and blanks after it are dropped, tabs become spaces, and the lines are dedented. This file says of
each step by itself what it keeps and what it takes away.

## Main definitions

* `LineEnd` — the two ways to end a line
* `IsIndent` — made of spaces and tabs

## Main results

* `unifyLineEnds_eq_self_iff`, `infix_unifyLineEnds_iff` — where carriage returns before line feeds
  come from
* `unlines_lines`, `lines_unlines` — a text is its lines, and lines without line feeds are read back
* `eq_replicate_append_dedent` — dedenting a line takes away spaces at its beginning, and nothing
  else
* `trimEnd_append_of_blank`, `trimEnd_eq_self_iff` — dropping blanks at the end
-/

namespace Highlighter.Snippet

open Highlighter.Text

/-! ## Line ends -/

/-- The ways to end a line. -/
inductive LineEnd where
  | lf
  | crlf
  deriving DecidableEq, Repr

/-- The characters of a line end. -/
def LineEnd.chars : LineEnd → List Char
  | .lf => ['\n']
  | .crlf => ['\r', '\n']

theorem LineEnd.getLast?_append_chars (text : List Char) (lineEnd : LineEnd) :
    (text ++ lineEnd.chars).getLast? = some '\n' := by
  cases lineEnd <;> simp [chars]

/-- Spaces and tabs, as they stand before a line. -/
def IsIndent (indent : List Char) : Prop :=
  ∀ c ∈ indent, c = ' ' ∨ c = '\t'

instance (indent : List Char) : Decidable (IsIndent indent) :=
  List.decidableBAll (fun c => c = ' ' ∨ c = '\t') indent

section LineEnds

variable {c d : Char} {text rest : List Char}

theorem crlf_prefix_cons_iff : ['\r', '\n'] <+: c :: rest ↔ c = '\r' ∧ rest.head? = some '\n' := by
  cases rest with
  | nil => simp
  | cons d rest => simp [List.cons_prefix_cons, eq_comm]

theorem not_lineEnd_of_alone (alone : ∀ others, c = '\r' → rest = '\n' :: others → False) :
    ¬ ['\r', '\n'] <+: c :: rest := by
  rw [crlf_prefix_cons_iff, List.head?_eq_some_iff]
  rintro ⟨rfl, others, rfl⟩
  exact alone others rfl rfl

theorem getLast?_ne_of_cons (h : (c :: text).getLast? ≠ some d) : text.getLast? ≠ some d := by
  cases text with
  | nil => simp
  | cons e text => rwa [List.getLast?_cons_cons] at h

/-- A character stays unless it is a carriage return before a line feed. -/
theorem unifyLineEnds_cons (h : ¬ ['\r', '\n'] <+: c :: rest) :
    unifyLineEnds (c :: rest) = c :: unifyLineEnds rest := by
  rw [unifyLineEnds]
  rintro others rfl rfl
  exact h (List.prefix_append ['\r', '\n'] others)

/-- A line end becomes a line feed. -/
@[simp]
theorem unifyLineEnds_chars_append (lineEnd : LineEnd) (text : List Char) :
    unifyLineEnds (lineEnd.chars ++ text) = '\n' :: unifyLineEnds text := by
  cases lineEnd with
  | lf => exact unifyLineEnds_cons (by simp)
  | crlf => rfl

/-- A text that is not empty begins with a line end, which is unified, or with another character,
which stays. -/
theorem unifyLineEnds_cases (text : List Char) :
    text = [] ∨
      (∃ (lineEnd : LineEnd) (others : List Char), text = lineEnd.chars ++ others ∧
        unifyLineEnds text = '\n' :: unifyLineEnds others) ∨
      ∃ c others, c ≠ '\n' ∧ text = c :: others ∧
        unifyLineEnds text = c :: unifyLineEnds others := by
  fun_cases unifyLineEnds text with
  | case1 => exact .inl rfl
  | case2 others => exact .inr (.inl ⟨.crlf, others, rfl, rfl⟩)
  | case3 c others alone =>
    by_cases hc : c = '\n'
    · subst hc
      exact .inr (.inl ⟨.lf, others, rfl, rfl⟩)
    · exact .inr (.inr ⟨c, others, hc, rfl, rfl⟩)

/-- Texts are unified one after the other, unless a line end stands across them. -/
theorem unifyLineEnds_append (h : text.getLast? ≠ some '\r') (rest : List Char) :
    unifyLineEnds (text ++ rest) = unifyLineEnds text ++ unifyLineEnds rest := by
  fun_induction unifyLineEnds text with
  | case1 => rfl
  | case2 text ih =>
    have hlast := getLast?_ne_of_cons (getLast?_ne_of_cons h)
    rw [List.cons_append, List.cons_append, unifyLineEnds, ih hlast, List.cons_append]
  | case3 c text alone ih =>
    have hcrlf : ¬ ['\r', '\n'] <+: c :: (text ++ rest) := by
      cases text with
      | nil =>
        intro hcrlf
        obtain ⟨rfl, -⟩ := crlf_prefix_cons_iff.1 hcrlf
        exact h rfl
      | cons d text =>
        simpa [crlf_prefix_cons_iff] using not_lineEnd_of_alone alone
    rw [List.cons_append, unifyLineEnds_cons hcrlf, ih (getLast?_ne_of_cons h), List.cons_append]

/-- A unified text begins with a line feed if the text begins with a line end. -/
theorem head?_unifyLineEnds (text : List Char) :
    (unifyLineEnds text).head? = some '\n' ↔
      text.head? = some '\n' ∨ ['\r', '\n'] <+: text := by
  fun_cases unifyLineEnds text with
  | case1 => simp
  | case2 text => simp
  | case3 c text alone => simp [not_lineEnd_of_alone alone]

/-- Unifying line ends keeps the last character. -/
theorem getLast?_unifyLineEnds (text : List Char) :
    (unifyLineEnds text).getLast? = text.getLast? := by
  fun_induction unifyLineEnds text with
  | case1 => rfl
  | case2 text ih => rw [List.getLast?_cons_cons, List.getLast?_cons, List.getLast?_cons, ih]
  | case3 c text alone ih => rw [List.getLast?_cons, List.getLast?_cons, ih]

theorem unifyLineEnds_sublist (text : List Char) : (unifyLineEnds text).Sublist text := by
  fun_induction unifyLineEnds text with
  | case1 => exact .slnil
  | case2 text ih => exact .cons _ (.cons_cons _ ih)
  | case3 c text alone ih => exact .cons_cons _ ih

/-- Nothing is unified exactly if no carriage return stands before a line feed. -/
theorem unifyLineEnds_eq_self_iff (text : List Char) :
    unifyLineEnds text = text ↔ ¬ ['\r', '\n'] <:+: text := by
  fun_induction unifyLineEnds text with
  | case1 => simp
  | case2 text ih => simp [List.infix_cons_iff]
  | case3 c text alone ih =>
    rw [List.cons_inj_right, ih, List.infix_cons_iff, or_iff_right (not_lineEnd_of_alone alone)]

/-- A carriage return before a line feed is left exactly where two of them stood before one. -/
theorem infix_unifyLineEnds_iff (text : List Char) :
    ['\r', '\n'] <:+: unifyLineEnds text ↔ ['\r', '\r', '\n'] <:+: text := by
  fun_induction unifyLineEnds text with
  | case1 => simp
  | case2 text ih => simp [List.infix_cons_iff, List.cons_prefix_cons, ih]
  | case3 c text alone ih =>
    -- the character is followed by a new line feed only if it stands before a whole line end
    have hnew : ['\r', '\n'] <+: c :: unifyLineEnds text ↔ ['\r', '\r', '\n'] <+: c :: text := by
      have hlf := not_lineEnd_of_alone alone
      rw [crlf_prefix_cons_iff] at hlf
      rw [crlf_prefix_cons_iff, head?_unifyLineEnds, List.cons_prefix_cons]
      grind
    rw [List.infix_cons_iff, List.infix_cons_iff, hnew, ih]

/-- Unifying line ends takes away blanks only. -/
theorem filter_unifyLineEnds (text : List Char) :
    (unifyLineEnds text).filter (!isBlank ·) = text.filter (!isBlank ·) := by
  have hreturn : isBlank '\r' = true := by decide
  fun_induction unifyLineEnds text with
  | case1 => rfl
  | case2 text ih => simp [List.filter_cons, hreturn, ih]
  | case3 c text alone ih => rw [List.filter_cons, List.filter_cons, ih]

end LineEnds

/-! ## Lines -/

section Lines

variable {c : Char} {line text : List Char} {parts : List (List Char)}

theorem lines_ne_nil (text : List Char) : lines text ≠ [] :=
  List.splitOn_ne_nil _ _

/-- A text is its lines. -/
@[simp]
theorem unlines_lines (text : List Char) : unlines (lines text) = text :=
  List.intercalate_splitOn '\n'

/-- Lines without line feeds are read back. -/
theorem lines_unlines (h : ∀ part ∈ parts, '\n' ∉ part) (nonempty : parts ≠ []) :
    lines (unlines parts) = parts :=
  List.splitOn_intercalate '\n' h nonempty

theorem newline_not_mem_of_mem_lines (h : line ∈ lines text) : '\n' ∉ line := by
  induction text generalizing line with
  | nil =>
    rw [lines, List.splitOn_nil, List.mem_singleton] at h
    simp [h]
  | cons c text ih =>
    obtain ⟨first, others, hlines⟩ := List.exists_cons_of_ne_nil (lines_ne_nil text)
    rw [lines, List.splitOn_cons_eq_if_modifyHead, ← lines, hlines, List.modifyHead_cons] at h
    rw [hlines] at ih
    grind

@[simp]
theorem unlines_singleton (line : List Char) : unlines [line] = line :=
  List.intercalate_singleton

@[simp]
theorem unlines_cons_cons (line second : List Char) (others : List (List Char)) :
    unlines (line :: second :: others) = line ++ '\n' :: unlines (second :: others) := by
  rw [unlines, List.intercalate_cons_cons, List.append_assoc]
  rfl

theorem mem_unlines_of_mem (h : line ∈ parts) (hc : c ∈ line) : c ∈ unlines parts := by
  induction parts with
  | nil => cases h
  | cons first parts ih =>
    cases parts with
    | nil =>
      obtain rfl := List.mem_singleton.1 h
      simpa using hc
    | cons second others =>
      rw [unlines_cons_cons, List.mem_append, List.mem_cons]
      obtain rfl | hothers := List.mem_cons.1 h
      · exact .inl hc
      · exact .inr (.inr (ih hothers))

/-- A text begins as its first line does, unless this line is empty. -/
theorem head?_unlines_cons (nonempty : line ≠ []) (others : List (List Char)) :
    (unlines (line :: others)).head? = line.head? := by
  obtain ⟨c, line, rfl⟩ := List.exists_cons_of_ne_nil nonempty
  cases others <;> simp

/-- A text whose first line is empty is empty or begins with a line feed. -/
theorem eq_nil_of_lines_eq {others : List (List Char)} (h : lines text = [] :: others)
    (newline : text.head? ≠ some '\n') : text = [] := by
  rw [← unlines_lines text, h] at newline ⊢
  cases others with
  | nil => rfl
  | cons second others => simp at newline

/-- A text that does not end with a line feed ends after the last one. -/
theorem getLast?_append_newline_iff (h : c ≠ '\n') :
    (line ++ '\n' :: text).getLast? = some c ↔ text.getLast? = some c := by
  cases text using List.reverseRecOn with
  | nil => simpa using h.symm
  | append_singleton text d => simp [List.getLast?_cons]

/-- A line is read up to its line feed. -/
theorem lines_append_newline (h : '\n' ∉ line) (rest : List Char) :
    lines (line ++ '\n' :: rest) = line :: lines rest :=
  List.splitOn_append_cons_self_of_not_mem h rest

/-- A carriage return before a line feed stands at the end of a line. -/
theorem crlf_infix_append_iff (h : '\n' ∉ line) (rest : List Char) :
    ['\r', '\n'] <:+: line ++ '\n' :: rest ↔
      line.getLast? = some '\r' ∨ ['\r', '\n'] <:+: rest := by
  induction line with
  | nil => simp [List.infix_cons_iff]
  | cons c line ih =>
    have hline : '\n' ∉ line := fun hmem => h (List.mem_cons_of_mem _ hmem)
    rw [List.cons_append, List.infix_cons_iff, crlf_prefix_cons_iff, ih hline]
    cases line with
    | nil => simp
    | cons d line =>
      have hd : d ≠ '\n' := fun hd => hline (hd ▸ List.mem_cons_self)
      simp [hd]

end Lines

/-! ## Dedenting -/

section Dedent

variable {c : Char} {width n : Nat} {line text : List Char} {parts : List (List Char)}

@[simp]
theorem dedent_zero (line : List Char) : dedent 0 line = line := by
  rw [dedent, Nat.min_zero, List.drop_zero]

@[simp]
theorem dedent_nil (width : Nat) : dedent width [] = [] :=
  List.drop_nil

theorem indentation_cons_space (line : List Char) :
    indentation (' ' :: line) = indentation line + 1 := by
  simp [indentation]

theorem indentation_eq_zero (h : line.head? ≠ some ' ') : indentation line = 0 := by
  cases line with
  | nil => rfl
  | cons c line =>
    have hc : c ≠ ' ' := by simpa using h
    simp [indentation, hc]

theorem indentation_replicate_append (n : Nat) (h : line.head? ≠ some ' ') :
    indentation (List.replicate n ' ' ++ line) = n := by
  induction n with
  | zero => exact indentation_eq_zero h
  | succ n ih => rw [List.replicate_succ, List.cons_append, indentation_cons_space, ih]

theorem dedent_cons_space (width : Nat) (line : List Char) :
    dedent (width + 1) (' ' :: line) = dedent width line := by
  rw [dedent, indentation_cons_space, Nat.add_min_add_right, List.drop_succ_cons, dedent]

theorem dedent_cons_of_ne (h : c ≠ ' ') (width : Nat) (line : List Char) :
    dedent width (c :: line) = c :: line := by
  rw [dedent, indentation_eq_zero (by simpa using h), Nat.zero_min, List.drop_zero]

/-- Dedenting a line takes away spaces at its beginning, and nothing else. -/
theorem eq_replicate_append_dedent (width : Nat) (line : List Char) :
    ∃ n, line = List.replicate n ' ' ++ dedent width line := by
  induction line generalizing width with
  | nil => exact ⟨0, by simp⟩
  | cons c line ih =>
    by_cases hc : c = ' '
    · subst hc
      cases width with
      | zero => exact ⟨0, by simp⟩
      | succ width =>
        obtain ⟨n, hn⟩ := ih width
        refine ⟨n + 1, ?_⟩
        rw [dedent_cons_space, List.replicate_succ, List.cons_append, ← hn]
    · exact ⟨0, by simp [dedent_cons_of_ne hc]⟩

/-- Dedenting undoes indenting. -/
theorem dedent_replicate_append (width : Nat) (line : List Char) :
    dedent width (List.replicate width ' ' ++ line) = line := by
  induction width with
  | zero => exact dedent_zero line
  | succ width ih => rw [List.replicate_succ, List.cons_append, dedent_cons_space, ih]

theorem dedent_replicate (h : n ≤ width) : dedent width (List.replicate n ' ') = [] := by
  induction n generalizing width with
  | zero => exact dedent_nil width
  | succ n ih =>
    obtain ⟨width, rfl⟩ := Nat.exists_eq_add_of_le' (Nat.le_trans (Nat.le_add_left 1 n) h)
    rw [List.replicate_succ, dedent_cons_space, ih (Nat.le_of_succ_le_succ h)]

/-- A line that is dedented by its whole indentation does not begin with a space. -/
theorem head?_dedent_indentation (line : List Char) :
    (dedent (indentation line) line).head? ≠ some ' ' := by
  induction line with
  | nil => simp
  | cons c line ih =>
    by_cases hc : c = ' '
    · subst hc
      rwa [indentation_cons_space, dedent_cons_space]
    · simpa [dedent_cons_of_ne hc] using hc

/-- Dedenting a line keeps its last character, unless this is a space. -/
theorem getLast?_dedent_eq_some_iff (h : c ≠ ' ') :
    (dedent width line).getLast? = some c ↔ line.getLast? = some c := by
  obtain ⟨n, hn⟩ := eq_replicate_append_dedent width line
  generalize dedent width line = dedented at hn ⊢
  subst hn
  cases dedented using List.reverseRecOn with
  | nil =>
    have hspace : (List.replicate n ' ').getLast? ≠ some c := fun hlast =>
      h (List.eq_of_mem_replicate (List.mem_of_getLast? hlast))
    simpa using hspace
  | append_singleton dedented d => simp

theorem filter_dedent (width : Nat) (line : List Char) :
    (dedent width line).filter (!isBlank ·) = line.filter (!isBlank ·) := by
  have hspace : isBlank ' ' = true := by decide
  obtain ⟨n, hn⟩ := eq_replicate_append_dedent width line
  conv_rhs => rw [hn]
  simp [hspace]

/-! The same facts about all lines of a text. -/

theorem unlines_map_dedent_sublist (width : Nat) (parts : List (List Char)) :
    (unlines (parts.map (dedent width))).Sublist (unlines parts) := by
  induction parts with
  | nil => exact .slnil
  | cons line parts ih =>
    have hline : (dedent width line).Sublist line := List.drop_sublist _ _
    cases parts with
    | nil => simpa using hline
    | cons second others =>
      rw [List.map_cons, List.map_cons, unlines_cons_cons, unlines_cons_cons]
      exact hline.append (.cons_cons _ ih)

theorem filter_unlines_map_dedent (width : Nat) (parts : List (List Char)) :
    (unlines (parts.map (dedent width))).filter (!isBlank ·) =
      (unlines parts).filter (!isBlank ·) := by
  induction parts with
  | nil => rfl
  | cons line parts ih =>
    cases parts with
    | nil => simpa using filter_dedent width line
    | cons second others =>
      rw [List.map_cons, List.map_cons, unlines_cons_cons, unlines_cons_cons, List.filter_append,
        List.filter_append, filter_dedent, List.filter_cons, List.filter_cons, ← List.map_cons, ih]

theorem getLast?_unlines_map_dedent_iff (width : Nat) (solid : ¬ isBlank c)
    (parts : List (List Char)) :
    (unlines (parts.map (dedent width))).getLast? = some c ↔ (unlines parts).getLast? = some c := by
  have hspace : c ≠ ' ' := by
    rintro rfl
    exact solid (by decide)
  have hnewline : c ≠ '\n' := by
    rintro rfl
    exact solid (by decide)
  induction parts with
  | nil => rfl
  | cons line parts ih =>
    cases parts with
    | nil => simpa using getLast?_dedent_eq_some_iff hspace
    | cons second others =>
      rw [List.map_cons, List.map_cons, unlines_cons_cons, unlines_cons_cons, ← List.map_cons,
        getLast?_append_newline_iff hnewline, getLast?_append_newline_iff hnewline]
      exact ih

/-- Dedenting makes no carriage return stand before a line feed, and separates none from it. -/
theorem crlf_infix_unlines_map_dedent_iff (width : Nat) (h : ∀ part ∈ parts, '\n' ∉ part) :
    ['\r', '\n'] <:+: unlines (parts.map (dedent width)) ↔ ['\r', '\n'] <:+: unlines parts := by
  have hdedent : ∀ line : List Char, '\n' ∉ line → '\n' ∉ dedent width line :=
    fun line hline hmem =>
    hline ((List.drop_sublist _ _).mem hmem)
  have hnone : ∀ line : List Char, '\n' ∉ line → ¬ ['\r', '\n'] <:+: line := fun line hline hcrlf =>
    hline (hcrlf.mem (by simp))
  induction parts with
  | nil => rfl
  | cons line parts ih =>
    obtain ⟨hline, hothers⟩ := List.forall_mem_cons.1 h
    cases parts with
    | nil => simp [hnone _ hline, hnone _ (hdedent _ hline)]
    | cons second others =>
      rw [List.map_cons, List.map_cons, unlines_cons_cons, unlines_cons_cons, ← List.map_cons,
        crlf_infix_append_iff (hdedent _ hline), crlf_infix_append_iff hline,
        getLast?_dedent_eq_some_iff (by decide)]
      exact or_congr_right (ih hothers)

theorem dedentLines_sublist (text : List Char) : (dedentLines text).Sublist text := by
  have h : (dedentLines text).Sublist (unlines (lines text)) := unlines_map_dedent_sublist _ _
  rwa [unlines_lines] at h

theorem filter_dedentLines (text : List Char) :
    (dedentLines text).filter (!isBlank ·) = text.filter (!isBlank ·) := by
  have h : (dedentLines text).filter (!isBlank ·) = (unlines (lines text)).filter (!isBlank ·) :=
    filter_unlines_map_dedent _ _
  rwa [unlines_lines] at h

theorem getLast?_dedentLines_iff (solid : ¬ isBlank c) (text : List Char) :
    (dedentLines text).getLast? = some c ↔ text.getLast? = some c := by
  have h : (dedentLines text).getLast? = some c ↔ (unlines (lines text)).getLast? = some c :=
    getLast?_unlines_map_dedent_iff _ solid _
  rwa [unlines_lines] at h

theorem crlf_infix_dedentLines_iff (text : List Char) :
    ['\r', '\n'] <:+: dedentLines text ↔ ['\r', '\n'] <:+: text := by
  have h : ['\r', '\n'] <:+: dedentLines text ↔ ['\r', '\n'] <:+: unlines (lines text) :=
    crlf_infix_unlines_map_dedent_iff _ fun _ => newline_not_mem_of_mem_lines
  rwa [unlines_lines] at h

/-- The lines of a text are dedented by the indentation of the first of them. -/
theorem dedentLines_of_lines_eq {first : List Char} {others : List (List Char)}
    (h : lines text = first :: others) :
    dedentLines text = unlines ((first :: others).map (dedent (indentation first))) := by
  rw [dedentLines, h]
  rfl

/-- Dedented lines do not begin with a space. -/
theorem head?_dedentLines (text : List Char) : (dedentLines text).head? ≠ some ' ' := by
  obtain ⟨first, others, hlines⟩ := List.exists_cons_of_ne_nil (lines_ne_nil text)
  have hfirst := head?_dedent_indentation first
  rw [dedentLines_of_lines_eq hlines, List.map_cons]
  generalize dedent (indentation first) first = dedented at hfirst
  cases others with
  | nil => simpa using hfirst
  | cons second others =>
    cases dedented with
    | nil => simp
    | cons c dedented => simpa using hfirst

/-- Dedenting makes the first line empty if it consists of spaces. -/
theorem head?_dedentLines_eq_newline_iff (text : List Char) :
    (dedentLines text).head? = some '\n' ↔
      ∃ n rest, text = List.replicate n ' ' ++ '\n' :: rest := by
  constructor
  · intro h
    obtain ⟨first, others, hlines⟩ := List.exists_cons_of_ne_nil (lines_ne_nil text)
    have hnewline : '\n' ∉ first := newline_not_mem_of_mem_lines (hlines ▸ List.mem_cons_self)
    obtain ⟨n, hfirst⟩ := eq_replicate_append_dedent (indentation first) first
    rw [dedentLines_of_lines_eq hlines, List.map_cons] at h
    generalize dedent (indentation first) first = dedented at hfirst h
    cases dedented with
    | nil =>
      cases others with
      | nil => simp at h
      | cons second others =>
        refine ⟨n, unlines (second :: others), ?_⟩
        rw [← unlines_lines text, hlines, unlines_cons_cons, hfirst, List.append_nil]
    | cons c dedented =>
      -- a line that is not empty does not begin with a line feed
      have hc : c = '\n' := by cases others <;> simpa using h
      exact absurd (hfirst ▸ hc ▸ by simp) hnewline
  · rintro ⟨n, rest, rfl⟩
    have hspaces : '\n' ∉ List.replicate n ' ' := by simp
    have hindentation : indentation (List.replicate n ' ' ++ []) = n :=
      indentation_replicate_append n (by simp)
    rw [List.append_nil] at hindentation
    obtain ⟨second, others, hrest⟩ := List.exists_cons_of_ne_nil (lines_ne_nil rest)
    rw [dedentLines_of_lines_eq (lines_append_newline hspaces rest), hindentation, hrest,
      List.map_cons, List.map_cons, dedent_replicate (Nat.le_refl n), unlines_cons_cons]
    rfl

/-- Nothing is dedented if the text does not begin with a space. -/
theorem dedentLines_eq_self (h : text.head? ≠ some ' ') : dedentLines text = text := by
  obtain ⟨first, others, hlines⟩ := List.exists_cons_of_ne_nil (lines_ne_nil text)
  have hfirst : first.head? ≠ some ' ' := by
    by_cases hempty : first = []
    · simp [hempty]
    · rwa [← unlines_lines text, hlines, head?_unlines_cons hempty] at h
  have hid : dedent 0 = id := funext dedent_zero
  rw [dedentLines_of_lines_eq hlines, indentation_eq_zero hfirst, hid, List.map_id, ← hlines,
    unlines_lines]

end Dedent

/-! ## Blanks at the end -/

section TrimEnd

variable {c : Char} {text blanks rest : List Char}

theorem exists_eq_trimEnd_append (text : List Char) :
    ∃ blanks, (∀ c ∈ blanks, isBlank c) ∧ text = trimEnd text ++ blanks :=
  ⟨text.rtakeWhile isBlank, fun _ => List.mem_rtakeWhile_imp,
    List.rdropWhile_append_rtakeWhile.symm⟩

theorem trimEnd_sublist (text : List Char) : (trimEnd text).Sublist text := by
  apply List.IsPrefix.sublist
  exact List.rdropWhile_prefix isBlank text

theorem trimEnd_append_of_blank (areBlank : ∀ c ∈ blanks, isBlank c) (text : List Char) :
    trimEnd (text ++ blanks) = trimEnd text := by
  rw [trimEnd, List.reverse_append, List.dropWhile_append_of_pos (by simpa using areBlank), trimEnd]

theorem trimEnd_eq_self_iff : trimEnd text = text ↔ text.getLast?.any isBlank = false := by
  have h : trimEnd text = text ↔ ∀ nonempty : text ≠ [], ¬ isBlank (text.getLast nonempty) :=
    List.rdropWhile_eq_self_iff
  rw [h]
  cases text with
  | nil => simp
  | cons c text => simp [List.getLast?_eq_some_getLast]

theorem trimEnd_trimEnd (text : List Char) : trimEnd (trimEnd text) = trimEnd text :=
  List.rdropWhile_idempotent _ _

theorem getLast?_trimEnd (text : List Char) : (trimEnd text).getLast?.any isBlank = false :=
  trimEnd_eq_self_iff.1 (trimEnd_trimEnd text)

/-- What stands before a character that is not blank is kept. -/
theorem trimEnd_append (h : trimEnd rest ≠ []) (text : List Char) :
    trimEnd (text ++ rest) = text ++ trimEnd rest := by
  obtain ⟨blanks, areBlank, hrest⟩ := exists_eq_trimEnd_append rest
  have hlast : (text ++ trimEnd rest).getLast?.any isBlank = false := by
    rw [List.getLast?_append_of_ne_nil _ h]
    exact getLast?_trimEnd rest
  calc trimEnd (text ++ rest) = trimEnd (text ++ trimEnd rest ++ blanks) := by
        rw [List.append_assoc, ← hrest]
    _ = trimEnd (text ++ trimEnd rest) := trimEnd_append_of_blank areBlank _
    _ = text ++ trimEnd rest := trimEnd_eq_self_iff.2 hlast

/-- A text that does not end in a blank does not end in a carriage return. -/
theorem getLast?_ne_return (h : text.getLast?.any isBlank = false) : text.getLast? ≠ some '\r' := by
  intro hreturn
  rw [hreturn] at h
  exact absurd h (by decide)

/-- Dropping blanks at the end commutes with unifying line ends. -/
theorem trimEnd_unifyLineEnds (text : List Char) :
    trimEnd (unifyLineEnds text) = unifyLineEnds (trimEnd text) := by
  obtain ⟨blanks, areBlank, htext⟩ := exists_eq_trimEnd_append text
  have hlast := getLast?_trimEnd text
  have hblanks : ∀ c ∈ unifyLineEnds blanks, isBlank c := fun c hc =>
    areBlank c ((unifyLineEnds_sublist blanks).mem hc)
  calc trimEnd (unifyLineEnds text)
      = trimEnd (unifyLineEnds (trimEnd text) ++ unifyLineEnds blanks) := by
        rw [← unifyLineEnds_append (getLast?_ne_return hlast), ← htext]
    _ = trimEnd (unifyLineEnds (trimEnd text)) := trimEnd_append_of_blank hblanks _
    _ = unifyLineEnds (trimEnd text) :=
        trimEnd_eq_self_iff.2 (by rwa [getLast?_unifyLineEnds])

/-- Dropping blanks at the end keeps the first character, or nothing at all. -/
theorem trimEnd_cons (c : Char) (text : List Char) :
    trimEnd (c :: text) = [] ∧ trimEnd text = [] ∨ trimEnd (c :: text) = c :: trimEnd text := by
  by_cases htext : trimEnd text = []
  · have areBlank : ∀ d ∈ text, isBlank d := List.rdropWhile_eq_nil_iff.1 htext
    have hfirst : trimEnd (c :: text) = trimEnd [c] := trimEnd_append_of_blank areBlank [c]
    rw [hfirst, htext]
    by_cases hc : isBlank c = true
    · exact .inl ⟨by simp [trimEnd, hc], rfl⟩
    · exact .inr (by simp [trimEnd, hc])
  · exact .inr (trimEnd_append htext [c])

/-- Dropping blanks at the end commutes with dropping line feeds at the beginning. -/
theorem trimEnd_dropWhile_newline (text : List Char) :
    trimEnd (text.dropWhile (· = '\n')) = (trimEnd text).dropWhile (· = '\n') := by
  induction text with
  | nil => rfl
  | cons c text ih =>
    by_cases hc : c = '\n'
    · rw [List.dropWhile_cons_of_pos (by simpa using hc), ih]
      obtain ⟨hall, hothers⟩ | hkept := trimEnd_cons c text
      · rw [hall, hothers]
      · rw [hkept, List.dropWhile_cons_of_pos (by simpa using hc)]
    · rw [List.dropWhile_cons_of_neg (by simpa using hc)]
      obtain ⟨hall, -⟩ | hkept := trimEnd_cons c text
      · rw [hall, List.dropWhile_nil]
      · rw [hkept, List.dropWhile_cons_of_neg (by simpa using hc)]

end TrimEnd

end Highlighter.Snippet
