import Highlighter.Proofs.Snippet.Lines

/-!
# Normal snippets

A snippet is normal if normalizing changes nothing of it. This file says which texts these are, what
normalizing does to any text, and which texts it makes normal in one go.

Normalizing does not always give a normal text. Two carriage returns before a line feed leave one
of them there. A first line of spaces and tabs is not empty, so it is not dropped with the line
feeds before the text; dedenting then makes it empty. These are the only two ways in which a second
normalization finds something to do.

## Main definitions

* `IsNormal` — the form of texts that normalizing does not change
* `OpensBlank` — the first line that is not empty consists of spaces and tabs

## Main results

* `normalize_touches_only_blanks` — only blanks are taken away or replaced
* `normalizeChars_eq_self_iff` — the fixed points of normalizing
* `normalize_idempotent_iff` — when normalizing twice is the same as normalizing once
-/

namespace Highlighter.Snippet

open Highlighter.Text

variable {text blanks : List Char}

/-! ## What normalizing ignores -/

/-- Blanks at the end can be dropped before anything else. -/
theorem normalizeChars_eq (text : List Char) : normalizeChars text =
    dedentLines (((unifyLineEnds (trimEnd text)).dropWhile (· = '\n')).map untab) := by
  rw [normalizeChars, trimEnd_dropWhile_newline, trimEnd_unifyLineEnds]

theorem normalizeChars_append_of_blank (areBlank : ∀ c ∈ blanks, isBlank c) (text : List Char) :
    normalizeChars (text ++ blanks) = normalizeChars text := by
  rw [normalizeChars_eq, trimEnd_append_of_blank areBlank, ← normalizeChars_eq]

theorem normalizeChars_lineEnds_append (before : List LineEnd) (text : List Char) :
    normalizeChars (before.flatMap LineEnd.chars ++ text) = normalizeChars text := by
  induction before with
  | nil => rfl
  | cons lineEnd before ih =>
    rw [← ih, List.flatMap_cons, List.append_assoc, normalizeChars, unifyLineEnds_chars_append,
      List.dropWhile_cons_of_pos (by simp), ← normalizeChars]

/-! ## Only blanks are touched -/

section Blanks

variable {c d : Char}

theorem untab_of_ne (h : c ≠ '\t') : untab c = c :=
  if_neg h

theorem untab_ne_tab (c : Char) : untab c ≠ '\t' := by
  by_cases hc : c = '\t' <;> simp [untab, hc]

theorem untab_eq_iff (space : d ≠ ' ') (tab : d ≠ '\t') : untab c = d ↔ c = d := by
  by_cases hc : c = '\t'
  · simp [untab, hc, space.symm, tab.symm]
  · rw [untab_of_ne hc]

theorem map_untab_eq_self_iff : text.map untab = text ↔ '\t' ∉ text := by
  constructor
  · rintro htext htab
    rw [← htext] at htab
    obtain ⟨c, -, hc⟩ := List.mem_map.1 htab
    exact untab_ne_tab c hc
  · intro htab
    have hid : text.map untab = text.map id :=
      List.map_congr_left fun c hc => untab_of_ne fun heq => htab (heq ▸ hc)
    rw [hid, List.map_id]

theorem isBlank_untab (c : Char) : isBlank (untab c) = isBlank c := by
  by_cases hc : c = '\t'
  · subst hc
    decide
  · rw [untab_of_ne hc]

theorem filter_map_untab (text : List Char) :
    (text.map untab).filter (!isBlank ·) = text.filter (!isBlank ·) := by
  have hsame : (fun c => !isBlank c) ∘ untab = fun c => !isBlank c := by
    funext c
    simp [isBlank_untab]
  rw [List.filter_map, hsame, map_untab_eq_self_iff]
  intro htab
  exact absurd (List.mem_filter.1 htab).2 (by decide)

theorem filter_trimEnd (text : List Char) :
    (trimEnd text).filter (!isBlank ·) = text.filter (!isBlank ·) := by
  obtain ⟨blanks, areBlank, htext⟩ := exists_eq_trimEnd_append text
  have hnone : blanks.filter (!isBlank ·) = [] := by simpa using areBlank
  conv_rhs => rw [htext, List.filter_append, hnone, List.append_nil]

theorem filter_dropWhile_newline (text : List Char) :
    (text.dropWhile (· = '\n')).filter (!isBlank ·) = text.filter (!isBlank ·) := by
  have hnewline : isBlank '\n' = true := by decide
  induction text with
  | nil => rfl
  | cons c text ih =>
    by_cases hc : c = '\n' <;> simp [hc, hnewline, ih]

/-- Whatever is not blank is kept, in its order. -/
theorem filter_normalizeChars (text : List Char) :
    (normalizeChars text).filter (!isBlank ·) = text.filter (!isBlank ·) := by
  rw [normalizeChars, filter_dedentLines, filter_map_untab, filter_trimEnd,
    filter_dropWhile_newline, filter_unifyLineEnds]

theorem tab_not_mem_normalizeChars (text : List Char) : '\t' ∉ normalizeChars text := by
  intro htab
  obtain ⟨c, -, hc⟩ := List.mem_map.1 ((dedentLines_sublist _).mem htab)
  exact untab_ne_tab c hc

theorem head?_normalizeChars (text : List Char) : (normalizeChars text).head? ≠ some ' ' :=
  head?_dedentLines _

/-- A normalized text does not end in a blank: what is left of it ends before the dedenting as it
ends after it. -/
theorem getLast?_normalizeChars (text : List Char) :
    (normalizeChars text).getLast?.any isBlank = false := by
  have hlast := getLast?_trimEnd ((unifyLineEnds text).dropWhile (· = '\n'))
  rw [normalizeChars]
  cases htrim : trimEnd ((unifyLineEnds text).dropWhile (· = '\n')) using List.reverseRecOn with
  | nil => decide
  | append_singleton front c =>
    have hsolid : ¬ isBlank (untab c) := by
      rw [htrim, List.getLast?_concat] at hlast
      simpa [isBlank_untab] using hlast
    rw [(getLast?_dedentLines_iff hsolid _).2 (by simp)]
    simpa using hsolid

end Blanks

/-- Normalizing touches only blanks: what is not blank stays, in its order. No tab is left, and the
text neither begins with a space nor ends in a blank. -/
theorem normalize_touches_only_blanks (text : String) :
    (normalize text).toList.filter (!isBlank ·) = text.toList.filter (!isBlank ·) ∧
      '\t' ∉ (normalize text).toList ∧
      (normalize text).toList.head? ≠ some ' ' ∧
      (normalize text).toList.getLast?.any isBlank = false := by
  rw [normalize, String.toList_ofList]
  exact ⟨filter_normalizeChars _, tab_not_mem_normalizeChars _, head?_normalizeChars _,
    getLast?_normalizeChars _⟩

/-! ## Normal texts -/

/-- The form of texts that normalizing does not change. -/
structure IsNormal (text : List Char) : Prop where
  crlf : ¬ ['\r', '\n'] <:+: text
  tab : '\t' ∉ text
  newline : text.head? ≠ some '\n'
  space : text.head? ≠ some ' '
  last : text.getLast?.any isBlank = false

theorem dropWhile_newline_eq_self_iff :
    text.dropWhile (· = '\n') = text ↔ text.head? ≠ some '\n' := by
  cases text with
  | nil => simp
  | cons c text =>
    rw [List.dropWhile_eq_self_iff]
    simp

theorem IsNormal.normalizeChars_eq (h : IsNormal text) : normalizeChars text = text := by
  rw [normalizeChars, (unifyLineEnds_eq_self_iff text).2 h.crlf,
    dropWhile_newline_eq_self_iff.2 h.newline, trimEnd_eq_self_iff.2 h.last,
    map_untab_eq_self_iff.2 h.tab, dedentLines_eq_self h.space]

/-- No step of normalizing makes a text longer, so a text that comes out as it was is left alone by
every step. -/
theorem isNormal_of_normalizeChars_eq (h : normalizeChars text = text) : IsNormal text := by
  have hunify := unifyLineEnds_sublist text
  have hdrop := List.dropWhile_sublist (l := unifyLineEnds text) (· = '\n')
  have htrim := trimEnd_sublist ((unifyLineEnds text).dropWhile (· = '\n'))
  have hdedent := (dedentLines_sublist
    ((trimEnd ((unifyLineEnds text).dropWhile (· = '\n'))).map untab)).length_le
  rw [← normalizeChars, h, List.length_map] at hdedent
  have hunified : unifyLineEnds text = text := by
    refine hunify.eq_of_length_le (hdedent.trans ?_)
    exact htrim.length_le.trans hdrop.length_le
  rw [hunified] at hdrop htrim hdedent
  have hdropped : text.dropWhile (· = '\n') = text :=
    hdrop.eq_of_length_le (hdedent.trans htrim.length_le)
  refine ⟨(unifyLineEnds_eq_self_iff text).1 hunified, ?_, dropWhile_newline_eq_self_iff.1 hdropped,
    ?_, ?_⟩
  · exact h ▸ tab_not_mem_normalizeChars text
  · exact h ▸ head?_normalizeChars text
  · exact h ▸ getLast?_normalizeChars text

/-- The fixed points of normalizing. -/
theorem normalizeChars_eq_self_iff : normalizeChars text = text ↔ IsNormal text :=
  ⟨isNormal_of_normalizeChars_eq, IsNormal.normalizeChars_eq⟩

theorem normalize_eq_self_iff (text : String) : normalize text = text ↔ IsNormal text.toList := by
  rw [← normalizeChars_eq_self_iff, normalize, ← String.toList_inj, String.toList_ofList]

/-! ## Normalizing twice -/

/-- The first line that is not empty consists of spaces and tabs, and something follows it. -/
def OpensBlank (text : List Char) : Prop :=
  ∃ (before : List LineEnd) (indent : List Char) (lineEnd : LineEnd) (rest : List Char),
    text = before.flatMap LineEnd.chars ++ (indent ++ (lineEnd.chars ++ rest)) ∧
      indent ≠ [] ∧ IsIndent indent ∧ ∃ c ∈ rest, ¬ isBlank c

section Twice

variable {c : Char} {indent newlines rest : List Char}

theorem IsIndent.not_mem (h : IsIndent indent) (space : c ≠ ' ') (tab : c ≠ '\t') : c ∉ indent :=
  fun hc => (h c hc).elim space tab

/-- Without tabs, an indent is made of spaces. -/
theorem IsIndent.map_untab (h : IsIndent indent) :
    indent.map untab = List.replicate indent.length ' ' := by
  refine List.eq_replicate_iff.2 ⟨by simp, ?_⟩
  rintro d hd
  obtain ⟨c, hc, rfl⟩ := List.mem_map.1 hd
  obtain rfl | rfl := h c hc <;> rfl

theorem isIndent_of_map_untab {n : Nat} (h : indent.map untab = List.replicate n ' ') :
    IsIndent indent := by
  intro c hc
  by_cases htab : c = '\t'
  · exact .inr htab
  · have hspace : untab c ∈ List.replicate n ' ' := h ▸ List.mem_map_of_mem hc
    rw [untab_of_ne htab] at hspace
    exact .inl (List.eq_of_mem_replicate hspace)

/-- A line feed at the beginning of a unified text comes from a line end. -/
theorem exists_lineEnd_of_unifyLineEnds (h : unifyLineEnds text = '\n' :: rest) :
    ∃ (lineEnd : LineEnd) (others : List Char),
      text = lineEnd.chars ++ others ∧ unifyLineEnds others = rest := by
  obtain rfl | ⟨lineEnd, others, htext, hunify⟩ | ⟨c, others, hc, htext, hunify⟩ :=
    unifyLineEnds_cases text
  · cases h
  · exact ⟨lineEnd, others, htext, List.tail_eq_of_cons_eq (hunify.symm.trans h)⟩
  · exact absurd (List.head_eq_of_cons_eq (hunify.symm.trans h)) hc

theorem exists_lineEnds_of_unifyLineEnds (areNewlines : ∀ c ∈ newlines, c = '\n')
    (h : unifyLineEnds text = newlines ++ rest) :
    ∃ (before : List LineEnd) (others : List Char),
      text = before.flatMap LineEnd.chars ++ others ∧ unifyLineEnds others = rest := by
  induction newlines generalizing text with
  | nil => exact ⟨[], text, rfl, h⟩
  | cons c newlines ih =>
    obtain ⟨rfl, hnewlines⟩ := List.forall_mem_cons.1 areNewlines
    obtain ⟨lineEnd, others, rfl, hothers⟩ := exists_lineEnd_of_unifyLineEnds h
    obtain ⟨before, more, rfl, hmore⟩ := ih hnewlines hothers
    exact ⟨lineEnd :: before, more, by simp, hmore⟩

/-- What is no line feed stands in a text as it stands in the unified text. -/
theorem exists_append_of_unifyLineEnds (noNewline : '\n' ∉ indent)
    (h : unifyLineEnds text = indent ++ rest) :
    ∃ others, text = indent ++ others ∧ unifyLineEnds others = rest := by
  induction indent generalizing text with
  | nil => exact ⟨text, rfl, h⟩
  | cons c indent ih =>
    obtain ⟨hc, hindent⟩ := List.ne_and_not_mem_of_not_mem_cons noNewline
    obtain rfl | ⟨lineEnd, others, -, hunify⟩ | ⟨d, others, -, rfl, hunify⟩ :=
      unifyLineEnds_cases text
    · cases h
    · exact absurd (List.head_eq_of_cons_eq (hunify.symm.trans h)) hc
    · obtain ⟨rfl, hothers⟩ := List.cons_eq_cons.1 (hunify.symm.trans h)
      obtain ⟨more, rfl, hmore⟩ := ih hindent hothers
      exact ⟨more, rfl, hmore⟩

theorem head?_dropWhile_newline (text : List Char) :
    (text.dropWhile (· = '\n')).head? ≠ some '\n' := by
  rw [← dropWhile_newline_eq_self_iff]
  exact List.dropWhile_idempotent _ _

/-- A text whose first line is made empty by dedenting has a blank first line. -/
theorem opensBlank_of_head? (h : (normalizeChars text).head? = some '\n') : OpensBlank text := by
  rw [normalizeChars_eq, head?_dedentLines_eq_newline_iff] at h
  obtain ⟨n, tail, htail⟩ := h
  obtain ⟨indent, others, hbody, hindent, hothers⟩ := List.map_eq_append_iff.1 htail
  obtain ⟨c, rest, rfl, hc, -⟩ := List.map_eq_cons_iff.1 hothers
  obtain rfl := (untab_eq_iff (by decide) (by decide)).1 hc
  have isIndent : IsIndent indent := isIndent_of_map_untab hindent
  have nonempty : indent ≠ [] := by
    rintro rfl
    exact head?_dropWhile_newline _ (congrArg List.head? hbody)
  -- back to the text: line ends, the indent, one more line end, and the rest
  have hunify :=
    List.takeWhile_append_dropWhile (p := (· = '\n')) (l := unifyLineEnds (trimEnd text))
  rw [hbody] at hunify
  obtain ⟨before, indented, htext, hindented⟩ := exists_lineEnds_of_unifyLineEnds
    (fun c hc => by simpa using List.mem_takeWhile_imp hc) hunify.symm
  obtain ⟨ended, rfl, hended⟩ := exists_append_of_unifyLineEnds
    (isIndent.not_mem (by decide) (by decide)) hindented
  obtain ⟨lineEnd, kept, rfl, -⟩ := exists_lineEnd_of_unifyLineEnds hended
  obtain ⟨blanks, -, hblanks⟩ := exists_eq_trimEnd_append text
  refine ⟨before, indent, lineEnd, kept ++ blanks, ?_, nonempty, isIndent, ?_⟩
  · rw [hblanks, htext]
    simp
  · -- what is kept of the text ends in a character that is not blank, hence not in the line end
    have hlast := getLast?_trimEnd text
    rw [htext] at hlast
    cases kept using List.reverseRecOn with
    | nil =>
      rw [List.append_nil, ← List.append_assoc, LineEnd.getLast?_append_chars] at hlast
      exact absurd hlast (by decide)
    | append_singleton kept c => exact ⟨c, by simp, by simpa using hlast⟩

/-- A blank first line is made empty by dedenting. -/
theorem OpensBlank.head? (h : OpensBlank text) : (normalizeChars text).head? = some '\n' := by
  obtain ⟨before, indent, lineEnd, rest, rfl, nonempty, isIndent, c, hc, solid⟩ := h
  have hrest : trimEnd rest ≠ [] := fun hnil => solid (List.rdropWhile_eq_nil_iff.1 hnil c hc)
  have htrim : trimEnd (indent ++ (lineEnd.chars ++ rest)) =
      indent ++ (lineEnd.chars ++ trimEnd rest) := by
    simp only [← List.append_assoc]
    exact trimEnd_append hrest _
  have hreturn : indent.getLast? ≠ some '\r' := fun hlast =>
    isIndent.not_mem (by decide) (by decide) (List.mem_of_getLast? hlast)
  have hnewline : (indent ++ '\n' :: unifyLineEnds (trimEnd rest)).head? ≠ some '\n' := by
    obtain ⟨first, others, rfl⟩ := List.exists_cons_of_ne_nil nonempty
    intro hhead
    obtain rfl : first = '\n' := by simpa using hhead
    exact isIndent.not_mem (by decide) (by decide) List.mem_cons_self
  have hindent : unifyLineEnds indent = indent := by
    rw [unifyLineEnds_eq_self_iff]
    intro hcrlf
    exact isIndent.not_mem (by decide) (by decide) (hcrlf.mem List.mem_cons_self)
  rw [normalizeChars_lineEnds_append, normalizeChars_eq, htrim, unifyLineEnds_append hreturn,
    unifyLineEnds_chars_append, hindent, dropWhile_newline_eq_self_iff.2 hnewline,
    List.map_append, isIndent.map_untab, head?_dedentLines_eq_newline_iff]
  exact ⟨indent.length, _, rfl⟩

/-- Normalizing leaves a line feed at the beginning exactly if the first line is blank. -/
theorem head?_normalizeChars_eq_newline_iff (text : List Char) :
    (normalizeChars text).head? = some '\n' ↔ OpensBlank text :=
  ⟨opensBlank_of_head?, OpensBlank.head?⟩

instance (text : List Char) : Decidable (OpensBlank text) :=
  decidable_of_iff _ (head?_normalizeChars_eq_newline_iff text)

theorem crlf_infix_map_untab_iff (text : List Char) :
    ['\r', '\n'] <:+: text.map untab ↔ ['\r', '\n'] <:+: text := by
  induction text with
  | nil => rfl
  | cons c text ih =>
    have hhead : (text.map untab).head? = some '\n' ↔ text.head? = some '\n' := by
      cases text with
      | nil => rfl
      | cons d text => simp [untab_eq_iff]
    rw [List.map_cons, List.infix_cons_iff, List.infix_cons_iff, crlf_prefix_cons_iff,
      crlf_prefix_cons_iff, untab_eq_iff (by decide) (by decide), hhead, ih]

theorem crlf_infix_dropWhile_newline_iff (text : List Char) :
    ['\r', '\n'] <:+: text.dropWhile (· = '\n') ↔ ['\r', '\n'] <:+: text := by
  induction text with
  | nil => rfl
  | cons c text ih =>
    by_cases hc : c = '\n'
    · subst hc
      rw [List.dropWhile_cons_of_pos (by simp), ih, List.infix_cons_iff, crlf_prefix_cons_iff]
      simp
    · rw [List.dropWhile_cons_of_neg (by simpa using hc)]

/-- Normalizing leaves a carriage return before a line feed exactly where two of them stand before
one, unless there are only blanks from there on. -/
theorem crlf_infix_normalizeChars_iff (text : List Char) :
    ['\r', '\n'] <:+: normalizeChars text ↔ ['\r', '\r', '\n'] <:+: trimEnd text := by
  rw [normalizeChars_eq, crlf_infix_dedentLines_iff, crlf_infix_map_untab_iff,
    crlf_infix_dropWhile_newline_iff, infix_unifyLineEnds_iff]

end Twice

/-- Normalizing twice is the same as normalizing once exactly if no two carriage returns stand
before a line feed, blanks at the end of the text apart, and the first line that is not empty is not
made of spaces and tabs before something else. -/
theorem normalize_idempotent_iff (text : String) :
    normalize (normalize text) = normalize text ↔
      ¬ ['\r', '\r', '\n'] <:+: trimEnd text.toList ∧ ¬ OpensBlank text.toList := by
  rw [normalize_eq_self_iff, normalize, String.toList_ofList, ← crlf_infix_normalizeChars_iff,
    ← head?_normalizeChars_eq_newline_iff]
  constructor
  · intro h
    exact ⟨h.crlf, h.newline⟩
  · rintro ⟨crlf, newline⟩
    exact ⟨crlf, tab_not_mem_normalizeChars _, newline, head?_normalizeChars _,
      getLast?_normalizeChars _⟩

/-- A snippet of four lines; the third is empty. -/
def plainSample : String :=
  "if a:\n  b \n\nc"

/-- The same snippet in a document that indents it by two characters. -/
def embeddedSample : String :=
  "\r\n\n\t if a:\r\n    b \n \r\n\t\tc\u000b\n"

theorem normalize_idempotent_embeddedSample :
    normalize embeddedSample = plainSample ∧
      normalize (normalize embeddedSample) = normalize embeddedSample :=
  ⟨by decide +kernel, (normalize_idempotent_iff embeddedSample).2 (by decide +kernel)⟩

/-- Neither a blank first line nor a carriage return too many is gone after the first time. -/
theorem normalize_not_idempotent :
    normalize (normalize "  \nx") ≠ normalize "  \nx" ∧
      normalize (normalize "a\r\r\nb") ≠ normalize "a\r\r\nb" := by
  decide +kernel

end Highlighter.Snippet
