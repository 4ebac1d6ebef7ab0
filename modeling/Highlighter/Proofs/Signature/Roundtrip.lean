import Highlighter.Proofs.Signature.Dialect

/-!
# Signatures give back their names

A signature that is written from a function name and a list of parameters is scanned for names. Each
parameter has a marker or none, an identifier, and a default value or none; a default value is
balanced and holds no word that begins a header. The scan gives back the names of the parameters in
their order, whatever the identifiers are: a parameter may be called `def` or `fn`, since what
follows its name cannot follow the word of a header.

## Main definitions

* `Parameter`, `Definition` — what a signature consists of, and `Definition.text` how it is written
* `Dialect.Quiet` — text in which no header can begin

## Main results

* `quiet_parameters` — no header begins in the parameters of a signature
* `argumentName_code` — the name that is found in a parameter
* `scan_signature` — the names that are found in a signature are those of its parameters
-/

namespace Highlighter.Signature

open Highlighter.Regex Highlighter.Text

/-! ## Signatures -/

/-- A parameter of a signature. -/
structure Parameter (dialect : Dialect) where
  marker : List Char
  isMarker : marker ∈ dialect.markers
  identifier : Name
  default : Option (Code dialect.grammar.lexis false)
  /-- The default value holds no word that begins a header. -/
  wordless : ∀ value ∈ default, ∀ word ∈ dialect.words, ¬ word <:+: value.text

/-- What a signature consists of: a function name with parameters. -/
structure Definition (dialect : Dialect) where
  name : Name
  parameters : List (Parameter dialect)

section Written

variable {dialect : Dialect}

/-- The name of a parameter, with its sigil. -/
def Parameter.name (parameter : Parameter dialect) : List Char :=
  dialect.sigil ++ parameter.identifier.text

/-- How the default value of a parameter is written. -/
def Parameter.defaultText (parameter : Parameter dialect) : List Char :=
  match parameter.default with
  | none => []
  | some value => dialect.gap ++ '=' :: (dialect.gap ++ value.text)

/-- How a parameter is written. -/
def Parameter.text (parameter : Parameter dialect) : List Char :=
  parameter.marker ++ parameter.name ++ parameter.defaultText

/-- How the parameters of a signature are written. -/
def parametersText (parameters : List (Parameter dialect)) : List Char :=
  [',', ' '].intercalate (parameters.map Parameter.text)

/-- How a signature is written. -/
def Definition.text (definition : Definition dialect) : List Char :=
  dialect.opening ++ definition.name.text ++ '(' :: (parametersText definition.parameters ++
    dialect.closing)

end Written

/-! ## No other header -/

/-- Text in which no header begins. -/
def Dialect.Quiet (dialect : Dialect) (text : List Char) : Prop :=
  ∀ word ∈ dialect.words, ∀ part, part <:+ text → ¬ Opens word part

/-- Whether no word of a header begins with one of the characters of a text. -/
def Dialect.isWordless (dialect : Dialect) (text : List Char) : Bool :=
  text.all fun c => dialect.words.all fun word => word.head? != some c

section Quiet

variable {dialect : Dialect} {text after : List Char}

theorem Dialect.isAsciiWord_of_mem_words (dialect : Dialect) :
    ∀ word ∈ dialect.words, word ≠ [] ∧ ∀ c ∈ word, isAsciiWord c := by
  cases dialect <;> decide

/-- A word that begins a text ends before the first character that cannot stand in a word. -/
theorem isPrefix_of_isPrefix_append {word first second : List Char}
    (isWord : ∀ c ∈ word, isAsciiWord c) (ends : ∀ c ∈ second.head?, ¬ isAsciiWord c)
    (h : word <+: first ++ second) : word <+: first := by
  rcases List.prefix_or_prefix_of_prefix h (List.prefix_append first second) with h' | ⟨rest, rfl⟩
  · exact h'
  · rw [List.prefix_append_right_inj] at h
    cases rest with
    | nil => simp
    | cons c rest =>
      obtain ⟨others, rfl⟩ := h
      exact absurd (isWord c (by simp)) (ends c rfl)

/-- After blanks there is a space, a comma, an equals sign or a closing parenthesis, if at most a
space comes before one of the others. -/
theorem mem_of_space_append {space blanks rest : List Char} {z x : Char}
    (isSpace : space ∈ [[], [' ']]) (isStop : z ∈ [',', '=', ')'])
    (isBlank : ∀ c ∈ blanks, Text.isBlank c) (h : space ++ z :: text = blanks ++ x :: rest) :
    x ∈ [' ', ',', '=', ')'] := by
  have hstop : ∀ z ∈ [',', '=', ')'], ¬ Text.isBlank z := by decide
  have hspaces : space = [] ∨ space = [' '] := by simpa using isSpace
  rcases hspaces with rfl | rfl
  · cases blanks with
    | nil =>
      obtain ⟨rfl, -⟩ := List.cons.inj h
      exact List.mem_cons_of_mem _ isStop
    | cons b blanks =>
      obtain ⟨rfl, -⟩ := List.cons.inj h
      exact absurd (isBlank z (by simp)) (hstop z isStop)
  · cases blanks with
    | nil =>
      obtain ⟨rfl, -⟩ := List.cons.inj h
      exact List.mem_cons_self
    | cons b blanks =>
      obtain ⟨-, h⟩ := List.cons.inj h
      cases blanks with
      | nil =>
        obtain ⟨rfl, -⟩ := List.cons.inj h
        exact List.mem_cons_of_mem _ isStop
      | cons b' blanks =>
        obtain ⟨rfl, -⟩ := List.cons.inj h
        exact absurd (isBlank z (by simp)) (hstop z isStop)

namespace Dialect.Quiet

theorem cons (quiet : dialect.Quiet text) {c : Char}
    (h : ∀ word ∈ dialect.words, ¬ Opens word (c :: text)) : dialect.Quiet (c :: text) := by
  intro word hword part hpart
  rcases List.suffix_cons_iff.1 hpart with rfl | hpart
  · exact h word hword
  · exact quiet word hword part hpart

/-- Text in which no word of a header begins may come before quiet text. -/
theorem append_of_free (quiet : dialect.Quiet text) {part : List Char}
    (free : dialect.isWordless part) : dialect.Quiet (part ++ text) := by
  induction part with
  | nil => exact quiet
  | cons c part ih =>
    simp only [Dialect.isWordless, List.all_cons, Bool.and_eq_true] at free
    refine (ih free.2).cons fun word hword => ?_
    rintro ⟨blanks, x, rest, htext, -⟩
    obtain ⟨hnonempty, -⟩ := dialect.isAsciiWord_of_mem_words word hword
    cases word with
    | nil => exact hnonempty rfl
    | cons d word =>
      obtain ⟨rfl, -⟩ := List.cons.inj htext
      simpa using List.all_eq_true.1 free.1 _ hword

/-- Text that holds no word of a header may come before quiet text with which no word goes on. -/
theorem append_of_wordless (quiet : dialect.Quiet text) {part : List Char}
    (ends : ∀ c ∈ text.head?, ¬ isAsciiWord c)
    (wordless : ∀ word ∈ dialect.words, ¬ word <:+: part) : dialect.Quiet (part ++ text) := by
  induction part with
  | nil => exact quiet
  | cons c part ih =>
    refine (ih fun word hword h =>
      wordless word hword (h.trans (List.suffix_cons c part).isInfix)).cons
      fun word hword => ?_
    rintro ⟨blanks, x, rest, htext, -⟩
    have hbegins : word <+: c :: part ++ text := ⟨blanks ++ x :: rest, htext.symm⟩
    have hinside := isPrefix_of_isPrefix_append (dialect.isAsciiWord_of_mem_words word hword).2 ends
      hbegins
    exact wordless word hword hinside.isInfix

/-- A word may come before quiet text that begins with a comma, an equals sign or a closing
parenthesis, or with a space and then one of these. -/
theorem append_word {space : List Char} {z : Char} (isSpace : space ∈ [[], [' ']])
    (isStop : z ∈ [',', '=', ')']) (quiet : dialect.Quiet (space ++ z :: text)) {part : List Char}
    (isWord : ∀ c ∈ part, isAsciiWord c) : dialect.Quiet (part ++ (space ++ z :: text)) := by
  have hends : ∀ c ∈ (space ++ z :: text).head?, ¬ isAsciiWord c := by
    have hspace : ∀ space ∈ [[], [' ']], ∀ z ∈ [',', '=', ')'], ∀ c ∈ space ++ [z],
        ¬ isAsciiWord c := by decide
    intro c hc
    have hhead : (space ++ z :: text).head? = (space ++ [z]).head? := by cases space <;> rfl
    rw [hhead] at hc
    exact hspace space isSpace z isStop c (List.mem_of_mem_head? hc)
  induction part with
  | nil => exact quiet
  | cons c part ih =>
    refine (ih fun d hd => isWord d (List.mem_cons_of_mem c hd)).cons fun word hword => ?_
    rintro ⟨blanks, x, rest, htext, hblanks, hx, hbare⟩
    have hletters := (dialect.isAsciiWord_of_mem_words word hword).2
    have hbegins : word <+: c :: part ++ (space ++ z :: text) :=
      ⟨blanks ++ x :: rest, htext.symm⟩
    obtain ⟨left, hleft⟩ := isPrefix_of_isPrefix_append hletters hends hbegins
    have hafter : left ++ (space ++ z :: text) = blanks ++ x :: rest := by
      rw [← List.append_right_inj word, ← List.append_assoc, hleft]
      exact htext
    -- either the word goes on, or the text after it begins
    cases left with
    | nil => exact hx (mem_of_space_append isSpace isStop hblanks hafter)
    | cons d left =>
      have hd : isAsciiWord d := isWord d (by simp [← hleft])
      cases blanks with
      | nil =>
        obtain ⟨rfl, -⟩ := List.cons.inj hafter
        exact hbare rfl hd
      | cons b blanks =>
        obtain ⟨rfl, -⟩ := List.cons.inj hafter
        exact not_isBlank_of_isAsciiWord hd (hblanks d (by simp))

end Dialect.Quiet

namespace Dialect

variable (dialect : Dialect)

theorem isWordless_marker :
    ∀ marker ∈ dialect.markers, dialect.isWordless (marker ++ dialect.sigil) := by
  cases dialect <;> decide

theorem isWordless_equals : dialect.isWordless (dialect.gap ++ '=' :: dialect.gap) := by
  cases dialect <;> decide

theorem isWordless_separator : dialect.isWordless [',', ' '] := by
  cases dialect <;> decide

theorem quiet_closing : dialect.Quiet dialect.closing := by
  have hfree : dialect.isWordless dialect.closing := by cases dialect <;> decide
  have hnil : dialect.Quiet [] := by
    rintro word hword part hpart ⟨blanks, x, rest, hopens, -⟩
    obtain rfl := List.suffix_nil.1 hpart
    simp at hopens
  simpa using hnil.append_of_free hfree

theorem closing_eq : ∃ rest, dialect.closing = ')' :: rest := by
  cases dialect <;> exact ⟨_, rfl⟩

theorem gap_mem : dialect.gap ∈ [[], [' ']] := by
  cases dialect <;> decide

end Dialect

/-- No header begins in a parameter, if a comma or a closing parenthesis follows it. -/
theorem quiet_parameter (parameter : Parameter dialect) {z : Char} (isStop : z ∈ [',', ')'])
    (quiet : dialect.Quiet (z :: text)) : dialect.Quiet (parameter.text ++ z :: text) := by
  have hword : ∀ c ∈ parameter.identifier.text, isAsciiWord c :=
    fun c => parameter.identifier.isAsciiWord_of_mem
  have hidentifier : dialect.Quiet
      (parameter.identifier.text ++ (parameter.defaultText ++ z :: text)) := by
    unfold Parameter.defaultText
    split
    next =>
      have hstop : z ∈ [',', '=', ')'] := by
        simp only [List.mem_cons, List.not_mem_nil, or_false] at isStop ⊢
        exact isStop.imp_right Or.inr
      exact @Dialect.Quiet.append_word dialect text [] z (by simp) hstop quiet _ hword
    next value hvalue =>
      have hends : ∀ c ∈ (z :: text).head?, ¬ isAsciiWord c := by
        have hstops : ∀ z ∈ [',', ')'], ¬ isAsciiWord z := by decide
        simpa using hstops z isStop
      have hvalue := quiet.append_of_wordless hends (parameter.wordless value hvalue)
      have hequals := hvalue.append_of_free dialect.isWordless_equals
      rw [List.append_assoc, List.cons_append] at hequals
      have hidentifier := hequals.append_word dialect.gap_mem (by simp) hword
      simpa using hidentifier
  have hmarker := hidentifier.append_of_free
    (dialect.isWordless_marker parameter.marker parameter.isMarker)
  simpa [Parameter.text, Parameter.name] using hmarker

/-- No header begins in the parameters of a signature and in what follows them. -/
theorem quiet_parameters (parameters : List (Parameter dialect)) :
    dialect.Quiet (parametersText parameters ++ dialect.closing) := by
  have hclosing := dialect.quiet_closing
  obtain ⟨rest, hrest⟩ := dialect.closing_eq
  induction parameters with
  | nil => exact hclosing
  | cons parameter others ih =>
    cases others with
    | nil =>
      rw [hrest] at hclosing ⊢
      simpa [parametersText, List.intercalate] using quiet_parameter parameter (by simp) hclosing
    | cons second others =>
      have hseparated := ih.append_of_free dialect.isWordless_separator
      have hparameter := quiet_parameter parameter (by simp) hseparated
      simpa [parametersText, List.intercalate] using hparameter

end Quiet

/-! ## Parameters as balanced text -/

namespace Code

variable {lexis : Lexis} {inGroup : Bool}

/-- Plain characters before balanced text. -/
def spell : (text : List Char) → (∀ c ∈ text, lexis.isPlain c) → Code lexis inGroup →
    Code lexis inGroup
  | [], _, rest => rest
  | c :: text, isPlain, rest =>
    plain c (isPlain c List.mem_cons_self)
      (spell text (fun d hd => isPlain d (List.mem_cons_of_mem c hd)) rest)

theorem text_spell (text : List Char) (isPlain : ∀ c ∈ text, lexis.isPlain c)
    (rest : Code lexis inGroup) : (spell text isPlain rest).text = text ++ rest.text := by
  induction text with
  | nil => rfl
  | cons c text ih => simp [spell, Code.text, ih]

/-- Without an equals sign in them, the characters only put off the default value. -/
theorem defaultAt?_spell {text : List Char} (isPlain : ∀ c ∈ text, lexis.isPlain c)
    (noEquals : '=' ∉ text) (rest : Code lexis inGroup) :
    (spell text isPlain rest).defaultAt? = rest.defaultAt?.map (· + text.length) := by
  induction text with
  | nil => simp [spell]
  | cons c text ih =>
    rw [List.mem_cons, not_or] at noEquals
    rw [spell, defaultAt?, if_neg (Ne.symm noEquals.1), ih _ noEquals.2]
    simp [Function.comp_def, Nat.add_assoc]

end Code

/-- What comes between a comma, if there is one, and a parameter. -/
def lead : Bool → List Char
  | false => []
  | true => [' ']

section Codes

variable {dialect : Dialect}

/-- What comes before the equals sign of a default value, if there is one. -/
def Parameter.trail (parameter : Parameter dialect) : List Char :=
  if parameter.default.isSome then dialect.gap else []

/-- A parameter up to the equals sign of its default value. -/
def Parameter.slotText (parameter : Parameter dialect) (spaced : Bool) : List Char :=
  lead spaced ++ parameter.marker ++ parameter.name ++ parameter.trail

theorem Dialect.isPlain_of_mem (dialect : Dialect) (spaced : Bool) {marker : List Char}
    (isMarker : marker ∈ dialect.markers) (name : Name) :
    ∀ c ∈ lead spaced ++ marker ++ (dialect.sigil ++ name.text),
      dialect.grammar.lexis.isPlain c ∧ c ≠ '=' := by
  have hmarked : ∀ spaced, ∀ marker ∈ dialect.markers,
      ∀ c ∈ lead spaced ++ marker ++ dialect.sigil, dialect.grammar.lexis.isPlain c ∧ c ≠ '=' := by
    cases dialect <;> decide
  have hword : ∀ code < 128, isAsciiWord (Char.ofNat code) →
      dialect.grammar.lexis.isPlain (Char.ofNat code) ∧ Char.ofNat code ≠ '=' := by
    cases dialect <;> decide
  intro c hc
  rw [← List.append_assoc] at hc
  rcases List.mem_append.1 hc with hc | hc
  · exact hmarked spaced marker isMarker c hc
  · exact forall_isAsciiWord (p := fun c => dialect.grammar.lexis.isPlain c ∧ c ≠ '=') hword
      (name.isAsciiWord_of_mem hc)

theorem Dialect.isPlain_gap (dialect : Dialect) :
    dialect.grammar.lexis.isPlain '=' ∧
      ∀ c ∈ dialect.gap, dialect.grammar.lexis.isPlain c ∧ c ≠ '=' := by
  cases dialect <;> decide

/-- A parameter as balanced text, with a space before it or without. -/
def Parameter.code (parameter : Parameter dialect) (spaced : Bool) :
    Code dialect.grammar.lexis false :=
  .spell (lead spaced ++ parameter.marker ++ parameter.name)
    (fun c hc =>
      (dialect.isPlain_of_mem spaced parameter.isMarker parameter.identifier c hc).1)
    (match parameter.default with
    | none => .done
    | some value =>
      .spell dialect.gap (fun c hc => (dialect.isPlain_gap.2 c hc).1)
        (.plain '=' dialect.isPlain_gap.1
          (.spell dialect.gap (fun c hc => (dialect.isPlain_gap.2 c hc).1) value)))

theorem Parameter.text_code (parameter : Parameter dialect) (spaced : Bool) :
    (parameter.code spaced).text = lead spaced ++ parameter.text := by
  rw [code, Code.text_spell, text, defaultText]
  cases parameter.default <;> simp [Code.text, Code.text_spell]

/-- The slot of a parameter ends before its equals sign. -/
theorem Parameter.slot_code (parameter : Parameter dialect) (spaced : Bool) :
    (parameter.code spaced).defaultAt?.getD (parameter.code spaced).text.length =
      (parameter.slotText spaced).length := by
  have hplain := dialect.isPlain_of_mem spaced parameter.isMarker parameter.identifier
  have hname : '=' ∉ lead spaced ++ parameter.marker ++ parameter.name :=
    fun h => (hplain '=' h).2 rfl
  have hgap : '=' ∉ dialect.gap := fun h => (dialect.isPlain_gap.2 '=' h).2 rfl
  rw [code, Code.defaultAt?_spell _ hname, Code.text_spell, slotText, trail]
  cases parameter.default with
  | none => simp [Code.defaultAt?, Code.text]
  | some value =>
    simp [Code.defaultAt?_spell _ hgap, Code.defaultAt?]
    omega

/-- The slot of a parameter begins its text. -/
theorem Parameter.exists_text_code (parameter : Parameter dialect) (spaced : Bool) :
    ∃ rest, (parameter.code spaced).text = parameter.slotText spaced ++ rest := by
  rw [text_code, text, defaultText, slotText, trail]
  cases parameter.default with
  | none => exact ⟨[], by simp⟩
  | some value => exact ⟨'=' :: (dialect.gap ++ value.text), by simp⟩

/-! ## The names that are found -/

theorem mem_dropWhile_isBlank {text : List Char} {c : Char} (hmem : c ∈ text) (hc : ¬ isBlank c) :
    c ∈ text.dropWhile isBlank := by
  rw [← @List.takeWhile_append_dropWhile _ isBlank text] at hmem
  rcases List.mem_append.1 hmem with hmem | hmem
  · exact absurd (List.all_eq_true.1 List.all_takeWhile c hmem) hc
  · exact hmem

/-- Trimming drops blanks only. -/
theorem mem_trim {text : List Char} {c : Char} (hmem : c ∈ text) (hc : ¬ isBlank c) :
    c ∈ trim text := by
  have hdropped := mem_dropWhile_isBlank hmem hc
  rw [trim, trimEnd, List.mem_reverse]
  exact mem_dropWhile_isBlank (List.mem_reverse.2 hdropped) hc

/-- The span of a text that is not empty, after another one. -/
def spanAfter (before text : List Char) (nonempty : 0 < text.length) : Span :=
  ⟨before.length, before.length + text.length, Nat.lt_add_of_pos_right nonempty⟩

theorem text_spanAfter (before text after : List Char) (nonempty : 0 < text.length) :
    (spanAfter before text nonempty).text (before ++ (text ++ after)) = text := by
  simp [spanAfter, Span.text, Span.length]

/-- A span that fits a text is kept. -/
theorem orDrop_spanAfter (before text : List Char) (nonempty : 0 < text.length) {length : Nat}
    (fits : before.length + text.length ≤ length) :
    Span.orDrop length before.length (before.length + text.length : Nat) =
      pure (some (spanAfter before text nonempty)) := by
  have hlt : before.length < before.length + text.length := by omega
  simp only [Span.orDrop, Span.within?, Int.natCast_nonneg, Int.ofNat_lt, hlt, Int.ofNat_le, fits,
    and_self, dite_true]
  rfl

theorem Dialect.nameOffsets_of_final (dialect : Dialect) {found : Match}
    {before name after : List Char}
    (hfinal : found.final = nameState before name after) :
    nameOffsets dialect.grammar.parameter found =
      .ok (before.length, (before.length + name.length : Nat)) := by
  obtain ⟨text, hcapture⟩ := capture?_nameState before name after
  simp [nameOffsets, dialect.groupNumber?_name, hfinal, hcapture]

theorem Parameter.name_length_pos (parameter : Parameter dialect) : 0 < parameter.name.length := by
  simp only [name, Name.text, List.length_append, List.length_cons]
  omega

/-- The name of a parameter is found in its slot. -/
theorem Parameter.argumentName_slot (parameter : Parameter dialect) (spaced : Bool)
    {source before : List Char} {length stop : Nat}
    (hslot : (source.drop before.length).take (stop - before.length) = parameter.slotText spaced)
    (fits : (before ++ (lead spaced ++ parameter.marker)).length + parameter.name.length ≤ length) :
    dialect.grammar.argumentName source length ⟨before.length, stop⟩ =
      pure (some (spanAfter (before ++ (lead spaced ++ parameter.marker)) parameter.name
        parameter.name_length_pos)) := by
  have hlead : lead spaced ∈ [[], [' ']] := by cases spaced <;> simp [lead]
  have htrail : parameter.trail ∈ [[], dialect.gap] := by
    unfold trail
    split <;> simp
  have hhead : parameter.identifier.head ∈ parameter.slotText spaced := by
    simp [slotText, name, Name.text]
  have hnonblank := mem_trim hhead parameter.identifier.head_not_isBlank
  obtain ⟨found, hfound, hfinal⟩ := dialect.search?_parameter hlead parameter.isMarker
    parameter.identifier htrail
  have hsearch : dialect.grammar.parameter.search? (parameter.slotText spaced) = some found := by
    rw [Pattern.search?, dialect.node_parameter]
    exact hfound
  have hoffsets := dialect.nameOffsets_of_final hfinal
  rw [List.length_reverse] at hoffsets
  have hofExcept : ∀ offsets : Int × Int, Run.ofExcept (.ok offsets) = pure offsets := fun _ => rfl
  rw [Grammar.argumentName, hslot, List.isEmpty_eq_false_iff_exists_mem.2 ⟨_, hnonblank⟩]
  simp only [Bool.false_eq_true, if_false, hsearch, hoffsets, hofExcept, pure_bind]
  rw [← orDrop_spanAfter _ _ _ fits]
  simp [name, Int.add_assoc]

/-- The name of a parameter is found in its slot, where it stands. -/
theorem argumentName_code (parameter : Parameter dialect) (spaced : Bool)
    (before after : List Char) {length : Nat}
    (fits : (before ++ (parameter.code spaced).text).length ≤ length) :
    ∃ span : Span,
      dialect.grammar.argumentName (before ++ (parameter.code spaced).text ++ after) length
        ⟨before.length, before.length +
          (parameter.code spaced).defaultAt?.getD (parameter.code spaced).text.length⟩ =
        pure (some span) ∧
      span.text (before ++ (parameter.code spaced).text ++ after) = parameter.name := by
  obtain ⟨rest, hrest⟩ := parameter.exists_text_code spaced
  rw [parameter.slot_code, hrest]
  have hslot : ((before ++ (parameter.slotText spaced ++ rest) ++ after).drop before.length).take
      (before.length + (parameter.slotText spaced).length - before.length) =
      parameter.slotText spaced := by
    simp
  have hfits : (before ++ (lead spaced ++ parameter.marker)).length + parameter.name.length ≤
      length := by
    simp only [hrest, Parameter.slotText, List.length_append] at fits ⊢
    omega
  have hsplit : before ++ (parameter.slotText spaced ++ rest) ++ after =
      (before ++ (lead spaced ++ parameter.marker)) ++
        (parameter.name ++ (parameter.trail ++ rest ++ after)) := by
    simp [Parameter.slotText]
  refine ⟨_, parameter.argumentName_slot spaced hslot hfits, ?_⟩
  rw [hsplit]
  exact text_spanAfter _ _ _ _

theorem namesIn_cons {grammar : Grammar} {source : List Char} {length : Nat} {slot : Slot}
    {slots : List Slot} {span : Span} {spans : List Span}
    (hname : grammar.argumentName source length slot = pure (some span))
    (hnames : grammar.namesIn source length slots = pure spans) :
    grammar.namesIn source length (slot :: slots) = pure (span :: spans) := by
  simp [Grammar.namesIn, hname, hnames]

/-- The names of parameters are found in a list of them, in their order. -/
theorem namesIn_codes (arguments : List (Parameter dialect × Bool))
    {source before after : List Char}
    (hsource : source =
      before ++ argumentsText (arguments.map fun argument => argument.1.code argument.2) ++ after) :
    ∃ spans : List Span,
      dialect.grammar.namesIn source source.length
          (argumentSlots before.length
            (arguments.map fun argument => argument.1.code argument.2)) = pure spans ∧
      spans.map (·.text source) = arguments.map (·.1.name) := by
  induction arguments generalizing before with
  | nil => exact ⟨[], rfl, rfl⟩
  | cons argument others ih =>
    obtain ⟨parameter, spaced⟩ := argument
    have hfirst : ∀ rest, source = before ++ (parameter.code spaced).text ++ rest →
        ∃ span : Span, dialect.grammar.argumentName source source.length
            ⟨before.length, before.length +
              (parameter.code spaced).defaultAt?.getD (parameter.code spaced).text.length⟩ =
            pure (some span) ∧
          span.text source = parameter.name := by
      rintro rest rfl
      exact argumentName_code parameter spaced before rest (by simp)
    cases others with
    | nil =>
      rw [List.map_singleton, argumentsText_singleton] at hsource
      obtain ⟨span, hname, hspan⟩ := hfirst after hsource
      exact ⟨[span], namesIn_cons hname rfl, by simp [hspan]⟩
    | cons second others =>
      rw [List.map_cons, List.map_cons, argumentsText_cons_cons] at hsource
      obtain ⟨span, hname, hspan⟩ := hfirst _ (by
        rw [hsource, ← List.append_assoc, List.append_assoc])
      -- the other arguments begin after the comma
      obtain ⟨spans, hnames, hspans⟩ := @ih (before ++ (parameter.code spaced).text ++ [','])
        (by simp [hsource])
      have hoffset : (before ++ (parameter.code spaced).text ++ [',']).length =
          before.length + (parameter.code spaced).text.length + 1 := by
        simp [Nat.add_assoc]
      rw [hoffset] at hnames
      exact ⟨span :: spans, namesIn_cons hname hnames, by simp [hspan, hspans]⟩

/-- The parameters of a signature, each with the space that comes before it, if there is one. -/
def spacedParameters : List (Parameter dialect) → List (Parameter dialect × Bool)
  | [] => []
  | parameter :: others => (parameter, false) :: others.map fun other => (other, true)

theorem map_name_spacedParameters (parameters : List (Parameter dialect)) :
    (spacedParameters parameters).map (·.1.name) = parameters.map Parameter.name := by
  cases parameters <;> simp [spacedParameters]

theorem parametersText_cons_cons (first second : Parameter dialect)
    (others : List (Parameter dialect)) :
    parametersText (first :: second :: others) =
      first.text ++ ',' :: ' ' :: parametersText (second :: others) := by
  simp [parametersText, List.intercalate]

/-- Parameters are written one after the other, with commas between them. -/
theorem argumentsText_spacedParameters (parameters : List (Parameter dialect)) :
    argumentsText ((spacedParameters parameters).map fun argument => argument.1.code argument.2) =
      parametersText parameters := by
  have hspaced : ∀ (spaced : Bool) (first : Parameter dialect) (others : List (Parameter dialect)),
      argumentsText (first.code spaced :: others.map (·.code true)) =
        lead spaced ++ parametersText (first :: others) := by
    intro spaced first others
    induction others generalizing spaced first with
    | nil => simp [argumentsText_singleton, first.text_code, parametersText, List.intercalate]
    | cons second others ih =>
      rw [List.map_cons, argumentsText_cons_cons, ih true second, first.text_code,
        parametersText_cons_cons, List.append_assoc]
      rfl
  cases parameters with
  | nil => rfl
  | cons first others =>
    rw [spacedParameters, List.map_cons, List.map_map]
    exact hspaced false first others

theorem Dialect.coherent (dialect : Dialect) : dialect.grammar.lexis.Coherent := by
  apply coherent_of_mem_builtin
  cases dialect <;> simp [grammar, builtin]

/-- The names in the parameter list of a signature are those of the parameters. -/
theorem scanList_parameters (parameters : List (Parameter dialect))
    {source before after : List Char}
    (hsource : source = before ++ parametersText parameters ++ ')' :: after) :
    ∃ spans : List Span,
      dialect.grammar.scanList source source.length before.length = pure spans ∧
        spans.map (·.text source) = parameters.map Parameter.name := by
  cases parameters with
  | nil =>
    -- the list is one empty slot, in which there is no name
    have hslots := slots_arguments dialect.coherent before after [.done] (by simp)
    have htext : argumentsText [(.done : Code dialect.grammar.lexis false)] =
        parametersText ([] : List (Parameter dialect)) := by
      simp [argumentsText_singleton, Code.text, parametersText]
    rw [htext, ← hsource] at hslots
    refine ⟨[], ?_, rfl⟩
    rw [Grammar.scanList, hslots]
    simp [argumentSlots, Code.defaultAt?, Code.text, Grammar.namesIn, Grammar.argumentName, trim,
      trimEnd]
  | cons parameter others =>
    have hslots := slots_arguments dialect.coherent before after
      ((spacedParameters (parameter :: others)).map fun argument => argument.1.code argument.2)
      (by simp [spacedParameters])
    rw [← argumentsText_spacedParameters] at hsource
    rw [← hsource] at hslots
    obtain ⟨spans, hnames, hspans⟩ := namesIn_codes (spacedParameters (parameter :: others)) hsource
    refine ⟨spans, ?_, ?_⟩
    · rw [Grammar.scanList, hslots, hnames]
    · rw [hspans, map_name_spacedParameters]

/-- The only header of a signature is its beginning. -/
theorem findAll_header (definition : Definition dialect) :
    (dialect.grammar.header.findAll definition.text).map Match.stop =
      [(dialect.opening ++ definition.name.text ++ ['(']).length] := by
  have hprefers := dialect.prefers_header definition.name
    (parametersText definition.parameters ++ dialect.closing)
  rw [← dialect.node_header] at hprefers
  have hfirst := Node.search?_of_prefers hprefers
  rw [Definition.text, Pattern.findAll_eq_singleton hfirst]
  · rw [List.map_singleton, Match.stop, Cursor.offset_between, List.length_reverse]
  · intro moving
    refine Node.search?_eq_none (fun before' after' reached hsuffix hleads => ?_) moving
    rw [dialect.node_header] at hleads
    obtain ⟨word, hword, hopens⟩ := dialect.opens_of_leads_header hleads
    exact quiet_parameters definition.parameters word hword after' hsuffix hopens

/-- A signature is scanned for its names. Whatever its name and its parameters are, if no default
value holds a word that begins a header, then the names that are found are exactly those of its
parameters, in their order. -/
theorem scan_signature (dialect : Dialect) (definition : Definition dialect) :
    ∃ spans : List Span,
      dialect.grammar.scan (String.ofList definition.text) definition.text.length = pure spans ∧
        spans.map (·.text definition.text) = definition.parameters.map Parameter.name := by
  obtain ⟨after, hclosing⟩ := dialect.closing_eq
  have hsource : definition.text = dialect.opening ++ definition.name.text ++ ['('] ++
      parametersText definition.parameters ++ ')' :: after := by
    simp [Definition.text, hclosing]
  obtain ⟨spans, hscan, hspans⟩ := scanList_parameters definition.parameters hsource
  refine ⟨spans, ?_, hspans⟩
  rw [Grammar.scan, String.toList_ofList, findAll_header]
  simp only [Grammar.scanLists, hscan, pure_bind, List.append_nil]

end Codes

/-- Names that are words of headers are found like others, and a default value hides what it
holds. -/
theorem scan_signature_of_words :
    ∃ definition : Definition .php,
      definition.text = "function fn(&...$fn = [f(')'), ','], $function) \x7b\x7d".toList ∧
      ∃ spans : List Span,
        php.scan "function fn(&...$fn = [f(')'), ','], $function) \x7b\x7d" 50 = pure spans ∧
          spans.map (·.text "function fn(&...$fn = [f(')'), ','], $function) \x7b\x7d".toList) =
            ["$fn".toList, "$function".toList] := by
  let value : Code php.lexis false :=
    .group .square (.plain 'f' (by decide) <| .group .round (.literal '\'' (by decide) [')']
      (by decide) .done) <| .comma <| .plain ' ' (by decide) <|
        .literal '\'' (by decide) [','] (by decide) .done) .done
  let name : Name := ⟨'f', ['n'], by decide, by decide⟩
  let first : Parameter .php := ⟨['&', '.', '.', '.'], by decide, name, some value, by decide⟩
  let second : Parameter .php := ⟨[], by decide,
    ⟨'f', "unction".toList, by decide, by decide⟩, none, by simp⟩
  obtain ⟨spans, hscan, hspans⟩ := scan_signature .php ⟨name, [first, second]⟩
  exact ⟨⟨name, [first, second]⟩, by decide, spans, hscan, hspans⟩

end Highlighter.Signature
