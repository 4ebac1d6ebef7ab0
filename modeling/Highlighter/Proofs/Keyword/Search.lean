import Highlighter.Proofs.Extraction.Totality
import Highlighter.Proofs.Regex.Alternatives

/-!
# Keywords are whole words, the longest first

The spans of a keyword rule are found by one pattern made of all words. This file says what they are
in terms of the text alone: at each place the longest word that stands there as a whole word is
taken, and the search goes on where it ends; where no word stands it goes on at the next character.
The order of the words and how often each is given do not matter.

The pattern tries longer words first, and a word fails only if it does not stand at the place, so
the first one that succeeds is the longest one. Two different words of one length cannot stand at
the same place, so it does not matter which of them is tried first.

## Main definitions

* `standsAt` — a word stands at an offset of a text, not inside of a longer word
* `longestAt?` — the length of the longest of some words that stands at an offset
* `wholeWords` — the spans of the words in a text

## Main results

* `run_wordNode` — the expression of a word matches exactly where the word stands
* `find?_standsAt` — among words that are ranked by length, the first one that stands is the longest
* `matchSpans_keywordPattern?` — the pattern of some words finds the spans of these words
* `extract_keywordRule` — a keyword rule finds the whole words of its list
-/

namespace Highlighter

open Highlighter.Regex Highlighter.Text

/-! ## Searching a text for words -/

/-- Whether a word stands at an offset of a text. A word that holds a word character does so only if
none stands just before or just after it. -/
def standsAt (source : List Char) (offset : Nat) (word : List Char) : Bool :=
  !word.isEmpty && (source.drop offset).take word.length == word &&
    (!isGuarded word ||
      (!(source.take offset).getLast?.any isWord && !(source[offset + word.length]?).any isWord))

/-- The length of the longest word that stands at an offset. -/
def longestAt? (words : List (List Char)) (source : List Char) (offset : Nat) : Option Nat :=
  ((words.filter (standsAt source offset)).map List.length).max?

theorem longestAt?_eq_some_iff {words : List (List Char)} {source : List Char}
    {offset length : Nat} :
    longestAt? words source offset = some length ↔
      (∃ word ∈ words, standsAt source offset word = true ∧ word.length = length) ∧
        ∀ word ∈ words, standsAt source offset word = true → word.length ≤ length := by
  simp only [longestAt?, List.max?_eq_some_iff, List.mem_map, List.mem_filter]
  grind

/-- A word that stands at an offset is not empty and ends in the text. -/
theorem bounds_of_standsAt {source word : List Char} {offset : Nat}
    (h : standsAt source offset word = true) :
    0 < word.length ∧ offset + word.length ≤ source.length := by
  simp only [standsAt, Bool.and_eq_true, Bool.not_eq_true', List.isEmpty_eq_false_iff,
    beq_iff_eq] at h
  obtain ⟨⟨nonempty, spelled⟩, -⟩ := h
  have hpos : 0 < word.length := List.length_pos_iff.2 nonempty
  have hlength := congrArg List.length spelled
  rw [List.length_take, List.length_drop] at hlength
  omega

theorem bounds_of_longestAt? {words : List (List Char)} {source : List Char} {offset length : Nat}
    (h : longestAt? words source offset = some length) :
    0 < length ∧ offset + length ≤ source.length := by
  obtain ⟨⟨word, -, hstands, rfl⟩, -⟩ := longestAt?_eq_some_iff.1 h
  exact bounds_of_standsAt hstands

/-- The spans of words from an offset on: at each place the longest word that stands there. -/
def wholeWordsFrom (words : List (List Char)) (source : List Char) (offset : Nat) : List Span :=
  if offset < source.length then
    match h : longestAt? words source offset with
    | some length =>
      have := bounds_of_longestAt? h
      ⟨offset, offset + length, by omega⟩ :: wholeWordsFrom words source (offset + length)
    | none => wholeWordsFrom words source (offset + 1)
  else []
termination_by source.length - offset

/-- The spans of words in a text. -/
def wholeWords (words : List String) (source : String) : List Span :=
  wholeWordsFrom (words.map String.toList) source.toList 0

section Congruence

variable {words words' : List (List Char)}

theorem longestAt?_congr (same : ∀ word, word ≠ [] → (word ∈ words ↔ word ∈ words'))
    (source : List Char) (offset : Nat) :
    longestAt? words source offset = longestAt? words' source offset := by
  have standing : ∀ {word}, standsAt source offset word = true → (word ∈ words ↔ word ∈ words') :=
    fun hstands => same _ (List.length_pos_iff.1 (bounds_of_standsAt hstands).1)
  refine Option.ext fun length => ?_
  simp only [longestAt?_eq_some_iff]
  grind

/-- What is found depends only on which words that are not empty there are. -/
theorem wholeWordsFrom_congr (same : ∀ word, word ≠ [] → (word ∈ words ↔ word ∈ words'))
    (source : List Char) (offset : Nat) :
    wholeWordsFrom words source offset = wholeWordsFrom words' source offset := by
  fun_induction wholeWordsFrom words source offset with
  | case1 offset inside length hlongest hbounds ih =>
    have hlongest' := longestAt?_congr same source offset ▸ hlongest
    rw [ih, wholeWordsFrom.eq_def words' source offset, if_pos inside]
    split <;> simp_all
  | case2 offset inside hnone ih =>
    have hnone' := longestAt?_congr same source offset ▸ hnone
    rw [ih, wholeWordsFrom.eq_def words' source offset, if_pos inside]
    split <;> simp_all
  | case3 offset outside => rw [wholeWordsFrom, if_neg outside]

end Congruence

/-! ## The expression of a word -/

/-- The place at an offset of a text. -/
def cursorAt (source : List Char) (offset : Nat) : Cursor :=
  .between (source.take offset).reverse (source.drop offset)

theorem holds_wordSet (c : Char) :
    CharSet.holds { items := [.category .word false false] } c = isWord c := by
  simp [CharSet.holds, CharItem.holds, Category.holds]

open Cursor (between)

variable {before after : List Char} {captures : List (Nat × Capture)}

theorem run_literal (word : List Char) (rest : Rest) :
    (Node.literal word).run rest ⟨between before after, captures⟩ =
      if after.take word.length = word then
        rest ⟨between (word.reverse ++ before) (after.drop word.length), captures⟩
      else none := by
  induction word generalizing before after with
  | nil => simp [Node.literal, Node.run_ofList_nil]
  | cons c word ih =>
    have hcons : (Node.literal (c :: word)).run rest =
        (Node.letter c).run ((Node.literal word).run rest) :=
      Node.run_ofList_cons _ _ _
    rw [hcons]
    cases after with
    | nil => simp [Node.letter, Node.run]
    | cons d after =>
      -- the first characters are the same, or neither side goes on
      by_cases h : d = c
      · subst h
        rw [Node.letter, Node.run_chars_cons (Node.holds_single.2 rfl), ih]
        simp
      · have hfails : ¬ CharSet.holds { items := [.single c.toNat] } d = true :=
          fun hholds => h (Node.holds_single.1 hholds)
        simp [Node.letter, Node.run, hfails, h]

section Places

variable {source word : List Char} {offset : Nat}

theorem offset_cursorAt (bound : offset ≤ source.length) :
    (cursorAt source offset).offset = offset := by
  simp [cursorAt, bound]

/-- A place inside of a text and the place after it. -/
theorem exists_cursorAt_eq (inside : offset < source.length) :
    ∃ before c after, cursorAt source offset = between before (c :: after) ∧
      cursorAt source (offset + 1) = between (c :: before) after := by
  refine ⟨(source.take offset).reverse, source[offset], source.drop (offset + 1), ?_, ?_⟩
  · rw [cursorAt, List.drop_eq_getElem_cons inside]
  · rw [cursorAt, List.take_succ_eq_append_getElem inside, List.reverse_append,
      List.reverse_singleton, List.singleton_append]

/-- A text is matched exactly where it is spelled. -/
theorem run_literal_cursorAt (rest : Rest) :
    (Node.literal word).run rest ⟨cursorAt source offset, captures⟩ =
      if (source.drop offset).take word.length = word then
        rest ⟨cursorAt source (offset + word.length), captures⟩
      else none := by
  rw [cursorAt, run_literal]
  refine ite_congr rfl (fun spelled => ?_) fun _ => rfl
  rw [cursorAt, List.take_add, spelled, List.reverse_append, List.drop_drop]

/-- The look behind fails exactly after a word character. -/
theorem run_notBehindWord (rest : Rest) :
    (Node.behind 1 true wordStep).run rest ⟨cursorAt source offset, captures⟩ =
      if (source.take offset).getLast?.any isWord then none
      else rest ⟨cursorAt source offset, captures⟩ := by
  rw [cursorAt, ← List.head?_reverse]
  cases (source.take offset).reverse with
  | nil => rfl
  | cons c before =>
    have hback : (between (c :: before) (source.drop offset)).back? 1 =
        some (between before (c :: source.drop offset)) := rfl
    by_cases h : isWord c = true <;> simp [Node.run, wordStep, hback, holds_wordSet, h]

/-- The look ahead fails exactly before a word character. -/
theorem run_notAheadWord (rest : Rest) :
    (Node.ahead true wordStep).run rest ⟨cursorAt source offset, captures⟩ =
      if (source[offset]?).any isWord then none
      else rest ⟨cursorAt source offset, captures⟩ := by
  rw [cursorAt, ← List.head?_drop]
  cases source.drop offset with
  | nil => rfl
  | cons c after => by_cases h : isWord c = true <;> simp [Node.run, wordStep, holds_wordSet, h]

/-- The expression of a word matches exactly where the word stands. -/
theorem run_wordNode (nonempty : word ≠ []) (rest : Rest) :
    (wordNode word).run rest ⟨cursorAt source offset, captures⟩ =
      if standsAt source offset word then
        rest ⟨cursorAt source (offset + word.length), captures⟩
      else none := by
  by_cases guarded : isGuarded word = true
  · simp only [wordNode, guarded, if_true, Node.run_seq, run_notBehindWord, run_literal_cursorAt,
      run_notAheadWord]
    by_cases hbefore : (source.take offset).getLast?.any isWord = true <;>
      by_cases hafter : (source[offset + word.length]?).any isWord = true <;>
      by_cases spelled : (source.drop offset).take word.length = word <;>
      simp [standsAt, nonempty, guarded, hbefore, hafter, spelled]
  · simp [wordNode, guarded, run_literal_cursorAt, standsAt, nonempty]

end Places

/-! ## The pattern of some words -/

section Ranked

variable {source : List Char} {offset : Nat} {ranked : List (List Char)}

/-- The match of a word at an offset. -/
def wordMatch (source : List Char) (offset : Nat) (word : List Char) : Match :=
  ⟨offset, cursorAt source (offset + word.length), []⟩

/-- A word that is matched is not empty, so nothing keeps its match from being taken. -/
theorem run_wordNode_moving {word : List Char} (nonempty : word ≠ [])
    (bound : offset ≤ source.length)
    (moving : Bool) :
    (wordNode word).run (fun reached =>
        if moving && reached.cursor.offset == (cursorAt source offset).offset then none
        else some reached) ⟨cursorAt source offset, []⟩ =
      if standsAt source offset word then some (wordMatch source offset word).final else none := by
  rw [run_wordNode nonempty, offset_cursorAt bound]
  refine ite_congr rfl (fun hstands => ?_) fun _ => rfl
  obtain ⟨hpos, hbound⟩ := bounds_of_standsAt hstands
  have hmoved : (offset + word.length == offset) = false := by
    rw [beq_eq_false_iff_ne]
    omega
  simp [offset_cursorAt hbound, hmoved, wordMatch]

/-- The first word that stands at a place is matched there. -/
theorem matchAt?_words (nonempty : ranked ≠ []) (proper : ∀ word ∈ ranked, word ≠ [])
    (bound : offset ≤ source.length) (moving : Bool) :
    (Node.ofAlternatives (ranked.map wordNode)).matchAt? moving (cursorAt source offset) =
      (ranked.find? (standsAt source offset)).map (wordMatch source offset) := by
  rw [Node.matchAt?, Node.run_ofAlternatives (by simpa using nonempty), List.findSome?_map,
    offset_cursorAt bound]
  clear nonempty
  induction ranked with
  | nil => rfl
  | cons word ranked ih =>
    simp only [List.mem_cons, forall_eq_or_imp] at proper
    -- the first word stands here and is taken, or the others are tried
    have hword := run_wordNode_moving proper.1 bound moving
    rw [offset_cursorAt bound] at hword
    rw [List.findSome?_cons, Function.comp_apply, hword, List.find?_cons]
    cases standsAt source offset word with
    | true => rfl
    | false => exact ih proper.2

/-- Among words that are ranked by length, the first one that stands at a place is the longest. -/
theorem find?_standsAt (sorted : ranked.Pairwise fun a b => b.length ≤ a.length) :
    (ranked.find? (standsAt source offset)).map List.length = longestAt? ranked source offset := by
  induction ranked with
  | nil => rfl
  | cons word ranked ih =>
    obtain ⟨hlongest, sorted⟩ := List.pairwise_cons.1 sorted
    rw [List.find?_cons]
    cases hstands : standsAt source offset word with
    | true =>
      -- no word after this one is longer
      refine (longestAt?_eq_some_iff.2 ⟨⟨word, List.mem_cons_self, hstands, rfl⟩, ?_⟩).symm
      intro other hother _
      rcases List.mem_cons.1 hother with rfl | hother
      · exact Nat.le_refl _
      · exact hlongest other hother
    | false =>
      rw [longestAt?, List.filter_cons_of_neg (by simp [hstands])]
      exact ih sorted

/-- The search stops at a place where a word stands. -/
theorem search?_words_of_some (proper : ∀ word ∈ ranked, word ≠ [])
    (sorted : ranked.Pairwise fun a b => b.length ≤ a.length) (bound : offset ≤ source.length)
    {length : Nat} (h : longestAt? ranked source offset = some length) (moving : Bool) :
    ∃ word, word.length = length ∧
      (Node.ofAlternatives (ranked.map wordNode)).search? moving (cursorAt source offset) =
        some (wordMatch source offset word) := by
  rw [← find?_standsAt sorted] at h
  obtain ⟨word, hfind, hlength⟩ := Option.map_eq_some_iff.1 h
  have nonempty : ranked ≠ [] := by
    rintro rfl
    cases hfind
  refine ⟨word, hlength, Node.search?_of_matchAt? ?_⟩
  rw [matchAt?_words nonempty proper bound, hfind]
  rfl

/-- The search goes on past a place where no word stands. -/
theorem search?_words_of_none (nonempty : ranked ≠ []) (proper : ∀ word ∈ ranked, word ≠ [])
    (sorted : ranked.Pairwise fun a b => b.length ≤ a.length) (inside : offset < source.length)
    (h : longestAt? ranked source offset = none) (moving : Bool) :
    (Node.ofAlternatives (ranked.map wordNode)).search? moving (cursorAt source offset) =
      (Node.ofAlternatives (ranked.map wordNode)).search? false (cursorAt source (offset + 1)) := by
  have hmatch := matchAt?_words nonempty proper (Nat.le_of_lt inside) moving
  rw [← find?_standsAt sorted, Option.map_eq_none_iff] at h
  obtain ⟨before, c, after, hhere, hnext⟩ := exists_cursorAt_eq inside
  rw [h, hhere] at hmatch
  rw [hhere, hnext]
  exact Node.search?_of_matchAt?_eq_none hmatch

/-- The search fails at the end of the text. -/
theorem search?_words_at_end (nonempty : ranked ≠ []) (proper : ∀ word ∈ ranked, word ≠ [])
    (moving : Bool) :
    (Node.ofAlternatives (ranked.map wordNode)).search? moving (cursorAt source source.length) =
      none := by
  have hremaining : (cursorAt source source.length).remaining = 0 := by simp [cursorAt]
  rw [Node.search?, hremaining, Node.searchWithin?,
    matchAt?_words nonempty proper (Nat.le_refl _), Option.map_eq_none_iff, List.find?_eq_none]
  intro word _ hstands
  have := bounds_of_standsAt hstands
  omega

theorem spanOf?_wordMatch {word : List Char} (hpos : 0 < word.length)
    (hend : offset + word.length ≤ source.length) :
    spanOf? (wordMatch source offset word) = some ⟨offset, offset + word.length, by omega⟩ := by
  have hstop : (wordMatch source offset word).stop = offset + word.length := offset_cursorAt hend
  have hstart : (wordMatch source offset word).start = offset := rfl
  have hlt : (wordMatch source offset word).start < (wordMatch source offset word).stop := by omega
  rw [spanOf?, dif_pos hlt]
  simp only [hstop, hstart]

/-- The matches of ranked words from a place on are the spans of the words. -/
theorem filterMap_findWithin_words (nonempty : ranked ≠ []) (proper : ∀ word ∈ ranked, word ≠ [])
    (sorted : ranked.Pairwise fun a b => b.length ≤ a.length) (bound : offset ≤ source.length)
    {count : Nat} (enough : source.length - offset < count) (moving : Bool) :
    ((Node.ofAlternatives (ranked.map wordNode)).findWithin count moving
      (cursorAt source offset)).filterMap spanOf? = wholeWordsFrom ranked source offset := by
  fun_induction wholeWordsFrom ranked source offset generalizing count moving with
  | case1 offset inside length hlongest hbounds ih =>
    -- the longest word is found at once, and the search goes on behind it
    obtain ⟨word, rfl, hsearch⟩ := search?_words_of_some proper sorted bound hlongest moving
    obtain ⟨count, rfl⟩ : ∃ n, count = n + 1 := ⟨count - 1, by omega⟩
    rw [Node.findWithin, hsearch]
    simp only [List.filterMap_cons, spanOf?_wordMatch hbounds.1 hbounds.2, List.cons.injEq,
      true_and]
    exact ih hbounds.2 (by omega) _
  | case2 offset inside hnone ih =>
    -- the search that starts here is the one that starts at the next place
    rw [← ih inside (by omega : source.length - (offset + 1) < count) false]
    obtain ⟨count, rfl⟩ : ∃ n, count = n + 1 := ⟨count - 1, by omega⟩
    rw [Node.findWithin, search?_words_of_none nonempty proper sorted inside hnone, Node.findWithin]
  | case3 offset outside =>
    obtain rfl : offset = source.length := by omega
    obtain ⟨count, rfl⟩ : ∃ n, count = n + 1 := ⟨count - 1, by omega⟩
    rw [Node.findWithin, search?_words_at_end nonempty proper]
    rfl

end Ranked

theorem mem_rankedWords {words : List String} {word : List Char} :
    word ∈ rankedWords words ↔ word ≠ [] ∧ word ∈ words.map String.toList := by
  rw [rankedWords, List.mem_mergeSort, List.mem_filter, List.mem_eraseDups, and_comm]
  simp

theorem pairwise_rankedWords (words : List String) :
    (rankedWords words).Pairwise fun a b => b.length ≤ a.length := by
  refine (List.pairwise_mergeSort ?_ ?_ _).imp fun h => of_decide_eq_true h
  · intro a b c hab hbc
    simp only [decide_eq_true_eq] at *
    omega
  · intro a b
    simp only [Bool.or_eq_true, decide_eq_true_eq]
    omega

/-- The spans of words are those of the ranked words. -/
theorem wholeWords_eq_rankedWords (words : List String) (source : String) :
    wholeWords words source = wholeWordsFrom (rankedWords words) source.toList 0 := by
  refine wholeWordsFrom_congr (fun word nonempty => ?_) _ _
  rw [mem_rankedWords, and_iff_right nonempty]

theorem wholeWordsFrom_nil (source : List Char) (offset : Nat) :
    wholeWordsFrom [] source offset = [] := by
  fun_induction wholeWordsFrom [] source offset with
  | case1 offset inside length hlongest =>
    cases hlongest
  | case2 offset inside hnone ih => exact ih
  | case3 => rfl

/-- The pattern of some words finds the spans of these words. -/
theorem matchSpans_keywordPattern? (words : List String) (source : String) :
    ((keywordPattern? words).map (matchSpans · source.toList)).getD [] =
      wholeWords words source := by
  rw [wholeWords_eq_rankedWords]
  cases h : rankedWords words with
  | nil => simp only [keywordPattern?, h, Option.map_none, Option.getD_none, wholeWordsFrom_nil]
  | cons word ranked =>
    have enough : source.toList.length - 0 < 2 * source.toList.length + 2 := by omega
    have found := filterMap_findWithin_words (h ▸ List.cons_ne_nil word ranked)
      (fun _ hmem => (mem_rankedWords.1 hmem).1) (pairwise_rankedWords words)
      (Nat.zero_le source.toList.length) enough false
    rw [h] at found
    simp only [keywordPattern?, h, Option.map_some, Option.getD_some]
    exact found

/-! ## The words of a rule -/

/-- The spans of the words that are kept are those of all words. -/
theorem wholeWords_kept (words : List String) (source : String) :
    wholeWords ((words.filter (!·.isEmpty)).mergeSort fun a b => b.length ≤ a.length) source =
      wholeWords words source := by
  refine wholeWordsFrom_congr (fun word nonempty => ?_) _ _
  simp only [List.mem_map, List.mem_mergeSort, List.mem_filter]
  constructor
  · rintro ⟨text, ⟨hmem, -⟩, rfl⟩
    exact ⟨text, hmem, rfl⟩
  · rintro ⟨text, hmem, rfl⟩
    refine ⟨text, ⟨hmem, ?_⟩, rfl⟩
    simpa using nonempty

/-- Neither the order of words nor their repetition matters. -/
theorem wholeWords_congr {words words' : List String} (same : ∀ word, word ∈ words' ↔ word ∈ words)
    (source : String) : wholeWords words' source = wholeWords words source :=
  wholeWordsFrom_congr (fun word _ => by simp only [List.mem_map, same]) _ _

/-- A keyword rule finds the whole words of its list. -/
theorem extract_keywordRule [PatternReader] (words : List String) (source type : String) :
    extract (.keywordRule (words.map .text)) source type = pure (wholeWords words source) := by
  rw [← wholeWords_kept, ← matchSpans_keywordPattern?]
  simp only [extract, coerce, Rule.extract, keywordsOf_texts]
  cases keywordPattern? _ <;> rfl

end Highlighter
