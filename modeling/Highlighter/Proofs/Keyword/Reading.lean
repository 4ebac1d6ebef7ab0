import Highlighter.Proofs.Keyword.Search

/-!
# The text of a keyword pattern

A keyword pattern is built as an expression, and it also has a text. This file shows that the text
is a text of that pattern: it can be read, and the pattern that is read finds the same spans in
every text. So special characters in words are escaped as they must be, and the look around
expressions that guard a word bind to this word alone.

Reading is followed token by token. A special character of a word is written as an escape and every
other one as itself; both are read as the character, whatever stands around it. The reader moves
equal beginnings out of the alternatives, so what it builds is not the expression that the pattern
has, but the two run alike.

## Main definitions

* `Reader.Gives` — a reader succeeds with a value and a state
* `wordTokens` — the tokens of the text of a word
* `wordNodes` — the expressions that these tokens are read as

## Main results

* `sequence_gives_word` — the tokens of a word are read as the expressions of the word
* `branches_give_words` — so are the tokens of several words, each as one alternative
* `exists_read_keywordPattern?` — the text of a keyword pattern is read as a pattern that finds the
  same spans
-/

namespace Highlighter

open Highlighter.Text

namespace Regex

/-! ## Steps of the reader -/

section Steps

variable {α β : Type} {state : ReadState} {rest : List Token}

/-- A reader gives a value and leaves another state. -/
def Reader.Gives (reader : Reader α) (state : ReadState) (value : α) (next : ReadState) : Prop :=
  reader.run state = .ok (value, next)

theorem Reader.Gives.run_bind {reader : Reader α} {middle : ReadState} {value : α}
    (h : reader.Gives state value middle) (next : α → Reader β) :
    (reader >>= next).run state = (next value).run middle := by
  rw [StateT.run_bind, h]
  rfl

theorem get_gives (state : ReadState) : Reader.Gives get state state state :=
  rfl

theorem modify_gives (change : ReadState → ReadState) (state : ReadState) :
    Reader.Gives (modify change) state () (change state) :=
  rfl

theorem peek_gives (state : ReadState) : peek.Gives state state.rest.head? state :=
  rfl

theorem moveTo_gives (proper : rest.head? ≠ some .dangling) (state : ReadState) :
    (moveTo rest).Gives state () { state with rest } := by
  rw [Reader.Gives, moveTo, if_neg proper]
  rfl

theorem take_gives {token : Token} (next : state.rest = token :: rest)
    (proper : rest.head? ≠ some .dangling) :
    take.Gives state (some token) { state with rest } := by
  rw [Reader.Gives, take, (get_gives state).run_bind, next]
  exact (moveTo_gives proper state).run_bind _

theorem eat_gives_true {c : Char} (next : state.rest = .plain c :: rest)
    (proper : rest.head? ≠ some .dangling) :
    (eat c).Gives state true { state with rest } := by
  rw [Reader.Gives, eat, (peek_gives state).run_bind, next, List.head?_cons, if_pos rfl,
    (take_gives next proper).run_bind]
  rfl

theorem eat_gives_false {c : Char} (next : state.rest.head? ≠ some (.plain c)) :
    (eat c).Gives state false state := by
  rw [Reader.Gives, eat, (peek_gives state).run_bind, if_neg next]
  rfl

theorem expect_gives {c : Char} (next : state.rest = .plain c :: rest)
    (proper : rest.head? ≠ some .dangling) :
    (expect c).Gives state () { state with rest } := by
  rw [Reader.Gives, expect, (eat_gives_true next proper).run_bind]
  rfl

/-- An alternative ends with the text, a bar or a closing parenthesis. -/
theorem sequence_gives_end (fuel : Nat) (first : Bool) (options : Options) (pieces : List Piece)
    (ends : state.rest.head? = none ∨ state.rest.head? = some (.plain '|') ∨
      state.rest.head? = some (.plain ')')) :
    (sequence (fuel + 1) first options pieces).Gives state
      (pieces.reverse.flatMap Piece.nodes) state := by
  rw [Reader.Gives, sequence, (peek_gives state).run_bind, if_pos (by simpa [or_assoc] using ends)]
  rfl

theorem sequence_run_escaped {c : Char} (fuel : Nat) (first : Bool) (pieces : List Piece)
    {node : Node} (hescape : escape {} c = pure node) (next : state.rest = .escaped c :: rest)
    (proper : rest.head? ≠ some .dangling) :
    (sequence (fuel + 1) first {} pieces).run state =
      (sequence fuel first {} (.one node :: pieces)).run { state with rest } := by
  have hnode : (escape {} c).Gives { state with rest } node { state with rest } := by
    rw [hescape]
    rfl
  rw [sequence, (peek_gives state).run_bind, next, if_neg (by simp),
    (take_gives next proper).run_bind]
  exact hnode.run_bind _

theorem sequence_run_open {piece : Piece} {later : ReadState} (fuel : Nat) (first : Bool)
    (pieces : List Piece) (next : state.rest = .plain '(' :: rest)
    (proper : rest.head? ≠ some .dangling)
    (hopened : (opened fuel (first && pieces.isEmpty) {}).Gives { state with rest }
      (.piece piece) later) :
    (sequence (fuel + 1) first {} pieces).run state =
      (sequence fuel first {} (piece :: pieces)).run later := by
  rw [sequence, (peek_gives state).run_bind, next, if_neg (by simp),
    (take_gives next proper).run_bind]
  exact hopened.run_bind _

end Steps

/-! ## Characters of words -/

section Letters

variable {state : ReadState} {rest : List Token} {c : Char}

/-- A special character has no meaning of its own after a backslash. -/
theorem specials_stand_for_themselves :
    "()[]\x7b\x7d?*+-|^$\\.&~# \t\n\r\x0b\x0c".toList.all (fun c =>
      (anchorEscape? false c).isNone && (categoryEscape? false c).isNone &&
        (controlEscape? c).isNone && !c.isAlphanum) = true := by
  decide

theorem escape_of_isSpecial (special : isSpecial c = true) :
    escape {} c = pure (Node.letter c) := by
  have h := List.all_eq_true.1 specials_stand_for_themselves c (List.contains_iff_mem.1 special)
  simp only [Bool.and_eq_true, Option.isNone_iff_eq_none, Bool.not_eq_true'] at h
  obtain ⟨⟨⟨hanchor, hcategory⟩, hcontrol⟩, hother⟩ := h
  have hne : ∀ d : Char, d.isAlphanum = true → c ≠ d := by
    rintro d hd rfl
    rw [hd] at hother
    cases hother
  have hdigit : c.isDigit = false := (Bool.or_eq_false_iff.1 hother).2
  have hshared : sharedEscape c = pure c.toNat := by
    simp only [sharedEscape, hcontrol, hother, hne 'x' rfl, hne 'u' rfl, hne 'U' rfl, hne 'N' rfl,
      if_false, Bool.false_eq_true]
  rw [escape]
  simp only [hanchor, hcategory, hne '0' rfl, hdigit, hshared, if_false, Bool.false_eq_true,
    pure_bind]
  rfl

/-- A character that is not special stands for itself. -/
theorem sequence_run_plain (fuel : Nat) (first : Bool) (pieces : List Piece)
    (ordinary : isSpecial c = false) (next : state.rest = .plain c :: rest)
    (proper : rest.head? ≠ some .dangling) :
    (sequence (fuel + 1) first {} pieces).run state =
      (sequence fuel first {} (.one (.letter c) :: pieces)).run { state with rest } := by
  have hne : ∀ d, isSpecial d = true → c ≠ d := by
    rintro d hd rfl
    rw [hd] at ordinary
    cases ordinary
  -- all characters that the reader looks for are special
  rw [sequence, (peek_gives state).run_bind, next, if_neg, (take_gives next proper).run_bind]
  · simp only [Bool.false_and, Bool.false_eq_true, if_false]
    split
    · exact absurd rfl (hne '[' (by decide))
    · exact absurd rfl (hne '.' (by decide))
    · exact absurd rfl (hne '^' (by decide))
    · exact absurd rfl (hne '$' (by decide))
    · exact absurd rfl (hne '(' (by decide))
    · rw [if_neg]
      · rfl
      · simp [hne '?' (by decide), hne '*' (by decide), hne '+' (by decide), hne '\x7b' (by decide)]
  · simp [hne '|' (by decide), hne ')' (by decide)]

/-- The token that a character of a word is written as. -/
def letterToken (c : Char) : Token :=
  if isSpecial c then .escaped c else .plain c

theorem letterToken_ne_dangling (c : Char) : letterToken c ≠ .dangling := by
  unfold letterToken
  split <;> exact Token.noConfusion

theorem sequence_run_letter (fuel : Nat) (first : Bool) (pieces : List Piece)
    (next : state.rest = letterToken c :: rest) (proper : rest.head? ≠ some .dangling) :
    (sequence (fuel + 1) first {} pieces).run state =
      (sequence fuel first {} (.one (.letter c) :: pieces)).run { state with rest } := by
  rw [letterToken] at next
  split at next
  · next special =>
    exact sequence_run_escaped fuel first pieces (escape_of_isSpecial special) next proper
  · next ordinary =>
    exact sequence_run_plain fuel first pieces (Bool.not_eq_true _ ▸ ordinary) next proper

theorem head?_letters_ne_dangling (word : List Char) (proper : rest.head? ≠ some .dangling) :
    (word.map letterToken ++ rest).head? ≠ some .dangling := by
  cases word with
  | nil => exact proper
  | cons c word => simpa using letterToken_ne_dangling c

/-- The characters of a word are read one by one. -/
theorem sequence_run_letters (fuel : Nat) (first : Bool) (pieces : List Piece) (word : List Char)
    (next : state.rest = word.map letterToken ++ rest) (proper : rest.head? ≠ some .dangling) :
    (sequence (fuel + word.length) first {} pieces).run state =
      (sequence fuel first {} ((word.map fun c => .one (.letter c)).reverse ++ pieces)).run
        { state with rest } := by
  induction word generalizing state pieces with
  | nil =>
    obtain rfl : state.rest = rest := next
    rfl
  | cons c word ih =>
    have hproper := head?_letters_ne_dangling word proper
    rw [List.length_cons, ← Nat.add_assoc, sequence_run_letter _ first pieces next hproper,
      ih _ rfl]
    simp

end Letters

/-! ## Guards of words -/

section Guards

variable {rest : List Token}

/-- The state before tokens in which no group has been opened. -/
def fresh (rest : List Token) : ReadState where
  rest
  options := {}
  characters := fun _ => none

theorem escape_word : escape {} 'w' = pure wordStep :=
  rfl

theorem alternation_gives_wordStep {state : ReadState} (fuel : Nat)
    (next : state.rest = .escaped 'w' :: .plain ')' :: rest) :
    (alternation (fuel + 4) true {}).Gives state [wordStep]
      { state with rest := .plain ')' :: rest } := by
  have hsequence : (sequence (fuel + 2) false {} []).Gives state [wordStep]
      { state with rest := .plain ')' :: rest } := by
    rw [Reader.Gives, sequence_run_escaped _ _ _ escape_word next (by simp)]
    exact sequence_gives_end _ _ _ _ (by simp)
  have hbranches : (branches (fuel + 3) true true {}).Gives state [[wordStep]]
      { state with rest := .plain ')' :: rest } := by
    rw [Reader.Gives, branches, Bool.not_true, Bool.and_false, hsequence.run_bind,
      (eat_gives_false (by simp)).run_bind]
    rfl
  rw [Reader.Gives, alternation, hbranches.run_bind]
  rfl

theorem lookedAhead_gives (fuel : Nat) (proper : rest.head? ≠ some .dangling) :
    (lookedAhead (fuel + 5) true {}).Gives (fresh (.escaped 'w' :: .plain ')' :: rest))
      (.ahead true wordStep) (fresh rest) := by
  rw [Reader.Gives, lookedAhead, (alternation_gives_wordStep fuel rfl).run_bind]
  exact (expect_gives rfl proper).run_bind _

theorem lookedBehind_gives (fuel : Nat) (proper : rest.head? ≠ some .dangling) :
    (lookedBehind (fuel + 5) true {}).Gives (fresh (.escaped 'w' :: .plain ')' :: rest))
      (.behind 1 true wordStep) (fresh rest) := by
  rw [Reader.Gives, lookedBehind, (get_gives _).run_bind]
  simp only [fresh, Option.isNone_none, if_true]
  -- that the reader is in a look behind is noted before the body is read and forgotten after it
  rw [(modify_gives _ _).run_bind, (alternation_gives_wordStep fuel rfl).run_bind,
    (modify_gives _ _).run_bind, (expect_gives rfl proper).run_bind]
  rfl

/-- The tokens of the guard before a word. -/
def behindTokens : List Token :=
  [.plain '(', .plain '?', .plain '<', .plain '!', .escaped 'w', .plain ')']

/-- The tokens of the guard after a word. -/
def aheadTokens : List Token :=
  [.plain '(', .plain '?', .plain '!', .escaped 'w', .plain ')']

theorem sequence_run_aheadTokens (fuel : Nat) (first : Bool) (pieces : List Piece)
    (proper : rest.head? ≠ some .dangling) :
    (sequence (fuel + 7) first {} pieces).run (fresh (aheadTokens ++ rest)) =
      (sequence (fuel + 6) first {} (.one (.ahead true wordStep) :: pieces)).run (fresh rest) := by
  refine sequence_run_open (fuel + 6) first pieces rfl (by simp) ?_
  rw [Reader.Gives, opened, (eat_gives_true rfl (by simp)).run_bind]
  simp only [Bool.not_true, Bool.false_eq_true, if_false]
  rw [(take_gives rfl (by simp)).run_bind]
  exact (lookedAhead_gives fuel proper).run_bind _

theorem sequence_run_behindTokens (fuel : Nat) (first : Bool) (pieces : List Piece)
    (proper : rest.head? ≠ some .dangling) :
    (sequence (fuel + 7) first {} pieces).run (fresh (behindTokens ++ rest)) =
      (sequence (fuel + 6) first {} (.one (.behind 1 true wordStep) :: pieces)).run
        (fresh rest) := by
  refine sequence_run_open (fuel + 6) first pieces rfl (by simp) ?_
  rw [Reader.Gives, opened, (eat_gives_true rfl (by simp)).run_bind]
  simp only [Bool.not_true, Bool.false_eq_true, if_false]
  rw [(take_gives rfl (by simp)).run_bind]
  have hequals :
      (eat '=').Gives (fresh (.plain '!' :: .escaped 'w' :: .plain ')' :: rest)) false _ :=
    eat_gives_false (by simp [fresh])
  have hbang : (eat '!').Gives (fresh (.plain '!' :: .escaped 'w' :: .plain ')' :: rest)) true _ :=
    eat_gives_true rfl (by simp)
  refine (hequals.run_bind _).trans ((hbang.run_bind _).trans ?_)
  exact (lookedBehind_gives fuel proper).run_bind _

end Guards

/-! ## Words and lists of words -/

section Words

variable {word : List Char} {rest : List Token}

/-- The tokens of the text of a word. -/
def wordTokens (word : List Char) : List Token :=
  if isGuarded word then behindTokens ++ (word.map letterToken ++ aheadTokens)
  else word.map letterToken

/-- The expressions of a word, one after the other. -/
def wordNodes (word : List Char) : List Node :=
  if isGuarded word then .behind 1 true wordStep :: (word.map .letter ++ [.ahead true wordStep])
  else word.map .letter

theorem head?_wordTokens_ne_dangling (word : List Char) (proper : rest.head? ≠ some .dangling) :
    (wordTokens word ++ rest).head? ≠ some .dangling := by
  unfold wordTokens
  split
  · simp [behindTokens]
  · exact head?_letters_ne_dangling word proper

theorem flatMap_nodes_letters (word : List Char) :
    (word.map fun c => Piece.one (.letter c)).flatMap Piece.nodes = word.map Node.letter := by
  induction word with
  | nil => rfl
  | cons c word ih =>
    rw [List.map_cons, List.flatMap_cons, ih]
    rfl

/-- The tokens of a word are read as the expressions of the word. -/
theorem sequence_gives_word {fuel : Nat} (enough : (wordTokens word).length < fuel) (first : Bool)
    (ends : rest.head? = none ∨ rest.head? = some (.plain '|')) :
    (sequence fuel first {} []).Gives (fresh (wordTokens word ++ rest)) (wordNodes word)
      (fresh rest) := by
  have proper : rest.head? ≠ some .dangling := by
    rcases ends with h | h <;> simp [h]
  have ends' : (fresh rest).rest.head? = none ∨ (fresh rest).rest.head? = some (.plain '|') ∨
      (fresh rest).rest.head? = some (.plain ')') := ends.imp id .inl
  by_cases guarded : isGuarded word = true
  · simp only [wordTokens, guarded, if_true, List.length_append, List.length_map, behindTokens,
      aheadTokens, List.length_cons, List.length_nil] at enough
    -- a guard takes one step of the sequence, and six more levels to read what is in it
    obtain ⟨more, rfl⟩ : ∃ more, fuel = more + word.length + 1 + 7 :=
      ⟨fuel - word.length - 8, by omega⟩
    have hafter : (aheadTokens ++ rest).head? ≠ some .dangling := by simp [aheadTokens]
    have hfuel : more + word.length + 1 + 6 = more + 7 + word.length := by omega
    simp only [Reader.Gives, wordTokens, guarded, if_true, List.append_assoc]
    rw [sequence_run_behindTokens _ _ _ (head?_letters_ne_dangling word hafter), hfuel,
      sequence_run_letters _ _ _ word rfl hafter]
    refine (sequence_run_aheadTokens _ _ _ proper).trans ?_
    refine (sequence_gives_end _ _ _ _ ends').trans ?_
    simp [wordNodes, guarded, Piece.nodes, flatMap_nodes_letters]
  · simp only [wordTokens, guarded, Bool.false_eq_true, if_false, List.length_map] at enough
    obtain ⟨more, rfl⟩ : ∃ more, fuel = more + 1 + word.length := ⟨fuel - word.length - 1, by omega⟩
    simp only [Reader.Gives, wordTokens, guarded, Bool.false_eq_true, if_false]
    rw [sequence_run_letters _ _ _ word rfl proper]
    refine (sequence_gives_end _ _ _ _ ends').trans ?_
    simp [wordNodes, guarded, flatMap_nodes_letters]

/-- The tokens of the texts of words, with bars between them. -/
def wordsTokens (words : List (List Char)) : List Token :=
  [.plain '|'].intercalate (words.map wordTokens)

theorem wordsTokens_cons_cons (word other : List Char) (words : List (List Char)) :
    wordsTokens (word :: other :: words) =
      wordTokens word ++ .plain '|' :: wordsTokens (other :: words) := by
  simp [wordsTokens, List.intercalate_cons_cons]

theorem head?_wordsTokens_ne_dangling (words : List (List Char)) :
    (wordsTokens words).head? ≠ some .dangling := by
  match words with
  | [] => simp [wordsTokens]
  | [word] =>
    have hword : (wordTokens word ++ []).head? ≠ some .dangling :=
      head?_wordTokens_ne_dangling word (by simp)
    simpa [wordsTokens] using hword
  | word :: other :: words =>
    rw [wordsTokens_cons_cons]
    exact head?_wordTokens_ne_dangling word (by simp)

/-- The texts of words are read as one alternative each. -/
theorem branches_give_words (word : List Char) (words : List (List Char)) {fuel : Nat}
    (enough : (wordsTokens (word :: words)).length + 1 < fuel) (first : Bool) :
    (branches fuel false first {}).Gives (fresh (wordsTokens (word :: words)))
      ((word :: words).map wordNodes) (fresh []) := by
  obtain ⟨fuel, rfl⟩ : ∃ n, fuel = n + 1 := ⟨fuel - 1, by omega⟩
  -- each bar takes one level, and there are more tokens than bars
  induction words generalizing word fuel first with
  | nil =>
    simp only [wordsTokens, List.map_cons, List.map_nil, List.intercalate_singleton] at enough ⊢
    have hword : (sequence fuel (first && !false) {} []).Gives (fresh (wordTokens word ++ []))
        (wordNodes word) (fresh []) :=
      sequence_gives_word (by omega) _ (.inl rfl)
    rw [List.append_nil] at hword
    rw [Reader.Gives, branches, hword.run_bind, (eat_gives_false (by simp [fresh])).run_bind]
    rfl
  | cons other words ih =>
    rw [wordsTokens_cons_cons] at enough ⊢
    simp only [List.length_append, List.length_cons] at enough
    have hword : (sequence fuel (first && !false) {} []).Gives
        (fresh (wordTokens word ++ .plain '|' :: wordsTokens (other :: words))) (wordNodes word)
        (fresh (.plain '|' :: wordsTokens (other :: words))) :=
      sequence_gives_word (by omega) _ (.inr rfl)
    obtain ⟨more, rfl⟩ : ∃ n, fuel = n + 1 := ⟨fuel - 1, by omega⟩
    have hothers := ih other false more (by omega)
    rw [Reader.Gives, branches, hword.run_bind,
      (eat_gives_true rfl (head?_wordsTokens_ne_dangling _)).run_bind, if_pos rfl,
      (get_gives _).run_bind]
    exact hothers.run_bind _

/-- The tokens of words are read as the joined alternatives of the words. -/
theorem wholePattern_gives_words (word : List Char) (words : List (List Char)) :
    wholePattern.Gives (fresh (wordsTokens (word :: words)))
      (.ofList (joinBranches {} ((word :: words).map wordNodes))) (fresh []) := by
  have hmove : (moveTo (wordsTokens (word :: words))).Gives (fresh (wordsTokens (word :: words))) ()
      (fresh (wordsTokens (word :: words))) :=
    moveTo_gives (head?_wordsTokens_ne_dangling _) _
  have hbranches := branches_give_words word words
    (show _ < 5 * (wordsTokens (word :: words)).length + 2 by omega) true
  have halternation : (alternation (5 * (wordsTokens (word :: words)).length + 3) false {}).Gives
      (fresh (wordsTokens (word :: words))) (joinBranches {} ((word :: words).map wordNodes))
      (fresh []) := by
    rw [Reader.Gives, alternation, hbranches.run_bind]
    rfl
  rw [Reader.Gives, wholePattern, (get_gives _).run_bind]
  refine (hmove.run_bind _).trans ?_
  rw [(get_gives _).run_bind]
  exact halternation.run_bind _

end Words

/-! ## From the text to the tokens -/

theorem tokens_plain {c : Char} (ordinary : c ≠ '\\') (text : List Char) :
    tokens (c :: text) = .plain c :: tokens text := by
  rw [tokens.eq_def]
  split <;> simp_all

theorem tokens_escapeText (word text : List Char) :
    tokens (escapeText word ++ text) = word.map letterToken ++ tokens text := by
  induction word with
  | nil => rfl
  | cons c word ih =>
    rw [escapeText] at ih
    rw [escapeText, List.flatMap_cons, List.append_assoc, List.map_cons, List.cons_append,
      letterToken, ← ih]
    by_cases special : isSpecial c = true
    · rw [if_pos special, if_pos special]
      rfl
    · rw [if_neg special, if_neg special]
      refine tokens_plain ?_ _
      rintro rfl
      exact special (by decide)

theorem tokens_wordSource (word text : List Char) :
    tokens ((wordSource word).toList ++ text) = wordTokens word ++ tokens text := by
  have hbehind : ∀ text, tokens ("(?<!\\w)".toList ++ text) = behindTokens ++ tokens text :=
    fun _ => rfl
  have hahead : ∀ text, tokens ("(?!\\w)".toList ++ text) = aheadTokens ++ tokens text :=
    fun _ => rfl
  by_cases guarded : isGuarded word = true
  · simp only [wordSource, wordTokens, guarded, if_true, String.toList_append, String.toList_ofList,
      List.append_assoc, hbehind, tokens_escapeText, hahead]
  · simp [wordSource, wordTokens, guarded, tokens_escapeText]

theorem tokens_wordsSource (words : List (List Char)) :
    tokens ("|".intercalate (words.map wordSource)).toList = wordsTokens words := by
  rw [String.toList_intercalate]
  match words with
  | [] => rfl
  | [word] => simpa [wordsTokens, tokens] using tokens_wordSource word []
  | word :: other :: words =>
    have hothers := tokens_wordsSource (other :: words)
    rw [String.toList_intercalate] at hothers
    simp only [List.map_cons] at hothers ⊢
    rw [List.intercalate_cons_cons, List.append_assoc, tokens_wordSource, wordsTokens_cons_cons,
      ← hothers]
    rfl

/-! ## What is read finds the same -/

theorem run_wordNodes (word : List Char) (rest : Rest) :
    (Node.ofList (wordNodes word)).run rest = (wordNode word).run rest := by
  by_cases guarded : isGuarded word = true
  · simp only [wordNodes, wordNode, guarded, if_true]
    rw [Node.run_ofList_cons, Node.run_ofList_append]
    rfl
  · simp only [wordNodes, wordNode, guarded, Bool.false_eq_true, if_false]
    rfl

theorem folding_of_mem_wordNodes {word : List Char} {set : CharSet}
    (h : Node.chars set ∈ wordNodes word) : set.folding = .exact := by
  have hletter : ∃ c, Node.letter c = Node.chars set := by
    unfold wordNodes at h
    split at h <;> simp at h <;> obtain ⟨c, -, hc⟩ := h <;> exact ⟨c, hc⟩
  obtain ⟨c, hc⟩ := hletter
  rw [← Node.chars.inj hc]

/-- The joined alternatives of words run as the words do. -/
theorem run_joined_words {ranked : List (List Char)} (nonempty : ranked ≠ []) :
    (Node.ofList (joinBranches {} (ranked.map wordNodes))).run =
      (Node.ofAlternatives (ranked.map wordNode)).run := by
  funext rest state
  rw [Node.run_joinBranches rfl, Node.runBranches,
    Node.run_ofAlternatives (by simpa using nonempty), List.findSome?_map, List.findSome?_map]
  · simp only [Function.comp_def, run_wordNodes]
  · intro branch hbranch set hset
    obtain ⟨word, -, rfl⟩ := List.mem_map.1 hbranch
    exact folding_of_mem_wordNodes hset

/-- The text of words is read as their joined alternatives. -/
theorem read_words {ranked : List (List Char)} (nonempty : ranked ≠ []) :
    Pattern.read ("|".intercalate (ranked.map wordSource)) {} =
      .ok { source := "|".intercalate (ranked.map wordSource)
            node := .ofList (joinBranches {} (ranked.map wordNodes)) } := by
  obtain ⟨word, words, rfl⟩ := List.exists_cons_of_ne_nil nonempty
  have hread := wholePattern_gives_words word words
  rw [Reader.Gives, fresh] at hread
  rw [Pattern.read, tokens_wordsSource, hread]
  rfl

/-- The text of a keyword pattern is read as a pattern that finds the same spans. -/
theorem exists_read_keywordPattern? {words : List String} {pattern : Pattern}
    (h : keywordPattern? words = some pattern) :
    ∃ read, Pattern.read pattern.source {} = .ok read ∧
      ∀ text, matchSpans read text = matchSpans pattern text := by
  unfold keywordPattern? at h
  split at h
  · cases h
  · next nonempty =>
    obtain rfl := Option.some.inj h
    refine ⟨_, read_words nonempty, fun text => ?_⟩
    rw [matchSpans_eq_filterMap, matchSpans_eq_filterMap]
    exact congrArg _ (Pattern.findAll_congr (run_joined_words nonempty) text)

end Regex

open Highlighter.Regex

section Reading

variable [PatternReader]

/-- A keyword rule finds the whole words of its list, at each place the longest that stands there.
The order and the repetition of words do not matter, and the text of the pattern is one that finds
the same. -/
theorem keyword_rule_finds_whole_words (words : List String) (source type : String) :
    extract (.keywordRule (words.map .text)) source type = pure (wholeWords words source) ∧
    (∀ words' : List String, (∀ word, word ∈ words' ↔ word ∈ words) →
      extract (.keywordRule (words'.map .text)) source type =
        extract (.keywordRule (words.map .text)) source type) ∧
    ∀ pattern, keywordPattern? words = some pattern →
      ∃ read, Pattern.read pattern.source {} = .ok read ∧
        matchSpans read source.toList = wholeWords words source := by
  refine ⟨extract_keywordRule words source type, fun words' same => ?_, fun pattern h => ?_⟩
  · rw [extract_keywordRule, extract_keywordRule, wholeWords_congr same]
  · obtain ⟨read, hread, hspans⟩ := exists_read_keywordPattern? h
    refine ⟨read, hread, ?_⟩
    rw [hspans, ← matchSpans_keywordPattern?, h]
    rfl

end Reading

section Example

attribute [local instance] PatternReader.standard

/-- A word inside of a longer one, a repeated word, and a word with special characters. -/
theorem keyword_rule_finds_int_and_in :
    extract (.keywordRule (["in", "int", "in"].map .text)) "int in" "word" =
        pure [⟨0, 3, by decide⟩, ⟨4, 6, by decide⟩] ∧
      extract (.keywordRule (["in", "int", "in"].map .text)) "int in" "word" =
        extract (.keywordRule (["int", "in"].map .text)) "int in" "word" ∧
      ∃ read, Pattern.read "(?<!\\w)c\\+\\+(?!\\w)" {} = .ok read ∧
        matchSpans read "c++".toList = [⟨0, 3, by decide⟩] := by
  have hspans : wholeWords ["in", "int", "in"] "int in" =
      [⟨0, 3, by decide⟩, ⟨4, 6, by decide⟩] := by
    decide +kernel
  have hplus : wholeWords ["c++"] "c++" = [⟨0, 3, by decide⟩] := by decide +kernel
  have htext : (keywordPattern? ["c++"]).map (·.source) = some "(?<!\\w)c\\+\\+(?!\\w)" := by
    decide +kernel
  obtain ⟨pattern, hpattern, hsource⟩ := Option.map_eq_some_iff.1 htext
  refine ⟨?_, ?_, ?_⟩
  · rw [← hspans]
    exact (keyword_rule_finds_whole_words _ _ _).1
  · exact (keyword_rule_finds_whole_words _ _ _).2.1 _ (by grind)
  · rw [← hsource, ← hplus]
    exact (keyword_rule_finds_whole_words ["c++"] "c++" "").2.2 pattern hpattern

end Example

end Highlighter
