import Highlighter.Regex.Syntax
import Highlighter.Text.Word
import Highlighter.Value.Key

/-!
# Keywords

A list of words becomes one pattern that matches each of them, longer words first. A word that holds
a word character matches only where no word character stands before or after it.

Main definitions: `keywordPattern?`, `keywordsOf`.
-/

namespace Highlighter

open Highlighter.Regex Highlighter.Text

/-- Characters that are escaped in the text of a pattern. -/
def isSpecial (c : Char) : Bool :=
  "()[]\x7b\x7d?*+-|^$\\.&~# \t\n\r\x0b\x0c".toList.contains c

/-- The text of a pattern that matches a text. -/
def escapeText (text : List Char) : List Char :=
  text.flatMap fun c => if isSpecial c then ['\\', c] else [c]

/-- Whether a word holds a word character. -/
def isGuarded (word : List Char) : Bool :=
  word.any isWord

/-- A step that consumes a word character. -/
def wordStep : Node :=
  .chars { items := [.category .word false false] }

/-- The expression that matches a word. -/
def wordNode (word : List Char) : Node :=
  if isGuarded word then
    .seq (.behind 1 true wordStep) (.seq (.literal word) (.ahead true wordStep))
  else .literal word

/-- The text of the expression that matches a word. -/
def wordSource (word : List Char) : String :=
  let text := String.ofList (escapeText word)
  if isGuarded word then "(?<!\\w)" ++ text ++ "(?!\\w)" else text

/-- The distinct non-empty words of a list, longer ones first and otherwise in the order given. -/
def rankedWords (words : List String) : List (List Char) :=
  ((words.map String.toList).eraseDups.filter (!·.isEmpty)).mergeSort fun a b => b.length ≤ a.length

/-- The pattern that matches any of the words. -/
def keywordPattern? (words : List String) : Option Pattern :=
  match rankedWords words with
  | [] => none
  | ranked => some
    { source := "|".intercalate (ranked.map wordSource)
      node := .ofAlternatives (ranked.map wordNode) }

namespace Value

/-- Values of a known type that count as nothing. -/
def isNothing : Value → Bool
  | .null => true
  | .bool value => !value
  | .int value => value == 0
  | .float value => value == 0.0
  | .text value => value.isEmpty
  | .bytes value => value.isEmpty
  | .list items => items.isEmpty
  | .tuple items => items.isEmpty
  | .set _ items => items.isEmpty
  | .map entries => entries.isEmpty
  | _ => false

/-- Whether a value counts for something. -/
def counts : Value → Except Fault Bool
  | .foreign conduct => conduct.counts
  | value => .ok (!value.isNothing)

/-- The length of a value that has one. -/
def length : Value → Except Fault Nat
  | .text value => .ok value.length
  | .bytes value => .ok value.length
  | .list items => .ok items.length
  | .tuple items => .ok items.length
  | .set _ items => .ok items.length
  | .map entries => .ok entries.length
  | .span range => .ok range.length
  | .foreign conduct => conduct.length
  | value => .error (.noLength value.qualifiedTypeName)

/-- The word that a value is. -/
def word : Value → Except Fault String
  | .text value => .ok value
  | .bytes _ => .error .bytesWord
  | .foreign conduct => conduct.word
  | value => .error (.notText value.qualifiedTypeName)

end Value

/-- The values that count for something. -/
def countedValues : List Value → Except Fault (List Value)
  | [] => return []
  | value :: values => do
    let counts ← value.counts
    let others ← countedValues values
    return if counts then value :: others else others

/-- The words of a keyword rule. Values that count as nothing are left out; the first fault in the
order of the steps decides: keys, what counts, lengths, and then words by descending length. -/
def keywordsOf (values : List Value) : Except Fault (List String) := do
  match values.findSome? Value.unhashable? with
  | some fault => throw fault
  | none =>
    let measured ← (← countedValues values).mapM fun value =>
      value.length.map fun length => (length, value)
    (measured.mergeSort fun a b => b.1 ≤ a.1).mapM fun entry => entry.2.word

end Highlighter
