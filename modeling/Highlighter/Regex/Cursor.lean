import Highlighter.Regex.Syntax
import Highlighter.Text.Word

/-!
# Places in a text

A cursor is a place between two characters of a text: the characters before it, the nearest first,
and those after it. Its offset counts the characters before it, and both counts are kept.
-/

namespace Highlighter.Regex

open Highlighter.Text

/-- A place in a text. -/
@[ext]
structure Cursor where
  /-- The characters before the place, the nearest first. -/
  before : List Char
  /-- The characters after the place. -/
  after : List Char
  /-- The number of characters before the place. -/
  offset : Nat
  /-- The number of characters after the place. -/
  remaining : Nat
  offset_eq : offset = before.length
  remaining_eq : remaining = after.length

namespace Cursor

/-- The beginning of a text. -/
def start (text : List Char) : Cursor :=
  ⟨[], text, 0, text.length, rfl, rfl⟩

/-- The whole text. -/
def text (cursor : Cursor) : List Char :=
  cursor.before.reverse ++ cursor.after

/-- The next character and the place after it. -/
def next? : Cursor → Option (Char × Cursor)
  | ⟨_, [], _, _, _, _⟩ => none
  | ⟨before, c :: after, offset, remaining, hOffset, hRemaining⟩ =>
    some (c, ⟨c :: before, after, offset + 1, remaining - 1, by simp [hOffset],
      by simp [hRemaining]⟩)

/-- The place one character back. -/
def previous? : Cursor → Option Cursor
  | ⟨[], _, _, _, _, _⟩ => none
  | ⟨c :: before, after, offset, remaining, hOffset, hRemaining⟩ =>
    some ⟨before, c :: after, offset - 1, remaining + 1, by simp [hOffset], by simp [hRemaining]⟩

/-- The place the given number of characters back. -/
def back? : Nat → Cursor → Option Cursor
  | 0, cursor => some cursor
  | count + 1, cursor => cursor.previous?.bind (back? count)

/-- The characters between an earlier offset and the place. -/
def textSince (cursor : Cursor) (offset : Nat) : List Char :=
  (cursor.before.take (cursor.offset - offset)).reverse

/-- Moving on stays in the text. -/
theorem text_of_next? {cursor next : Cursor} {c : Char} (h : cursor.next? = some (c, next)) :
    next.text = cursor.text := by
  obtain ⟨before, _ | ⟨d, after⟩, _, _, _, _⟩ := cursor
  · simp [next?] at h
  · simp only [next?, Option.some.injEq, Prod.mk.injEq] at h
    obtain ⟨rfl, rfl⟩ := h
    simp [text]

/-- Moving back stays in the text. -/
theorem text_of_previous? {cursor previous : Cursor} (h : cursor.previous? = some previous) :
    previous.text = cursor.text := by
  obtain ⟨_ | ⟨d, before⟩, after, _, _, _, _⟩ := cursor
  · simp [previous?] at h
  · simp only [previous?, Option.some.injEq] at h
    obtain rfl := h
    simp [text]

end Cursor

/-- Whether a place is at the edge of a word. An empty text has no edges, and no place in it is away
from an edge either. -/
def Cursor.wordEdge (ascii : Bool) (cursor : Cursor) : Bool :=
  let inWord := fun c => if ascii then isAsciiWord c else isWord c
  cursor.before.head?.any inWord != cursor.after.head?.any inWord

/-- Whether the condition holds at the place. -/
def Anchor.holds (cursor : Cursor) : Anchor → Bool
  | .textStart => cursor.before.isEmpty
  | .lineStart => cursor.before.isEmpty || cursor.before.head? == some '\n'
  | .textEnd => cursor.after.isEmpty
  | .lastLineEnd => cursor.after.isEmpty || cursor.after == ['\n']
  | .lineEnd => cursor.after.isEmpty || cursor.after.head? == some '\n'
  | .wordEdge ascii => cursor.wordEdge ascii
  | .notWordEdge ascii =>
    !(cursor.before.isEmpty && cursor.after.isEmpty) && !cursor.wordEdge ascii

end Highlighter.Regex
