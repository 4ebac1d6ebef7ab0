import Highlighter.Text.CharTable

/-!
# Blank characters

The blanks are the white space and line separators of Unicode 14, with the four information
separators U+001C to U+001F. The zero-width space and the byte order mark are not blank.
-/

namespace Highlighter.Text

/-- The blank code points. -/
def blankTable : CharTable :=
  [(9, 13), (28, 32), (133, 133), (160, 160), (5760, 5760), (8192, 8202), (8232, 8233),
  (8239, 8239), (8287, 8287), (12288, 12288)]

/-- White space of any kind. -/
def isBlank (c : Char) : Bool :=
  blankTable.contains c.toNat

/-- The six ASCII blanks: tab, line feed, vertical tab, form feed, carriage return and space. -/
def isAsciiBlank (c : Char) : Bool :=
  c == ' ' || (9 ≤ c.toNat && c.toNat ≤ 13)

/-- Drops the blanks at the end. -/
def trimEnd (text : List Char) : List Char :=
  (text.reverse.dropWhile isBlank).reverse

/-- Drops the blanks at both ends. -/
def trim (text : List Char) : List Char :=
  trimEnd (text.dropWhile isBlank)

end Highlighter.Text
