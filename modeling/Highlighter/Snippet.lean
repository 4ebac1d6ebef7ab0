import Highlighter.Text.Blank

/-!
# Snippets

A snippet of source text that stands in a document carries the document's line ends and indentation.
Normalizing it makes line ends single line feeds, drops line feeds before it and blanks after it,
turns tabs into spaces, and takes the indentation of its first line away from every line.

Main definition: `normalize`.
-/

namespace Highlighter.Snippet

open Highlighter.Text

/-- Makes a carriage return with a line feed a line feed. -/
def unifyLineEnds : List Char → List Char
  | [] => []
  | '\r' :: '\n' :: rest => '\n' :: unifyLineEnds rest
  | c :: rest => c :: unifyLineEnds rest

/-- The lines of a text. -/
def lines (text : List Char) : List (List Char) :=
  text.splitOn '\n'

/-- Lines as a text. -/
def unlines (parts : List (List Char)) : List Char :=
  List.intercalate ['\n'] parts

/-- The number of spaces at the beginning of a line. -/
def indentation (line : List Char) : Nat :=
  (line.takeWhile (· = ' ')).length

/-- Takes away at most the given number of spaces from the beginning of a line. -/
def dedent (width : Nat) (line : List Char) : List Char :=
  line.drop (min (indentation line) width)

/-- Takes the indentation of the first line away from every line. -/
def dedentLines (text : List Char) : List Char :=
  let parts := lines text
  unlines (parts.map (dedent ((parts.head?.map indentation).getD 0)))

/-- A tab becomes a space. -/
def untab (c : Char) : Char :=
  if c = '\t' then ' ' else c

/-- The text of a snippet without what the document around it added. -/
def normalizeChars (text : List Char) : List Char :=
  dedentLines ((trimEnd ((unifyLineEnds text).dropWhile (· = '\n'))).map untab)

/-- The text of a snippet without what the document around it added. -/
def normalize (text : String) : String :=
  String.ofList (normalizeChars text.toList)

end Highlighter.Snippet
