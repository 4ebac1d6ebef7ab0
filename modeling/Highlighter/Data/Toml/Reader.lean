import Highlighter.Data.Toml.Scalar
import Highlighter.Data.Toml.Table

/-!
# TOML

A reader of TOML documents. A table that is opened twice, a value that is set twice, and an addition
to a table or an array that was written out in one piece are refused.

Main definition: `Toml.read`.
-/

namespace Highlighter.Data.Toml

open Scan

/-- Characters of a bare key. -/
def isKeyChar (c : Char) : Bool :=
  c.isAlphanum || c == '-' || c == '_'

/-- One key of a path. -/
def key (fuel : Nat) : Scan String := do
  match ← peek with
  | some '\'' => lineText fuel '\''
  | some '"' => lineText fuel '"'
  | _ =>
    let chars ← takeWhile isKeyChar
    if chars.isEmpty then refuse else return String.ofList chars

/-- The keys after the first one of a path, with the blanks before and after each. -/
def moreKeys : Nat → Scan Path
  | 0 => refuse
  | fuel + 1 => do
    skipWhile isSpace
    if ← eat ['.'] then
      skipWhile isSpace
      let first ← key fuel
      return first :: (← moreKeys fuel)
    else return []

/-- Keys with points between them and the blanks that follow. -/
def path (fuel : Nat) : Scan Path := do
  let first ← key fuel
  return first :: (← moreKeys fuel)

/-- Skips a comment, if there is one. -/
def comment : Scan Unit := do
  if ← eat ['#'] then
    let body ← takeWhile (· != '\n')
    if body.any isControl then refuse

/-- Skips blanks, breaks and comments. -/
def skipFiller : Nat → Scan Unit
  | 0 => refuse
  | fuel + 1 => do
    skipWhile isSpaceOrBreak
    match ← peek with
    | some '#' =>
      comment
      skipFiller fuel
    | _ => return ()

/-- Whether a value was written out in one piece and has parts. -/
def isCompound : Value → Bool
  | .map _ => true
  | .list _ => true
  | _ => false

/-- Does what an optional result says: goes on with it, or is refused. -/
def orRefuse {α : Type} : Option α → Scan α
  | some value => return value
  | none => refuse

mutual

/-- A value. -/
def value : Nat → Scan Value
  | 0 => refuse
  | fuel + 1 => do
    match ← peek with
    | some '"' => return .text (← text fuel '"')
    | some '\'' => return .text (← text fuel '\'')
    | some '[' =>
      let _ ← next
      skipFiller fuel
      if ← eat [']'] then return .list [] else return .list (← elements fuel [])
    | some '\x7b' =>
      let _ ← next
      skipWhile isSpace
      if ← eat ['\x7d'] then return .map [] else return .map (← members fuel [] {})
    | _ =>
      if ← eat "true".toList then return .bool true
      else if ← eat "false".toList then return .bool false
      else plainScalar

/-- The elements of an array up to its closing bracket, added to those read so far, last first. -/
def elements : Nat → List Value → Scan (List Value)
  | 0, _ => refuse
  | fuel + 1, read => do
    let read := (← value fuel) :: read
    skipFiller fuel
    if ← eat [','] then
      skipFiller fuel
      if ← eat [']'] then return read.reverse else elements fuel read
    else
      expect [']']
      return read.reverse

/-- The members of an inline table up to its closing brace. -/
def members : Nat → Table → Marks → Scan Table
  | 0, _, _ => refuse
  | fuel + 1, table, marks => do
    let keys ← path fuel
    expect ['=']
    skipWhile isSpace
    let member ← value fuel
    if marks.isFixed keys then refuse
    let table ← orRefuse (table.alter false (Table.define (keys.getLastD "") member) keys.dropLast)
    skipWhile isSpace
    if ← eat [','] then
      skipWhile isSpace
      members fuel table (if isCompound member then marks.fix keys else marks)
    else
      expect ['\x7d']
      return table

end

/-- A document that has been read in part: its table, its marks, and the path of the last header. -/
structure Draft where
  table : Table := []
  marks : Marks := {}
  header : Path := []

/-- A header that opens a table, after its bracket. -/
def openTable (fuel : Nat) (draft : Draft) : Scan Draft := do
  skipWhile isSpace
  let keys ← path fuel
  if draft.marks.isOpened keys || draft.marks.isFixed keys then refuse
  let table ← orRefuse (draft.table.alter true some keys)
  expect [']']
  return { table, marks := draft.marks.markOpened keys, header := keys }

/-- A header that appends a table to a list, after its brackets. -/
def appendTable (fuel : Nat) (draft : Draft) : Scan Draft := do
  skipWhile isSpace
  let keys ← path fuel
  if draft.marks.isFixed keys then refuse
  let table ← orRefuse (draft.table.alter true (Table.grow (keys.getLastD "")) keys.dropLast)
  expect [']', ']']
  return { table, marks := (draft.marks.forget keys).markOpened keys, header := keys }

/-- A statement that sets a value. -/
def setValue (fuel : Nat) (draft : Draft) : Scan Draft := do
  let keys ← path fuel
  expect ['=']
  skipWhile isSpace
  let result ← value fuel
  let passed := ((List.range keys.length).drop 1).map fun count => draft.header ++ keys.take count
  if passed.any draft.marks.isOpened then refuse
  let parent := draft.header ++ keys.dropLast
  if draft.marks.isFixed parent then refuse
  let table ← orRefuse (draft.table.alter true (Table.define (keys.getLastD "") result) parent)
  let marks := { draft.marks with pending := passed ++ draft.marks.pending }
  let marks := if isCompound result then marks.fix (draft.header ++ keys) else marks
  return { draft with table, marks }

/-- One statement. -/
def statement (fuel : Nat) (draft : Draft) : Scan Draft := do
  match ← peek with
  | some '#' => return draft
  | some '[' =>
    let draft := { draft with marks := draft.marks.settle }
    if ← eat ['[', '['] then appendTable fuel draft
    else
      expect ['[']
      openTable fuel draft
  | _ => setValue fuel draft

/-- Statements up to the end of the document. -/
def statements : Nat → Draft → Scan Draft
  | 0, _ => refuse
  | fuel + 1, draft => do
    skipWhile isSpace
    match ← peek with
    | none => return draft
    | some '\n' =>
      let _ ← next
      statements fuel draft
    | some _ =>
      let draft ← statement fuel draft
      skipWhile isSpace
      comment
      match ← peek with
      | none => return draft
      | some _ =>
        expect ['\n']
        statements fuel draft

/-- Writes the breaks of a text as line feeds. -/
def unifyBreaks : List Char → List Char
  | '\r' :: '\n' :: rest => '\n' :: unifyBreaks rest
  | c :: rest => c :: unifyBreaks rest
  | [] => []

/-- The value that a document denotes. -/
def read (document : String) : Except Refusal Value :=
  let text := unifyBreaks document.toList
  ((statements (text.length + 1) {}).whole text).map fun draft => .map draft.table

end Highlighter.Data.Toml
