import Highlighter.Value.Table

/-!
# Nested tables under construction

A document is built by statements that open tables, append tables to lists and set values, each at a
path of keys. Some paths are marked: as opened by a statement of its own, or as fixed, with
everything below, by a value that was written out in one piece.

Main definitions: `Table.alter`, `Marks`.
-/

namespace Highlighter

/-- Changes the table at a path. Tables that are missing on the way are made. A list on the way
stands for its last table if `throughLists` holds. -/
def Table.alter (throughLists : Bool) (change : Table → Option Table) :
    List String → Table → Option Table
  | [], table => change table
  | key :: path, table =>
    match table.get? key with
    | none => do
      let inner ← alter throughLists change path []
      return table.put key (.map inner)
    | some (.map inner) => do
      let inner ← alter throughLists change path inner
      return table.put key (.map inner)
    | some (.list items) =>
      match throughLists, items.getLast? with
      | true, some (.map inner) => do
        let inner ← alter throughLists change path inner
        return table.put key (.list (items.dropLast ++ [.map inner]))
      | _, _ => none
    | some _ => none

/-- Gives a key a value, which it must not have yet. -/
def Table.define (key : String) (value : Value) (table : Table) : Option Table :=
  match table.get? key with
  | none => some (table.put key value)
  | some _ => none

/-- Appends an empty table to the list under a key. -/
def Table.grow (key : String) (table : Table) : Option Table :=
  match table.get? key with
  | none => some (table.put key (.list [.map []]))
  | some (.list items) => some (table.put key (.list (items ++ [.map []])))
  | some _ => none

namespace Data.Toml

/-- A path of keys. -/
abbrev Path := List String

/-- What is remembered about paths. -/
structure Marks where
  /-- Tables that were opened and are not opened again. -/
  opened : List Path := []
  /-- Values that are not changed any more, nor is anything below. -/
  fixed : List Path := []
  /-- Tables that count as opened from the next header on. -/
  pending : List Path := []

namespace Marks

/-- Whether a path was opened. -/
def isOpened (marks : Marks) (path : Path) : Bool :=
  marks.opened.contains path

/-- Whether a path lies in something fixed. -/
def isFixed (marks : Marks) (path : Path) : Bool :=
  marks.fixed.any (·.isPrefixOf path)

/-- Marks a path as opened. -/
def markOpened (marks : Marks) (path : Path) : Marks :=
  { marks with opened := path :: marks.opened }

/-- Marks a path as fixed. -/
def fix (marks : Marks) (path : Path) : Marks :=
  { marks with fixed := path :: marks.fixed }

/-- Forgets what is marked at a path and below. -/
def forget (marks : Marks) (path : Path) : Marks :=
  { marks with
    opened := marks.opened.filter fun other => !path.isPrefixOf other
    fixed := marks.fixed.filter fun other => !path.isPrefixOf other }

/-- Lets the pending tables count as opened. -/
def settle (marks : Marks) : Marks :=
  { marks with opened := marks.pending ++ marks.opened, pending := [] }

end Marks

end Data.Toml

end Highlighter
