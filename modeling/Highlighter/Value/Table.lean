import Highlighter.Value.Basic

/-!
# Tables

The entries of a mapping in the order in which their keys first appeared.

Main definitions: `Table.get?`, `Table.put`.
-/

namespace Highlighter

/-- The entries of a mapping, in order. -/
abbrev Table := List (Value × Value)

namespace Table

/-- Whether an entry stands under a text. -/
def isAt (key : String) (entry : Value × Value) : Bool :=
  match entry.1 with
  | .text name => name == key
  | _ => false

/-- The value under a text. -/
def get? (table : Table) (key : String) : Option Value :=
  (table.find? (isAt key)).map (·.2)

/-- Gives a text a value. A text that has one keeps its place. -/
def put (table : Table) (key : String) (value : Value) : Table :=
  if table.any (isAt key) then
    table.map fun entry => if isAt key entry then (entry.1, value) else entry
  else table ++ [(.text key, value)]

end Table

end Highlighter
