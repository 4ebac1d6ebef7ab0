import Highlighter.Value.Table

/-!
# Keys of mappings

Not every value can be a key of a mapping, and some values of different kinds are the same key.

Main definitions: `Value.unhashable?`, `Value.sameKey`, `Table.ofPairs`.
-/

namespace Highlighter

namespace Value

/-- The fault that keeps a value from being a key. -/
def unhashable? : Value → Option Fault
  | .list _ => some (.unhashable "list")
  | .map _ => some (.unhashable "dict")
  | .set false _ => some (.unhashable "set")
  | .tuple items => unhashableIn? items
  | .set true items => unhashableIn? items
  | .patternRule value => value.unhashable?
  | .scannerRule value => value.unhashable?
  | .keywordRule words => unhashableIn? words
  | .foreign conduct =>
    match conduct.key with
    | .ok () => none
    | .error fault => some fault
  | _ => none
where
  /-- The first such fault among several values. -/
  unhashableIn? : List Value → Option Fault
    | [] => none
    | value :: values => value.unhashable?.or (unhashableIn? values)

/-- The number that a value is as a key. -/
def keyNumber? : Value → Option (Int ⊕ Float)
  | .bool value => some (.inl (if value then 1 else 0))
  | .int value => some (.inl value)
  | .float value => some (.inr value)
  | _ => none

/-- Whether two values are the same key. Numbers and truth values are compared as numbers. -/
def sameKey (a b : Value) : Bool :=
  match a, b with
  | .null, .null => true
  | .text a, .text b => a == b
  | .bytes a, .bytes b => a == b
  | a, b =>
    match a.keyNumber?, b.keyNumber? with
    | some (.inl a), some (.inl b) => a == b
    | some (.inr a), some (.inr b) => a == b
    | some (.inl a), some (.inr b) => Float.ofInt a == b
    | some (.inr a), some (.inl b) => a == Float.ofInt b
    | _, _ => false

end Value

/-- Gives a key a value. A key that has one keeps its place. -/
def Table.putKey (table : Table) (key value : Value) : Table :=
  if table.any (·.1.sameKey key) then
    table.map fun entry => if entry.1.sameKey key then (entry.1, value) else entry
  else table ++ [(key, value)]

/-- The mapping of the given pairs; of equal keys the first place and the last value count. -/
def Table.ofPairs (pairs : List (Value × Value)) : Except Fault Table :=
  pairs.foldlM (fun table (key, value) =>
    match key.unhashable? with
    | some fault => .error fault
    | none => .ok (table.putKey key value)) []

end Highlighter
